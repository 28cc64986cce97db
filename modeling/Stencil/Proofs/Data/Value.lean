import Mathlib
import Stencil.Data.Value

/-!
# Keys

Two keys are the same if the same tells them from others; what is no number is the same as nothing.  A mapping
holds one entry for each key, with what was given last.  Copies of values are found by computation.
-/

namespace Stencil.Data.Value

open Decimal (Binary64)

/-- What tells a key from others. -/
inductive Identity
  /-- It is absent. -/
  | null
  /-- The whole number that it counts as. -/
  | whole (n : Int)
  /-- The number of least units that it counts as. -/
  | units (n : Int)
  /-- The infinity that it is. -/
  | infinite (negative : Bool)
  /-- Its text. -/
  | text (s : String)
  /-- Its bytes. -/
  | bytes (b : Bytes)
  /-- Its day. -/
  | date (d : Date)
  /-- Its time. -/
  | moment (m : Moment)

/-- What tells a number from others. -/
def numberIdentity? : Int ⊕ Binary64 → Option Identity
  | .inl n => some (.whole n)
  | .inr (.finite negative mantissa exponent) => some (.units (Binary64.toUnits negative mantissa exponent))
  | .inr (.infinite negative) => some (.infinite negative)
  | .inr .nan => none

/-- What tells a value from others, if it can be a key and is the same as itself. -/
def identity? (v : Value) : Option Identity :=
  match v.number? with
  | some n => numberIdentity? n
  | none =>
    match v with
    | null => some .null
    | text s => some (.text s)
    | bytes b => some (.bytes b)
    | date d => some (.date d)
    | moment m => some (.moment m)
    | _ => none

theorem sameKey_iff {a b : Value} :
    a.sameKey b = true ↔ ∃ identity, a.identity? = some identity ∧ b.identity? = some identity := by
  unfold sameKey identity?
  rcases a.number? with _ | n | x <;> rcases b.number? with _ | m | y
  · cases a <;> cases b <;> simp
    all_goals exact eq_comm
  · cases a <;> simp [numberIdentity?]
  · cases a <;> cases y <;> simp [numberIdentity?]
  · cases b <;> simp [numberIdentity?]
  · simp [numberIdentity?]
    exact eq_comm
  · cases y <;> simp [numberIdentity?]
  · cases b <;> cases x <;> simp [numberIdentity?]
  · cases x <;> simp [numberIdentity?]
  · cases x <;> cases y <;> simp [numberIdentity?, Binary64.equal]
    all_goals exact eq_comm

theorem sameKey_symm {a b : Value} (same : a.sameKey b = true) : b.sameKey a = true := by
  obtain ⟨identity, first, second⟩ := sameKey_iff.mp same
  exact sameKey_iff.mpr ⟨identity, second, first⟩

theorem sameKey_trans {a b c : Value} (first : a.sameKey b = true) (second : b.sameKey c = true) :
    a.sameKey c = true := by
  obtain ⟨identity, here, there⟩ := sameKey_iff.mp first
  obtain ⟨identity', there', beyond⟩ := sameKey_iff.mp second
  obtain rfl := Option.some.inj (there.symm.trans there')
  exact sameKey_iff.mpr ⟨identity, here, beyond⟩

/-! ## Mappings -/

/-- A mapping holds what was given: one entry for each key, with what was given last for it. -/
structure Gathers (given entries : List (Value × Value)) : Prop where
  /-- No two keys are the same. -/
  distinct : (entries.map (·.1)).Pairwise fun earlier later => earlier.sameKey later = false
  /-- Every key that was given is held. -/
  complete : ∀ key ∈ given.map (·.1), ∃ key' ∈ entries.map (·.1), key' = key ∨ key'.sameKey key = true
  /-- Every key that is held was given. -/
  sound : ∀ key ∈ entries.map (·.1), key ∈ given.map (·.1)
  /-- Every item is what was given last for its key. -/
  last : ∀ entry ∈ entries, ∃ before key after, given = before ++ (key, entry.2) :: after ∧
    (entry.1 = key ∨ entry.1.sameKey key = true) ∧ ∀ later ∈ after, entry.1.sameKey later.1 = false

theorem mem_insertEntry {key item : Value} {entries : List (Value × Value)} {entry : Value × Value}
    (distinct : (entries.map (·.1)).Pairwise fun earlier later => earlier.sameKey later = false)
    (known : entry ∈ insertEntry key item entries) :
    (entry.2 = item ∧ (entry.1 = key ∨ entry.1.sameKey key = true)) ∨
      entry ∈ entries ∧ entry.1.sameKey key = false := by
  induction entries with
  | nil =>
      obtain rfl := List.mem_singleton.mp known
      exact .inl ⟨rfl, .inl rfl⟩
  | cons first rest induction =>
      obtain ⟨apart, distinct⟩ := List.pairwise_cons.mp distinct
      rw [insertEntry] at known
      split at known
      · rename_i same
        rcases List.mem_cons.mp known with rfl | known
        · exact .inl ⟨rfl, .inr same⟩
        · refine .inr ⟨List.mem_cons_of_mem _ known, ?_⟩
          -- A second entry with the same key would be the same as the first one.
          by_contra same'
          have twice := sameKey_trans same (sameKey_symm (by simpa using same'))
          rw [apart entry.1 (List.mem_map_of_mem known)] at twice
          cases twice
      · rename_i other
        rcases List.mem_cons.mp known with rfl | known
        · exact .inr ⟨List.mem_cons_self, by simpa using other⟩
        · refine (induction distinct known).imp_right fun ⟨known, apart⟩ => ?_
          exact ⟨List.mem_cons_of_mem _ known, apart⟩

theorem keys_insertEntry (key item : Value) (entries : List (Value × Value)) :
    (insertEntry key item entries).map (·.1) = entries.map (·.1) ∧
        (∃ key' ∈ entries.map (·.1), key'.sameKey key = true) ∨
      (insertEntry key item entries).map (·.1) = entries.map (·.1) ++ [key] ∧
        ∀ key' ∈ entries.map (·.1), key'.sameKey key = false := by
  induction entries with
  | nil => exact .inr ⟨rfl, by simp⟩
  | cons first rest induction =>
      rw [insertEntry]
      split
      · rename_i same
        exact .inl ⟨rfl, first.1, List.mem_cons_self, same⟩
      · rename_i other
        rcases induction with ⟨keys, key', known, same⟩ | ⟨keys, apart⟩
        · refine .inl ⟨?_, key', List.mem_cons_of_mem _ known, same⟩
          rw [List.map_cons, List.map_cons, keys]
        · refine .inr ⟨?_, List.forall_mem_cons.mpr ⟨by simpa using other, apart⟩⟩
          rw [List.map_cons, List.map_cons, keys, List.cons_append]

/-! ## Text keys -/

section Texts

variable (name key : String) (item item' : Value) (entries : List (Value × Value))

theorem sameKey_text_iff {v : Value} {s : String} : v.sameKey (.text s) = true ↔ v = .text s := by
  cases v <;> simp [sameKey, number?]

theorem find?_insertEntry :
    find? name (insertEntry (.text key) item entries) = if name = key then some item else find? name entries := by
  induction entries with
  | nil =>
      rw [insertEntry]
      split_ifs with same
      · simp [find?, same]
      · simp [find?, Ne.symm same]
  | cons first rest induction =>
      obtain ⟨k, v⟩ := first
      rw [insertEntry]
      split
      · rename_i known
        obtain rfl := sameKey_text_iff.mp known
        split_ifs with same
        · simp [find?, same]
        · simp [find?, Ne.symm same]
      · rename_i other
        have apart : k ≠ .text key := fun same => other (sameKey_text_iff.mpr same)
        by_cases here : k = .text name
        · have different : name ≠ key := fun same => apart (same ▸ here)
          simp [find?, here, different]
        · have step (rest : List (Value × Value)) : find? name ((k, v) :: rest) = find? name rest := by
            cases k with
            | text s =>
                have different : s ≠ name := fun same => here (congrArg text same)
                simp [find?, different]
            | _ => simp [find?]
          rw [step, step, induction]

/-- Of two items that are given for a key the later one counts. -/
theorem insertEntry_insertEntry :
    insertEntry (.text key) item' (insertEntry (.text key) item entries) = insertEntry (.text key) item' entries := by
  induction entries with
  | nil => simp [insertEntry, sameKey_text_iff]
  | cons first rest induction =>
      rw [insertEntry, insertEntry]
      split
      · rename_i known
        rw [insertEntry, if_pos known]
      · rename_i other
        rw [insertEntry, if_neg other, induction]

/-- The entries of other keys stay as they are. -/
theorem filter_insertEntry {kept : Value × Value → Bool} (dropped : ∀ item, kept (.text key, item) = false) :
    (insertEntry (.text key) item entries).filter kept = entries.filter kept := by
  induction entries with
  | nil => simp [insertEntry, dropped]
  | cons first rest induction =>
      rw [insertEntry]
      split
      · rename_i known
        obtain ⟨k, v⟩ := first
        obtain rfl := sameKey_text_iff.mp known
        simp [dropped]
      · rw [List.filter_cons, List.filter_cons, induction]

end Texts

namespace Gathers

variable {given entries : List (Value × Value)} (gathers : Gathers given entries)

include gathers

theorem last_insertEntry {key item : Value} {entry : Value × Value}
    (known : entry ∈ insertEntry key item entries) :
    ∃ before key' after, given ++ [(key, item)] = before ++ (key', entry.2) :: after ∧
      (entry.1 = key' ∨ entry.1.sameKey key' = true) ∧ ∀ later ∈ after, entry.1.sameKey later.1 = false := by
  rcases mem_insertEntry gathers.distinct known with ⟨rfl, same⟩ | ⟨known, apart⟩
  · exact ⟨given, key, [], rfl, same, by simp⟩
  · obtain ⟨before, key', after, rfl, same, others⟩ := gathers.last entry known
    refine ⟨before, key', after ++ [(key, item)], by simp, same, ?_⟩
    exact List.forall_mem_append.mpr ⟨others, List.forall_mem_singleton.mpr apart⟩

/-- A mapping goes on to hold what was given once one more entry is given. -/
theorem insertEntry (key item : Value) : Gathers (given ++ [(key, item)]) (insertEntry key item entries) := by
  have last : ∀ entry ∈ Value.insertEntry key item entries, _ := fun entry known =>
    gathers.last_insertEntry known
  have keys : (given ++ [(key, item)]).map (·.1) = given.map (·.1) ++ [key] := List.map_append
  rcases keys_insertEntry key item entries with ⟨same, key', known, twice⟩ | ⟨same, apart⟩
  · refine ⟨same ▸ gathers.distinct, ?_, ?_, last⟩
    · rw [keys, same]
      refine List.forall_mem_append.mpr ⟨gathers.complete, List.forall_mem_singleton.mpr ?_⟩
      exact ⟨key', known, .inr twice⟩
    · rw [keys, same]
      exact fun key held => List.mem_append_left _ (gathers.sound key held)
  · refine ⟨?_, ?_, ?_, last⟩
    · rw [same]
      refine List.pairwise_append.mpr ⟨gathers.distinct, List.pairwise_singleton _ _, ?_⟩
      simpa using apart
    · rw [keys, same]
      refine List.forall_mem_append.mpr ⟨?_, List.forall_mem_singleton.mpr ?_⟩
      · intro key'' held
        obtain ⟨key', known, matches'⟩ := gathers.complete key'' held
        exact ⟨key', List.mem_append_left _ known, matches'⟩
      · exact ⟨key, by simp, .inl rfl⟩
    · rw [keys, same]
      refine List.forall_mem_append.mpr ⟨fun key held => ?_, by simp⟩
      exact List.mem_append_left _ (gathers.sound key held)

end Gathers

theorem gathers_gather (given : List (Value × Value)) : Gathers given (gather given) := by
  induction given using List.reverseRecOn with
  | nil => exact ⟨.nil, by simp, by simp [gather], by simp [gather]⟩
  | append_singleton given entry induction =>
      have step : gather (given ++ [entry]) = insertEntry entry.1 entry.2 (gather given) := by
        rw [gather, gather, List.foldl_concat]
      rw [step]
      exact induction.insertEntry entry.1 entry.2

/-! ## Copies -/

mutual
/-- Whether a value is a copy of another one; only texts, whole numbers, lists and mappings are compared. -/
def isCopy : Value → Value → Bool
  | text s, text t => s == t
  | int n, int m => n == m
  | list items, list others => areCopies items others
  | mapping entries, mapping others => areEntryCopies entries others
  | _, _ => false

/-- Whether the values of a list are copies of those of another one. -/
def areCopies : List Value → List Value → Bool
  | [], [] => true
  | item :: items, other :: others => isCopy item other && areCopies items others
  | _, _ => false

/-- Whether the entries of a mapping are copies of those of another one. -/
def areEntryCopies : List (Value × Value) → List (Value × Value) → Bool
  | [], [] => true
  | (key, item) :: entries, (key', item') :: others =>
    isCopy key key' && isCopy item item' && areEntryCopies entries others
  | _, _ => false
end

mutual
theorem eq_of_isCopy : ∀ {v w : Value}, isCopy v w = true → v = w
  | text _, text _, copies => congrArg text (eq_of_beq (by rwa [isCopy] at copies))
  | int _, int _, copies => congrArg int (eq_of_beq (by rwa [isCopy] at copies))
  | list _, list _, copies => congrArg list (eq_of_areCopies (by rwa [isCopy] at copies))
  | mapping _, mapping _, copies => congrArg mapping (eq_of_areEntryCopies (by rwa [isCopy] at copies))

theorem eq_of_areCopies : ∀ {items others : List Value}, areCopies items others = true → items = others
  | [], [], _ => rfl
  | item :: items, other :: others, copies => by
      rw [areCopies, Bool.and_eq_true] at copies
      rw [eq_of_isCopy copies.1, eq_of_areCopies copies.2]

theorem eq_of_areEntryCopies :
    ∀ {entries others : List (Value × Value)}, areEntryCopies entries others = true → entries = others
  | [], [], _ => rfl
  | (key, item) :: entries, (key', item') :: others, copies => by
      rw [areEntryCopies, Bool.and_eq_true, Bool.and_eq_true] at copies
      rw [eq_of_isCopy copies.1.1, eq_of_isCopy copies.1.2, eq_of_areEntryCopies copies.2]
end

/-- An outcome can be told from its entries by computation, although not all values can be compared. -/
theorem eq_ok_of_copies {Fault : Type} {outcome : Except Fault (List (Value × Value))} {entries : List (Value × Value)}
    (copies : outcome.toOption.any (areEntryCopies · entries) = true) : outcome = .ok entries := by
  cases outcome with
  | error fault => exact absurd copies Bool.false_ne_true
  | ok found => exact congrArg Except.ok (eq_of_areEntryCopies copies)

end Stencil.Data.Value
