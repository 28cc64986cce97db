import Mathlib
import Stencil.Proofs.Template.Faults

/-!
# Places in a text

A text is measured in bytes, and its items are its bytes.  A place from zero up to the length has the byte
that stands there; every other place should have none, but one that is less than the length below zero is
counted from the end.
-/

namespace Stencil.Template

open Text.Utf8 (encode)

/-- The measuring of a value. -/
def measuring : Function :=
  ⟨"len", { title := "_len", required := ["value"] }, fun args => lengthOf (args.headD .none)⟩

/-- The looking up of an item. -/
def indexing : Function :=
  ⟨"index", { title := "_index", required := ["item"], variadic := true }, fun args =>
    itemOf (args.headD .none) args.tail⟩

theorem indexing_mem_builtins : indexing ∈ builtins := by
  simp [builtins, indexing]

/-- Whether a number is small enough to count places with. -/
def CountsPlaces (n : Int) : Prop :=
  -(greatestWidth : Int) - 1 ≤ n ∧ n ≤ greatestWidth

instance (n : Int) : Decidable (CountsPlaces n) :=
  inferInstanceAs (Decidable (_ ∧ _))

variable {s : List Char} {n : Int}

/-! ## Single places -/

theorem call_measuring (s : List Char) : measuring.call [.text s] = .ok (.int (encode s).length) := rfl

theorem call_indexing (s : List Char) (n : Int) :
    indexing.call [.text s, .int n] = itemAt true ((encode s).map fun b => .int b.toNat) (.int n) := by
  have found : indexing.call [.text s, .int n] =
      (itemAt true ((encode s).map fun b => .int b.toNat) (.int n)).bind (itemOf · []) := rfl
  rw [found]
  cases itemAt true ((encode s).map fun b => .int b.toNat) (.int n) <;> rfl

/-- The item at a place, which is counted from the end of the items below zero. -/
def itemFrom? (items : List Value) (n : Int) : Option Value :=
  if 0 ≤ n then items[n.toNat]? else if -items.length ≤ n then items[(n + items.length).toNat]? else none

theorem itemAt_int {items : List Value} (counts : CountsPlaces n) :
    itemAt true items (.int n) = (itemFrom? items n).elim (.error (.outside true)) .ok := by
  have small : ¬(n < -(greatestWidth : Int) - 1 ∨ greatestWidth < n) := by
    rintro (below | beyond)
    · exact absurd counts.1 (by omega)
    · exact absurd counts.2 (by omega)
  simp only [itemAt, Value.toInt?, if_neg small, itemFrom?]
  by_cases start : 0 ≤ n
  · rw [if_neg (show ¬n < 0 by omega), if_neg (by omega), if_pos start]
    cases items[n.toNat]? <;> rfl
  · rw [if_pos (show n < 0 by omega), if_neg start]
    by_cases near : -items.length ≤ n
    · rw [if_neg (by omega), if_pos near]
      cases items[(n + items.length).toNat]? <;> rfl
    · rw [if_pos (by omega), if_neg near]
      rfl

theorem itemAt_int_of_huge {items : List Value} (huge : ¬CountsPlaces n) :
    itemAt true items (.int n) = .error .hugePlace := by
  have large : n < -(greatestWidth : Int) - 1 ∨ greatestWidth < n := by
    rcases not_and_or.mp huge with below | beyond
    · exact .inl (by omega)
    · exact .inr (by omega)
  simp only [itemAt, Value.toInt?, if_pos large]

/-- A place that counts bytes from the start of a text has the byte that stands there. -/
theorem call_indexing_of_le {b : UInt8} (counts : CountsPlaces n) (start : 0 ≤ n)
    (held : (encode s)[n.toNat]? = some b) : indexing.call [.text s, .int n] = .ok (.int b.toNat) := by
  rw [call_indexing, itemAt_int counts, itemFrom?, if_pos start, List.getElem?_map, held]
  rfl

/-- So has a place that counts them from its end. -/
theorem call_indexing_of_lt {b : UInt8} (counts : CountsPlaces n) (negative : n < 0) (near : -(encode s).length ≤ n)
    (held : (encode s)[(n + (encode s).length).toNat]? = some b) :
    indexing.call [.text s, .int n] = .ok (.int b.toNat) := by
  rw [call_indexing, itemAt_int counts, itemFrom?, if_neg (by omega), List.length_map, if_pos near, List.getElem?_map,
    held]
  rfl

/-- Other places have none. -/
theorem call_indexing_of_away (away : ¬(CountsPlaces n ∧ -(encode s).length ≤ n ∧ n < (encode s).length)) :
    ∃ fault, indexing.call [.text s, .int n] = .error fault ∧ fault.escapes = false := by
  rw [call_indexing]
  by_cases counts : CountsPlaces n
  · refine ⟨.outside true, ?_, rfl⟩
    have nothing : itemFrom? ((encode s).map fun b => .int b.toNat) n = none := by
      rw [itemFrom?, List.length_map]
      by_cases near : -(encode s).length ≤ n
      · have beyond : ¬n < (encode s).length := fun before => away ⟨counts, near, before⟩
        rw [if_pos (by omega), List.getElem?_eq_none]
        rw [List.length_map]
        omega
      · rw [if_neg (by omega), if_neg near]
    rw [itemAt_int counts, nothing]
    rfl
  · exact ⟨.hugePlace, itemAt_int_of_huge counts, rfl⟩

/-! ## All places -/

/-- A call that has no value keeps a template that makes it from being rendered. -/
theorem render_eq_of_mem_callsOf {f : Function} (member : f ∈ builtins) {args : List Value} {fault : CallFault}
    (failed : f.call args = .error fault) {p : Project.Parameters} {content : List Char} {call : Call}
    (made : call ∈ callsOf builtins p content) (named : call.function = f.name.toList) (given : call.args = args) :
    render builtins p content = .error (.call fault) := by
  refine render_eq_call_iff.mpr ⟨call, made, ?_⟩
  rw [Call.result, named, given, Direct.call_eq_of_mem (functions_of_mem_callsOf made) member, failed]

/-- What should be found at a place of a text. -/
structure FindsByte (s : List Char) (n : Int) : Prop where
  /-- Inside of the text it is the byte there. -/
  inside : ∀ b, 0 ≤ n → (encode s)[n.toNat]? = some b → indexing.call [.text s, .int n] = .ok (.int b.toNat)
  /-- Outside of it there is nothing, and templates that ask for it are not rendered by their own fault. -/
  outside : ¬(0 ≤ n ∧ n < (encode s).length) →
    ∃ fault, indexing.call [.text s, .int n] = .error fault ∧ (RenderFault.call fault).escapes = false ∧
      ∀ p content, (∃ call ∈ callsOf builtins p content, call.function = indexing.name.toList ∧
        call.args = [.text s, .int n]) → render builtins p content = .error (.call fault)

/-- A place that should have a byte, and has none, or the other way round: it is counted from the end of the text,
or the text is longer than places can be counted. -/
def IsMiscounted (s : List Char) (n : Int) : Prop :=
  CountsPlaces n ∧ -(encode s).length ≤ n ∧ n < 0 ∨ ¬CountsPlaces n ∧ 0 ≤ n ∧ n < (encode s).length

theorem findsByte_of_not_isMiscounted (well : ¬IsMiscounted s n) : FindsByte s n := by
  rw [IsMiscounted, not_or] at well
  obtain ⟨notBelow, notBeyond⟩ := well
  constructor
  · intro b start held
    obtain ⟨short, -⟩ := List.getElem?_eq_some_iff.mp held
    have counts : CountsPlaces n := by
      by_contra huge
      exact notBeyond ⟨huge, start, by omega⟩
    exact call_indexing_of_le counts start held
  · intro away
    obtain ⟨fault, failed, tame⟩ : ∃ fault, indexing.call [.text s, .int n] = .error fault ∧
        fault.escapes = false := by
      refine call_indexing_of_away fun within => ?_
      obtain ⟨counts, near, before⟩ := within
      by_cases negative : n < 0
      · exact notBelow ⟨counts, near, negative⟩
      · exact away ⟨by omega, before⟩
    refine ⟨fault, failed, tame, fun p content made => ?_⟩
    obtain ⟨call, made, named, given⟩ := made
    exact render_eq_of_mem_callsOf indexing_mem_builtins failed made named given

theorem exists_byte (n : Nat) (short : n < (encode s).length) : ∃ b, (encode s)[n]? = some b :=
  ⟨_, List.getElem?_eq_getElem short⟩

theorem not_findsByte_of_isMiscounted (miscounted : IsMiscounted s n) : ¬FindsByte s n := by
  intro finds
  rcases miscounted with ⟨counts, near, negative⟩ | ⟨huge, start, before⟩
  · obtain ⟨b, held⟩ := exists_byte (s := s) (n + (encode s).length).toNat (by omega)
    obtain ⟨fault, failed, -⟩ := finds.outside (by omega)
    rw [call_indexing_of_lt counts negative near held] at failed
    cases failed
  · obtain ⟨b, held⟩ := exists_byte (s := s) n.toNat (by omega)
    have found := finds.inside b start held
    rw [call_indexing, itemAt_int_of_huge huge] at found
    cases found

/-- A text is measured in bytes, and at every place the byte is found that should be, unless the place is
miscounted: exactly the places that are counted from the end of the text have a byte that they should not have. -/
theorem findsByte_iff_not_isMiscounted (s : List Char) :
    measuring.call [.text s] = .ok (.int (encode s).length) ∧
    (∀ n : Int, FindsByte s n ↔ ¬IsMiscounted s n) ∧
    ∀ n : Int, n < 0 → CountsPlaces n → -(encode s).length ≤ n → ∀ b,
      (encode s)[(n + (encode s).length).toNat]? = some b → indexing.call [.text s, .int n] = .ok (.int b.toNat) := by
  refine ⟨call_measuring s, fun n => ⟨fun finds miscounted => ?_, findsByte_of_not_isMiscounted⟩, ?_⟩
  · exact not_findsByte_of_isMiscounted miscounted finds
  · exact fun n negative counts near b held => call_indexing_of_lt counts negative near held

/-- In a text of one and of two bytes the third byte is found, and the one before the first should not be. -/
theorem findsByte_mixed_widths :
    measuring.call [.text "aé".toList] = .ok (.int 3) ∧ FindsByte "aé".toList 2 ∧ ¬FindsByte "aé".toList (-1) := by
  obtain ⟨measured, finds, -⟩ := findsByte_iff_not_isMiscounted "aé".toList
  refine ⟨measured, (finds 2).mpr ?_, fun found => (finds (-1)).mp found ?_⟩
  · rintro (⟨-, -, negative⟩ | ⟨huge, -, -⟩)
    · exact absurd negative (by decide)
    · exact huge (by decide)
  · exact .inl ⟨by decide, by decide, by decide⟩

/-! ## The place before the first -/

private def lastByte : Term :=
  .call "index".toList [.field .name, .numeral "-1".toList]

private theorem toPage_lastByte :
    toPage builtins "\x7b\x7bindex .Name -1\x7d\x7d".toList = .ok [.output lastByte] := by
  rw [toPage]
  cbv

/-- A template that asks for the byte at the place below zero is rendered with the last byte of the text. -/
theorem render_last_byte :
    render builtins ⟨"demo", Project.noPort, by decide⟩ "\x7b\x7bindex .Name -1\x7d\x7d".toList =
        .ok "111".toList ∧
      ¬FindsByte "demo".toList (-1) := by
  have nested : Page.nest [.output lastByte] = .ok [.output lastByte] := by cbv
  have number : numeralValue "-1".toList = -1 := by cbv
  have found : indexing.call [.text "demo".toList, .int (-1)] = .ok (.int 111) :=
    call_indexing_of_lt (by decide) (by decide) (by decide) (b := 111) (by decide)
  have miscounted : IsMiscounted "demo".toList (-1) := .inl ⟨by decide, by decide, by decide⟩
  refine ⟨?_, not_findsByte_of_isMiscounted miscounted⟩
  have ran {env : Environment} (atHand : env.functions = builtins) (name : env.name = "demo".toList) :
      Statement.runAll env [.output lastByte] = .ok ("111".toList, env) := by
    have called : env.call "index".toList [.text env.name, .int (-1)] = .ok (.int 111) := by
      rw [name]
      exact (Direct.call_eq_of_mem atHand indexing_mem_builtins _).trans found
    have printed : (Value.int 111).printed = "111".toList := by decide +kernel
    simp only [lastByte, Statement.runAll, Statement.run, Term.eval, Term.evalAll, Environment.field, number, ok_bind,
      Except.bind, called, Except.map, printed, List.append_nil]
  rw [render, toPage_lastByte]
  simp only [nested, ran]

end Stencil.Template
