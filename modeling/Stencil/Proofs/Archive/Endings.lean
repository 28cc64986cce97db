import Stencil.Archive.Unpack
import Stencil.Proofs.Archive.Stored
import Stencil.Proofs.Work

/-!
# Endings of archives

An archive is complete if its members stand in full one behind the other up to the mark of its end.  What is
unpacked without a fault need not be: a header behind the first member may be cut short or damaged, and ends the
archive just as the mark does.  The main statement says exactly which archives are taken as complete.
-/

namespace Stencil.Archive

/-! ## Headers -/

theorem ofBlock_replicate : Header.ofBlock (List.replicate blockSize 0) = .error .endMark := by
  simp [Header.ofBlock]

theorem take_of_zeros {bytes : Bytes} (zeros : List.replicate blockSize 0 <+: bytes) :
    bytes.take blockSize = List.replicate blockSize 0 := by
  rw [List.prefix_iff_eq_take.mp zeros, List.length_replicate]

/-- A block that is no header is damaged, or it is the mark of the end. -/
theorem of_ofBlock_eq_error {block : Bytes} {fault : HeaderFault} (failed : Header.ofBlock block = .error fault) :
    fault = .damaged ∨ fault = .endMark ∧ block = List.replicate blockSize 0 := by
  unfold Header.ofBlock at failed
  split at failed
  · cases failed
    exact .inl rfl
  rename_i full
  split at failed
  · rename_i zeros
    cases failed
    refine .inr ⟨rfl, List.eq_replicate_iff.mpr ⟨by simpa using full, by simpa using zeros⟩⟩
  left
  split at failed
  · split at failed
    · dsimp only at failed
      split at failed
      · cases failed
      · split at failed
        · cases failed
        · cases failed
          rfl
    · cases failed
      rfl
  · cases failed
    rfl

theorem completeLayout_length_le {steps : Nat} {layout complete : Layout} {bytes rest : Bytes}
    (read : completeLayout steps layout bytes = .ok (complete, rest)) : rest.length ≤ bytes.length := by
  induction steps generalizing layout bytes with
  | zero =>
      unfold completeLayout at read
      split at read
      · cases read
      · cases read
        exact Nat.le_refl _
  | succ steps induction =>
      unfold completeLayout at read
      split at read
      · cases extended : layout.extend (bytes.take blockSize) with
        | error fault =>
            rw [extended] at read
            cases read
        | ok layout =>
            rw [extended] at read
            have shorter := induction read
            rw [List.length_drop] at shorter
            omega
      · cases read
        exact Nat.le_refl _

theorem announce_of_ofBlock_eq_error {shared : Attributes} {bytes : Bytes} {fault : HeaderFault}
    (long : ¬bytes.length < blockSize) (failed : Header.ofBlock (bytes.take blockSize) = .error fault) :
    announce shared bytes = .error fault := by
  rw [announce, dif_neg long, failed]

theorem announce_of_file {shared : Attributes} {bytes : Bytes} {header : Header} (long : ¬bytes.length < blockSize)
    (read : Header.ofBlock (bytes.take blockSize) = .ok header) (file : header.kind = .file)
    (plain : header.layout = none) :
    announce shared bytes = .ok (.ofHeader header shared (bytes.drop blockSize)) := by
  rw [announce, dif_neg long, read]
  dsimp only
  rw [file, plain]

theorem length_of_ofBlock {block : Bytes} {header : Header} (read : Header.ofBlock block = .ok header) :
    block.length = blockSize := by
  apply Decidable.byContradiction
  intro other
  rw [Header.ofBlock, if_pos other] at read
  cases read

/-- The header of a file or a directory announces it. -/
theorem announce_append {block : Bytes} {header : Header} (read : Header.ofBlock block = .ok header)
    (kind : header.kind = .file ∨ header.kind = .directory) (plain : header.layout = none) (shared : Attributes)
    (rest : Bytes) : announce shared (block ++ rest) = .ok (.ofHeader header shared rest) := by
  have full := length_of_ofBlock read
  have long : ¬(block ++ rest).length < blockSize := by
    rw [List.length_append, full]
    omega
  rw [announce, dif_neg long, List.take_left' full, List.drop_left' full, read]
  dsimp only
  rcases kind with file | directory
  · rw [file, plain]
  · rw [directory, plain]

/-- The block of a header with the digits of its sum; the fields that are not given are empty. -/
def headerBlock (name sum : Bytes) (letter : UInt8) : Bytes :=
  name ++ List.replicate (148 - name.length) 0 ++ sum ++ [0x00, 0x20, letter] ++ List.replicate 355 0

theorem length_headerBlock {name sum : Bytes} (short : name.length ≤ 148) (six : sum.length = 6) (letter : UInt8) :
    (headerBlock name sum letter).length = blockSize := by
  simp only [headerBlock, List.length_append, List.length_replicate, List.length_cons, List.length_nil, six, blockSize]
  omega

/-- What the head of bytes may announce: a header that describes the next member leaves the rest to what
stands behind it. -/
inductive Announces (bytes : Bytes) : Except HeaderFault Announced → Prop
  | described {shared : Attributes} {rest : Bytes} {f : Announced → Announced} :
      rest.length + blockSize ≤ bytes.length → (∀ a, (f a).rest = a.rest) →
        Announces bytes ((describing (announce shared rest)).map f)
  | member {a : Announced} : a.rest.length + blockSize ≤ bytes.length → Announces bytes (.ok a)
  | failed {fault : HeaderFault} : fault ≠ .endMark → Announces bytes (.error fault)
  | endMark : List.replicate blockSize 0 <+: bytes → Announces bytes (.error .endMark)

theorem announces_announce (shared : Attributes) (bytes : Bytes) : Announces bytes (announce shared bytes) := by
  rw [announce]
  split
  · exact .failed (by simp)
  rename_i long
  have behind : (bytes.drop blockSize).length + blockSize ≤ bytes.length := by
    rw [List.length_drop]
    omega
  have farther (size : Nat) : ((bytes.drop blockSize).drop size).length + blockSize ≤ bytes.length := by
    rw [List.length_drop]
    omega
  split
  · rename_i fault failed
    obtain rfl | ⟨rfl, zeros⟩ := of_ofBlock_eq_error failed
    · exact .failed (by simp)
    · exact .endMark (zeros ▸ List.take_prefix _ _)
  · rename_i header read
    dsimp only
    split
    · exact .described (farther _) fun _ => rfl
    · rw [← id_map (describing _)]
      exact .described (farther _) fun _ => rfl
    · split
      · exact .failed (by simp)
      · rw [← id_map (describing _)]
        exact .described (farther _) fun _ => rfl
    · split
      · exact .failed (by simp)
      · refine .described (farther _) fun a => ?_
        split <;> rfl
    · split
      · refine .member ?_
        unfold Announced.ofHeader
        dsimp only
        split <;> exact behind
      · split
        · rename_i complete
          have shorter := completeLayout_length_le complete
          exact .member (by dsimp only [Announced.ofLayout]; omega)
        · exact .failed (by simp)
        · exact .failed (by simp)

theorem describing_map_ne_endMark (next : Except HeaderFault Announced) (f : Announced → Announced) :
    (describing next).map f ≠ .error .endMark := by
  cases next with
  | ok a => nofun
  | error fault => cases fault <;> nofun

theorem describing_map_eq_ok {next : Except HeaderFault Announced} {f : Announced → Announced} {a : Announced}
    (read : (describing next).map f = .ok a) : ∃ b, next = .ok b ∧ f b = a := by
  cases next with
  | ok b => exact ⟨b, rfl, Except.ok.inj read⟩
  | error _ => cases read

/-- The mark of the end is a block of zeros. -/
theorem announce_eq_endMark_iff {shared : Attributes} {bytes : Bytes} :
    announce shared bytes = .error .endMark ↔ List.replicate blockSize 0 <+: bytes := by
  constructor
  · intro ended
    have announces := announces_announce shared bytes
    rw [ended] at announces
    generalize same : (Except.error .endMark : Except HeaderFault Announced) = outcome at announces
    cases announces with
    | described _ _ => exact absurd same.symm (describing_map_ne_endMark _ _)
    | member _ => cases same
    | failed other => exact absurd (Except.error.inj same).symm other
    | endMark zeros => exact zeros
  · intro zeros
    have long : ¬bytes.length < blockSize := by
      have := zeros.length_le
      rw [List.length_replicate] at this
      omega
    exact announce_of_ofBlock_eq_error long (take_of_zeros zeros ▸ ofBlock_replicate)

/-- What stands behind the header of a member is shorter by a block. -/
theorem length_rest_of_announce {shared : Attributes} {bytes : Bytes} {a : Announced}
    (announced : announce shared bytes = .ok a) : a.rest.length + blockSize ≤ bytes.length := by
  have announces := announces_announce shared bytes
  rw [announced] at announces
  generalize same : (Except.ok a : Except HeaderFault Announced) = outcome at announces
  cases announces with
  | described shorter keeps =>
      obtain ⟨b, next, rfl⟩ := describing_map_eq_ok same.symm
      have := length_rest_of_announce next
      rw [keeps]
      omega
  | member shorter =>
      cases same
      exact shorter
  | failed _ => cases same
  | endMark _ => cases same
termination_by bytes.length
decreasing_by
  have : 0 < blockSize := by decide
  omega

/-! ## Members -/

/-- The number of bytes that are read for the content of a member. -/
def Announced.taken (a : Announced) : Nat :=
  if a.toMember.isRead then a.spread.taken else 0

/-- A member stands in full if its content is there, and the next header stands behind what is read of it and
within the archive. -/
structure Announced.InFull (a : Announced) : Prop where
  whole : a.toMember.isRead → a.toMember.isWhole
  taken_le : a.taken ≤ a.extent
  extent_le : a.extent ≤ a.rest.length

/-- Members stand in full at the head of bytes, one behind the other; behind them come the attributes that
hold on and the bytes that are left. -/
inductive Stands : Attributes → Bytes → List Member → Attributes → Bytes → Prop
  | none {shared : Attributes} {bytes : Bytes} : Stands shared bytes [] shared bytes
  | member {shared shared' : Attributes} {bytes rest : Bytes} {a : Announced} {members : List Member} :
      announce shared bytes = .ok a → a.InFull →
      Stands a.shared (a.rest.drop a.extent.toNat) members shared' rest →
        Stands shared bytes (a.toMember :: members) shared' rest

/-- An archive of members is complete if they stand in full up to the mark of the end. -/
def IsComplete (bytes : Bytes) (members : List Member) : Prop :=
  ∃ shared rest, Stands {} bytes members shared rest ∧ List.replicate blockSize 0 <+: rest

theorem Stands.length_le {shared shared' : Attributes} {bytes rest : Bytes} {members : List Member}
    (stands : Stands shared bytes members shared' rest) : rest.length ≤ bytes.length := by
  induction stands with
  | none => exact Nat.le_refl _
  | member announced _ _ induction =>
      have shorter := length_rest_of_announce announced
      rw [List.length_drop] at induction
      omega

theorem Stands.isWhole {shared shared' : Attributes} {bytes rest : Bytes} {members : List Member}
    (stands : Stands shared bytes members shared' rest) : ∀ m ∈ members, m.isRead → m.isWhole := by
  induction stands with
  | none => exact List.forall_mem_nil _
  | member _ full _ induction => exact List.forall_mem_cons.mpr ⟨full.whole, induction⟩

/-- Members stand in full up to a place at which no further one does. -/
theorem exists_stands (shared : Attributes) (bytes : Bytes) :
    ∃ members shared' rest, Stands shared bytes members shared' rest ∧
      ∀ a, announce shared' rest = .ok a → ¬a.InFull := by
  by_cases further : ∃ a, announce shared bytes = .ok a ∧ a.InFull
  · obtain ⟨a, announced, full⟩ := further
    have shorter := length_rest_of_announce announced
    obtain ⟨members, shared', rest, stands, last⟩ := exists_stands a.shared (a.rest.drop a.extent.toNat)
    exact ⟨_, shared', rest, .member announced full stands, last⟩
  · exact ⟨[], shared, bytes, .none, fun a announced full => further ⟨a, announced, full⟩⟩
termination_by bytes.length
decreasing_by
  have : 0 < blockSize := by decide
  rw [List.length_drop]
  omega

/-! ## Reading -/

/-- A listing with more members in front. -/
def Listing.behind (l : Listing) (members : List Member) : Listing :=
  { l with members := members ++ l.members }

theorem readMembers_of_announce {total steps : Nat} {first : Bool} {shared : Attributes} {bytes : Bytes}
    {a : Announced} (announced : announce shared bytes = .ok a) :
    readMembers total (steps + 1) first shared bytes =
      if a.toMember.isRead && !a.toMember.isWhole then ⟨[a.toMember], .damaged⟩
      else if a.extent ≠ a.taken ∧ (total : Int) - a.rest.length + a.extent = 0 then ⟨[a.toMember], .closed⟩
      else if a.extent < a.taken ∨ a.rest.length < a.extent then ⟨[a.toMember], .damaged⟩
      else (readMembers total steps false a.shared (a.rest.drop a.extent.toNat)).cons a.toMember := by
  have read : (a.taken : Int) = if a.toMember.isRead then (a.spread.taken : Int) else 0 := by
    unfold Announced.taken
    split <;> rfl
  rw [readMembers, announced, read]

theorem readMembers_of_inFull {total steps : Nat} {first : Bool} {shared : Attributes} {bytes : Bytes}
    {a : Announced} (announced : announce shared bytes = .ok a) (full : a.InFull) (bound : bytes.length ≤ total) :
    readMembers total (steps + 1) first shared bytes =
      (readMembers total steps false a.shared (a.rest.drop a.extent.toNat)).behind [a.toMember] := by
  have shorter := length_rest_of_announce announced
  have block : 0 < blockSize := by decide
  have taken := full.taken_le
  have extent := full.extent_le
  rw [readMembers_of_announce announced, if_neg (by simpa using full.whole), if_neg (by omega), if_neg (by omega)]
  rfl

/-- The header of a member that does not stand in full ends the listing with it: without a fault only if the
next header would stand at the very beginning. -/
theorem readMembers_of_not_inFull {total steps : Nat} {first : Bool} {shared : Attributes} {bytes : Bytes}
    {a : Announced} (announced : announce shared bytes = .ok a) (cut : ¬a.InFull) (bound : bytes.length ≤ total) :
    readMembers total (steps + 1) first shared bytes =
      ⟨[a.toMember], if (a.toMember.isRead → a.toMember.isWhole) ∧ a.extent = a.rest.length - total then .closed
        else .damaged⟩ := by
  have shorter := length_rest_of_announce announced
  have block : 0 < blockSize := by decide
  rw [readMembers_of_announce announced]
  by_cases whole : a.toMember.isRead → a.toMember.isWhole
  · rw [if_neg (by simpa using whole)]
    by_cases back : a.extent = a.rest.length - total
    · rw [if_pos (by omega), if_pos ⟨whole, back⟩]
    · have outside : a.extent < a.taken ∨ a.rest.length < a.extent :=
        Decidable.byContradiction fun within => cut ⟨whole, by omega, by omega⟩
      rw [if_neg (by omega), if_pos outside, if_neg fun both => back both.2]
  · rw [if_pos (by simpa using whole), if_neg fun both => whole both.1]

/-- Where no header of a member stands, the listing ends: without a fault at the mark of the end, and behind a
member also where a header is damaged. -/
theorem readMembers_of_error {total steps : Nat} {first : Bool} {shared : Attributes} {bytes : Bytes}
    {fault : HeaderFault} (failed : announce shared bytes = .error fault) :
    readMembers total (steps + 1) first shared bytes =
      ⟨[], if fault = .endMark ∨ fault = .damaged ∧ first = false then .closed
        else if fault = .cutLayout then .cutLayout else .damaged⟩ := by
  rw [readMembers, failed]
  cases fault <;> cases first <;> rfl

/-- Members that stand in full are read one after the other. -/
theorem Stands.readMembers {total steps : Nat} {shared shared' : Attributes} {bytes rest : Bytes}
    {members : List Member} (stands : Stands shared bytes members shared' rest) (first : Bool)
    (bound : bytes.length ≤ total) (enough : bytes.length < steps * blockSize) :
    ∃ more, readMembers total steps first shared bytes =
      (Archive.readMembers total (more + 1) (first && members.isEmpty) shared' rest).behind members := by
  induction stands generalizing steps first with
  | none =>
      cases steps with
      | zero => omega
      | succ steps => exact ⟨steps, by rw [List.isEmpty_nil, Bool.and_true]; rfl⟩
  | @member _ _ bytes _ a _ announced full _ induction =>
      cases steps with
      | zero => omega
      | succ steps =>
          have shorter := length_rest_of_announce announced
          rw [Nat.succ_mul] at enough
          have left : (a.rest.drop a.extent.toNat).length + blockSize ≤ bytes.length := by
            rw [List.length_drop]
            omega
          have fewer : (a.rest.drop a.extent.toNat).length < steps * blockSize := by omega
          obtain ⟨more, read⟩ := induction false (by omega) fewer
          refine ⟨more, ?_⟩
          rw [readMembers_of_inFull announced full bound, read, List.isEmpty_cons, Bool.and_false, Bool.false_and]
          rfl

/-- The listing of an archive is made of the members that stand in full and of what the next header is. -/
theorem list_of_stands {bytes rest : Bytes} {members : List Member} {shared : Attributes}
    (stands : Stands {} bytes members shared rest) :
    ∃ more, list bytes = (readMembers bytes.length (more + 1) members.isEmpty shared rest).behind members := by
  have enough : bytes.length < (bytes.length / blockSize + 1) * blockSize :=
    Nat.lt_mul_of_div_lt (Nat.lt_succ_self _) (by decide)
  obtain ⟨more, read⟩ := stands.readMembers true (Nat.le_refl _) enough
  exact ⟨more, by rw [list, read, Bool.true_and]⟩

/-- Only the content of the last member of an archive may be cut short. -/
theorem isWhole_of_mem_dropLast_list (bytes : Bytes) :
    ∀ m ∈ (list bytes).members.dropLast, m.isRead → m.isWhole := by
  obtain ⟨members, shared, rest, stands, last⟩ := exists_stands {} bytes
  obtain ⟨more, listed⟩ := list_of_stands stands
  rw [listed, Listing.behind]
  intro m known
  cases next : announce shared rest with
  | ok a =>
      rw [readMembers_of_not_inFull next (last a next) stands.length_le, List.dropLast_concat] at known
      exact stands.isWhole m known
  | error fault =>
      rw [readMembers_of_error next, List.append_nil] at known
      exact stands.isWhole m (List.dropLast_subset _ known)

/-! ## Acceptance -/

/-- How an archive of members is taken as complete when they are unpacked: it is; or what follows the members
is cut short or damaged where a header should stand; or the size of the last one leads back to the beginning; or
attributes that no member follows are all it holds. -/
inductive TakenAsComplete (bytes : Bytes) : List Member → Prop
  | complete {members : List Member} : members ≠ [] → IsComplete bytes members → TakenAsComplete bytes members
  | severed {members : List Member} {shared : Attributes} {rest : Bytes} :
      members ≠ [] → Stands {} bytes members shared rest → announce shared rest = .error .damaged →
        TakenAsComplete bytes members
  | returning {members : List Member} {shared : Attributes} {rest : Bytes} {a : Announced} :
      Stands {} bytes members shared rest → announce shared rest = .ok a →
      (a.toMember.isRead → a.toMember.isWhole) → a.extent = a.rest.length - bytes.length →
        TakenAsComplete bytes (members ++ [a.toMember])
  | metadata {fault : HeaderFault} :
      announce {} bytes = .error fault → fault ≠ .cutLayout → isMetadataOnly bytes → TakenAsComplete bytes []

/-- An archive that is cut at the end of a member, or within the header behind it, is taken as complete. -/
theorem takenAsComplete_of_cut {bytes rest : Bytes} {members : List Member} {shared : Attributes}
    (stands : Stands {} bytes members shared rest) (some : members ≠ []) (cut : rest.length < blockSize) :
    TakenAsComplete bytes members :=
  .severed some stands (by rw [announce, dif_pos cut])

/-- Whether a listing of an archive is unpacked without a fault of the archive. -/
structure Listing.IsAccepted (bytes : Bytes) (l : Listing) : Prop where
  closed : l.members ≠ [] → l.ending = .closed
  metadata : l.members = [] → l.ending = .damaged ∧ isMetadataOnly bytes

theorem not_isMetadataOnly_of_endMark {shared : Attributes} {bytes : Bytes}
    (ended : announce shared bytes = .error .endMark) : isMetadataOnly bytes = false := by
  rw [isMetadataOnly, take_of_zeros (announce_eq_endMark_iff.mp ended), ofBlock_replicate]

theorem takenAsComplete_list {bytes : Bytes} (accepted : (list bytes).IsAccepted bytes) :
    TakenAsComplete bytes (list bytes).members := by
  obtain ⟨members, shared, rest, stands, last⟩ := exists_stands {} bytes
  obtain ⟨more, listed⟩ := list_of_stands stands
  rw [listed] at accepted ⊢
  cases next : announce shared rest with
  | ok a =>
      rw [readMembers_of_not_inFull next (last a next) stands.length_le] at accepted ⊢
      by_cases back : (a.toMember.isRead → a.toMember.isWhole) ∧ a.extent = a.rest.length - bytes.length
      · exact .returning stands next back.1 back.2
      · have closed := accepted.closed (by simp [Listing.behind])
        rw [if_neg back] at closed
        cases closed
  | error fault =>
      rw [readMembers_of_error next] at accepted ⊢
      rw [Listing.behind, List.append_nil] at accepted ⊢
      by_cases empty : members = []
      · subst empty
        cases stands
        obtain ⟨damaged, only⟩ := accepted.metadata rfl
        refine .metadata next ?_ only
        rintro rfl
        cases damaged
      · have closed := accepted.closed empty
        cases fault with
        | endMark => exact .complete empty ⟨shared, rest, stands, announce_eq_endMark_iff.mp next⟩
        | damaged => exact .severed empty stands next
        | unfinished => cases closed
        | cutLayout => cases closed

theorem list_of_takenAsComplete {bytes : Bytes} {members : List Member}
    (taken : TakenAsComplete bytes members) : (list bytes).members = members ∧ (list bytes).IsAccepted bytes := by
  cases taken with
  | complete some complete =>
      obtain ⟨shared, rest, stands, ended⟩ := complete
      obtain ⟨more, listed⟩ := list_of_stands stands
      rw [listed, readMembers_of_error (announce_eq_endMark_iff.mpr ended), Listing.behind, List.append_nil]
      exact ⟨rfl, fun _ => rfl, fun none => absurd none some⟩
  | @severed members _ _ some stands severed =>
      obtain ⟨more, listed⟩ := list_of_stands stands
      have later : members.isEmpty = false := List.isEmpty_eq_false_iff.mpr some
      rw [listed, readMembers_of_error severed, Listing.behind, List.append_nil, later]
      exact ⟨rfl, fun _ => rfl, fun none => absurd none some⟩
  | @returning members shared rest a stands announced whole back =>
      obtain ⟨more, listed⟩ := list_of_stands stands
      have shorter := length_rest_of_announce announced
      have bound := stands.length_le
      have block : 0 < blockSize := by decide
      have cut : ¬a.InFull := fun full => by
        have taken := full.taken_le
        omega
      rw [listed, readMembers_of_not_inFull announced cut bound, if_pos ⟨whole, back⟩, Listing.behind]
      exact ⟨rfl, fun _ => rfl, fun none => absurd none (by simp)⟩
  | @metadata fault failed whole only =>
      obtain ⟨more, listed⟩ := list_of_stands (.none : Stands {} bytes [] {} bytes)
      have marked : fault ≠ .endMark := by
        rintro rfl
        rw [not_isMetadataOnly_of_endMark failed] at only
        cases only
      rw [listed, readMembers_of_error failed, Listing.behind, List.append_nil]
      exact ⟨rfl, nofun, fun _ => ⟨by simp [marked, whole], only⟩⟩

/-! ## Unpacking -/

/-- A listing is unpacked if its members can be made and nothing is wrong with the archive. -/
theorem unpackListing_ok_iff {bytes : Bytes} {l : Listing} {destination : List Char} {w : Workspace} :
    (∃ path t, (unpackListing bytes l destination).run w = (.ok path, t)) ↔
      (∃ p t, (l.members.foldlM (unpackMember destination) {}).run w = (.ok p, t)) ∧ l.IsAccepted bytes := by
  unfold unpackListing
  rw [run_bind_ok_iff, ← exists_and_right]
  refine exists_congr fun p => ?_
  rw [← exists_and_right]
  refine exists_congr fun t => and_congr_right fun _ => ?_
  by_cases cut : l.ending = .cutLayout
  · rw [if_pos cut]
    refine iff_of_false nofun fun accepted => ?_
    by_cases empty : l.members = []
    · cases cut.symm.trans (accepted.metadata empty).1
    · cases cut.symm.trans (accepted.closed empty)
  rw [if_neg cut]
  by_cases empty : l.members = []
  · rw [if_pos (by rw [empty]; rfl)]
    cases ending : l.ending with
    | closed => exact iff_of_false nofun fun accepted => by cases ending.symm.trans (accepted.metadata empty).1
    | cutLayout => exact absurd ending cut
    | damaged =>
      cases only : isMetadataOnly bytes with
      | true => exact iff_of_true ⟨_, _, rfl⟩ ⟨fun some => absurd empty some, fun _ => ⟨ending, only⟩⟩
      | false =>
          refine iff_of_false ?_ fun accepted => by cases only.symm.trans (accepted.metadata empty).2
          rw [if_neg nofun, if_neg nofun]
          split <;> nofun
  · rw [if_neg (by simpa using empty)]
    cases ending : l.ending with
    | damaged => exact iff_of_false nofun fun accepted => by cases ending.symm.trans (accepted.closed empty)
    | cutLayout => exact absurd ending cut
    | closed =>
      refine iff_of_true ?_ ⟨fun _ => ending, fun none => absurd none empty⟩
      rw [if_neg nofun]
      split <;> exact ⟨_, _, rfl⟩

theorem unpack_store {bytes : Bytes} (short : bytes.length < 65536) (destination : List Char) :
    unpack (store bytes) destination = unpackListing bytes (list bytes) destination := by
  rw [unpack, decompress?_store short]

/-! ## A wrong sum -/

/-- Making a member ends as writing it does, if nothing refuses its name. -/
theorem ensures_unpackMember_accepted (after : Disk → Prop) (stopped : Disk.Fault → Prop)
    {destination : List Char} {p : Progress} {m : Member} {w : Workspace} (plain : m.isMetadata = false)
    (accepted : refusalReason? w.disk destination m.name = none)
    (directory : m.kind = .directory → Ensures (writeDirectory m (Disk.below destination (Disk.segments m.name)))
      w.disk (fun _ d => after d) fun fault _ => stopped fault)
    (file : m.kind = .file → m.isWhole ∧ Ensures (writeMember m (Disk.below destination (Disk.segments m.name)))
      w.disk (fun _ d => after d) fun fault _ => stopped fault)
    (other : m.kind = .other → after w.disk) :
    Ensures (unpackMember destination p m) w (fun _ t => after t.disk)
      fun e _ => ∃ fault, stopped fault ∧ e = .disk fault := by
  unfold unpackMember
  rw [if_neg (by rw [plain]; nofun)]
  refine .bind (.bind (.get (.pure ?_)))
  rw [accepted]
  dsimp only
  cases kind : m.kind with
  | directory =>
      refine .bind ((Work.ensures_change (directory kind)).mono (fun _ _ held => ?_) fun _ _ failed => failed)
      exact .pure held
  | file =>
      obtain ⟨whole, written⟩ := file kind
      refine .bind ((Work.ensures_change written).mono (fun _ _ held => ?_) fun _ _ failed => failed)
      rw [if_pos whole]
      exact .pure held
  | other => exact .bind (.modify (.pure (other kind)))

/-- The block of the header of an empty file named by a letter; its sum is right for the letter a. -/
def emptyFile (letter : UInt8) : Bytes :=
  [0x74, 0x2F, letter] ++ List.replicate 145 0 ++ [0x30, 0x30, 0x31, 0x30, 0x36, 0x34, 0x00, 0x20, 0x30] ++
    List.replicate 355 0

/-- An archive of two files, in the second header of which the sum is wrong. -/
def wrongSum : Bytes :=
  emptyFile 0x61 ++ (emptyFile 0x62 ++ List.replicate 1024 0)

theorem length_emptyFile (letter : UInt8) : (emptyFile letter).length = blockSize := by
  rw [emptyFile, List.length_append, List.length_append, List.length_append, List.length_replicate,
    List.length_replicate]
  rfl

theorem take_emptyFile_append (letter : UInt8) (rest : Bytes) :
    (emptyFile letter ++ rest).take blockSize = emptyFile letter :=
  List.take_left' (length_emptyFile letter)

theorem not_length_lt_emptyFile_append (letter : UInt8) (rest : Bytes) :
    ¬(emptyFile letter ++ rest).length < blockSize := by
  rw [List.length_append, length_emptyFile]
  omega

/-- What the header of the first file announces. -/
def firstFile (shared : Attributes) (rest : Bytes) : Announced :=
  .ofHeader { name := "t/a".toList, mode := 0, size := 0, kind := .file } shared rest

set_option maxRecDepth 10000 in
theorem announce_emptyFile_append (shared : Attributes) (rest : Bytes) :
    announce shared (emptyFile 0x61 ++ rest) = .ok (firstFile shared rest) := by
  have header : Header.ofBlock (emptyFile 0x61) =
      .ok { name := "t/a".toList, mode := 0, size := 0, kind := .file } := by cbv
  rw [← take_emptyFile_append _ rest] at header
  rw [announce_of_file (not_length_lt_emptyFile_append _ _) header rfl rfl, List.drop_left' (length_emptyFile _),
    firstFile]

set_option maxRecDepth 10000 in
theorem announce_wrongSum_append (shared : Attributes) (rest : Bytes) :
    announce shared (emptyFile 0x62 ++ rest) = .error .damaged := by
  have header : Header.ofBlock (emptyFile 0x62) = .error .damaged := by cbv
  rw [← take_emptyFile_append _ rest] at header
  exact announce_of_ofBlock_eq_error (not_length_lt_emptyFile_append _ _) header

theorem inFull_firstFile (rest : Bytes) : (firstFile {} rest).InFull := by
  refine ⟨fun _ => rfl, ?_, ?_⟩
  · exact Int.le_refl 0
  · exact Int.natCast_nonneg _

/-- The first member. -/
def firstMember : Member where
  name := "t/a".toList
  mode := 0
  kind := .file

theorem toMember_firstFile (rest : Bytes) : (firstFile {} rest).toMember = firstMember := rfl

theorem not_isComplete_wrongSum (members : List Member) : ¬IsComplete wrongSum members := by
  rintro ⟨shared, rest, stands, ended⟩
  have ended : announce shared rest = .error .endMark := announce_eq_endMark_iff.mpr ended
  cases stands with
  | none => cases ended.symm.trans (announce_emptyFile_append _ _)
  | member announced full stands =>
      cases announced.symm.trans (announce_emptyFile_append _ _)
      have behind : (firstFile {} (emptyFile 0x62 ++ List.replicate 1024 0)).rest.drop
          (firstFile {} (emptyFile 0x62 ++ List.replicate 1024 0)).extent.toNat =
            emptyFile 0x62 ++ List.replicate 1024 0 := rfl
      rw [behind] at stands
      cases stands with
      | none => cases ended.symm.trans (announce_wrongSum_append _ _)
      | member announced _ _ => cases announced.symm.trans (announce_wrongSum_append _ _)

/-- An empty directory to unpack into. -/
def emptyDirectory : Workspace where
  disk := ⟨[(["to".toList], .directory 0o755)], []⟩

theorem unpackMember_firstMember :
    ∃ p t, (unpackMember "/to".toList {} firstMember).run emptyDirectory = (.ok p, t) := by
  have accepted : refusalReason? emptyDirectory.disk "/to".toList firstMember.name = none := by cbv
  have written : Ensures (writeMember firstMember (Disk.below "/to".toList (Disk.segments firstMember.name)))
      emptyDirectory.disk (fun _ _ => True) fun _ _ => False := by
    unfold Ensures
    cbv
  have made := ensures_unpackMember_accepted _ _ (p := {}) (by decide) accepted (fun kind => by cases kind)
    (fun _ => ⟨rfl, written⟩) fun kind => by cases kind
  obtain ⟨p, t, ran, _⟩ | ⟨_, _, _, _, failed, _⟩ := made.outcome
  · exact ⟨p, t, ran⟩
  · cases failed

end Stencil.Archive
