import Stencil.Proofs.Archive.Confinement
import Stencil.Proofs.Archive.Endings
import Stencil.Proofs.Disk.Path

/-!
# What unpacking answers

Unpacking an archive whose members can be made answers the path of what it holds.  Headers with attributes that
no member follows are seen only where a member is looked for, and the path is that of the first member alone; the
main statement says exactly when the answer is the documented one all the same.
-/

namespace Stencil.Archive

open Disk

/-! ## Attributes that no member follows -/

/-- Headers with attributes of all members that follow stand one behind the other, up to the zeros of the end. -/
inductive Trails : Attributes → Bytes → Nat → Prop
  | mark {shared : Attributes} {count : Nat} : blockSize ≤ count → Trails shared (List.replicate count 0) 0
  | header {shared shared' : Attributes} {block described rest : Bytes} {header : Header} {count : Nat} :
      Header.ofBlock block = .ok header → header.kind = .sharedAttributes → 0 ≤ header.size →
      described.length = wholeBlocks header.size → readRecords? shared described = some shared' →
      Trails shared' rest count → Trails shared (block ++ (described ++ rest)) (count + 1)

/-- An archive in which members stand in full, behind them a number of headers with attributes that no member
follows, and behind these the mark of the end. -/
def IsPayload (bytes : Bytes) (members : List Member) (count : Nat) : Prop :=
  ∃ shared rest, Stands {} bytes members shared rest ∧ Trails shared rest count

theorem Trails.announce {shared : Attributes} {bytes : Bytes} {count : Nat} (trails : Trails shared bytes count) :
    announce shared bytes = .error (if count = 0 then .endMark else .unfinished) := by
  induction trails with
  | mark enough =>
      refine announce_eq_endMark_iff.mpr (List.prefix_replicate_iff.mpr ?_)
      rw [List.length_replicate]
      exact ⟨enough, rfl⟩
  | @header shared shared' block described rest header count read kind positive full records _ induction =>
      have length := length_of_ofBlock read
      have long : ¬(block ++ (described ++ rest)).length < blockSize := by
        rw [List.length_append, length]
        omega
      have size : described.length = (wholeBlocks header.size).toNat := by omega
      rw [Archive.announce, dif_neg long, List.take_left' length, List.drop_left' length, read]
      dsimp only
      rw [kind, List.take_left' size, List.drop_left' size]
      dsimp only
      rw [records]
      dsimp only
      rw [induction, if_neg (Nat.succ_ne_zero count)]
      split <;> rfl

theorem all_eq_zero_of_ofBlock {block : Bytes} {header : Header} (read : Header.ofBlock block = .ok header) :
    block.all (· = 0) = false := by
  cases zeros : block.all (· = 0) with
  | false => rfl
  | true =>
      have full := length_of_ofBlock read
      rw [Header.ofBlock, if_neg (by simp [full]), if_pos zeros] at read
      cases read

theorem Trails.all_eq_zero {shared : Attributes} {bytes : Bytes} {count : Nat} (trails : Trails shared bytes count) :
    bytes.all (· = 0) = decide (count = 0) := by
  cases trails with
  | mark _ => simp
  | header read =>
      rw [List.all_append, all_eq_zero_of_ofBlock read]
      simp

/-- An archive without members is seen to hold attributes only if there is one header of them. -/
theorem Trails.isMetadataOnly {shared : Attributes} {bytes : Bytes} {count : Nat}
    (trails : Trails shared bytes count) : isMetadataOnly bytes = decide (count = 1) := by
  cases trails with
  | @mark _ count enough =>
      have trails : Trails shared (List.replicate count 0) 0 := .mark enough
      exact not_isMetadataOnly_of_endMark trails.announce
  | @header shared shared' block described rest header count read kind positive full records trails =>
      have length := length_of_ofBlock read
      have rest' : behind (blockSize + wholeBlocks header.size) (block ++ (described ++ rest)) = rest := by
        have place : ((blockSize : Int) + wholeBlocks header.size).toNat = block.length + described.length := by omega
        rw [behind, if_neg (by omega), place, ← List.append_assoc, List.drop_left' List.length_append]
      rw [Archive.isMetadataOnly, List.take_left' length, read]
      dsimp only
      rw [rest', kind, trails.all_eq_zero]
      simp

/-! ## Answers -/

/-- What unpacking answers. -/
inductive Answer
  /-- The destination, and that there is nothing besides metadata. -/
  | nothing
  /-- The path of a name below the destination, or the destination itself. -/
  | root (name : Option Segment)
  /-- A fault. -/
  | fault (fault : UnpackFault)

/-- The path of a name below a directory, or the directory itself. -/
def pathOf (destination : List Char) : Option Segment → List Char
  | some name => below destination [name]
  | none => destination

/-- Whether a run answers in a way, and what it reports from a state on. -/
def Answers (destination : List Char) (t : Workspace) (ran : Except UnpackFault (List Char) × Workspace) :
    Answer → Prop
  | .nothing => ran.1 = .ok destination ∧
      ran.2.log = t.log ++ [⟨.warning, "Template archive contains no entries besides metadata"⟩]
  | .root name => ran.1 = .ok (pathOf destination name) ∧ ∃ message, ran.2.log = t.log ++ [⟨.debug, message⟩]
  | .fault fault => ran.1 = .error fault ∧ ran.2.log = t.log

/-- The first member that is not metadata. -/
def firstReal? (members : List Member) : Option Member :=
  members.find? (!·.isMetadata)

/-- What is documented for an archive of members and a number of headers behind them: a fault if there is nothing
at all; the destination, and that there is nothing else, if there is only metadata; else the path of the first
name on the way to a member that is not metadata. -/
def documented (members : List Member) (count : Nat) : Answer :=
  if members.isEmpty && count = 0 then .fault .empty
  else if members.all (·.isMetadata) then .nothing
  else .root ((members.filter (!·.isMetadata)).findSome? fun m => (segments m.name).head?)

/-- What is answered. -/
def answerOf (members : List Member) (count : Nat) : Answer :=
  if members.isEmpty then
    if count = 0 then .fault .empty else if count = 1 then .nothing else .fault .damaged
  else if count = 0 then
    match (firstReal? members).bind fun m => (segments m.name).head? with
    | some name => .root (some name)
    | none => .nothing
  else .fault .damaged

/-! ## Runs -/

/-- The first name on the way to a member, or nothing. -/
def leadingName (m : Member) : Segment :=
  (segments m.name).head?.getD []

theorem ensures_unpackMember_root (destination : List Char) (p : Progress) (m : Member) (w : Workspace) :
    Ensures (unpackMember destination p m) w
      (fun p' _ => p'.root = if m.isMetadata then p.root else some (p.root.getD (leadingName m)))
      fun _ _ => True := by
  unfold unpackMember
  split
  · exact .bind (.modify (.pure rfl))
  refine .bind (.bind (.get (.pure ?_)))
  split
  · exact .throw trivial
  dsimp only
  split
  · exact .bind ((Ensures.trivial _ _).mono (fun _ _ _ => .pure rfl) fun _ _ _ => trivial)
  · refine .bind ((Ensures.trivial _ _).mono (fun _ _ _ => ?_) fun _ _ _ => trivial)
    split
    · exact .pure rfl
    · exact .throw trivial
  · exact .bind (.modify (.pure rfl))

/-- The root is that of the first member that is not metadata. -/
theorem ensures_foldlM_root (destination : List Char) (members : List Member) (p : Progress) (w : Workspace) :
    Ensures (members.foldlM (unpackMember destination) p) w
      (fun p' _ => p'.root = p.root.or ((firstReal? members).map leadingName)) fun _ _ => True := by
  induction members generalizing p w with
  | nil => exact .pure (by simp [firstReal?])
  | cons m members induction =>
      rw [List.foldlM_cons]
      refine .bind ((ensures_unpackMember_root destination p m w).mono (fun p' t entered => ?_) fun _ _ _ => trivial)
      refine (induction p' t).mono (fun p'' _ root => ?_) fun _ _ _ => trivial
      rw [root, entered, firstReal?, firstReal?, List.find?_cons]
      cases m.isMetadata with
      | true => rfl
      | false => cases p.root <;> rfl

theorem list_of_payload {bytes : Bytes} {members : List Member} {count : Nat} (payload : IsPayload bytes members count) :
    list bytes = ⟨members, if count = 0 then .closed else .damaged⟩ := by
  obtain ⟨shared, rest, stands, trails⟩ := payload
  obtain ⟨more, listed⟩ := list_of_stands stands
  rw [listed, readMembers_of_error trails.announce, Listing.behind, List.append_nil]
  by_cases ended : count = 0
  · simp [ended]
  · simp [ended]

theorem IsPayload.isMetadataOnly {bytes : Bytes} {count : Nat} (payload : IsPayload bytes [] count) :
    isMetadataOnly bytes = decide (count = 1) ∧ bytes.all (· = 0) = decide (count = 0) := by
  obtain ⟨shared, rest, stands, trails⟩ := payload
  cases stands
  exact ⟨trails.isMetadataOnly, trails.all_eq_zero⟩

/-- Where there is a root, it is a name. -/
theorem root_getD (members : List Member) :
    ((firstReal? members).map leadingName).getD [] =
      ((firstReal? members).bind fun m => (segments m.name).head?).getD [] := by
  cases firstReal? members <;> rfl

theorem ne_nil_of_bind_head? {members : List Member} {name : Segment}
    (found : (firstReal? members).bind (fun m => (segments m.name).head?) = some name) : name ≠ [] := by
  obtain ⟨m, -, first⟩ := Option.bind_eq_some_iff.mp found
  exact (isName_of_mem_segments (List.mem_of_head? first)).1

/-- An archive is answered as its members and the headers behind them say, once the members have been made. -/
theorem answers_unpackListing {bytes : Bytes} {members : List Member} {count : Nat}
    (payload : IsPayload bytes members count) {destination : List Char} {w t : Workspace} {p : Progress}
    (made : (members.foldlM (unpackMember destination) {}).run w = (.ok p, t)) :
    Answers destination t ((unpackListing bytes (list bytes) destination).run w) (answerOf members count) := by
  have root : p.root = (firstReal? members).map leadingName := by
    have ensures := ensures_foldlM_root destination members {} w
    rw [Ensures, made] at ensures
    simpa using ensures
  rw [unpackListing, run_bind, list_of_payload payload]
  dsimp only
  rw [made]
  dsimp only
  cases members with
  | nil =>
      obtain ⟨only, zeros⟩ := payload.isMetadataOnly
      match count with
      | 0 => exact ⟨rfl, rfl⟩
      | 1 =>
          rw [only]
          exact ⟨rfl, rfl⟩
      | count + 2 =>
          rw [only, zeros]
          exact ⟨rfl, rfl⟩
  | cons m members =>
      match count with
      | count + 1 => exact ⟨rfl, rfl⟩
      | 0 =>
          rw [root, root_getD, answerOf]
          cases found : (firstReal? (m :: members)).bind fun m => (segments m.name).head? with
          | none => exact ⟨rfl, rfl⟩
          | some name =>
              have named := ne_nil_of_bind_head? found
              cases name with
              | nil => exact absurd rfl named
              | cons c name => exact ⟨rfl, _, rfl⟩

/-- An archive whose members can be made leads to the first name on the way to them. -/
theorem exists_run_unpackListing {bytes : Bytes} {members : List Member} {name : Segment} {destination : List Char}
    {w : Workspace} (after : Disk → Prop) (payload : IsPayload bytes members 0)
    (named : answerOf members 0 = .root (some name))
    (made : Ensures (members.foldlM (unpackMember destination) {}) w (fun _ t => after t.disk) fun _ _ => False) :
    ∃ t, (unpackListing bytes (list bytes) destination).run w = (.ok (below destination [name]), t) ∧
      after t.disk := by
  obtain ⟨p, t, ran, -⟩ | ⟨_, _, _, failed⟩ := made.outcome
  · have answers := answers_unpackListing payload ran
    rw [named] at answers
    have path : ((unpackListing bytes (list bytes) destination).run w).1 = .ok (below destination [name]) := answers.1
    have kept : Ensures (unpackListing bytes (list bytes) destination) w (fun _ t => after t.disk)
        fun _ t => False ∨ after t.disk := by
      rw [list_of_payload payload]
      exact ensures_unpackListing after made bytes
    rcases unpacked : (unpackListing bytes (list bytes) destination).run w with ⟨outcome, t'⟩
    rw [Ensures, unpacked] at kept
    rw [unpacked] at path
    obtain rfl : outcome = .ok (below destination [name]) := path
    exact ⟨t', rfl, kept⟩
  · exact failed.elim

/-- Whether an archive has no more headers behind its members than are seen, and the first member that is not
metadata has a name on the way to it. -/
def IsRecognised (members : List Member) (count : Nat) : Prop :=
  (if members.isEmpty then count ≤ 1 else count = 0) ∧
    ∀ m ∈ firstReal? members, segments m.name ≠ []

instance (members : List Member) (count : Nat) : Decidable (IsRecognised members count) :=
  inferInstanceAs (Decidable (_ ∧ _))

/-! ## The documented answer -/

theorem all_isMetadata_iff {members : List Member} :
    members.all (·.isMetadata) = true ↔ firstReal? members = none := by
  simp [firstReal?]

theorem filter_of_firstReal? {members : List Member} {m : Member} (found : firstReal? members = some m) :
    ∃ rest, members.filter (!·.isMetadata) = m :: rest := by
  rw [firstReal?, ← List.head?_filter] at found
  exact List.head?_eq_some_iff.mp found

theorem documented_eq_answerOf {members : List Member} {count : Nat} (recognised : IsRecognised members count) :
    documented members count = answerOf members count := by
  obtain ⟨few, named⟩ := recognised
  cases members with
  | nil =>
      match count with
      | 0 => rfl
      | 1 => rfl
      | count + 2 => exact absurd few (by simp)
  | cons m members =>
      obtain rfl : count = 0 := few
      rw [documented, answerOf]
      cases found : firstReal? (m :: members) with
      | none =>
          rw [all_isMetadata_iff.mpr found]
          rfl
      | some real =>
          obtain ⟨rest, filtered⟩ := filter_of_firstReal? found
          have some : ¬(m :: members).all (·.isMetadata) = true := by
            rw [all_isMetadata_iff, found]
            nofun
          cases names : segments real.name with
          | nil => exact absurd names (named real found)
          | cons name names' => simp [some, filtered, names]

/-- An answer that there is nothing is not the answer of a path, and neither is a fault. -/
theorem Answers.same_kind {destination : List Char} {t : Workspace}
    {ran : Except UnpackFault (List Char) × Workspace} {answer other : Answer}
    (first : Answers destination t ran answer) (second : Answers destination t ran other) :
    (answer = .nothing ↔ other = .nothing) ∧ ((∃ fault, answer = .fault fault) ↔ ∃ fault, other = .fault fault) := by
  cases answer with
  | nothing =>
      cases other with
      | nothing => simp
      | root name =>
          obtain ⟨-, message, log⟩ := second
          simp [first.2, Log.Level.warning, Log.Level.debug] at log
      | fault fault =>
          cases first.1.symm.trans second.1
  | root name =>
      cases other with
      | nothing =>
          obtain ⟨-, message, log⟩ := first
          simp [second.2, Log.Level.warning, Log.Level.debug] at log
      | root name => simp
      | fault fault => cases first.1.symm.trans second.1
  | fault fault =>
      cases other with
      | nothing => cases first.1.symm.trans second.1
      | root name => cases first.1.symm.trans second.1
      | fault fault => simp

/-- The first member that is not metadata has no name, so it is taken for none. -/
theorem answerOf_ne_documented_of_unnamed {members : List Member} {m : Member} (found : firstReal? members = some m)
    (names : segments m.name = []) : answerOf members 0 = .nothing ∧ documented members 0 ≠ .nothing := by
  cases members with
  | nil => cases found
  | cons first rest =>
      have real : ¬(first :: rest).all (·.isMetadata) = true := by
        rw [all_isMetadata_iff, found]
        nofun
      refine ⟨by simp [answerOf, found, names], ?_⟩
      rw [documented, if_neg (by simp), if_neg real]
      nofun

/-- A header that is not seen behind the members is taken for damage. -/
theorem answerOf_ne_documented_of_unseen {members : List Member} {count : Nat}
    (unseen : ¬if members.isEmpty then count ≤ 1 else count = 0) :
    answerOf members count = .fault .damaged ∧ ∀ fault, documented members count ≠ .fault fault := by
  have more : ¬(members.isEmpty && count = 0) = true := by
    intro both
    simp at both
    simp [both] at unseen
  constructor
  · cases members with
    | nil =>
        have many : ¬count ≤ 1 := unseen
        rw [answerOf, if_pos (by rfl), if_neg (by omega), if_neg (by omega)]
    | cons first rest =>
        have some : ¬count = 0 := unseen
        rw [answerOf, if_neg (by simp), if_neg some]
  · intro fault
    rw [documented, if_neg more]
    split
    · nofun
    · nofun

theorem not_answers_documented {members : List Member} {count : Nat} (missed : ¬IsRecognised members count)
    {destination : List Char} {t : Workspace} {ran : Except UnpackFault (List Char) × Workspace}
    (answers : Answers destination t ran (answerOf members count)) :
    ¬Answers destination t ran (documented members count) := by
  intro asDocumented
  obtain ⟨nothing, fault⟩ := answers.same_kind asDocumented
  by_cases few : if members.isEmpty then count ≤ 1 else count = 0
  · have unnamed : ∃ m, firstReal? members = some m ∧ segments m.name = [] := by
      apply Decidable.byContradiction
      intro none
      exact missed ⟨few, fun m found names => none ⟨m, found, names⟩⟩
    obtain ⟨m, found, names⟩ := unnamed
    obtain rfl : count = 0 := by
      cases members with
      | nil => cases found
      | cons _ _ => exact few
    obtain ⟨given, said⟩ := answerOf_ne_documented_of_unnamed found names
    exact said (nothing.mp given)
  · obtain ⟨given, said⟩ := answerOf_ne_documented_of_unseen few
    obtain ⟨other, same⟩ := fault.mp ⟨_, given⟩
    exact said other same

/-- An archive of a directory in which it all stands, another one in it and an empty file in that. -/
def dottedArchive : Bytes :=
  headerBlock [0x2E, 0x2F] [0x30, 0x30, 0x30, 0x36, 0x32, 0x32] 0x35 ++
    (headerBlock [0x2E, 0x2F, 0x70, 0x72, 0x6F, 0x6A, 0x2F] [0x30, 0x30, 0x31, 0x35, 0x37, 0x34] 0x35 ++
      (headerBlock [0x2E, 0x2F, 0x70, 0x72, 0x6F, 0x6A, 0x2F, 0x61] [0x30, 0x30, 0x31, 0x37, 0x33, 0x30] 0x30 ++
        List.replicate 1024 0))

/-- Its members. -/
def dottedMembers : List Member :=
  [{ name := ".".toList, mode := 0, kind := .directory }, { name := "./proj".toList, mode := 0, kind := .directory },
    { name := "./proj/a".toList, mode := 0, kind := .file }]

/-- A member without content stands in full. -/
theorem inFull_ofHeader {header : Header} (empty : header.size = 0) (rest : Bytes) :
    (Announced.ofHeader header {} rest).InFull := by
  have same : (Announced.ofHeader header {} rest).header.size = 0 ∧
      (Announced.ofHeader header {} rest).extent = 0 ∧ (Announced.ofHeader header {} rest).stretches = none := by
    unfold Announced.ofHeader Announced.withAttributes
    have extent : (if header.kind.hasContent then wholeBlocks header.size else 0) = 0 := by
      rw [empty]
      split <;> rfl
    dsimp only
    split
    · exact ⟨empty, extent, rfl⟩
    · exact ⟨empty, extent, rfl⟩
  obtain ⟨size, extent, stretches⟩ := same
  refine ⟨fun _ => ?_, ?_, ?_⟩
  · rw [Announced.toMember, size]
    simp
  · rw [Announced.taken, Announced.spread, stretches, size, extent]
    split <;> exact Int.le_refl 0
  · rw [extent]
    exact Int.natCast_nonneg _

set_option maxRecDepth 10000 in
theorem stands_dottedArchive : Stands {} dottedArchive dottedMembers {} (List.replicate 1024 0) := by
  have whole : Header.ofBlock (headerBlock [0x2E, 0x2F] [0x30, 0x30, 0x30, 0x36, 0x32, 0x32] 0x35) =
      .ok { name := ".".toList, mode := 0, size := 0, kind := .directory } := by cbv
  have inner : Header.ofBlock (headerBlock [0x2E, 0x2F, 0x70, 0x72, 0x6F, 0x6A, 0x2F]
      [0x30, 0x30, 0x31, 0x35, 0x37, 0x34] 0x35) =
        .ok { name := "./proj".toList, mode := 0, size := 0, kind := .directory } := by cbv
  have file : Header.ofBlock (headerBlock [0x2E, 0x2F, 0x70, 0x72, 0x6F, 0x6A, 0x2F, 0x61]
      [0x30, 0x30, 0x31, 0x37, 0x33, 0x30] 0x30) =
        .ok { name := "./proj/a".toList, mode := 0, size := 0, kind := .file } := by cbv
  refine .member (announce_append whole (.inr rfl) rfl _ _) (inFull_ofHeader rfl _) ?_
  refine .member (announce_append inner (.inr rfl) rfl _ _) (inFull_ofHeader rfl _) ?_
  exact .member (announce_append file (.inl rfl) rfl _ _) (inFull_ofHeader rfl _) .none

/-- The directory to unpack into with other places in it, once a member has stood for it. -/
def dottedDisk (inside : List (Route × Node)) : Disk :=
  ⟨(["to".toList], .directory 0o700) :: inside, []⟩

theorem exists_run_dottedMembers :
    ∃ p t, (dottedMembers.foldlM (unpackMember "/to".toList) {}).run emptyDirectory = (.ok p, t) := by
  have whole : Ensures (writeDirectory ⟨".".toList, 0, .directory, [], true⟩
      (below "/to".toList (segments ".".toList))) emptyDirectory.disk (fun _ d => d = dottedDisk [])
        fun _ _ => False := by
    unfold Ensures
    cbv
  have inner : Ensures (writeDirectory ⟨"./proj".toList, 0, .directory, [], true⟩
      (below "/to".toList (segments "./proj".toList))) (dottedDisk [])
        (fun _ d => d = dottedDisk [(["to".toList, "proj".toList], .directory 0o700)]) fun _ _ => False := by
    unfold Ensures
    cbv
  have file : Ensures (writeMember ⟨"./proj/a".toList, 0, .file, [], true⟩
      (below "/to".toList (segments "./proj/a".toList)))
        (dottedDisk [(["to".toList, "proj".toList], .directory 0o700)]) (fun _ _ => True) fun _ _ => False := by
    unfold Ensures
    cbv
  have made : Ensures (dottedMembers.foldlM (unpackMember "/to".toList) {}) emptyDirectory (fun _ _ => True)
      fun e _ => ∃ fault, False ∧ e = .disk fault := by
    refine .bind ((ensures_unpackMember_accepted _ _ (by decide) (by cbv) (fun _ => whole) (by simp)
      (by simp)).mono (fun p t disk => ?_) fun _ _ failed => failed)
    rw [← disk] at inner
    refine .bind ((ensures_unpackMember_accepted _ _ (by decide) (by rw [disk]; cbv) (fun _ => inner) (by simp)
      (by simp)).mono (fun p t disk => ?_) fun _ _ failed => failed)
    rw [← disk] at file
    exact .bind ((ensures_unpackMember_accepted _ _ (by decide) (by rw [disk]; cbv) (by simp)
      (fun _ => ⟨rfl, file⟩) (by simp)).mono (fun _ _ _ => .pure trivial) fun _ _ failed => failed)
  obtain ⟨p, t, ran, -⟩ | ⟨_, _, _, _, failed, _⟩ := made.outcome
  · exact ⟨p, t, ran⟩
  · cases failed

end Stencil.Archive
