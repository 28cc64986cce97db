import Mathlib
import Stencil.Proofs.Configuration.Overrides

/-!
# Faults of loading

Loading a configuration fails with a fault of the configuration, or with one of another kind.  The faults of other
kinds are listed with their causes: a path that is too long, something at the path that is no file, bytes that are no
text, a value that cannot be made, and a setting to be replaced in something that is no mapping.
-/

namespace Stencil.Configuration

open Data (Value)

/-! ## Steps that fail with a fault of another kind -/

section Steps

variable {α β : Type} {fault : Fault}

/-- Whether a step fails with a fault that is none of the configuration. -/
def Escapes (step : Except Fault α) (fault : Fault) : Prop :=
  step = .error fault ∧ fault.isExpected = false

@[simp]
theorem escapes_error_iff {fault' : Fault} :
    Escapes (.error fault' : Except Fault α) fault ↔ fault'.isExpected = false ∧ fault' = fault := by
  constructor
  · rintro ⟨⟨⟩, unexpected⟩
    exact ⟨unexpected, rfl⟩
  · rintro ⟨unexpected, rfl⟩
    exact ⟨rfl, unexpected⟩

@[simp]
theorem escapes_throw_iff {fault' : Fault} :
    Escapes (throw fault' : Except Fault α) fault ↔ fault'.isExpected = false ∧ fault' = fault :=
  escapes_error_iff

@[simp]
theorem not_escapes_ok (a : α) : ¬Escapes (.ok a) fault :=
  fun escapes => nomatch escapes.1

theorem escapes_bind_iff {step : Except Fault α} {next : α → Except Fault β} :
    Escapes (step >>= next) fault ↔ Escapes step fault ∨ ∃ a, step = .ok a ∧ Escapes (next a) fault := by
  cases step with
  | error fault' => simp [Escapes]
  | ok a => simp [Escapes]

theorem escapes_map_iff {step : Except Fault α} {f : α → β} : Escapes (step.map f) fault ↔ Escapes step fault := by
  cases step with
  | error fault' => exact escapes_error_iff.trans escapes_error_iff.symm
  | ok a => exact iff_of_false (not_escapes_ok _) (not_escapes_ok a)

end Steps

/-! ## Reading a file -/

variable {d : Disk} {path : List Char} {fault : Fault}

theorem existsAt_eq_true_iff :
    existsAt d path = .ok true ↔ ∃ route node, d.locate true path = .ok ⟨route, some node⟩ := by
  rw [existsAt]
  rcases d.locate true path with cause | ⟨route, _ | node⟩
  · cases cause <;> simp
  · simp
  · simp

theorem existsAt_eq_error_iff :
    existsAt d path = .error fault ↔
      d.locate true path = .error .nameTooLong ∧ .unreadable ⟨.nameTooLong, path⟩ = fault := by
  rw [existsAt]
  rcases d.locate true path with cause | spot
  · cases cause <;> simp
  · simp

/-- Why reading a file fails with a fault that is none of the configuration. -/
inductive ReadHazard (d : Disk) (path : List Char) : Fault → Prop
  /-- The path, or a name on the way, is too long. -/
  | tooLong (located : d.locate true path = .error .nameTooLong) :
    ReadHazard d path (.unreadable ⟨.nameTooLong, path⟩)
  /-- What is there is no file. -/
  | noFile {route : Disk.Route} {node : Disk.Node} (located : d.locate true path = .ok ⟨route, some node⟩)
    (other : ∀ content mode, node ≠ .file content mode) :
    ReadHazard d path (.unreadable ⟨if node.isDirectory then .isDirectory else .notFound, path⟩)
  /-- The bytes of the file are no text. -/
  | undecodable {content : Bytes} {refusal : Text.Utf8.Fault} (holds : d.read path = .ok content)
    (refused : Text.Utf8.decode content = .error refusal) : ReadHazard d path (.undecodable refusal.inPieces)
  /-- The document is well formed, but a value in it cannot be made. -/
  | value {content : Bytes} {text : List Char} {cause : Data.Yaml.Fault} (holds : d.read path = .ok content)
    (decoded : Text.Utf8.decode content = .ok text) (stopped : Data.Yaml.read (unifyLineEnds text) = .error cause)
    (wellFormed : cause ≠ .malformed) : ReadHazard d path (.value cause)

theorem escapes_readText_iff {shown : String} {text : List Char} :
    Escapes (readText shown text) fault ↔
      ∃ cause, Data.Yaml.read (unifyLineEnds text) = .error cause ∧ cause ≠ .malformed ∧ .value cause = fault := by
  rw [readText]
  rcases Data.Yaml.read (unifyLineEnds text) with cause | value
  · cases cause <;> simp [Fault.isExpected]
  · cases value <;> simp [Fault.isExpected]

/-- Without a file nothing is read, and only what stands in its place is a hazard. -/
theorem readHazard_of_read_error {stopped : Disk.Fault} (unread : d.read path = .error stopped) :
    ReadHazard d path fault ↔
      d.locate true path = .error .nameTooLong ∧ .unreadable ⟨.nameTooLong, path⟩ = fault ∨
        ∃ route node, d.locate true path = .ok ⟨route, some node⟩ ∧
          .unreadable ⟨if node.isDirectory then .isDirectory else .notFound, path⟩ = fault := by
  constructor
  · intro hazard
    cases hazard with
    | tooLong located => exact .inl ⟨located, rfl⟩
    | noFile located other => exact .inr ⟨_, _, located, rfl⟩
    | undecodable holds refused => rw [unread] at holds; cases holds
    | value holds decoded stopped wellFormed => rw [unread] at holds; cases holds
  · rintro (⟨located, rfl⟩ | ⟨route, node, located, rfl⟩)
    · exact .tooLong located
    · refine .noFile located ?_
      rintro content mode rfl
      rw [Disk.read, located] at unread
      cases unread

/-- Of a file only its bytes are a hazard. -/
theorem readHazard_of_file {route : Disk.Route} {content : Bytes} {mode : Nat}
    (located : d.locate true path = .ok ⟨route, some (.file content mode)⟩) :
    ReadHazard d path fault ↔
      (∃ refusal, Text.Utf8.decode content = .error refusal ∧ .undecodable refusal.inPieces = fault) ∨
        ∃ text cause, Text.Utf8.decode content = .ok text ∧ Data.Yaml.read (unifyLineEnds text) = .error cause ∧
          cause ≠ .malformed ∧ .value cause = fault := by
  have reads : d.read path = .ok content := by rw [Disk.read, located]
  constructor
  · intro hazard
    cases hazard with
    | tooLong located' => rw [located] at located'; cases located'
    | noFile located' other =>
        rw [located] at located'
        cases located'
        exact absurd rfl (other content mode)
    | undecodable holds refused =>
        obtain rfl := Except.ok.inj (reads.symm.trans holds)
        exact .inl ⟨_, refused, rfl⟩
    | value holds decoded stopped wellFormed =>
        obtain rfl := Except.ok.inj (reads.symm.trans holds)
        exact .inr ⟨_, _, decoded, stopped, wellFormed, rfl⟩
  · rintro (⟨refusal, refused, rfl⟩ | ⟨text, cause, decoded, stopped, wellFormed, rfl⟩)
    · exact .undecodable reads refused
    · exact .value reads decoded stopped wellFormed

theorem escapes_readFile_iff : Escapes (readFile d path) fault ↔ ReadHazard d path fault := by
  rcases located : d.locate true path with cause | ⟨route, _ | node⟩
  · have unread : d.read path = .error ⟨cause, path⟩ := by rw [Disk.read, located]
    rw [readHazard_of_read_error unread, readFile, existsAt, located]
    cases cause <;> simp [Fault.isExpected]
  · have unread : d.read path = .error ⟨.notFound, path⟩ := by rw [Disk.read, located]
    rw [readHazard_of_read_error unread, readFile, existsAt, located]
    simp [Fault.isExpected]
  · have there : existsAt d path = .ok true := existsAt_eq_true_iff.mpr ⟨route, node, located⟩
    cases node with
    | file content mode =>
        rw [readHazard_of_file located, readFile, there, Disk.read, located]
        cases decoded : Text.Utf8.decode content with
        | error refusal => simp [decoded, Fault.isExpected]
        | ok text => simp [decoded, escapes_readText_iff]
    | directory mode =>
        have unread : d.read path = .error ⟨.isDirectory, path⟩ := by rw [Disk.read, located]
        rw [readHazard_of_read_error unread, readFile, there, unread, located]
        simp [Fault.isExpected, Disk.Node.isDirectory]
    | link target =>
        have unread : d.read path = .error ⟨.notFound, path⟩ := by rw [Disk.read, located]
        rw [readHazard_of_read_error unread, readFile, there, unread, located]
        simp [Fault.isExpected, Disk.Node.isDirectory]

/-! ## Finding the file -/

/-- Looking through paths stops at one that cannot be asked for, behind paths that nothing is at. -/
theorem first_eq_error_iff {paths : List (List Char)} :
    findPath.first d paths = .error fault ↔
      ∃ earlier path later, paths = earlier ++ path :: later ∧ (∀ other ∈ earlier, existsAt d other = .ok false) ∧
        existsAt d path = .error fault := by
  induction paths with
  | nil => simp [findPath.first]
  | cons path rest induction =>
      rw [findPath.first]
      constructor
      · intro stops
        cases asked : existsAt d path with
        | error fault' =>
            rw [asked, error_bind] at stops
            obtain rfl := Except.error.inj stops
            exact ⟨[], path, rest, rfl, by simp, asked⟩
        | ok there =>
            rw [asked, ok_bind] at stops
            cases there with
            | true => cases stops
            | false =>
                obtain ⟨earlier, path', later, rfl, absent, stops⟩ := induction.mp stops
                exact ⟨path :: earlier, path', later, rfl, List.forall_mem_cons.mpr ⟨asked, absent⟩, stops⟩
      · rintro ⟨_ | ⟨first, earlier⟩, path', later, same, absent, stops⟩
        · cases same
          rw [stops, error_bind]
        · cases same
          obtain ⟨asked, absent⟩ := List.forall_mem_cons.mp absent
          rw [asked, ok_bind]
          exact induction.mpr ⟨earlier, path', later, rfl, absent, stops⟩

/-! ## Loading -/

theorem obstacle?_eq_some_iff {entries : List (Value × Value)} {found : Value} :
    obstacle? entries = some found ↔
      Value.find? overriddenSection entries = some found ∧ (∀ inner, found ≠ .mapping inner) ∧
        found.isGiven = true := by
  rw [obstacle?]
  split
  case h_1 inner section_ =>
    rw [section_]
    constructor
    · intro same
      cases same
    · rintro ⟨same, apart, -⟩
      exact absurd (Option.some.inj same).symm (apart inner)
  case h_2 other apart section_ =>
    rw [section_, Option.ite_none_right_eq_some]
    constructor
    · rintro ⟨given, same⟩
      cases same
      exact ⟨rfl, apart, given⟩
    · rintro ⟨same, -, given⟩
      cases same
      exact ⟨given, rfl⟩
  case h_3 absent =>
    rw [absent]
    constructor
    · intro same
      cases same
    · rintro ⟨same, -⟩
      cases same

theorem escapes_settingsOf {source : String} {entries : List (Value × Value)} :
    ¬Escapes (settingsOf source entries) fault := by
  rw [settingsOf]
  cases Settings.ofEntries entries <;> simp [Fault.isExpected]

theorem escapes_settled_iff {e : Environment} {source : String} {entries : List (Value × Value)} :
    Escapes (settled e source entries) fault ↔
      replacements e ≠ [] ∧ ∃ found, obstacle? entries = some found ∧ .noSection found = fault := by
  rw [settled_eq]
  by_cases nothing : replacements e = []
  · simp [nothing, escapes_settingsOf]
  · rw [if_neg nothing]
    cases obstacle? entries with
    | none => simp [escapes_settingsOf]
    | some found => simp [nothing, Fault.isExpected]

/-- Why loading fails with a fault that is none of the configuration. -/
inductive Hazard (d : Disk) (e : Environment) (given : Option String) : Fault → Prop
  /-- No file is named, and one of the usual paths leads through a name that is too long. -/
  | search {earlier later : List (List Char)} {path : List Char} (ungiven : given.filter (· ≠ "") = none)
    (unset : e.get? pathVariable = none) (usual : usualPaths e = earlier ++ path :: later)
    (absent : ∀ other ∈ earlier, existsAt d other = .ok false)
    (located : d.locate true path = .error .nameTooLong) : Hazard d e given (.unreadable ⟨.nameTooLong, path⟩)
  /-- The file cannot be read. -/
  | reading {path : List Char} {fault : Fault} (named : findPath d e given = .ok (some path))
    (hazard : ReadHazard d path fault) : Hazard d e given fault
  /-- A setting is to be replaced, and something that is no mapping, but counts as given, is where its section is. -/
  | noSection {path : List Char} {entries : List (Value × Value)} {found : Value}
    (named : findPath d e given = .ok (some path)) (reads : readFile d path = .ok entries)
    (replacing : replacements e ≠ []) (there : Value.find? overriddenSection entries = some found)
    (noMapping : ∀ inner, found ≠ .mapping inner) (isGiven : found.isGiven = true) :
    Hazard d e given (.noSection found)

theorem findPath_eq_error_iff {e : Environment} {given : Option String} :
    findPath d e given = .error fault ↔
      given.filter (· ≠ "") = none ∧ e.get? pathVariable = none ∧ findPath.first d (usualPaths e) = .error fault := by
  rw [findPath]
  cases given.filter (· ≠ "") <;> cases e.get? pathVariable <;> simp

theorem escapes_findPath_iff {e : Environment} {given : Option String} :
    Escapes (findPath d e given) fault ↔
      given.filter (· ≠ "") = none ∧ e.get? pathVariable = none ∧
        ∃ earlier path later, usualPaths e = earlier ++ path :: later ∧
          (∀ other ∈ earlier, existsAt d other = .ok false) ∧ d.locate true path = .error .nameTooLong ∧
            .unreadable ⟨.nameTooLong, path⟩ = fault := by
  simp only [Escapes, findPath_eq_error_iff, first_eq_error_iff, existsAt_eq_error_iff]
  constructor
  · exact fun stops => stops.1
  · rintro ⟨ungiven, unset, earlier, path, later, usual, absent, located, rfl⟩
    exact ⟨⟨ungiven, unset, earlier, path, later, usual, absent, located, rfl⟩, rfl⟩

theorem outcome_load (e : Environment) (given : Option String) (w : Workspace) :
    ((load e given).run w).1 = findPath w.disk e given >>= fun
      | none => (settled e "configuration" []).map (⟨none, ·⟩)
      | some path => (readFile w.disk path >>= settled e (String.ofList path)).map (⟨some path, ·⟩) := by
  rw [run_load]
  rcases findPath w.disk e given with fault | _ | path
  · rfl
  · rfl
  · simp only [ok_bind]
    cases readFile w.disk path >>= settled e (String.ofList path) <;> rfl

theorem escapes_load_iff {e : Environment} {given : Option String} {w : Workspace} :
    Escapes ((load e given).run w).1 fault ↔ Hazard w.disk e given fault := by
  have defaults {source : String} : ¬Escapes (settled e source []) fault := by
    rw [escapes_settled_iff]
    rintro ⟨-, found, there, -⟩
    cases there
  rw [outcome_load, escapes_bind_iff, escapes_findPath_iff]
  constructor
  · rintro (⟨ungiven, unset, earlier, path, later, usual, absent, located, rfl⟩ | ⟨_ | path, named, escapes⟩)
    · exact .search ungiven unset usual absent located
    · exact absurd (escapes_map_iff.mp escapes) defaults
    · rcases escapes_bind_iff.mp (escapes_map_iff.mp escapes) with escapes | ⟨entries, reads, escapes⟩
      · exact .reading named (escapes_readFile_iff.mp escapes)
      · obtain ⟨replacing, found, there, rfl⟩ := escapes_settled_iff.mp escapes
        obtain ⟨there, noMapping, isGiven⟩ := obstacle?_eq_some_iff.mp there
        exact .noSection named reads replacing there noMapping isGiven
  · intro hazard
    cases hazard with
    | search ungiven unset usual absent located =>
        exact .inl ⟨ungiven, unset, _, _, _, usual, absent, located, rfl⟩
    | reading named hazard =>
        refine .inr ⟨some _, named, escapes_map_iff.mpr (escapes_bind_iff.mpr (.inl ?_))⟩
        exact escapes_readFile_iff.mpr hazard
    | noSection named reads replacing there noMapping isGiven =>
        refine .inr ⟨some _, named, escapes_map_iff.mpr (escapes_bind_iff.mpr (.inr ⟨_, reads, ?_⟩))⟩
        exact escapes_settled_iff.mpr ⟨replacing, _, obstacle?_eq_some_iff.mpr ⟨there, noMapping, isGiven⟩, rfl⟩

/-- A disk with a directory where a configuration file is looked for. -/
def directoryDisk : Disk :=
  { places := [(["c.yaml".toList], .directory Disk.directoryMode)] }

end Stencil.Configuration
