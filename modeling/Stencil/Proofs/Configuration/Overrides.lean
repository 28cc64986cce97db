import Mathlib
import Stencil.Configuration
import Stencil.Proofs.Data.Value
import Stencil.Proofs.Outcome
import Stencil.Proofs.Settings.Rules
import Stencil.Proofs.Text.Utf8
import Stencil.Proofs.Work

/-!
# Settings from the environment

Variables of the environment replace settings of a section before the settings are checked.  Loading a file with
variables set is the same as loading the file that has their values in it, if the section of the file is missing,
holds nothing, or is a mapping.
-/

namespace Stencil

open Data (Value)

/-! ## Environments -/

theorem lookup_filter {β : Type} (kept : String → Bool) (name : String) (assignments : List (String × β)) :
    (assignments.filter fun assignment => kept assignment.1).lookup name =
      if kept name then assignments.lookup name else none := by
  induction assignments with
  | nil => simp
  | cons assignment rest induction =>
      obtain ⟨key, value⟩ := assignment
      rw [List.filter_cons]
      by_cases same : name = key
      · rw [same] at induction ⊢
        cases keeps : kept key <;> simp [keeps, induction]
      · have apart : (name == key) = false := beq_false_of_ne same
        cases keeps : kept key <;> simp [List.lookup_cons, apart, induction]

namespace Environment

/-- The environment without the variables that replace settings. -/
def withoutOverrides (e : Environment) : Environment :=
  { e with assignments := e.assignments.filter fun assignment => assignment.1 ∉ Configuration.overrides.map (·.1) }

theorem get?_withoutOverrides (e : Environment) (name : String) :
    e.withoutOverrides.get? name = if name ∈ Configuration.overrides.map (·.1) then none else e.get? name := by
  rw [get?, withoutOverrides, lookup_filter fun name => decide (name ∉ Configuration.overrides.map (·.1)), get?]
  simp only [decide_eq_true_eq, ite_not]
  split <;> rfl

end Environment

namespace Configuration

theorem findPath_withoutOverrides (d : Disk) (e : Environment) (given : Option String) :
    findPath d e.withoutOverrides given = findPath d e given := by
  have named : e.withoutOverrides.get? pathVariable = e.get? pathVariable := by
    rw [Environment.get?_withoutOverrides, if_neg (by decide)]
  rw [findPath, findPath, named]
  rfl

/-! ## Replaced settings -/

/-- The settings that the environment replaces, with their values. -/
def replacements (e : Environment) : List (String × String) :=
  overrides.filterMap fun (name, key) => (e.get? name).map (key, ·)

theorem replacements_withoutOverrides (e : Environment) : replacements e.withoutOverrides = [] := by
  refine List.filterMap_eq_nil_iff.mpr fun override known => ?_
  change (e.withoutOverrides.get? override.1).map _ = none
  rw [Environment.get?_withoutOverrides, if_pos (List.mem_map_of_mem known)]
  rfl

/-- What the section of the replaced settings holds; one that is no mapping counts as empty. -/
def sectionEntries (entries : List (Value × Value)) : List (Value × Value) :=
  match Value.find? overriddenSection entries with
  | some (.mapping inner) => inner
  | _ => []

/-- Entries of a section after settings in it are replaced. -/
def putAll (settings : List (String × String)) (inner : List (Value × Value)) : List (Value × Value) :=
  settings.foldl (fun inner (key, value) => Value.insertEntry (.text key) (.text value) inner) inner

/-- Entries with a section in the place where settings are replaced. -/
def putSection (inner entries : List (Value × Value)) : List (Value × Value) :=
  Value.insertEntry (.text overriddenSection) (.mapping inner) entries

/-- Entries in which the settings of the environment stand in place of their own. -/
def overridden (e : Environment) (entries : List (Value × Value)) : List (Value × Value) :=
  if replacements e = [] then entries
  else putSection (putAll (replacements e) (sectionEntries entries)) entries

/-- What stands in place of the section and is no mapping, but counts as given. -/
def obstacle? (entries : List (Value × Value)) : Option Value :=
  match Value.find? overriddenSection entries with
  | some (.mapping _) => none
  | some found => if found.isGiven then some found else none
  | none => none

/-- Replaces settings one after the other. -/
def replaceAll (settings : List (String × String)) (entries : List (Value × Value)) :
    Except Fault (List (Value × Value)) :=
  settings.foldlM (fun entries (key, value) => replace overriddenSection key value entries) entries

theorem replaceAll_cons (key value : String) (rest : List (String × String)) (entries : List (Value × Value)) :
    replaceAll ((key, value) :: rest) entries = replace overriddenSection key value entries >>= replaceAll rest :=
  List.foldlM_cons

theorem applyEnvironment_eq_replaceAll (e : Environment) (entries : List (Value × Value)) :
    applyEnvironment e entries = replaceAll (replacements e) entries := by
  rw [applyEnvironment, replaceAll, replacements]
  induction overrides generalizing entries with
  | nil => rfl
  | cons override rest induction =>
      obtain ⟨name, key⟩ := override
      rw [List.foldlM_cons, List.filterMap_cons]
      cases found : e.get? name with
      | none =>
          simp only [found, ok_bind, Option.map_none]
          exact induction entries
      | some value =>
          simp only [found, Option.map_some, List.foldlM_cons]
          exact congrArg _ (funext induction)

section Sections

variable (inner inner' entries : List (Value × Value))

theorem find?_putSection (name : String) :
    Value.find? name (putSection inner entries) =
      if name = overriddenSection then some (.mapping inner) else Value.find? name entries :=
  Value.find?_insertEntry name overriddenSection (.mapping inner) entries

theorem sectionEntries_putSection : sectionEntries (putSection inner entries) = inner := by
  rw [sectionEntries, find?_putSection, if_pos rfl]

theorem obstacle?_putSection : obstacle? (putSection inner entries) = none := by
  rw [obstacle?, find?_putSection, if_pos rfl]

theorem putSection_putSection : putSection inner' (putSection inner entries) = putSection inner' entries :=
  Value.insertEntry_insertEntry overriddenSection (.mapping inner) (.mapping inner') entries

end Sections

theorem replace_eq (key value : String) (entries : List (Value × Value)) :
    replace overriddenSection key value entries =
      match obstacle? entries with
      | some found => .error (.noSection found)
      | none => .ok (putSection (Value.insertEntry (.text key) (.text value) (sectionEntries entries)) entries) := by
  rw [replace, obstacle?, sectionEntries]
  cases Value.find? overriddenSection entries with
  | none => rfl
  | some found =>
      cases found with
      | mapping inner => rfl
      | _ =>
          simp only
          split_ifs <;> rfl

/-- Unless something stands in its place, all settings are put into one section. -/
theorem replaceAll_eq {settings : List (String × String)} (given : settings ≠ []) (entries : List (Value × Value)) :
    replaceAll settings entries =
      match obstacle? entries with
      | some found => .error (.noSection found)
      | none => .ok (putSection (putAll settings (sectionEntries entries)) entries) := by
  induction settings generalizing entries with
  | nil => exact absurd rfl given
  | cons setting rest induction =>
      obtain ⟨key, value⟩ := setting
      rw [replaceAll_cons, replace_eq]
      cases obstacle? entries with
      | some found => rfl
      | none =>
          simp only [ok_bind]
          cases rest with
          | nil => rfl
          | cons next rest =>
              refine (induction (List.cons_ne_nil next rest) _).trans ?_
              rw [obstacle?_putSection, sectionEntries_putSection]
              simp only [putSection_putSection]
              rfl

/-- The environment puts its settings into the section, unless something stands in the place of it. -/
theorem applyEnvironment_eq (e : Environment) (entries : List (Value × Value)) :
    applyEnvironment e entries =
      match if replacements e = [] then none else obstacle? entries with
      | some found => .error (.noSection found)
      | none => .ok (overridden e entries) := by
  rw [applyEnvironment_eq_replaceAll, overridden]
  split_ifs with nothing
  · rw [nothing]
    rfl
  · exact replaceAll_eq nothing entries

theorem overridden_eq_self {e : Environment} (nothing : replacements e = []) (entries : List (Value × Value)) :
    overridden e entries = entries :=
  if_pos nothing

theorem sameKey_self (s : String) : (Value.text s).sameKey (.text s) = true :=
  Value.sameKey_text_iff.mpr rfl

section Putting

variable {settings : List (String × String)} {key value : String} {inner : List (Value × Value)}

theorem find?_putAll_of_notMem (free : key ∉ settings.map (·.1)) :
    Value.find? key (putAll settings inner) = Value.find? key inner := by
  induction settings generalizing inner with
  | nil => rfl
  | cons setting rest induction =>
      rw [List.map_cons, List.mem_cons, not_or] at free
      exact (induction free.2).trans ((Value.find?_insertEntry ..).trans (if_neg free.1))

/-- Every setting that is put into a section is found there. -/
theorem find?_putAll (distinct : (settings.map (·.1)).Nodup) (known : (key, value) ∈ settings) :
    Value.find? key (putAll settings inner) = some (.text value) := by
  induction settings generalizing inner with
  | nil => cases known
  | cons setting rest induction =>
      obtain ⟨free, distinct⟩ := List.nodup_cons.mp distinct
      rcases List.mem_cons.mp known with rfl | known
      · exact (find?_putAll_of_notMem free).trans ((Value.find?_insertEntry ..).trans (if_pos rfl))
      · exact induction distinct known

/-- What has other keys than the settings that are put into a section stays in it. -/
theorem filter_putAll {kept : Value × Value → Bool}
    (dropped : ∀ setting ∈ settings, ∀ item, kept (.text setting.1, item) = false) :
    (putAll settings inner).filter kept = inner.filter kept := by
  induction settings generalizing inner with
  | nil => rfl
  | cons setting rest induction =>
      obtain ⟨first, others⟩ := List.forall_mem_cons.mp dropped
      exact (induction others).trans (Value.filter_insertEntry _ _ _ first)

end Putting

theorem replacements_nodup (e : Environment) : ((replacements e).map (·.1)).Nodup := by
  have distinct : overrides.Pairwise fun a b => a.2 ≠ b.2 := by decide
  refine List.pairwise_map.mpr (distinct.filterMap _ fun a b apart first fromFirst second fromSecond => ?_)
  obtain ⟨_, -, rfl⟩ := Option.map_eq_some_iff.mp fromFirst
  obtain ⟨_, -, rfl⟩ := Option.map_eq_some_iff.mp fromSecond
  exact apart

/-- Whether an entry has another key than all settings that the environment replaces. -/
def isKept (e : Environment) (entry : Value × Value) : Bool :=
  (replacements e).all fun setting => !entry.1.sameKey (.text setting.1)

/-- Entries in which the settings of the environment are replaced, and nothing else. -/
structure Replaces (e : Environment) (entries entries' : List (Value × Value)) : Prop where
  /-- The values of the environment are in the section. -/
  replaced : ∀ setting ∈ replacements e,
    Value.find? setting.1 (sectionEntries entries') = some (.text setting.2)
  /-- All else in the section is as it was. -/
  inner : (sectionEntries entries').filter (isKept e) = (sectionEntries entries).filter (isKept e)
  /-- All else is as it was. -/
  outer : entries'.filter (!·.1.sameKey (.text overriddenSection)) =
    entries.filter (!·.1.sameKey (.text overriddenSection))

theorem replaces_overridden (e : Environment) (entries : List (Value × Value)) :
    Replaces e entries (overridden e entries) := by
  rw [overridden]
  split_ifs with nothing
  · exact ⟨by simp [nothing], rfl, rfl⟩
  · refine ⟨?_, ?_, ?_⟩
    · rintro ⟨key, value⟩ known
      rw [sectionEntries_putSection]
      exact find?_putAll (replacements_nodup e) known
    · rw [sectionEntries_putSection]
      refine filter_putAll fun setting known item => ?_
      rw [isKept, List.all_eq_false]
      exact ⟨setting, known, by simp [sameKey_self]⟩
    · exact Value.filter_insertEntry _ _ _ fun item => by simp [sameKey_self]

/-! ## Loading -/

/-- The settings that entries give once the environment replaced some of them. -/
def settled (e : Environment) (source : String) (entries : List (Value × Value)) : Except Fault Settings :=
  applyEnvironment e entries >>= settingsOf source

theorem settled_eq (e : Environment) (source : String) (entries : List (Value × Value)) :
    settled e source entries =
      match if replacements e = [] then none else obstacle? entries with
      | some found => .error (.noSection found)
      | none => settingsOf source (overridden e entries) := by
  rw [settled, applyEnvironment_eq]
  cases if replacements e = [] then none else obstacle? entries <;> rfl

theorem settled_withoutOverrides (e : Environment) (source : String) (entries : List (Value × Value)) :
    settled e.withoutOverrides source entries = settingsOf source entries := by
  have nothing := replacements_withoutOverrides e
  rw [settled_eq, if_pos nothing, overridden_eq_self nothing]

/-- The record that no file was found. -/
def defaultsRecord : Log.Entry :=
  ⟨.debug, "No config file found, using defaults"⟩

/-- The record that a file was loaded. -/
def loadedRecord (path : List Char) : Log.Entry :=
  ⟨.debug, "Loaded configuration from " ++ String.ofList path⟩

theorem run_load (e : Environment) (given : Option String) (w : Workspace) :
    (load e given).run w =
      match findPath w.disk e given with
      | .error fault => (.error fault, w)
      | .ok none =>
        ((settled e "configuration" []).map (⟨none, ·⟩), { w with log := w.log ++ [defaultsRecord] })
      | .ok (some path) =>
        match readFile w.disk path >>= settled e (String.ofList path) with
        | .error fault => (.error fault, w)
        | .ok settings => (.ok ⟨some path, settings⟩, { w with log := w.log ++ [loadedRecord path] }) := by
  have disk : (Work.disk : Work Fault Disk).run w = (.ok w.disk, w) := rfl
  have lifted {α : Type} (step : Except Fault α) (w : Workspace) : (liftM step : Work Fault α).run w = (step, w) := rfl
  rw [load, run_bind, disk]
  simp only [run_bind, lifted]
  rcases findPath w.disk e given with fault | _ | path
  · rfl
  · have reported : (Work.report .debug "No config file found, using defaults" : Work Fault Unit).run w =
        (.ok (), { w with log := w.log ++ [defaultsRecord] }) := rfl
    simp only [run_bind, lifted, reported, settled]
    cases applyEnvironment e [] with
    | error fault => rfl
    | ok entries =>
        simp only [ok_bind]
        cases settingsOf "configuration" entries <;> rfl
  · simp only [run_bind, lifted]
    cases readFile w.disk path with
    | error fault => rfl
    | ok entries =>
        simp only [ok_bind, settled]
        cases applyEnvironment e entries with
        | error fault => rfl
        | ok entries =>
            simp only [ok_bind]
            cases settingsOf (String.ofList path) entries <;> rfl

/-- What is seen of work from outside: how it ends, and what was reported by then. -/
def observed {α : Type} (steps : Work Fault α) (w : Workspace) : Except Fault α × List Log.Entry :=
  ((steps.run w).1, (steps.run w).2.log)

/-- What is seen of loading a file whose entries come to settings or to a fault. -/
def sight (path : List Char) (log : List Log.Entry) (outcome : Except Fault Settings) :
    Except Fault Loaded × List Log.Entry :=
  match outcome with
  | .error fault => (.error fault, log)
  | .ok settings => (.ok ⟨some path, settings⟩, log ++ [loadedRecord path])

theorem observed_load {e : Environment} {given : Option String} {w : Workspace} {path : List Char}
    {entries : List (Value × Value)} (named : findPath w.disk e given = .ok (some path))
    (reads : readFile w.disk path = .ok entries) :
    observed (load e given) w = sight path w.log (settled e (String.ofList path) entries) := by
  rw [observed, run_load, named]
  simp only [reads, ok_bind]
  cases settled e (String.ofList path) entries <;> rfl

/-! ## Sections that are no mapping -/

/-- Whether the section of the replaced settings is missing, holds nothing, or is a mapping. -/
def HasOpenSection (entries : List (Value × Value)) : Prop :=
  ∀ found, Value.find? overriddenSection entries = some found → found = .null ∨ ∃ inner, found = .mapping inner

variable {entries : List (Value × Value)} {found : Value}

theorem HasOpenSection.obstacle?_eq_none (isOpen : HasOpenSection entries) : obstacle? entries = none := by
  rw [obstacle?]
  cases there : Value.find? overriddenSection entries with
  | none => rfl
  | some found =>
      rcases isOpen found there with rfl | ⟨inner, rfl⟩
      · rfl
      · rfl

theorem obstacle?_of_closed (there : Value.find? overriddenSection entries = some found)
    (closed : ¬HasOpenSection entries) : obstacle? entries = if found.isGiven then some found else none := by
  rw [obstacle?, there]
  cases found with
  | mapping inner =>
      refine absurd (fun other same => ?_) closed
      obtain rfl := Option.some.inj (there.symm.trans same)
      exact .inr ⟨inner, rfl⟩
  | _ => rfl

/-- A section that is no mapping is refused, whatever else is refused. -/
theorem settingsOf_of_closed (source : String) (closed : ¬HasOpenSection entries) :
    ∃ more, settingsOf source entries =
      .error (.refused source (⟨[overriddenSection], .notMapping "GitLabSettings"⟩ :: more)) := by
  have next {α β : Type} {f : Settings.Checked (α → β)} {found : List Settings.Fault} (refused : f = .error found)
      (check : Settings.Checked α) : f <*> check = .error (found ++ check.faults) := by
    subst refused
    cases check <;> rfl
  rw [HasOpenSection] at closed
  push Not at closed
  obtain ⟨found, there, -, noMapping⟩ := closed
  have refused : Settings.checkField "gitlab" {} HostSettings.ofValue entries =
      .error [⟨[overriddenSection], .notMapping "GitLabSettings"⟩] := by
    rw [overriddenSection] at there
    rw [Settings.checkField, there]
    cases found with
    | mapping inner => exact absurd rfl (noMapping inner)
    | _ => rfl
  have first {f : HostSettings → TemplateSettings → Unit → Settings} :
      f <$> Settings.checkField "gitlab" {} HostSettings.ofValue entries =
        .error [⟨[overriddenSection], .notMapping "GitLabSettings"⟩] := by
    rw [refused]
    rfl
  rw [settingsOf, Settings.ofEntries, next (next first _) _]
  exact ⟨_, rfl⟩

/-! ## Loading with settings replaced -/

theorem settled_of_open (e : Environment) (source : String) (isOpen : HasOpenSection entries) :
    settled e source entries = settled e.withoutOverrides source (overridden e entries) := by
  rw [settled_eq, settled_withoutOverrides, isOpen.obstacle?_eq_none, ite_self]

theorem settled_of_closed (e : Environment) (source : String)
    (there : Value.find? overriddenSection entries = some found) (closed : ¬HasOpenSection entries) :
    settled e source entries =
      if replacements e ≠ [] ∧ found.isGiven then .error (.noSection found)
      else settled e.withoutOverrides source (overridden e entries) := by
  rw [settled_eq, settled_withoutOverrides, obstacle?_of_closed there closed]
  by_cases nothing : replacements e = []
  · simp [nothing]
  · cases given : found.isGiven <;> simp [nothing]

/-- Loading a file with variables set is the same as loading the file that has their values in its section, if that
section is missing, holds nothing, or is a mapping.  Otherwise the file is refused as long as no variable is set; one
that is set is a fault of another kind, or replaces the section if that does not count as given. -/
theorem load_overridden {e : Environment} {given : Option String} {w w' : Workspace} {path : List Char}
    {entries : List (Value × Value)} (named : findPath w.disk e given = .ok (some path))
    (named' : findPath w'.disk e given = .ok (some path)) (sameLog : w'.log = w.log)
    (reads : readFile w.disk path = .ok entries) (reads' : readFile w'.disk path = .ok (overridden e entries)) :
    Replaces e entries (overridden e entries) ∧
      (HasOpenSection entries →
        observed (load e given) w = observed (load e.withoutOverrides given) w') ∧
      ∀ found, Value.find? overriddenSection entries = some found → ¬HasOpenSection entries →
        (∃ more, observed (load e.withoutOverrides given) w =
          (.error (.refused (String.ofList path) (⟨[overriddenSection], .notMapping "GitLabSettings"⟩ :: more)),
            w.log)) ∧
        observed (load e given) w =
          if replacements e ≠ [] ∧ found.isGiven then (.error (.noSection found), w.log)
          else observed (load e.withoutOverrides given) w' := by
  have namedPlain := (findPath_withoutOverrides w.disk e given).trans named
  have namedPlain' := (findPath_withoutOverrides w'.disk e given).trans named'
  rw [observed_load named reads, observed_load namedPlain reads, observed_load namedPlain' reads', sameLog]
  refine ⟨replaces_overridden e entries, fun isOpen => ?_, fun found there closed => ⟨?_, ?_⟩⟩
  · rw [settled_of_open e _ isOpen]
  · obtain ⟨more, refused⟩ := settingsOf_of_closed (String.ofList path) closed
    rw [settled_withoutOverrides, refused]
    exact ⟨more, rfl⟩
  · rw [settled_of_closed e _ there closed]
    split_ifs <;> rfl

/-- A disk with one configuration file. -/
def fileDisk (content : Bytes) : Disk :=
  { places := [(["c.yaml".toList], .file content Disk.fileMode)] }

theorem locate_fileDisk (content : Bytes) : (fileDisk content).locate true "c.yaml".toList =
    .ok ⟨["c.yaml".toList], some (.file content Disk.fileMode)⟩ := by
  cbv

theorem readFile_fileDisk (text : String) :
    readFile (fileDisk (Text.Utf8.encode text.toList)) "c.yaml".toList = readText "c.yaml" text.toList := by
  have decoded := Text.Utf8.decode_eq_ok_iff.mpr (rfl : Text.Utf8.encode text.toList = _)
  simp only [readFile, existsAt, Disk.read, locate_fileDisk, decoded]
  rfl

/-- A workspace with one configuration file. -/
def holding (text : String) : Workspace :=
  { disk := fileDisk (Text.Utf8.encode text.toList) }

/-- An environment that replaces both settings. -/
def replacing : Environment :=
  { assignments := [("GL_TOKEN", "t"), ("GL_BASEURL", "https://git")] }

/-- A file of which the token is replaced is loaded like the file with the other token and an address added. -/
theorem load_overridden_mapping :
    observed (load replacing (some "c.yaml")) (holding "gitlab:\n  token: a\n  timeout: 5\n") =
      observed (load replacing.withoutOverrides (some "c.yaml"))
        (holding "gitlab:\n  token: t\n  timeout: 5\n  baseurl: https://git\n") := by
  have reads : readText "c.yaml" "gitlab:\n  token: a\n  timeout: 5\n".toList =
      .ok [(.text "gitlab", .mapping [(.text "token", .text "a"), (.text "timeout", .int 5)])] :=
    Value.eq_ok_of_copies (by decide +kernel)
  have reads' : readText "c.yaml" "gitlab:\n  token: t\n  timeout: 5\n  baseurl: https://git\n".toList =
      .ok [(.text "gitlab", .mapping [(.text "token", .text "t"), (.text "timeout", .int 5),
        (.text "baseurl", .text "https://git")])] :=
    Value.eq_ok_of_copies (by decide +kernel)
  refine (load_overridden (by rfl) (by rfl) (by rfl) ((readFile_fileDisk _).trans reads)
    ((readFile_fileDisk _).trans reads')).2.1 ?_
  rintro found ⟨⟩
  exact .inr ⟨_, rfl⟩

/-- A text in place of the section is refused, but a fault of another kind once a variable is set; a list without
items is refused as well, but taken for an empty section once a variable is set. -/
theorem load_closed_section :
    observed (load replacing.withoutOverrides (some "c.yaml")) (holding "gitlab: tok\n") =
        (.error (.refused "c.yaml" [⟨["gitlab"], .notMapping "GitLabSettings"⟩]), []) ∧
      observed (load replacing (some "c.yaml")) (holding "gitlab: tok\n") =
        (.error (.noSection (.text "tok")), []) ∧
      Fault.isExpected (.noSection (.text "tok")) = false ∧
      observed (load replacing.withoutOverrides (some "c.yaml")) (holding "gitlab: []\n") =
        (.error (.refused "c.yaml" [⟨["gitlab"], .notMapping "GitLabSettings"⟩]), []) ∧
      observed (load replacing (some "c.yaml")) (holding "gitlab: []\n") =
        (.ok ⟨some "c.yaml".toList, { host := { baseUrl := "https://git", token := some "t" } }⟩,
          [loadedRecord "c.yaml".toList]) := by
  have reads : readText "c.yaml" "gitlab: tok\n".toList = .ok [(.text "gitlab", .text "tok")] :=
    Value.eq_ok_of_copies (by decide +kernel)
  have reads' : readText "c.yaml" "gitlab: []\n".toList = .ok [(.text "gitlab", .list [])] :=
    Value.eq_ok_of_copies (by decide +kernel)
  have text (e : Environment) : observed (load e (some "c.yaml")) (holding "gitlab: tok\n") = _ :=
    observed_load (by rfl) ((readFile_fileDisk _).trans reads)
  have list (e : Environment) : observed (load e (some "c.yaml")) (holding "gitlab: []\n") = _ :=
    observed_load (by rfl) ((readFile_fileDisk _).trans reads')
  rw [text, text, list, list]
  exact ⟨rfl, rfl, rfl, rfl, rfl⟩

end Configuration

end Stencil
