import Stencil.Settings.Load

/-!
# What checks accept

Checks that are all made accept what each of them accepts.  The extensions in settings that are accepted begin with
a point.
-/

namespace Stencil

open Data (Value)
open Settings

namespace Settings.Checked

variable {α β : Type}

theorem map_eq_accept_iff {f : α → β} {check : Checked α} {b : β} :
    f <$> check = accept b ↔ ∃ a, check = accept a ∧ f a = b := by
  cases check with
  | ok a =>
      constructor
      · rintro ⟨⟩
        exact ⟨a, rfl, rfl⟩
      · rintro ⟨a', ⟨⟩, rfl⟩
        rfl
  | error found =>
      constructor
      · rintro ⟨⟩
      · rintro ⟨a, ⟨⟩, -⟩

theorem seq_eq_accept_iff {f : Checked (α → β)} {check : Checked α} {b : β} :
    f <*> check = accept b ↔ ∃ g a, f = accept g ∧ check = accept a ∧ g a = b := by
  cases f with
  | ok g =>
      cases check with
      | ok a =>
          constructor
          · rintro ⟨⟩
            exact ⟨g, a, rfl, rfl, rfl⟩
          · rintro ⟨g', a', ⟨⟩, ⟨⟩, rfl⟩
            rfl
      | error found =>
          constructor
          · rintro ⟨⟩
          · rintro ⟨g', a, -, ⟨⟩, -⟩
  | error found =>
      constructor
      · rintro ⟨⟩
      · rintro ⟨g, a, ⟨⟩, -, -⟩

theorem andThen_eq_accept_iff {check : Checked α} {next : α → Checked β} {b : β} :
    check.andThen next = accept b ↔ ∃ a, check = accept a ∧ next a = accept b := by
  cases check with
  | ok a =>
      constructor
      · exact fun same => ⟨a, rfl, same⟩
      · rintro ⟨a', ⟨⟩, same⟩
        exact same
  | error found =>
      constructor
      · rintro ⟨⟩
      · rintro ⟨a, ⟨⟩, -⟩

theorem under_eq_accept_iff {key : String} {check : Checked α} {a : α} :
    check.under key = accept a ↔ check = accept a := by
  cases check with
  | ok a' => exact Iff.rfl
  | error found =>
      constructor
      · rintro ⟨⟩
      · rintro ⟨⟩

end Settings.Checked

open Checked

/-- What is accepted for a field is its default, or what is accepted of a value. -/
theorem Settings.cases_checkField {α : Type} {key : String} {default a : α} {check : Value → Checked α}
    {entries : List (Value × Value)} (accepted : checkField key default check entries = accept a) :
    a = default ∨ ∃ v, check v = accept a := by
  rw [checkField] at accepted
  split at accepted
  · exact .inr ⟨_, under_eq_accept_iff.mp accepted⟩
  · cases accepted
    exact .inl rfl

namespace TemplateSettings

theorem forall_of_checkEach {check : String → Checked String} {holds : String → Prop}
    (each : ∀ s t, check s = accept t → holds t) {given accepted : List String}
    (same : checkEach check given = accept accepted) : ∀ s ∈ accepted, holds s := by
  induction given generalizing accepted with
  | nil =>
      cases same
      exact fun _ known => nomatch known
  | cons s rest induction =>
      obtain ⟨first, here, same⟩ := andThen_eq_accept_iff.mp same
      obtain ⟨others, behind, rfl⟩ := map_eq_accept_iff.mp same
      exact List.forall_mem_cons.mpr ⟨each s first here, induction behind⟩

/-- The keys that settings of templates have. -/
def keys : List String :=
  ["namespace", "extensions", "base64_extensions", "files", "branch", "dev_branch", "commit_message",
    "allow_path_collisions"]

/-- Whether an extension begins with a point. -/
def HasPoint (extension : String) : Prop :=
  ∃ rest, extension.toList = '.' :: rest

theorem hasPoint_of_normalExtension {s extension : String} (normal : normalExtension s = accept extension) :
    HasPoint extension := by
  rw [normalExtension] at normal
  split at normal
  · cases normal
  · cases normal
    exact ⟨_, String.toList_ofList⟩
  · cases normal
    exact ⟨_, String.toList_ofList⟩

theorem hasPoint_of_checkField {key : String} {default extensions : List String} {entries : List (Value × Value)}
    (points : ∀ extension ∈ default, HasPoint extension)
    (accepted : checkField key default checkExtensions entries = accept extensions) :
    ∀ extension ∈ extensions, HasPoint extension := by
  rcases cases_checkField accepted with rfl | ⟨v, accepted⟩
  · exact points
  · obtain ⟨given, -, accepted⟩ := andThen_eq_accept_iff.mp accepted
    exact forall_of_checkEach (fun _ _ => hasPoint_of_normalExtension) accepted

/-- Settings are accepted of entries if what is under each key is accepted, and no other keys are there. -/
theorem ofEntries_eq_accept_iff {entries : List (Value × Value)} {settings : TemplateSettings} :
    ofEntries entries = accept settings ↔
      checkField "namespace" "template" checkText entries = accept settings.group ∧
        checkField "extensions" defaultTemplateExtensions checkExtensions entries = accept settings.extensions ∧
        checkField "base64_extensions" defaultBase64Extensions checkExtensions entries =
          accept settings.base64Extensions ∧
        checkField "files" defaultTemplateFiles checkFileNames entries = accept settings.files ∧
        checkField "branch" "master" checkText entries = accept settings.branch ∧
        checkField "dev_branch" (some "dev") checkOptionalText entries = accept settings.devBranch ∧
        checkField "commit_message" "init project [skip ci]" checkText entries = accept settings.commitMessage ∧
        checkField "allow_path_collisions" false checkFlag entries = accept settings.allowCollisions ∧
        checkKeys keys entries = accept () := by
  rw [ofEntries]
  constructor
  · intro accepted
    obtain ⟨_, _, untilCollisions, noOthers, rfl⟩ := seq_eq_accept_iff.mp accepted
    obtain ⟨_, _, untilMessage, collisions, rfl⟩ := seq_eq_accept_iff.mp untilCollisions
    obtain ⟨_, _, untilDevBranch, message, rfl⟩ := seq_eq_accept_iff.mp untilMessage
    obtain ⟨_, _, untilBranch, devBranch, rfl⟩ := seq_eq_accept_iff.mp untilDevBranch
    obtain ⟨_, _, untilFiles, branch, rfl⟩ := seq_eq_accept_iff.mp untilBranch
    obtain ⟨_, _, untilBase64, files, rfl⟩ := seq_eq_accept_iff.mp untilFiles
    obtain ⟨_, _, untilExtensions, base64Extensions, rfl⟩ := seq_eq_accept_iff.mp untilBase64
    obtain ⟨_, _, untilGroup, extensions, rfl⟩ := seq_eq_accept_iff.mp untilExtensions
    obtain ⟨_, group, rfl⟩ := map_eq_accept_iff.mp untilGroup
    exact ⟨group, extensions, base64Extensions, files, branch, devBranch, message, collisions, noOthers⟩
  · rintro ⟨group, extensions, base64Extensions, files, branch, devBranch, message, collisions, noOthers⟩
    rw [group, extensions, base64Extensions, files, branch, devBranch, message, collisions]
    rw [keys] at noOthers
    rw [noOthers]
    rfl

/-- The extensions of accepted settings begin with a point. -/
theorem hasPoint_of_accepted {data : Value} {settings : TemplateSettings} (accepted : ofValue data = accept settings) :
    ∀ extension ∈ settings.base64Extensions ++ settings.extensions, HasPoint extension := by
  have templates : ∀ extension ∈ defaultTemplateExtensions, extension.toList.head? = some '.' := by decide
  have bytes : ∀ extension ∈ defaultBase64Extensions, extension.toList.head? = some '.' := by decide
  have points {extension : String} (first : extension.toList.head? = some '.') : HasPoint extension :=
    List.head?_eq_some_iff.mp first
  cases data with
  | mapping entries =>
      obtain ⟨-, extensions, base64Extensions, -⟩ := ofEntries_eq_accept_iff.mp accepted
      refine List.forall_mem_append.mpr ⟨?_, ?_⟩
      · exact hasPoint_of_checkField (fun extension known => points (bytes extension known)) base64Extensions
      · exact hasPoint_of_checkField (fun extension known => points (templates extension known)) extensions
  | _ => cases accepted

end TemplateSettings

end Stencil
