import Mathlib
import Stencil.Proofs.Settings
import Stencil.Proofs.Text.Lowered

/-!
# The rules of accepted settings

What is accepted is also rewritten: addresses lose the slashes at their end, extensions are written in lower case.  The
settings that are stored keep the rules of their fields, and are accepted again as they are, unless an address lost all
that names a host.
-/

namespace Stencil

open Data (Value)
open Settings Checked

namespace Settings.Checked

variable {α : Type}

theorem accept_inj {a b : α} : accept a = accept b ↔ a = b :=
  Except.ok.injEq a b ▸ Iff.rfl

theorem accept_ne_refuse (a : α) (cause : Cause) : refuse cause ≠ accept a := nofun

end Settings.Checked

/-! ## Stored values -/

namespace Settings

variable {α : Type} {key : String} {default a : α} {check : Value → Checked α} {entries : List (Value × Value)}
  {v : Value}

/-- What is there is accepted if it passes the check. -/
theorem checkField_of_find? (found : Value.find? key entries = some v) :
    checkField key default check entries = accept a ↔ check v = accept a := by
  rw [checkField, found]
  exact under_eq_accept_iff

theorem checkOptionalText_stored (s : Option String) : checkOptionalText (s.elim .null .text) = accept s := by
  cases s <;> rfl

theorem checkTexts_stored (texts : List String) : checkTexts (.list (texts.map .text)) = accept texts := by
  suffices items : ∀ index, checkItems checkText index (texts.map .text) = accept texts from items 0
  induction texts with
  | nil => exact fun _ => rfl
  | cons s rest induction =>
      intro index
      rw [List.map_cons, checkItems, induction]
      rfl

end Settings

theorem TemplateSettings.checkEach_eq_self {check : String → Checked String} {texts : List String}
    (each : ∀ s ∈ texts, check s = accept s) : checkEach check texts = accept texts := by
  induction texts with
  | nil => rfl
  | cons s rest induction =>
      have others := induction fun t known => each t (List.mem_cons_of_mem s known)
      rw [checkEach, each s List.mem_cons_self, others]
      rfl

/-! ## Addresses -/

namespace HostSettings

/-- What the address of a host begins with. -/
def schemes : List String :=
  ["https://", "http://"]

/-- Whether an address begins with the way in which its host is reached. -/
def HasScheme (address : String) : Prop :=
  ∃ scheme ∈ schemes, scheme.toList <+: address.toList

/-- Whether nothing is left of an address but the way in which a host would be reached. -/
def IsBare (address : String) : Prop :=
  address = "https:" ∨ address = "http:"

instance : DecidablePred IsBare :=
  fun _ => inferInstanceAs (Decidable (_ ∨ _))

variable {s address : String}

theorem beginsWith_iff {start : String} : beginsWith s start = true ↔ start.toList <+: s.toList :=
  List.isPrefixOf_iff_prefix

theorem hasScheme_iff : HasScheme s ↔ (beginsWith s "https://" || beginsWith s "http://") = true := by
  simp [HasScheme, schemes, beginsWith_iff]

/-- The address without the slashes at its end. -/
def withoutSlashes (s : String) : String :=
  String.ofList (Text.trimEndWith (· = '/') s.toList)

theorem checkAddress_eq_accept_iff : checkAddress s = accept address ↔ HasScheme s ∧ withoutSlashes s = address := by
  rw [checkAddress, hasScheme_iff]
  split
  · rename_i begins
    rw [accept_inj, and_iff_right begins]
    rfl
  · rename_i other
    exact iff_of_false (accept_ne_refuse _ _) fun holds => other holds.1

theorem getLast?_withoutSlashes (s : String) : (withoutSlashes s).toList.getLast? ≠ some '/' := by
  intro last
  rw [withoutSlashes, String.toList_ofList] at last
  simpa using Text.kept_of_getLast?_trimEndWith last

theorem withoutSlashes_eq_self (unslashed : address.toList.getLast? ≠ some '/') : withoutSlashes address = address := by
  have kept : ∀ c, address.toList.getLast? = some c → decide (c = '/') = false := by
    rintro c last
    simp only [decide_eq_false_iff_not]
    rintro rfl
    exact unslashed last
  rw [withoutSlashes, Text.trimEndWith_eq_self kept, String.ofList_toList]

theorem not_isBare_of_hasScheme (begins : HasScheme address) : ¬IsBare address := by
  have bare : ¬HasScheme "https:" ∧ ¬HasScheme "http:" := by
    simp only [hasScheme_iff]
    decide
  rintro (rfl | rfl)
  · exact bare.1 begins
  · exact bare.2 begins

/-- Behind slashes alone nothing is left of a scheme but its name. -/
theorem isBare_of_slashes {scheme : String} (known : scheme ∈ schemes) {rest : List Char}
    (same : s.toList = scheme.toList ++ rest) (slashes : ∀ c ∈ rest, c = '/') : IsBare (withoutSlashes s) := by
  have dropped : Text.trimEndWith (· = '/') ('/' :: '/' :: rest) = [] :=
    Text.trimEndWith_eq_nil (by simpa using slashes)
  have kept (name : List Char) : Text.trimEndWith (· = '/') (name ++ ':' :: '/' :: '/' :: rest) = name ++ [':'] := by
    rw [Text.trimEndWith_append_cons _ (by decide), dropped]
  rw [withoutSlashes, same]
  simp only [schemes, List.mem_cons, List.not_mem_nil, or_false] at known
  rcases known with rfl | rfl
  · exact .inl (congrArg String.ofList (kept "https".toList))
  · exact .inr (congrArg String.ofList (kept "http".toList))

/-- An address keeps its scheme unless nothing else is left of it. -/
theorem hasScheme_withoutSlashes_iff (begins : HasScheme s) :
    HasScheme (withoutSlashes s) ↔ ¬IsBare (withoutSlashes s) := by
  refine ⟨not_isBare_of_hasScheme, fun named => ?_⟩
  obtain ⟨scheme, known, rest, same⟩ := begins
  have behind : ¬∀ c ∈ rest, c = '/' := fun slashes => named (isBare_of_slashes known same.symm slashes)
  push Not at behind
  obtain ⟨c, inRest, other⟩ := behind
  obtain ⟨front, more, rfl⟩ := List.append_of_mem inRest
  refine ⟨scheme, known, ?_⟩
  rw [withoutSlashes, ← same, String.toList_ofList, ← List.append_assoc,
    Text.trimEndWith_append_cons _ (by simpa using other), List.append_assoc]
  exact List.prefix_append _ _

/-! ## Hosts -/

/-- Whether settings of a host keep the rules of their fields, but for the scheme of the address. -/
structure IsOrderly (settings : HostSettings) : Prop where
  /-- The address does not end with a slash. -/
  unslashed : settings.baseUrl.toList.getLast? ≠ some '/'
  /-- The timeout is greater than zero. -/
  positive : settings.timeout.isPositive = true

/-- Settings are accepted of entries if what is under each key is accepted, and no other keys are there. -/
theorem ofEntries_eq_accept_iff {entries : List (Value × Value)} {settings : HostSettings} :
    ofEntries entries = accept settings ↔
      checkField "baseurl" publicHost (fun v => (checkText v).andThen checkAddress) entries = accept settings.baseUrl ∧
        checkField "token" none checkOptionalText entries = accept settings.token ∧
        checkField "timeout" (.ofInt 30) checkPositive entries = accept settings.timeout ∧
        checkKeys ["baseurl", "token", "timeout"] entries = accept () := by
  rw [ofEntries]
  constructor
  · intro accepted
    obtain ⟨_, _, untilTimeout, noOthers, rfl⟩ := seq_eq_accept_iff.mp accepted
    obtain ⟨_, _, untilToken, timeout, rfl⟩ := seq_eq_accept_iff.mp untilTimeout
    obtain ⟨_, _, untilAddress, token, rfl⟩ := seq_eq_accept_iff.mp untilToken
    obtain ⟨_, address, rfl⟩ := map_eq_accept_iff.mp untilAddress
    exact ⟨address, token, timeout, noOthers⟩
  · rintro ⟨address, token, timeout, noOthers⟩
    rw [address, token, timeout, noOthers]
    rfl

theorem checkPositive_eq_accept {v : Value} {x : Decimal.Binary64} (accepted : checkPositive v = accept x) :
    x.isPositive = true := by
  obtain ⟨y, -, accepted⟩ := andThen_eq_accept_iff.mp accepted
  split at accepted
  · rename_i positive
    obtain rfl := accept_inj.mp accepted
    exact positive
  · exact absurd accepted (accept_ne_refuse _ _)

/-- The address that is stored is a rewritten one with a scheme. -/
theorem exists_given_address {entries : List (Value × Value)}
    (accepted : checkField "baseurl" publicHost (fun v => (checkText v).andThen checkAddress) entries =
      accept address) : ∃ given, HasScheme given ∧ withoutSlashes given = address := by
  rcases cases_checkField accepted with rfl | ⟨v, accepted⟩
  · exact ⟨publicHost, hasScheme_iff.mpr (by decide), withoutSlashes_eq_self (by decide)⟩
  · obtain ⟨given, -, accepted⟩ := andThen_eq_accept_iff.mp accepted
    exact ⟨given, checkAddress_eq_accept_iff.mp accepted⟩

theorem checkPositive_stored {x : Decimal.Binary64} (positive : x.isPositive = true) :
    checkPositive (.float x) = accept x :=
  if_pos positive

/-- Settings that are stored are accepted as they are, or not at all. -/
theorem ofValue_toValue_iff {settings settings' : HostSettings} (orderly : settings.IsOrderly) :
    ofValue settings.toValue = accept settings' ↔ settings' = settings ∧ HasScheme settings.baseUrl := by
  change ofEntries [(.text "baseurl", .text settings.baseUrl), (.text "token", settings.token.elim .null .text),
    (.text "timeout", .float settings.timeout)] = accept settings' ↔ _
  rw [ofEntries_eq_accept_iff, checkField_of_find? rfl, checkField_of_find? rfl, checkField_of_find? rfl,
    checkOptionalText_stored, checkPositive_stored orderly.positive, accept_inj, accept_inj]
  have address : checkAddress settings.baseUrl = accept settings'.baseUrl ↔
      HasScheme settings.baseUrl ∧ settings.baseUrl = settings'.baseUrl := by
    rw [checkAddress_eq_accept_iff, withoutSlashes_eq_self orderly.unslashed]
  change checkAddress settings.baseUrl = accept settings'.baseUrl ∧ _ ↔ _
  rw [address]
  constructor
  · rintro ⟨⟨begins, sameAddress⟩, sameToken, sameTimeout, -⟩
    obtain ⟨baseUrl, token, timeout⟩ := settings'
    cases sameAddress
    cases sameToken
    cases sameTimeout
    exact ⟨rfl, begins⟩
  · rintro ⟨rfl, begins⟩
    exact ⟨⟨begins, rfl⟩, rfl, rfl, rfl⟩

/-- Settings that are accepted are orderly, and their address has a scheme unless it is bare. -/
theorem isOrderly_of_accepted {data : Value} {settings : HostSettings} (accepted : ofValue data = accept settings) :
    settings.IsOrderly ∧ (HasScheme settings.baseUrl ↔ ¬IsBare settings.baseUrl) := by
  cases data with
  | mapping entries =>
      obtain ⟨address, -, timeout, -⟩ := ofEntries_eq_accept_iff.mp accepted
      obtain ⟨given, begins, same⟩ := exists_given_address address
      rw [← same]
      refine ⟨⟨?_, ?_⟩, hasScheme_withoutSlashes_iff begins⟩
      · rw [← same]
        exact getLast?_withoutSlashes given
      · rcases cases_checkField timeout with default | ⟨v, accepted⟩
        · rw [default]
          decide
        · exact checkPositive_eq_accept accepted
  | _ => cases accepted

end HostSettings

/-! ## Templates -/

namespace TemplateSettings

/-- Whether an extension is written as stored ones are: with a point in front, in lower case, without blanks around. -/
structure IsNormal (extension : String) : Prop where
  /-- It begins with a point. -/
  point : HasPoint extension
  /-- It is in lower case. -/
  lower : Text.lowerString extension = extension
  /-- No blanks are around it. -/
  trimmed : Text.trimString extension = extension

theorem isNormal_ofList {rest : List Char} (lower : ∀ c ∈ rest, Text.IsLower c)
    (last : ∀ c, rest.getLast? = some c → Text.isBlank c = false) : IsNormal (String.ofList ('.' :: rest)) := by
  have solid : Text.isBlank '.' = false := by decide
  have stays : ∀ c ∈ '.' :: rest, Text.IsLower c := List.forall_mem_cons.mpr ⟨by decide, lower⟩
  have isTrimmed : Text.IsTrimmed ('.' :: rest) := by
    refine ⟨?_, ?_⟩
    · rintro c ⟨⟩
      exact solid
    · intro c ends
      rw [List.getLast?_cons] at ends
      cases behind : rest.getLast? with
      | none =>
          rw [behind] at ends
          cases ends
          exact solid
      | some d =>
          rw [behind] at ends
          cases ends
          exact last _ behind
  refine ⟨⟨rest, String.toList_ofList⟩, ?_, ?_⟩
  · rw [Text.lowerString, String.toList_ofList, Text.lower, Text.lowerAfter_eq_self stays]
  · rw [Text.trimString, String.toList_ofList, isTrimmed.trim_eq_self]

theorem isNormal_of_normalExtension {s extension : String} (normal : normalExtension s = accept extension) :
    IsNormal extension := by
  have lower : ∀ c ∈ Text.lower (Text.trim s.toList), Text.IsLower c := fun c known =>
    Text.isLower_of_mem_lowerAfter known
  have last : ∀ c, (Text.lower (Text.trim s.toList)).getLast? = some c → Text.isBlank c = false := by
    intro c ends
    refine Bool.eq_false_iff.mpr fun blank => ?_
    obtain ⟨d, before, blank⟩ := Text.exists_getLast?_of_lowerAfter ends blank
    rw [(Text.isTrimmed_trim s.toList).last d before] at blank
    cases blank
  rw [normalExtension] at normal
  split at normal
  · exact absurd normal (accept_ne_refuse _ _)
  · rename_i rest pointed
    obtain rfl := accept_inj.mp normal
    rw [pointed] at lower last
    refine isNormal_ofList (fun c known => lower c (List.mem_cons_of_mem _ known)) fun c ends => last c ?_
    rw [List.getLast?_cons, ends, Option.getD_some]
  · obtain rfl := accept_inj.mp normal
    exact isNormal_ofList lower last

/-- What is normal is accepted as it is. -/
theorem IsNormal.normalExtension_eq {extension : String} (isNormal : IsNormal extension) :
    normalExtension extension = accept extension := by
  obtain ⟨rest, pointed⟩ := isNormal.point
  have trimmed := congrArg String.toList isNormal.trimmed
  have lower := congrArg String.toList isNormal.lower
  rw [Text.trimString, String.toList_ofList] at trimmed
  rw [Text.lowerString, String.toList_ofList] at lower
  have whole : String.ofList ('.' :: rest) = extension := by rw [← pointed, String.ofList_toList]
  rw [normalExtension, trimmed, lower, pointed]
  exact congrArg accept whole

/-- Whether a text is the name of a file without a path. -/
def IsFileName (name : String) : Prop :=
  name ≠ "" ∧ '/' ∉ name.toList

theorem checkFileName_eq_accept_iff {s name : String} :
    checkFileName s = accept name ↔ IsFileName s ∧ s = name := by
  rw [checkFileName]
  split
  · rename_i refused
    refine iff_of_false (accept_ne_refuse _ _) ?_
    rintro ⟨⟨nonempty, free⟩, -⟩
    exact refused.elim nonempty free
  · rename_i fine
    rw [accept_inj]
    exact (and_iff_right (not_or.mp fine)).symm

/-- Whether settings of templates keep the rules of their fields. -/
structure IsOrderly (settings : TemplateSettings) : Prop where
  /-- All extensions are normal. -/
  normal : ∀ extension ∈ settings.extensions ++ settings.base64Extensions, IsNormal extension
  /-- All names are names of files. -/
  named : ∀ name ∈ settings.files, IsFileName name

theorem checkEach_of_checkField {key : String} {default texts : List String} {entries : List (Value × Value)}
    {check : String → Checked String} (normal : checkEach check default = accept default)
    (accepted : checkField key default (fun v => (checkTexts v).andThen (checkEach check)) entries = accept texts) :
    ∃ given, checkEach check given = accept texts := by
  rcases cases_checkField accepted with rfl | ⟨v, accepted⟩
  · exact ⟨_, normal⟩
  · obtain ⟨given, -, accepted⟩ := andThen_eq_accept_iff.mp accepted
    exact ⟨given, accepted⟩

/-- Settings that are accepted are orderly. -/
theorem isOrderly_of_accepted {data : Value} {settings : TemplateSettings} (accepted : ofValue data = accept settings) :
    settings.IsOrderly := by
  cases data with
  | mapping entries =>
      obtain ⟨-, extensions, base64Extensions, files, -⟩ := ofEntries_eq_accept_iff.mp accepted
      obtain ⟨_, extensions⟩ := checkEach_of_checkField rfl extensions
      obtain ⟨_, base64Extensions⟩ := checkEach_of_checkField rfl base64Extensions
      obtain ⟨_, files⟩ := checkEach_of_checkField rfl files
      refine ⟨List.forall_mem_append.mpr ⟨?_, ?_⟩, ?_⟩
      · exact forall_of_checkEach (fun _ _ => isNormal_of_normalExtension) extensions
      · exact forall_of_checkEach (fun _ _ => isNormal_of_normalExtension) base64Extensions
      · refine forall_of_checkEach (fun s name accepted => ?_) files
        obtain ⟨isFileName, rfl⟩ := checkFileName_eq_accept_iff.mp accepted
        exact isFileName
  | _ => cases accepted

theorem checkExtensions_stored {extensions : List String} (normal : ∀ extension ∈ extensions, IsNormal extension) :
    checkExtensions (.list (extensions.map .text)) = accept extensions := by
  rw [checkExtensions, checkTexts_stored]
  exact checkEach_eq_self fun extension known => (normal extension known).normalExtension_eq

theorem checkFileNames_stored {files : List String} (named : ∀ name ∈ files, IsFileName name) :
    checkFileNames (.list (files.map .text)) = accept files := by
  rw [checkFileNames, checkTexts_stored]
  exact checkEach_eq_self fun name known => checkFileName_eq_accept_iff.mpr ⟨named name known, rfl⟩

/-- Settings that are stored are accepted as they are. -/
theorem ofValue_toValue {settings : TemplateSettings} (orderly : settings.IsOrderly) :
    ofValue settings.toValue = accept settings := by
  have normal := List.forall_mem_append.mp orderly.normal
  refine ofEntries_eq_accept_iff.mpr ⟨?_, ?_, ?_, ?_, ?_, ?_, ?_, ?_, rfl⟩
  · exact (checkField_of_find? rfl).mpr rfl
  · exact (checkField_of_find? rfl).mpr (checkExtensions_stored normal.1)
  · exact (checkField_of_find? rfl).mpr (checkExtensions_stored normal.2)
  · exact (checkField_of_find? rfl).mpr (checkFileNames_stored orderly.named)
  · exact (checkField_of_find? rfl).mpr rfl
  · exact (checkField_of_find? rfl).mpr (checkOptionalText_stored settings.devBranch)
  · exact (checkField_of_find? rfl).mpr rfl
  · exact (checkField_of_find? rfl).mpr rfl

/-! ## Extensions in both lists -/

theorem mem_insertText {s t : String} {texts : List String} : t ∈ insertText s texts ↔ t = s ∨ t ∈ texts := by
  induction texts with
  | nil => simp [insertText]
  | cons first rest induction =>
      rw [insertText]
      split_ifs with before same
      · simp
      · rw [same]
        simp
      · rw [List.mem_cons, induction, List.mem_cons]
        exact or_left_comm

theorem insertText_ascending (s : String) {texts : List String} (ascending : texts.Pairwise (· < ·)) :
    (insertText s texts).Pairwise (· < ·) := by
  induction texts with
  | nil => exact List.pairwise_singleton _ s
  | cons first rest induction =>
      obtain ⟨least, others⟩ := List.pairwise_cons.mp ascending
      rw [insertText]
      split_ifs with before same
      · refine List.pairwise_cons.mpr ⟨fun other member => ?_, ascending⟩
        rcases List.mem_cons.mp member with rfl | later
        · exact before
        · exact lt_trans before (least other later)
      · exact ascending
      · have after : first < s := lt_of_le_of_ne (not_lt.mp before) (Ne.symm same)
        refine List.pairwise_cons.mpr ⟨fun other member => ?_, induction others⟩
        rcases mem_insertText.mp member with rfl | later
        · exact after
        · exact least other later

theorem mem_foldr_insertText {texts : List String} {t : String} : t ∈ texts.foldr insertText [] ↔ t ∈ texts := by
  induction texts with
  | nil => exact Iff.rfl
  | cons s rest induction => rw [List.foldr_cons, mem_insertText, induction, List.mem_cons]

theorem foldr_insertText_ascending (texts : List String) : (texts.foldr insertText []).Pairwise (· < ·) := by
  induction texts with
  | nil => exact .nil
  | cons s rest induction => exact insertText_ascending s induction

theorem mem_overlap {settings : TemplateSettings} {extension : String} :
    extension ∈ settings.overlap ↔ extension ∈ settings.extensions ∧ extension ∈ settings.base64Extensions := by
  rw [overlap, mem_foldr_insertText, List.mem_filter, decide_eq_true_eq]

/-- What is said of extensions that are in both lists. -/
def overlapWording (common : List String) : String :=
  "Extensions configured as both template and base64 (treated as base64): " ++ ", ".intercalate common

/-- Whether settings are warned of by all extensions that are in both lists, ascending, and only if there are any. -/
def WarnsOfOverlap (settings : TemplateSettings) : Prop :=
  ∃ common : List String, common.Pairwise (· < ·) ∧
    (∀ extension, extension ∈ common ↔ extension ∈ settings.extensions ∧ extension ∈ settings.base64Extensions) ∧
    settings.overlapWarning? = if common = [] then none else some (overlapWording common)

theorem warnsOfOverlap (settings : TemplateSettings) : settings.WarnsOfOverlap := by
  refine ⟨settings.overlap, foldr_insertText_ascending _, fun _ => mem_overlap, ?_⟩
  rw [overlapWarning?]
  split
  · rename_i none
    rw [if_pos none]
  · rename_i found some
    rw [if_neg some]
    rfl

end TemplateSettings

/-! ## All settings -/

namespace Settings

/-- Settings are accepted of entries if what is under each key is accepted, and no other keys are there. -/
theorem ofEntries_eq_accept_iff {entries : List (Value × Value)} {settings : Settings} :
    ofEntries entries = accept settings ↔
      checkField "gitlab" {} HostSettings.ofValue entries = accept settings.host ∧
        checkField "template" {} TemplateSettings.ofValue entries = accept settings.template ∧
        checkKeys ["gitlab", "template"] entries = accept () := by
  rw [ofEntries]
  constructor
  · intro accepted
    obtain ⟨_, _, untilTemplate, noOthers, rfl⟩ := seq_eq_accept_iff.mp accepted
    obtain ⟨_, _, untilHost, template, rfl⟩ := seq_eq_accept_iff.mp untilTemplate
    obtain ⟨_, host, rfl⟩ := map_eq_accept_iff.mp untilHost
    exact ⟨host, template, noOthers⟩
  · rintro ⟨host, template, noOthers⟩
    rw [host, template, noOthers]
    rfl

/-- What is accepted for a section is accepted of a value; without one, of the mapping without entries. -/
theorem exists_of_checkSection {α : Type} {key : String} {default section' : α} {check : Value → Checked α}
    {entries : List (Value × Value)} (empty : check (.mapping []) = accept default)
    (accepted : checkField key default check entries = accept section') : ∃ v, check v = accept section' := by
  rcases cases_checkField accepted with rfl | accepted
  · exact ⟨_, empty⟩
  · exact accepted

/-- Settings that are stored are accepted as they are, or not at all. -/
theorem ofValue_toValue_iff {settings settings' : Settings} (host : settings.host.IsOrderly)
    (template : settings.template.IsOrderly) :
    ofValue settings.toValue = accept settings' ↔
      settings' = settings ∧ HostSettings.HasScheme settings.host.baseUrl := by
  change ofEntries [(.text "gitlab", settings.host.toValue), (.text "template", settings.template.toValue)] =
    accept settings' ↔ _
  rw [ofEntries_eq_accept_iff, checkField_of_find? rfl, checkField_of_find? rfl, HostSettings.ofValue_toValue_iff host,
    TemplateSettings.ofValue_toValue template, accept_inj]
  constructor
  · rintro ⟨⟨sameHost, begins⟩, sameTemplate, -⟩
    obtain ⟨host', template'⟩ := settings'
    cases sameHost
    cases sameTemplate
    exact ⟨rfl, begins⟩
  · rintro ⟨rfl, begins⟩
    exact ⟨⟨rfl, begins⟩, rfl, rfl⟩

/-- Accepted settings keep the rules of their fields, and the extensions that are in both lists are warned of.  Their
address has a scheme, and they are accepted once more, as the same settings, exactly if the address is not bare. -/
theorem keepsRules_of_accepted {data : Value} {settings : Settings} (accepted : ofValue data = accept settings) :
    settings.host.IsOrderly ∧ settings.template.IsOrderly ∧ settings.template.WarnsOfOverlap ∧
      (HostSettings.HasScheme settings.host.baseUrl ↔ ¬HostSettings.IsBare settings.host.baseUrl) ∧
      ∀ settings', ofValue settings.toValue = accept settings' ↔
        settings' = settings ∧ ¬HostSettings.IsBare settings.host.baseUrl := by
  cases data with
  | mapping entries =>
      obtain ⟨host, template, -⟩ := ofEntries_eq_accept_iff.mp accepted
      obtain ⟨_, host⟩ := exists_of_checkSection (by rfl) host
      obtain ⟨_, template⟩ := exists_of_checkSection (by rfl) template
      obtain ⟨orderly, scheme⟩ := HostSettings.isOrderly_of_accepted host
      have orderlyTemplate := TemplateSettings.isOrderly_of_accepted template
      refine ⟨orderly, orderlyTemplate, settings.template.warnsOfOverlap, scheme, fun settings' => ?_⟩
      rw [ofValue_toValue_iff orderly orderlyTemplate, scheme]
  | _ => cases accepted

/-- Settings of which the address lost its slashes and an extension its blank and its capital letter. -/
def tidied : Settings where
  host := { baseUrl := "http://git", timeout := .ofInt 5 }
  template := { extensions := [".go", ".png"] }

/-- What was rewritten is accepted as it is the second time, and an extension that is in both lists is warned of. -/
theorem keepsRules_of_accepted_tidied :
    ofValue (.mapping
        [(.text "gitlab", .mapping [(.text "baseurl", .text "http://git//"), (.text "timeout", .text " 5")]),
          (.text "template", .mapping [(.text "extensions", .list [.text " Go", .text "PNG"])])]) = accept tidied ∧
      ofValue tidied.toValue = accept tidied ∧ tidied.template.IsOrderly ∧
      tidied.template.overlapWarning? =
        some "Extensions configured as both template and base64 (treated as base64): .png" := by
  have accepted : ofValue (.mapping
      [(.text "gitlab", .mapping [(.text "baseurl", .text "http://git//"), (.text "timeout", .text " 5")]),
        (.text "template", .mapping [(.text "extensions", .list [.text " Go", .text "PNG"])])]) = accept tidied := rfl
  obtain ⟨-, orderly, -, -, again⟩ := keepsRules_of_accepted accepted
  exact ⟨accepted, (again tidied).mpr ⟨rfl, by decide⟩, orderly, by decide⟩

/-- Of an address that is a scheme and slashes only the name of the scheme is stored, which is refused. -/
theorem ofValue_bare_address :
    ofValue (.mapping [(.text "gitlab", .mapping [(.text "baseurl", .text "https://")])]) =
        accept { host := { baseUrl := "https:" } } ∧
      ¬HostSettings.HasScheme "https:" ∧
      ofValue (Settings.toValue { host := { baseUrl := "https:" } }) = .error
        [⟨["gitlab", "baseurl"], .rule "GitLab baseurl must start with https:// or http://. Got: https:"⟩] := by
  refine ⟨rfl, ?_, rfl⟩
  rw [HostSettings.hasScheme_iff]
  decide

end Settings

end Stencil
