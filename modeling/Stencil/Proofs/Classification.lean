import Mathlib
import Stencil.Classification
import Stencil.Proofs.Disk.Path
import Stencil.Proofs.Settings
import Stencil.Proofs.Text.LetterCase

/-!
# Extensions that take effect

The class of a file depends on the last extension of its name, and on the name itself where the settings give that
extension no class.  An extension in the settings with one point only, and something behind it, is the last extension
of every name that ends in it, so it takes effect in every directory and in every case of its letters.  An extension
with more points takes effect where its own last part has the same class.
-/

namespace Stencil

open Disk (IsName Segment)

/-! ## The last extension -/

namespace Disk

/-- Whether a text stands for a directory in front of the name of a file. -/
def IsDirectory (directory : List Char) : Prop :=
  directory = [] ∨ ∃ above, directory = above ++ ['/']

theorem lastSegment_append {directory : List Char} (isDirectory : IsDirectory directory) {name : Segment}
    (isName : IsName name) : lastSegment (directory ++ name) = name := by
  have own : segments name = [name] := segments_joinWith (List.forall_mem_singleton.mpr isName)
  rcases isDirectory with rfl | ⟨above, rfl⟩
  · rw [List.nil_append, lastSegment, own]
    rfl
  · have behind : segments (above ++ '/' :: name) = segments above ++ [name] := by
      rw [segments, splitAtChar_append_separator, List.filter_append, ← segments, ← segments, own]
    rw [List.append_assoc, List.singleton_append, lastSegment, behind, List.getLast?_concat]
    rfl

/-- What stands behind the last point of a text, or all of it. -/
def afterLastPoint (s : List Char) : List Char :=
  (s.reverse.takeWhile (· ≠ '.')).reverse

private theorem passes_reverse {s : List Char} (free : '.' ∉ s) : ∀ c ∈ s.reverse, decide (c ≠ '.') = true := by
  intro c known
  exact decide_eq_true fun point => free (List.mem_reverse.mp (point ▸ known))

theorem afterLastPoint_append (before : List Char) {after : List Char} (free : '.' ∉ after) :
    afterLastPoint (before ++ '.' :: after) = after := by
  rw [afterLastPoint, List.reverse_append, List.reverse_cons, List.append_assoc,
    List.takeWhile_append_of_pos (passes_reverse free), List.singleton_append,
    List.takeWhile_cons_of_neg (by simp), List.append_nil, List.reverse_reverse]

theorem afterLastPoint_of_not_mem {s : List Char} (free : '.' ∉ s) : afterLastPoint s = s := by
  rw [afterLastPoint, List.takeWhile_eq_self_iff.mpr (passes_reverse free), List.reverse_reverse]

/-- A text with a point has a last one. -/
theorem exists_last_point {s : List Char} (known : '.' ∈ s) :
    ∃ before after, s = before ++ '.' :: after ∧ '.' ∉ after := by
  obtain ⟨after, before, reversed, free⟩ := List.eq_append_cons_of_mem (List.mem_reverse.mpr known)
  refine ⟨before.reverse, after.reverse, ?_, mt List.mem_reverse.mp free⟩
  rw [← List.reverse_reverse s, reversed, List.reverse_append, List.reverse_cons, List.append_assoc,
    List.singleton_append]

/-- The part of a suffix from its last point on, unless the suffix ends with that point. -/
def lastExtension (suffix : List Char) : List Char :=
  if afterLastPoint suffix = [] then [] else '.' :: afterLastPoint suffix

theorem extension_eq (name : List Char) :
    extension name =
      if afterLastPoint name = [] ∨ name.length ≤ (afterLastPoint name).length + 1 then []
      else '.' :: afterLastPoint name := by
  simp only [extension, List.isEmpty_iff]
  rfl

/-- The extension of a name with a stem is the last extension of what follows the stem. -/
theorem extension_append {stem suffix : List Char} (some : stem ≠ []) (point : '.' ∈ suffix) :
    extension (stem ++ suffix) = lastExtension suffix := by
  obtain ⟨before, after, rfl, free⟩ := exists_last_point point
  have long : 0 < stem.length := List.length_pos_iff.mpr some
  have whole : afterLastPoint (stem ++ (before ++ '.' :: after)) = after := by
    rw [← List.append_assoc, afterLastPoint_append _ free]
  have room : ¬(stem ++ (before ++ '.' :: after)).length ≤ after.length + 1 := by
    simp only [List.length_append, List.length_cons]
    omega
  rw [extension_eq, lastExtension, whole, afterLastPoint_append _ free]
  simp only [room, or_false]

/-- A name with an extension is a stem and this extension. -/
theorem exists_stem_of_extension {name : List Char} (some : extension name ≠ []) :
    ∃ stem, stem ≠ [] ∧ name = stem ++ extension name := by
  rw [extension_eq] at some ⊢
  split at some
  · exact absurd rfl some
  · rename_i long
    rw [if_neg long]
    obtain ⟨-, long⟩ := not_or.mp long
    have point : '.' ∈ name := by
      by_contra free
      rw [afterLastPoint_of_not_mem free] at long
      exact long (Nat.le_succ _)
    obtain ⟨before, after, rfl, free⟩ := exists_last_point point
    rw [afterLastPoint_append _ free] at long ⊢
    refine ⟨before, ?_, rfl⟩
    rintro rfl
    exact long (by simp)

/-- Whether a suffix is a point and something without a point behind it. -/
def IsSimple (suffix : List Char) : Prop :=
  ∃ rest, suffix = '.' :: rest ∧ rest ≠ [] ∧ '.' ∉ rest

theorem lastExtension_of_isSimple {suffix : List Char} (simple : IsSimple suffix) :
    lastExtension suffix = suffix := by
  obtain ⟨rest, rfl, some, free⟩ := simple
  rw [lastExtension, ← List.nil_append ('.' :: rest), afterLastPoint_append [] free, if_neg some, List.nil_append]

/-- Whether a suffix is simple does not depend on the case of its letters. -/
theorem IsSimple.of_lower_eq {suffix other : List Char} (simple : IsSimple other)
    (same : Text.lower suffix = Text.lower other) : IsSimple suffix := by
  have isMark : Text.IsMark '.' := by decide
  obtain ⟨rest, rfl, some, free⟩ := simple
  obtain ⟨rest', rfl, behind⟩ := Text.exists_of_lower_eq isMark same
  refine ⟨rest', rfl, ?_, ?_⟩
  · intro empty
    rw [empty] at behind
    exact some (Text.lowerAfter_eq_nil_iff.mp behind.symm)
  · intro known
    have lowered : '.' ∈ Text.lowerAfter ['.'] rest' := (Text.mem_lowerAfter_iff isMark).mpr known
    rw [behind] at lowered
    exact free ((Text.mem_lowerAfter_iff isMark).mp lowered)

end Disk

namespace TemplateSettings

/-! ## Classes of suffixes -/

/-- Whether a suffix is one of given extensions but for the case of its letters. -/
def IsListed (extensions : List String) (suffix : List Char) : Prop :=
  ∃ extension ∈ extensions, Text.lower suffix = Text.lower extension.toList

instance (extensions : List String) : DecidablePred (IsListed extensions) :=
  fun _ => inferInstanceAs (Decidable (∃ _ ∈ _, _))

variable {data : Data.Value} {settings : TemplateSettings} {extensions : List String} {name : Segment}
  {directory stem suffix other : List Char} {kind : Classification}

theorem isListed_congr (same : Text.lower suffix = Text.lower other) :
    IsListed extensions suffix ↔ IsListed extensions other := by
  rw [IsListed, IsListed, same]

theorem isListed_append_iff {others : List String} :
    IsListed (extensions ++ others) suffix ↔ IsListed extensions suffix ∨ IsListed others suffix := by
  simp only [IsListed, List.mem_append, or_and_right, exists_or]

theorem mem_map_lowerString_iff :
    String.ofList (Text.lower suffix) ∈ extensions.map Text.lowerString ↔ IsListed extensions suffix := by
  simp only [List.mem_map, IsListed, Text.lowerString, String.ofList_inj]
  exact exists_congr fun extension => and_congr_right fun _ => eq_comm

/-- Only what begins with a point is listed by extensions that do. -/
theorem IsListed.exists_eq_cons (points : ∀ extension ∈ extensions, HasPoint extension)
    (listed : IsListed extensions suffix) : ∃ rest, suffix = '.' :: rest := by
  obtain ⟨extension, known, same⟩ := listed
  obtain ⟨rest, begins⟩ := points extension known
  rw [begins] at same
  obtain ⟨rest', begins', -⟩ := Text.exists_of_lower_eq (by decide) same
  exact ⟨rest', begins'⟩

theorem lower_ne_empty (points : ∀ extension ∈ extensions, HasPoint extension) (listed : IsListed extensions suffix) :
    String.ofList (Text.lower suffix) ≠ "" := by
  obtain ⟨rest, rfl⟩ := listed.exists_eq_cons points
  rw [Text.lower, Text.lowerAfter_mark_cons (by decide)]
  intro empty
  cases String.ofList_inj.mp empty

/-- The class that settings give to a suffix, if they list it. -/
def classOf? (settings : TemplateSettings) (suffix : List Char) : Option Classification :=
  if IsListed settings.base64Extensions suffix then some .base64
  else if IsListed settings.extensions suffix then some .template
  else none

/-- The class of a file whose extension settings do not list. -/
def classOfName (settings : TemplateSettings) (name : List Char) : Classification :=
  if String.ofList name ∈ settings.files then .template else .text

theorem classOf?_congr (same : Text.lower suffix = Text.lower other) :
    settings.classOf? suffix = settings.classOf? other :=
  if_congr (isListed_congr same) rfl (if_congr (isListed_congr same) rfl rfl)

theorem isListed_of_classOf? (given : settings.classOf? suffix = some kind) :
    IsListed (settings.base64Extensions ++ settings.extensions) suffix := by
  rw [isListed_append_iff]
  rw [classOf?] at given
  split at given
  · rename_i bytes
    exact .inl bytes
  · split at given
    · rename_i rendered
      exact .inr rendered
    · cases given

theorem exists_classOf? (listed : IsListed (settings.base64Extensions ++ settings.extensions) suffix) :
    ∃ kind, settings.classOf? suffix = some kind := by
  rw [classOf?]
  split
  · exact ⟨_, rfl⟩
  · rename_i noBytes
    rw [if_pos ((isListed_append_iff.mp listed).resolve_left noBytes)]
    exact ⟨_, rfl⟩

theorem ne_text_of_classOf? (given : settings.classOf? suffix = some kind) : kind ≠ .text := by
  rintro rfl
  rw [classOf?] at given
  split at given
  · cases given
  · split at given
    · cases given
    · cases given

/-- The class of a file is that of its last extension, or that of its name. -/
theorem classify_append (accepted : ofValue data = .accept settings) (isDirectory : Disk.IsDirectory directory)
    (isName : IsName name) :
    (Classifier.ofSettings settings).classify (String.ofList (directory ++ name)) =
      (settings.classOf? (Disk.extension name)).getD (settings.classOfName name) := by
  obtain ⟨base64Points, points⟩ := List.forall_mem_append.mp (hasPoint_of_accepted accepted)
  have found {extensions : List String} (points : ∀ extension ∈ extensions, HasPoint extension) :
      String.ofList (Text.lower (Disk.extension name)) ≠ "" ∧
          String.ofList (Text.lower (Disk.extension name)) ∈ extensions.map Text.lowerString ↔
        IsListed extensions (Disk.extension name) := by
    rw [mem_map_lowerString_iff]
    exact and_iff_right_of_imp (lower_ne_empty points)
  rw [Classifier.classify, String.toList_ofList, Disk.lastSegment_append isDirectory isName]
  simp only [Classifier.ofSettings, Classifier.of, Option.getD_some, found base64Points, found points]
  rw [classOf?, classOfName]
  by_cases bytes : IsListed settings.base64Extensions (Disk.extension name)
  · rw [if_pos bytes, if_pos bytes]
    rfl
  · rw [if_neg bytes, if_neg bytes]
    by_cases rendered : IsListed settings.extensions (Disk.extension name)
    · rw [if_pos rendered, if_pos (.inl rendered)]
      rfl
    · simp only [rendered, false_or, if_false, Option.getD_none]

/-! ## Taking effect -/

/-- Whether every file whose name ends in a suffix, behind a stem, gets the class of the suffix. -/
def TakesEffect (settings : TemplateSettings) (suffix : List Char) : Prop :=
  ∀ directory stem, Disk.IsDirectory directory → stem ≠ [] → '/' ∉ stem →
    some ((Classifier.ofSettings settings).classify (String.ofList (directory ++ (stem ++ suffix)))) =
      settings.classOf? suffix

/-- Whether settings list no end of a name that a stem is in front of. -/
def ListsNoEnd (settings : TemplateSettings) (name : List Char) : Prop :=
  ∀ stem suffix, stem ≠ [] → name = stem ++ suffix → settings.classOf? suffix = none

theorem classify_of_listsNoEnd (accepted : ofValue data = .accept settings)
    (isDirectory : Disk.IsDirectory directory) (isName : IsName name) (unlisted : settings.ListsNoEnd name) :
    (Classifier.ofSettings settings).classify (String.ofList (directory ++ name)) = settings.classOfName name := by
  rw [classify_append accepted isDirectory isName]
  by_cases empty : Disk.extension name = []
  · rw [empty, unlisted name [] isName.1 (List.append_nil name).symm, Option.getD_none]
  · obtain ⟨stem, nonempty, whole⟩ := Disk.exists_stem_of_extension empty
    rw [unlisted stem _ nonempty whole, Option.getD_none]

/-- The class of a file with a listed suffix is that of the last extension of the suffix, or that of its name. -/
theorem classify_suffix (accepted : ofValue data = .accept settings) (isDirectory : Disk.IsDirectory directory)
    (nonempty : stem ≠ []) (free : '/' ∉ stem ++ suffix) (given : settings.classOf? suffix = some kind) :
    (Classifier.ofSettings settings).classify (String.ofList (directory ++ (stem ++ suffix))) =
      (settings.classOf? (Disk.lastExtension suffix)).getD (settings.classOfName (stem ++ suffix)) := by
  obtain ⟨rest, rfl⟩ := (isListed_of_classOf? given).exists_eq_cons (hasPoint_of_accepted accepted)
  have isName : IsName (stem ++ '.' :: rest) := by
    refine ⟨List.append_ne_nil_of_left_ne_nil nonempty _, ?_, free⟩
    intro alone
    have lengths := congrArg List.length alone
    have long : 0 < stem.length := List.length_pos_iff.mpr nonempty
    simp only [List.length_append, List.length_cons, List.length_nil] at lengths
    omega
  rw [classify_append accepted isDirectory isName, Disk.extension_append nonempty List.mem_cons_self]

/-- Some stem makes a name of a suffix that is none of given names. -/
theorem exists_stem (files : List String) (suffix : List Char) :
    ∃ stem, stem ≠ [] ∧ '/' ∉ stem ∧ String.ofList (stem ++ suffix) ∉ files := by
  let named (n : Nat) : String := String.ofList (List.replicate (n + 1) 'x' ++ suffix)
  have injective : Function.Injective named := by
    intro n m same
    have lengths := congrArg List.length (String.ofList_inj.mp same)
    simpa using lengths
  obtain ⟨_, ⟨n, rfl⟩, other⟩ := (Set.infinite_range_of_injective injective).exists_notMem_finite files.finite_toSet
  refine ⟨List.replicate (n + 1) 'x', List.cons_ne_nil _ _, ?_, other⟩
  intro known
  cases (List.mem_replicate.mp known).2

/-- A listed suffix takes effect exactly if its last extension has its class. -/
theorem takesEffect_iff_lastExtension (accepted : ofValue data = .accept settings) (free : '/' ∉ suffix)
    (given : settings.classOf? suffix = some kind) :
    settings.TakesEffect suffix ↔ settings.classOf? (Disk.lastExtension suffix) = settings.classOf? suffix := by
  constructor
  · intro effect
    obtain ⟨stem, nonempty, freeStem, other⟩ := exists_stem settings.files suffix
    have freeName : '/' ∉ stem ++ suffix := List.not_mem_append freeStem free
    have same := effect [] stem (.inl rfl) nonempty freeStem
    rw [classify_suffix accepted (.inl rfl) nonempty freeName given, given] at same
    cases last : settings.classOf? (Disk.lastExtension suffix) with
    | some kind' =>
        rw [last, Option.getD_some] at same
        rw [given, same]
    | none =>
        rw [last, Option.getD_none, classOfName, if_neg other] at same
        exact absurd (Option.some.inj same).symm (ne_text_of_classOf? given)
  · intro last directory stem isDirectory nonempty freeStem
    have freeName : '/' ∉ stem ++ suffix := List.not_mem_append freeStem free
    rw [classify_suffix accepted isDirectory nonempty freeName given, last, given, Option.getD_some]

theorem takesEffect_of_isSimple (accepted : ofValue data = .accept settings) (free : '/' ∉ suffix)
    (given : settings.classOf? suffix = some kind) (simple : Disk.IsSimple suffix) : settings.TakesEffect suffix :=
  (takesEffect_iff_lastExtension accepted free given).mpr (by rw [Disk.lastExtension_of_isSimple simple])

/-- Of the suffixes that accepted settings list, those take effect whose last extension has their class; the extensions
with one point and something behind it are among them, in every case of their letters.  Where no end of a name is
listed, the name decides, and the directory never does. -/
theorem takesEffect_iff (accepted : ofValue data = .accept settings) :
    (∀ suffix, '/' ∉ suffix → IsListed (settings.base64Extensions ++ settings.extensions) suffix →
        (settings.TakesEffect suffix ↔
          settings.classOf? (Disk.lastExtension suffix) = settings.classOf? suffix)) ∧
      (∀ extension ∈ settings.base64Extensions ++ settings.extensions, Disk.IsSimple extension.toList →
        ∀ suffix, '/' ∉ suffix → Text.lower suffix = Text.lower extension.toList →
          settings.TakesEffect suffix ∧ settings.classOf? suffix = settings.classOf? extension.toList) ∧
      (∀ directory name, Disk.IsDirectory directory → IsName name → settings.ListsNoEnd name →
        (Classifier.ofSettings settings).classify (String.ofList (directory ++ name)) = settings.classOfName name) ∧
      ∀ directory name, Disk.IsDirectory directory → IsName name →
        (Classifier.ofSettings settings).classify (String.ofList (directory ++ name)) =
          (Classifier.ofSettings settings).classify (String.ofList name) := by
  refine ⟨?_, ?_, ?_, ?_⟩
  · intro suffix free listed
    obtain ⟨kind, given⟩ := exists_classOf? listed
    exact takesEffect_iff_lastExtension accepted free given
  · intro extension known simple suffix free same
    obtain ⟨kind, given⟩ := exists_classOf? ⟨extension, known, same⟩
    exact ⟨takesEffect_of_isSimple accepted free given (simple.of_lower_eq same), classOf?_congr same⟩
  · intro directory name isDirectory isName unlisted
    exact classify_of_listsNoEnd accepted isDirectory isName unlisted
  · intro directory name isDirectory isName
    rw [classify_append accepted isDirectory isName, ← List.nil_append name,
      classify_append accepted (.inl rfl) isName, List.nil_append]

/-- Entries are normalized, and then hold in every case of letters. -/
theorem takesEffect_iff_normalized :
    ofValue (.mapping [(.text "extensions", .list [.text " Go"]), (.text "base64_extensions", .list [.text "PNG"])]) =
        .accept { extensions := [".go"], base64Extensions := [".png"] } ∧
      TakesEffect { extensions := [".go"], base64Extensions := [".png"] } ".PnG".toList := by
  have accepted :
      ofValue (.mapping [(.text "extensions", .list [.text " Go"]), (.text "base64_extensions", .list [.text "PNG"])]) =
        .accept { extensions := [".go"], base64Extensions := [".png"] } := rfl
  have simple : Disk.IsSimple ".png".toList := ⟨['p', 'n', 'g'], by decide, by decide, by decide⟩
  exact ⟨accepted,
    ((takesEffect_iff accepted).2.1 ".png" (by decide) simple ".PnG".toList (by decide) (by decide)).1⟩

/-- An extension with two points is accepted, in both lists, and yet a file whose name ends in it is text. -/
theorem not_takesEffect_compound :
    ofValue (.mapping
        [(.text "extensions", .list [.text ".tar.gz"]), (.text "base64_extensions", .list [.text ".tar.gz"])]) =
        .accept { extensions := [".tar.gz"], base64Extensions := [".tar.gz"] } ∧
      IsListed [".tar.gz"] ".tar.gz".toList ∧
      (Classifier.ofSettings { extensions := [".tar.gz"], base64Extensions := [".tar.gz"] }).classify "a.tar.gz" =
        .text ∧
      ¬TakesEffect { extensions := [".tar.gz"], base64Extensions := [".tar.gz"] } ".tar.gz".toList := by
  have isText :
      (Classifier.ofSettings { extensions := [".tar.gz"], base64Extensions := [".tar.gz"] }).classify "a.tar.gz" =
        .text := by
    decide
  refine ⟨rfl, by decide, isText, ?_⟩
  intro effect
  have given : some Classification.text = some .base64 := effect [] ['a'] (.inl rfl) (by decide) (by decide)
  cases given

end TemplateSettings

end Stencil
