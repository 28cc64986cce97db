import Mathlib.Data.List.TakeWhile
import Stencil.Proofs.Decimal.Binary64
import Stencil.Proofs.Outcome
import Stencil.Template.Format

/-!
# Formats that overflow

A format may fail for the size of a number alone.  The first pass never does; in the second, it is the first
directive that is not laid out that does, by a starred width or precision that is beyond all of them, by the
digits or the value of a whole number, or by the code of a character.
-/

namespace Stencil.Template

variable {α β : Type}

/-- Whether a step fails for the size of a number. -/
def Overflows (step : Except FormatFault α) : Prop :=
  ∃ fault, step = .error fault ∧ fault.isOverflow = true

@[simp]
theorem not_overflows_ok (a : α) : ¬Overflows (.ok a : Except FormatFault α) := by
  rintro ⟨fault, failed, -⟩
  cases failed

@[simp]
theorem overflows_error_iff {fault : FormatFault} :
    Overflows (.error fault : Except FormatFault α) ↔ fault.isOverflow = true := by
  constructor
  · rintro ⟨other, failed, overflow⟩
    cases failed
    exact overflow
  · exact fun overflow => ⟨fault, rfl, overflow⟩

/-- A step that is kept from what is beyond a bound. -/
theorem overflows_ite_iff {fault : FormatFault} (overflow : fault.isOverflow = true) {beyond : Prop}
    [Decidable beyond] {a : α} : Overflows (if beyond then .error fault else .ok a) ↔ beyond := by
  split
  case isTrue holds => exact iff_of_true (overflows_error_iff.mpr overflow) holds
  case isFalse fails => exact iff_of_false (not_overflows_ok a) fails

theorem overflows_bind_iff {step : Except FormatFault α} {next : α → Except FormatFault β} :
    Overflows (step >>= next) ↔ Overflows step ∨ ∃ a, step = .ok a ∧ Overflows (next a) := by
  cases step with
  | error fault => simp
  | ok a => simp

@[simp]
theorem overflows_map_iff {step : Except FormatFault α} {f : α → β} :
    Overflows (step.map f) ↔ Overflows step := by
  cases step with
  | error fault => simp [Except.map]
  | ok a => simp [Except.map]

/-! ## The first pass -/

theorem not_overflows_convert (verb : Char) (v : Value) : ¬Overflows (convert verb v) := by
  rw [convert]
  split_ifs
  · exact not_overflows_ok _
  · exact not_overflows_ok _
  · cases v.toInt? with
    | none => exact fun overflows => by cases overflows_error_iff.mp overflows
    | some n => exact not_overflows_ok _
  · exact not_overflows_ok _
  · exact fun overflows => by cases overflows_error_iff.mp overflows

theorem not_overflows_takeVerbs (fuel : Nat) (format : List Char) (args : List Value) :
    ¬Overflows (takeVerbs fuel format args) := by
  induction fuel generalizing format args with
  | zero => exact not_overflows_ok _
  | succ fuel induction =>
      cases format with
      | nil => exact not_overflows_ok _
      | cons c rest =>
          rw [takeVerbs]
          split
          · simp [overflows_bind_iff, induction]
          · split
            · simp [overflows_bind_iff, induction]
            · split
              · simp [FormatFault.isOverflow]
              · simp [overflows_bind_iff, induction, not_overflows_convert]

/-! ## Directives -/

/-- Whether a directive cannot lay a whole number out for its size: too many digits are asked for, or there is
no binary number, or no character, for it. -/
def Directive.IsBeyond (d : Directive) (letter : Char) (n : Int) : Prop :=
  (letter ∈ "diuoxX".toList ∧ mostFilled < d.precision.getD 0) ∨
    (letter ∈ "eEfFgG".toList ∧ Decimal.Binary64.Exceeds n) ∨
    (letter = 'c' ∧ (n < 0 ∨ 0x10FFFF < n))

theorem isBeyond_iff_of_whole {d : Directive} {letter : Char} {n : Int} (whole : letter ∈ "diuoxX".toList) :
    d.IsBeyond letter n ↔ mostFilled < d.precision.getD 0 := by
  have apart : ∀ c ∈ "diuoxX".toList, c ∉ "eEfFgG".toList ∧ c ≠ 'c' := by simp
  simp only [Directive.IsBeyond, whole, apart letter whole, true_and, false_and, or_false]

theorem isBeyond_iff_of_real {d : Directive} {letter : Char} {n : Int} (real : letter ∈ "eEfFgG".toList) :
    d.IsBeyond letter n ↔ Decimal.Binary64.Exceeds n := by
  have apart : ∀ c ∈ "eEfFgG".toList, c ∉ "diuoxX".toList ∧ c ≠ 'c' := by simp
  simp only [Directive.IsBeyond, real, apart letter real, true_and, false_and, or_false, false_or]

theorem isBeyond_c_iff {d : Directive} {n : Int} : d.IsBeyond 'c' n ↔ n < 0 ∨ 0x10FFFF < n := by
  have apart : 'c' ∉ "diuoxX".toList ∧ 'c' ∉ "eEfFgG".toList := by decide
  simp only [Directive.IsBeyond, apart, false_and, false_or, true_and]

theorem overflows_placeInt_iff {d : Directive} {letter : Char} {n : Int} :
    Overflows (d.placeInt letter n) ↔ mostFilled < d.precision.getD 0 := by
  rw [Directive.placeInt]
  exact overflows_ite_iff rfl

theorem overflows_placeReal_iff {d : Directive} {letter : Char} {n : Int} :
    Overflows (d.placeReal letter n) ↔ Decimal.Binary64.Exceeds n := by
  have finite := Decimal.Binary64.exists_finite_ofInt_iff (n := n)
  rw [Directive.placeReal]
  split
  case h_1 negative m e nearest =>
    exact iff_of_false (not_overflows_ok _) (finite.mp ⟨negative, m, e, nearest⟩)
  case h_2 infinite =>
    refine iff_of_true (by simp [FormatFault.isOverflow]) ?_
    by_contra less
    obtain ⟨negative, m, e, nearest⟩ := finite.mpr less
    exact infinite negative m e nearest

theorem overflows_placeChar_iff {d : Directive} {v : Value} :
    Overflows (d.placeChar v) ↔ ∃ n, v.toInt? = some n ∧ (n < 0 ∨ 0x10FFFF < n) := by
  unfold Directive.placeChar
  split
  case h_1 c => simp [Value.toInt?]
  case h_2 =>
    cases v.toInt? with
    | none => simp [FormatFault.isOverflow]
    | some n =>
        simp only [Option.some.injEq, exists_eq_left']
        exact overflows_ite_iff rfl

/-- What is not laid out for its size is a whole number that the directive cannot lay out. -/
theorem overflows_place_iff {d : Directive} {letter : Char} {index : Nat} {v : Value} :
    Overflows (d.place letter index v) ↔ ∃ n, v.toInt? = some n ∧ d.IsBeyond letter n := by
  have wholes : ∀ c ∈ "diu".toList ++ "oxX".toList, c ∈ "diuoxX".toList := by simp
  unfold Directive.place
  split_ifs with isText isForm isAscii decimal based real char
  · subst isText
    simp [Directive.IsBeyond]
  · subst isForm
    simp [Directive.IsBeyond]
  · subst isAscii
    simp [Directive.IsBeyond]
  · have whole := wholes letter (List.mem_append_left _ decimal)
    cases v.toInt? <;> simp [overflows_placeInt_iff, isBeyond_iff_of_whole whole, FormatFault.isOverflow]
  · have whole := wholes letter (List.mem_append_right _ based)
    cases v.toInt? <;> simp [overflows_placeInt_iff, isBeyond_iff_of_whole whole, FormatFault.isOverflow]
  · cases v.toInt? <;> simp [overflows_placeReal_iff, isBeyond_iff_of_real real, FormatFault.isOverflow]
  · subst char
    simp only [isBeyond_c_iff]
    exact overflows_placeChar_iff
  · have others : ∀ c ∈ "diuoxX".toList ++ "eEfFgG".toList,
        c ∈ "diu".toList ∨ c ∈ "oxX".toList ∨ c ∈ "eEfFgG".toList := by simp
    refine iff_of_false (by simp [FormatFault.isOverflow]) ?_
    rintro ⟨n, -, ⟨whole, -⟩ | ⟨real', -⟩ | ⟨char', -⟩⟩
    · rcases others letter (List.mem_append_left _ whole) with other | other | other
      · exact decimal other
      · exact based other
      · exact real other
    · exact real real'
    · exact char char'

theorem not_overflows_takeStar (values : List Value) : ¬Overflows (takeStar values) := by
  cases values with
  | nil => simp [takeStar, FormatFault.isOverflow]
  | cons v values =>
      rw [takeStar]
      cases v.toInt? <;> simp [FormatFault.isOverflow]

theorem not_overflows_takeNumber {limit : Nat} (fault : FormatFault) (harmless : fault.isOverflow = false)
    (s : List Char) : ¬Overflows (takeNumber limit fault s) := by
  rw [takeNumber]
  by_cases many : limit < Text.natOfDigits (s.takeWhile Text.isAsciiDigit)
  · rw [if_pos many]
    simp [harmless]
  · rw [if_neg many]
    exact not_overflows_ok _

/-- Whether a starred number that is taken from some values is out of a range. -/
def StarBeyond (greatest : Nat) (values : List Value) : Prop :=
  ∃ n behind, takeStar values = .ok (n, behind) ∧ (n < -(greatest : Int) - 1 ∨ greatest < n)

/-- A step that takes a starred number overflows exactly if the number is out of its range. -/
theorem overflows_takeStar_bind_iff {greatest : Nat} {values : List Value}
    {next : Int × List Value → Except FormatFault α}
    (ranged : ∀ n behind, Overflows (next (n, behind)) ↔ n < -(greatest : Int) - 1 ∨ greatest < n) :
    Overflows (takeStar values >>= next) ↔ StarBeyond greatest values := by
  simp only [overflows_bind_iff, not_overflows_takeStar, false_or, Prod.exists, ranged, StarBeyond]

theorem overflows_readWidth_iff {r : Reader} :
    Overflows r.readWidth ↔ (∃ rest, r.rest = '*' :: rest) ∧ StarBeyond greatestWidth r.values := by
  unfold Reader.readWidth
  split
  case h_1 rest star =>
    rw [and_iff_right ⟨rest, star⟩]
    exact overflows_takeStar_bind_iff fun n behind => overflows_ite_iff rfl
  case h_2 plain =>
    refine iff_of_false ?_ fun ⟨⟨rest, star⟩, _⟩ => plain rest star
    simp [overflows_bind_iff, not_overflows_takeNumber .width rfl]

theorem overflows_readPrecision_iff {r : Reader} :
    Overflows r.readPrecision ↔ (∃ rest, r.rest = '.' :: '*' :: rest) ∧ StarBeyond greatestPrecision r.values := by
  unfold Reader.readPrecision
  split
  case h_1 rest star =>
    rw [and_iff_right ⟨rest, star⟩]
    exact overflows_takeStar_bind_iff fun n behind => overflows_ite_iff rfl
  case h_2 digits plain point =>
    refine iff_of_false ?_ fun ⟨⟨rest, star⟩, _⟩ => plain rest (List.cons.inj (point.symm.trans star)).2
    simp [overflows_bind_iff, not_overflows_takeNumber .precision rfl]
  case h_3 plain _ =>
    exact iff_of_false (not_overflows_ok _) fun ⟨⟨rest, star⟩, _⟩ => plain rest star

theorem not_overflows_readLetter (r : Reader) : ¬Overflows r.readLetter := by
  rw [Reader.readLetter]
  split
  · simp [FormatFault.isOverflow]
  · split
    · split <;> simp [FormatFault.isOverflow]
    · exact not_overflows_ok _

/-- A directive behind its flags. -/
def behindFlags (s : List Char) (values : List Value) : Reader :=
  ⟨(s.takeWhile isFlag).foldl Directive.withFlag {}, s.dropWhile isFlag, values⟩

theorem readWidth_none {d : Directive} {c : Char} (noStar : c ≠ '*') (noDigit : Text.isAsciiDigit c = false)
    (rest : List Char) (values : List Value) :
    Reader.readWidth ⟨d, c :: rest, values⟩ = .ok ⟨{ d with width := 0 }, c :: rest, values⟩ := by
  simp [Reader.readWidth, takeNumber, noDigit, noStar, Text.natOfDigits]

theorem overflows_readDirective_iff {s : List Char} {values : List Value} :
    Overflows (readDirective s values) ↔
      (∃ rest, s.dropWhile isFlag = '*' :: rest) ∧ StarBeyond greatestWidth values ∨
        ∃ r, (behindFlags s values).readWidth = .ok r ∧ (∃ rest, r.rest = '.' :: '*' :: rest) ∧
          StarBeyond greatestPrecision r.values := by
  unfold readDirective
  split
  case h_1 rest =>
    have stays : ('(' :: rest).dropWhile isFlag = '(' :: rest := rfl
    refine iff_of_false (by simp [FormatFault.isOverflow]) ?_
    rintro (⟨⟨behind, star⟩, -⟩ | ⟨r, width, ⟨behind, star⟩, -⟩)
    · rw [stays] at star
      cases star
    · rw [behindFlags, stays, readWidth_none (by decide) (by decide)] at width
      cases width
      cases star
  case h_2 other =>
    simp only [overflows_bind_iff, overflows_readWidth_iff, overflows_readPrecision_iff,
      not_overflows_readLetter]
    simp [behindFlags]

/-- Whether a directive that stands behind its percent sign asks for more than can be laid out of some values:
by a starred width, by a starred precision, or for a whole number. -/
inductive Strains (s : List Char) (values : List Value) : Prop
  /-- The width is beyond all widths. -/
  | width (star : ∃ rest, s.dropWhile isFlag = '*' :: rest) (beyond : StarBeyond greatestWidth values)
  /-- The precision is beyond all precisions. -/
  | precision {r : Reader} (width : (behindFlags s values).readWidth = .ok r)
    (star : ∃ rest, r.rest = '.' :: '*' :: rest) (beyond : StarBeyond greatestPrecision r.values)
  /-- The whole number is beyond those that the directive lays out. -/
  | number {letter : Char} {r : Reader} {v : Value} {behind : List Value} {n : Int}
    (read : readDirective s values = .ok (letter, r)) (next : r.values = v :: behind)
    (whole : v.toInt? = some n) (beyond : r.directive.IsBeyond letter n)

/-! ## The second pass -/

/-- Whether everything of a format is laid out up to a directive that asks for more than can be. -/
inductive ComesToStrain : List Char → List Value → Prop
  /-- The directive is here. -/
  | here {s : List Char} {values : List Value} (strains : Strains s values) : ComesToStrain ('%' :: s) values
  /-- It is behind a character. -/
  | character {c : Char} {s : List Char} {values : List Value} (other : c ≠ '%') (later : ComesToStrain s values) :
    ComesToStrain (c :: s) values
  /-- It is behind a percent sign that is printed. -/
  | percent {s : List Char} {values : List Value} (later : ComesToStrain s values) :
    ComesToStrain ('%' :: '%' :: s) values
  /-- It is behind a directive that is laid out. -/
  | directive {s text : List Char} {values behind : List Value} {letter : Char} {r : Reader} {v : Value}
    {index : Nat} (read : readDirective s values = .ok (letter, r)) (next : r.values = v :: behind)
    (placed : r.directive.place letter index v = .ok text) (later : ComesToStrain r.rest behind) :
    ComesToStrain ('%' :: s) values

theorem readDirective_percent (s : List Char) (values : List Value) :
    readDirective ('%' :: s) values = .ok ('%', ⟨{}, s, values⟩) := by
  have stays : ('%' :: s).dropWhile isFlag = '%' :: s := rfl
  simp [readDirective, stays, readWidth_none (c := '%') (by decide) (by decide), Reader.readPrecision,
    Reader.readLetter, isFlag]

theorem not_strains_percent (s : List Char) (values : List Value) : ¬Strains ('%' :: s) values := by
  have stays : ('%' :: s).dropWhile isFlag = '%' :: s := rfl
  intro strains
  cases strains with
  | width star =>
      obtain ⟨rest, star⟩ := star
      cases star
  | precision width star =>
      obtain ⟨rest, star⟩ := star
      rw [behindFlags, stays, readWidth_none (by decide) (by decide)] at width
      cases width
      cases star
  | number read next whole beyond =>
      rw [readDirective_percent] at read
      cases read
      revert beyond
      simp [Directive.IsBeyond]

theorem place_percent (d : Directive) (index : Nat) (v : Value) :
    d.place '%' index v = .error (.directive '%' index) := by
  simp [Directive.place]

/-- Where the letter stands matters to faults only. -/
theorem place_index {d : Directive} {letter : Char} {index : Nat} {v : Value} {text : List Char}
    (placed : d.place letter index v = .ok text) (other : Nat) : d.place letter other v = .ok text := by
  unfold Directive.place at placed ⊢
  split_ifs at placed ⊢ <;> exact placed

/-- A reader passes over the beginning of a text, in which no percent sign stands. -/
def Passes (s rest : List Char) : Prop :=
  ∃ front, s = front ++ rest ∧ '%' ∉ front

namespace Passes

variable {s rest rest' : List Char}

theorem refl (s : List Char) : Passes s s :=
  ⟨[], rfl, by simp⟩

theorem trans (first : Passes s rest) (then' : Passes rest rest') : Passes s rest' := by
  obtain ⟨front, rfl, free⟩ := first
  obtain ⟨front', rfl, free'⟩ := then'
  refine ⟨front ++ front', (List.append_assoc ..).symm, ?_⟩
  rw [List.mem_append]
  exact not_or.mpr ⟨free, free'⟩

theorem cons {c : Char} (other : c ≠ '%') (passes : Passes s rest) : Passes (c :: s) rest := by
  obtain ⟨front, rfl, free⟩ := passes
  refine ⟨c :: front, rfl, ?_⟩
  rw [List.mem_cons]
  exact not_or.mpr ⟨Ne.symm other, free⟩

theorem length_le (passes : Passes s rest) : rest.length ≤ s.length := by
  obtain ⟨front, rfl, -⟩ := passes
  simp

theorem dropWhile {test : Char → Bool} (fails : test '%' = false) (s : List Char) : Passes s (s.dropWhile test) := by
  refine ⟨s.takeWhile test, List.takeWhile_append_dropWhile.symm, fun known => ?_⟩
  rw [List.mem_takeWhile_imp known] at fails
  cases fails

end Passes

theorem takeStar_suffix {values behind : List Value} {n : Int} (taken : takeStar values = .ok (n, behind)) :
    behind <:+ values := by
  unfold takeStar at taken
  split at taken
  · cases taken
  · split at taken
    · cases taken
      exact List.suffix_cons _ _
    · cases taken

theorem takeNumber_passes {limit n : Nat} {fault : FormatFault} {s rest : List Char}
    (taken : takeNumber limit fault s = .ok (n, rest)) : Passes s rest := by
  simp only [takeNumber] at taken
  split at taken
  · cases taken
  · cases taken
    exact .dropWhile (by decide) s

theorem readWidth_passes {r r' : Reader} (read : r.readWidth = .ok r') :
    Passes r.rest r'.rest ∧ r'.values <:+ r.values := by
  unfold Reader.readWidth at read
  split at read
  case h_1 rest star =>
    obtain ⟨⟨n, behind⟩, taken, next⟩ := bind_eq_ok_iff.mp read
    simp only at next
    split at next
    · cases next
    · cases next
      rw [star]
      exact ⟨.cons (by decide) (.refl rest), takeStar_suffix taken⟩
  case h_2 =>
    obtain ⟨⟨n, rest⟩, taken, next⟩ := bind_eq_ok_iff.mp read
    cases next
    exact ⟨takeNumber_passes taken, List.suffix_refl _⟩

theorem readPrecision_passes {r r' : Reader} (read : r.readPrecision = .ok r') :
    Passes r.rest r'.rest ∧ r'.values <:+ r.values := by
  unfold Reader.readPrecision at read
  split at read
  case h_1 rest star =>
    obtain ⟨⟨n, behind⟩, taken, next⟩ := bind_eq_ok_iff.mp read
    simp only at next
    split at next
    · cases next
    · cases next
      rw [star]
      exact ⟨.cons (by decide) (.cons (by decide) (.refl rest)), takeStar_suffix taken⟩
  case h_2 digits _ point =>
    obtain ⟨⟨n, rest⟩, taken, next⟩ := bind_eq_ok_iff.mp read
    cases next
    rw [point]
    exact ⟨.cons (by decide) (takeNumber_passes taken), List.suffix_refl _⟩
  case h_3 =>
    cases read
    exact ⟨.refl _, List.suffix_refl _⟩

theorem readLetter_passes {r r' : Reader} {letter : Char} (read : r.readLetter = .ok (letter, r')) :
    Passes r.rest (letter :: r'.rest) ∧ r'.values = r.values := by
  unfold Reader.readLetter at read
  split at read
  · cases read
  · rename_i c rest letters
    rw [letters]
    split at read
    · rename_i size
      split at read
      · cases read
      · cases read
        refine ⟨.cons ?_ (.refl _), rfl⟩
        rcases size with rfl | rfl | rfl <;> decide
    · cases read
      exact ⟨.refl _, rfl⟩

/-- A directive is read up to its letter without passing over another percent sign. -/
theorem readDirective_passes {s : List Char} {values : List Value} {letter : Char} {r : Reader}
    (read : readDirective s values = .ok (letter, r)) : Passes s (letter :: r.rest) ∧ r.values <:+ values := by
  unfold readDirective at read
  split at read
  · cases read
  · obtain ⟨wide, width, read⟩ := bind_eq_ok_iff.mp read
    obtain ⟨precise, precision, read⟩ := bind_eq_ok_iff.mp read
    obtain ⟨overWidth, fewer⟩ := readWidth_passes width
    obtain ⟨overPrecision, fewer'⟩ := readPrecision_passes precision
    obtain ⟨overSize, same⟩ := readLetter_passes read
    rw [same]
    have overFlags : Passes s (s.dropWhile isFlag) := .dropWhile (by decide) s
    exact ⟨((overFlags.trans overWidth).trans overPrecision).trans overSize, fewer'.trans fewer⟩

theorem readDirective_length_lt {s : List Char} {values : List Value} {letter : Char} {r : Reader}
    (read : readDirective s values = .ok (letter, r)) : r.rest.length < s.length :=
  (readDirective_passes read).1.length_le

theorem layOut_character {c : Char} (other : c ≠ '%') (size fuel : Nat) (s : List Char) (values : List Value) :
    layOut size (fuel + 1) (c :: s) values = (layOut size fuel s values).map (c :: ·) := by
  rw [layOut.eq_def]
  simp only [ne_eq, other, not_false_eq_true, if_true]

theorem overflows_layOut_directive_iff {size fuel : Nat} {s : List Char} {values : List Value}
    (apart : ∀ rest, s ≠ '%' :: rest) :
    Overflows (layOut size (fuel + 1) ('%' :: s) values) ↔
      Strains s values ∨ ∃ letter r v behind index text, readDirective s values = .ok (letter, r) ∧
        r.values = v :: behind ∧ r.directive.place letter index v = .ok text ∧
        Overflows (layOut size fuel r.rest behind) := by
  rw [layOut, if_neg (by simp), overflows_bind_iff, overflows_readDirective_iff]
  case x_4 => exact apart
  constructor
  · rintro ((⟨star, beyond⟩ | ⟨r, width, star, beyond⟩) | ⟨⟨letter, r⟩, read, overflows⟩)
    · exact .inl (.width star beyond)
    · exact .inl (.precision width star beyond)
    · simp only at overflows
      split at overflows
      case h_1 => simp [FormatFault.isOverflow] at overflows
      case h_2 v behind next =>
        rw [overflows_bind_iff, overflows_place_iff] at overflows
        rcases overflows with ⟨n, whole, beyond⟩ | ⟨text, placed, later⟩
        · exact .inl (.number read next whole beyond)
        · exact .inr ⟨letter, r, v, behind, _, text, read, next, placed, overflows_map_iff.mp later⟩
  · rintro (strains | ⟨letter, r, v, behind, index, text, read, next, placed, later⟩)
    · cases strains with
      | width star beyond => exact .inl (.inl ⟨star, beyond⟩)
      | precision width star beyond => exact .inl (.inr ⟨_, width, star, beyond⟩)
      | number read next whole beyond =>
          refine .inr ⟨_, read, ?_⟩
          simp only [next]
          rw [overflows_bind_iff, overflows_place_iff]
          exact .inl ⟨_, whole, beyond⟩
    · refine .inr ⟨_, read, ?_⟩
      simp only [next]
      rw [overflows_bind_iff]
      exact .inr ⟨text, place_index placed _, overflows_map_iff.mpr later⟩

/-! ### What comes to such a directive -/

theorem comesToStrain_nil (values : List Value) : ¬ComesToStrain [] values := nofun

theorem comesToStrain_character {c : Char} (other : c ≠ '%') {s : List Char} {values : List Value} :
    ComesToStrain (c :: s) values ↔ ComesToStrain s values := by
  constructor
  · intro strained
    cases strained with
    | here => exact absurd rfl other
    | character _ later => exact later
    | percent => exact absurd rfl other
    | directive => exact absurd rfl other
  · exact .character other

theorem comesToStrain_percent {s : List Char} {values : List Value} :
    ComesToStrain ('%' :: '%' :: s) values ↔ ComesToStrain s values := by
  constructor
  · intro strained
    cases strained with
    | here strains => exact absurd strains (not_strains_percent _ _)
    | character other => exact absurd rfl other
    | percent later => exact later
    | directive read next placed later =>
        -- A second percent sign is a directive that places nothing.
        rw [readDirective_percent] at read
        cases read
        rw [place_percent] at placed
        cases placed
  · exact .percent

theorem comesToStrain_directive {s : List Char} (apart : ∀ rest, s ≠ '%' :: rest) {values : List Value} :
    ComesToStrain ('%' :: s) values ↔
      Strains s values ∨ ∃ letter r v behind index text, readDirective s values = .ok (letter, r) ∧
        r.values = v :: behind ∧ r.directive.place letter index v = .ok text ∧ ComesToStrain r.rest behind := by
  constructor
  · intro strained
    cases strained with
    | here strains => exact .inl strains
    | character other => exact absurd rfl other
    | percent => exact absurd rfl (apart _)
    | directive read next placed later => exact .inr ⟨_, _, _, _, _, _, read, next, placed, later⟩
  · rintro (strains | ⟨letter, r, v, behind, index, text, read, next, placed, later⟩)
    · exact .here strains
    · exact .directive read next placed later

/-- The second pass overflows exactly if it comes to a directive that asks for more than can be laid out. -/
theorem overflows_layOut_iff {size fuel : Nat} {format : List Char} {values : List Value}
    (enough : format.length < fuel) : Overflows (layOut size fuel format values) ↔ ComesToStrain format values := by
  induction fuel generalizing format values with
  | zero => exact absurd enough (Nat.not_lt_zero _)
  | succ fuel induction =>
      cases format with
      | nil =>
          refine iff_of_false ?_ (comesToStrain_nil values)
          rw [layOut]
          split <;> simp [FormatFault.isOverflow]
      | cons c s =>
          have fueled : s.length < fuel := Nat.lt_of_succ_lt_succ enough
          by_cases directive : c = '%'
          case neg =>
            rw [layOut_character directive, overflows_map_iff, induction fueled, comesToStrain_character directive]
          case pos =>
          subst directive
          by_cases percent : ∃ rest, s = '%' :: rest
          case pos =>
            obtain ⟨rest, rfl⟩ := percent
            rw [layOut, if_neg (by simp), overflows_map_iff, induction (Nat.lt_of_succ_lt fueled),
              comesToStrain_percent]
          case neg =>
            have apart (rest : List Char) : s ≠ '%' :: rest := fun same => percent ⟨rest, same⟩
            rw [overflows_layOut_directive_iff apart, comesToStrain_directive apart]
            refine or_congr_right (exists_congr fun letter => exists_congr fun r => exists_congr fun v =>
              exists_congr fun behind => exists_congr fun index => exists_congr fun text =>
              and_congr_right fun read => and_congr_right fun _ => and_congr_right fun _ => induction ?_)
            exact (readDirective_length_lt read).trans fueled

/-- Whether the directives of a format come to one that asks for more than can be laid out of the arguments. -/
def IsOverstrained (format : List Char) (args : List Value) : Prop :=
  ∃ laid values, takeVerbs (format.length + 1) format args = .ok (laid, values, []) ∧ ComesToStrain laid values

/-- A format overflows exactly if one of its directives asks for more than can be laid out. -/
theorem overflows_formatted_iff {format : List Char} {args : List Value} :
    Overflows (formatted format args) ↔ IsOverstrained format args := by
  simp only [formatted, overflows_bind_iff, not_overflows_takeVerbs, false_or, Prod.exists, IsOverstrained]
  refine exists_congr fun laid => exists_congr fun values => ?_
  constructor
  · rintro ⟨left, taken, overflows⟩
    split at overflows
    case isTrue none =>
      rw [List.isEmpty_iff.mp none] at taken
      exact ⟨taken, (overflows_layOut_iff (Nat.lt_succ_self _)).mp overflows⟩
    case isFalse => simp [FormatFault.isOverflow] at overflows
  · rintro ⟨taken, strained⟩
    refine ⟨[], taken, ?_⟩
    rw [if_pos List.isEmpty_nil, overflows_layOut_iff (Nat.lt_succ_self _)]
    exact strained

end Stencil.Template
