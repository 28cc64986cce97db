import Mathlib
import Stencil.Proofs.Template.Printing

/-!
# Verbs read twice

A verb is read when its argument is taken, and once more when the argument is laid out.  The second reading knows more
ways to write a directive, but digits of other scripts are no digits to it.  What stands between the percent sign and the
letter of a verb means the same to both, or the verb is not laid out.
-/

namespace Stencil.Template

/-! ## The front of a verb -/

/-- What stands between the percent sign and the letter of a verb. -/
structure VerbFront where
  /-- The flags. -/
  marks : List Char
  /-- The digits of the width. -/
  digits : List Char
  /-- The digits of the precision, behind a point. -/
  point : Option (List Char)

namespace VerbFront

/-- The precision as it is written. -/
def pointText (front : VerbFront) : List Char :=
  front.point.elim [] ('.' :: ·)

/-- The front as it is written. -/
def text (front : VerbFront) : List Char :=
  front.marks ++ front.digits ++ front.pointText

/-- The way of laying out that a front asks for. -/
def directive (front : VerbFront) : Directive :=
  { front.marks.foldl Directive.withFlag {} with
    width := Text.natOfDigits front.digits
    precision := front.point.map Text.natOfDigits }

/-- Whether a front is one of those that verbs have: the width begins behind all flags, and the precision has digits,
all of which may be of any script. -/
structure IsRegular (front : VerbFront) : Prop where
  /-- The flags are flags. -/
  marks : ∀ c ∈ front.marks, isFlag c = true
  /-- No flag begins the width. -/
  unmarked : ∀ c, front.digits.head? = some c → isFlag c = false
  /-- The width has digits only. -/
  digits : ∀ c ∈ front.digits, Text.isDecimalDigit c = true
  /-- The precision has digits, and nothing else. -/
  point : ∀ digits, front.point = some digits → digits ≠ [] ∧ ∀ c ∈ digits, Text.isDecimalDigit c = true

/-- Whether a front can be read: its digits are ASCII ones, and its numbers are not beyond all. -/
structure IsReadable (front : VerbFront) : Prop where
  /-- The digits of the width are ASCII ones. -/
  digits : ∀ c ∈ front.digits, Text.isAsciiDigit c = true
  /-- The width is not beyond all widths. -/
  width : Text.natOfDigits front.digits ≤ greatestWidth
  /-- The digits of the precision are ASCII ones, and it is not beyond all precisions. -/
  point : ∀ digits, front.point = some digits →
    (∀ c ∈ digits, Text.isAsciiDigit c = true) ∧ Text.natOfDigits digits ≤ greatestPrecision

end VerbFront

/-- Whether flags, width and precision ask for a way of laying out. -/
def AsksFor (flags : List Char) (d : Directive) : Prop :=
  ∃ front : VerbFront, front.IsRegular ∧ front.IsReadable ∧ flags = front.text ∧ d = front.directive

theorem exists_readPoint (s : List Char) : ∃ point : Option (List Char),
    s = point.elim [] ('.' :: ·) ++ (readPoint s).2 ∧ (readPoint s).1 = point.elim [] ('.' :: ·) ∧
      ∀ digits, point = some digits → digits ≠ [] ∧ ∀ c ∈ digits, Text.isDecimalDigit c = true := by
  unfold readPoint
  split
  · rename_i rest
    simp only
    split_ifs with none
    · exact ⟨.none, rfl, rfl, nofun⟩
    · refine ⟨some (rest.takeWhile Text.isDecimalDigit), ?_, rfl, ?_⟩
      · simp [List.takeWhile_append_dropWhile]
      · rintro digits ⟨⟩
        exact ⟨by simpa using none, fun c known => List.mem_takeWhile_imp known⟩
  · exact ⟨.none, rfl, rfl, nofun⟩

/-- What is read as a verb is a regular front, a letter, and the rest. -/
theorem readVerb?_eq_some {s flags rest : List Char} {letter : Char}
    (read : readVerb? s = some (flags, letter, rest)) :
    ∃ front : VerbFront, front.IsRegular ∧ flags = front.text ∧ s = front.text ++ letter :: rest := by
  rw [readVerb?] at read
  obtain ⟨point, whole, written, digits⟩ := exists_readPoint ((s.dropWhile isFlag).dropWhile Text.isDecimalDigit)
  rcases behind : readPoint ((s.dropWhile isFlag).dropWhile Text.isDecimalDigit) with ⟨pointText, tail⟩
  rw [behind] at whole written
  simp only [behind] at read
  split at read
  case h_2 => cases read
  case h_1 c rest' =>
    split_ifs at read
    cases read
    refine ⟨⟨s.takeWhile isFlag, (s.dropWhile isFlag).takeWhile Text.isDecimalDigit, point⟩, ⟨?_, ?_, ?_, digits⟩, ?_,
      ?_⟩
    · exact fun c known => List.mem_takeWhile_imp known
    · intro c first
      rw [List.head?_takeWhile, Option.filter_eq_some_iff] at first
      have stopped := List.head?_dropWhile_not isFlag s
      rw [first.1] at stopped
      exact stopped
    · exact fun c known => List.mem_takeWhile_imp known
    · rw [VerbFront.text, VerbFront.pointText, ← written]
    · rw [VerbFront.text, VerbFront.pointText, List.append_assoc, List.append_assoc, ← whole,
        List.takeWhile_append_dropWhile, List.takeWhile_append_dropWhile]

theorem notMem_text {front : VerbFront} (isRegular : front.IsRegular) {c : Char} (noFlag : isFlag c = false)
    (noDigit : Text.isDecimalDigit c = false) (noPoint : c ≠ '.') : c ∉ front.text := by
  have noMark : c ∉ front.marks := fun known => by simp [isRegular.marks c known] at noFlag
  have notWide : c ∉ front.digits := fun known => by simp [isRegular.digits c known] at noDigit
  simp only [VerbFront.text, VerbFront.pointText, List.mem_append, not_or]
  refine ⟨⟨noMark, notWide⟩, ?_⟩
  cases point : front.point with
  | none => exact List.not_mem_nil
  | some digits =>
      intro known
      rcases List.mem_cons.mp known with same | known
      · exact noPoint same
      · simp [(isRegular.point digits point).2 c known] at noDigit

/-! ## Reading the front of a directive -/

/-- The letters that verbs are laid out by. -/
def layoutLetters : List Char :=
  ['s', 'd', 'x', 'X', 'o', 'c', 'f', 'F', 'e', 'E', 'g', 'G']

theorem layoutLetters_facts : ∀ c ∈ layoutLetters, isFlag c = false ∧ Text.isDecimalDigit c = false ∧
    Text.isAsciiDigit c = false ∧ c ∉ ['(', '*', '.', 'h', 'l', 'L', '%'] :=
  List.all_iff_forall_prop.mp (by decide)

theorem span_append {test : Char → Bool} {front rest : List Char} (passes : ∀ c ∈ front, test c = true)
    (stops : ∀ c, rest.head? = some c → test c = false) :
    (front ++ rest).takeWhile test = front ∧ (front ++ rest).dropWhile test = rest := by
  have stopped : rest.takeWhile test = [] ∧ rest.dropWhile test = rest := by
    cases rest with
    | nil => exact ⟨rfl, rfl⟩
    | cons c rest => simp [stops c rfl]
  rw [List.takeWhile_append_of_pos passes, List.dropWhile_append_of_pos passes, stopped.1, stopped.2]
  exact ⟨List.append_nil front, rfl⟩

theorem readDirective_eq {s : List Char} (unnamed : s.head? ≠ some '(') (values : List Value) :
    readDirective s values =
      (behindFlags s values).readWidth >>= fun r => r.readPrecision >>= fun r => r.readLetter := by
  rw [readDirective]
  · rfl
  · rintro rest rfl
    exact unnamed rfl

/-- Whether no number and no star begins a text. -/
def EndsNumber (rest : List Char) : Prop :=
  ∀ c, rest.head? = some c → Text.isAsciiDigit c = false ∧ c ≠ '*'

theorem endsNumber_cons {c : Char} (noDigit : Text.isAsciiDigit c = false) (noStar : c ≠ '*') (rest : List Char) :
    EndsNumber (c :: rest) := by
  rintro c ⟨⟩
  exact ⟨noDigit, noStar⟩

section Readers

variable {d : Directive} {digits rest : List Char} {values : List Value}

theorem takeNumber_append {limit : Nat} {fault : FormatFault} (ascii : ∀ c ∈ digits, Text.isAsciiDigit c = true)
    (ends : EndsNumber rest) :
    takeNumber limit fault (digits ++ rest) =
      if limit < Text.natOfDigits digits then .error fault else .ok (Text.natOfDigits digits, rest) := by
  obtain ⟨taken, left⟩ := span_append ascii fun c first => (ends c first).1
  rw [takeNumber, taken, left]

theorem head?_append_ne_star (ascii : ∀ c ∈ digits, Text.isAsciiDigit c = true) (ends : EndsNumber rest) :
    (digits ++ rest).head? ≠ some '*' := by
  intro first
  cases digits with
  | nil => exact (ends '*' first).2 rfl
  | cons c digits =>
      cases first
      exact absurd (ascii '*' List.mem_cons_self) (by decide)

theorem readWidth_append (ascii : ∀ c ∈ digits, Text.isAsciiDigit c = true) (ends : EndsNumber rest) :
    Reader.readWidth ⟨d, digits ++ rest, values⟩ =
      if greatestWidth < Text.natOfDigits digits then .error .width
      else .ok ⟨{ d with width := Text.natOfDigits digits }, rest, values⟩ := by
  have plain := head?_append_ne_star ascii ends
  unfold Reader.readWidth
  split
  case h_1 rest' star =>
    simp only at star
    rw [star] at plain
    exact absurd rfl plain
  case h_2 =>
    rw [takeNumber_append ascii ends]
    split_ifs <;> rfl

theorem readPrecision_point (ascii : ∀ c ∈ digits, Text.isAsciiDigit c = true) (ends : EndsNumber rest) :
    Reader.readPrecision ⟨d, '.' :: (digits ++ rest), values⟩ =
      if greatestPrecision < Text.natOfDigits digits then .error .precision
      else .ok ⟨{ d with precision := some (Text.natOfDigits digits) }, rest, values⟩ := by
  have plain := head?_append_ne_star ascii ends
  unfold Reader.readPrecision
  split
  case h_1 rest' star =>
    rw [(List.cons.inj star).2] at plain
    exact absurd rfl plain
  case h_2 rest' _ point =>
    rw [← (List.cons.inj point).2, takeNumber_append ascii ends]
    split_ifs <;> rfl
  case h_3 _ noPoint => exact absurd rfl (noPoint _)

theorem readPrecision_none (noPoint : rest.head? ≠ some '.') :
    Reader.readPrecision ⟨d, rest, values⟩ = .ok ⟨d, rest, values⟩ := by
  unfold Reader.readPrecision
  split
  case h_1 rest' star =>
    simp only at star
    rw [star] at noPoint
    exact absurd rfl noPoint
  case h_2 rest' _ point =>
    simp only at point
    rw [point] at noPoint
    exact absurd rfl noPoint
  case h_3 => rfl

theorem readLetter_cons {c : Char} (sized : c ∉ ['h', 'l', 'L']) :
    Reader.readLetter ⟨d, c :: rest, values⟩ = .ok (c, ⟨d, rest, values⟩) := by
  rw [Reader.readLetter]
  exact if_neg (by simpa using sized)

end Readers

/-- Flags ask for no precision. -/
theorem precision_foldl (marks : List Char) (d : Directive) :
    (marks.foldl Directive.withFlag d).precision = d.precision := by
  have step (d : Directive) (c : Char) : (d.withFlag c).precision = d.precision := by
    rw [Directive.withFlag]
    split_ifs <;> rfl
  induction marks generalizing d with
  | nil => rfl
  | cons c marks induction => rw [List.foldl_cons, induction, step]

section Fronts

variable {front : VerbFront} {letter : Char} {rest : List Char} {values : List Value}

theorem head?_pointText {c : Char} (first : (front.pointText ++ letter :: rest).head? = some c) :
    c = '.' ∨ c = letter := by
  rw [VerbFront.pointText] at first
  cases point : front.point with
  | none =>
      rw [point] at first
      exact .inr (Option.some.inj first).symm
  | some digits =>
      rw [point] at first
      exact .inl (Option.some.inj first).symm

/-- Behind the flags the width and the precision are left. -/
theorem behindFlags_text (isRegular : front.IsRegular) (known : letter ∈ layoutLetters) :
    behindFlags (front.text ++ letter :: rest) values =
      ⟨front.marks.foldl Directive.withFlag {}, front.digits ++ (front.pointText ++ letter :: rest), values⟩ := by
  have stops : ∀ c, (front.digits ++ (front.pointText ++ letter :: rest)).head? = some c → isFlag c = false := by
    intro c first
    cases digits : front.digits with
    | nil =>
        rw [digits] at first
        rcases head?_pointText first with rfl | rfl
        · decide
        · exact (layoutLetters_facts _ known).1
    | cons d more =>
        rw [digits] at first
        exact isRegular.unmarked c (by rw [digits]; exact first)
  obtain ⟨taken, left⟩ := span_append isRegular.marks stops
  rw [behindFlags, VerbFront.text, List.append_assoc, List.append_assoc, taken, left]

theorem head?_text_ne (isRegular : front.IsRegular) (known : letter ∈ layoutLetters) :
    (front.text ++ letter :: rest).head? ≠ some '(' := by
  have free := notMem_text isRegular (c := '(') (by decide) (by decide) (by decide)
  cases written : front.text with
  | nil =>
      rintro ⟨⟩
      exact (layoutLetters_facts _ known).2.2.2 (by decide)
  | cons c more =>
      rintro ⟨⟩
      rw [written] at free
      exact free List.mem_cons_self

theorem endsNumber_letter (known : letter ∈ layoutLetters) (rest : List Char) : EndsNumber (letter :: rest) := by
  obtain ⟨-, -, noDigit, others⟩ := layoutLetters_facts letter known
  refine endsNumber_cons noDigit ?_ rest
  rintro rfl
  exact others (by decide)

theorem endsNumber_pointText (known : letter ∈ layoutLetters) : EndsNumber (front.pointText ++ letter :: rest) := by
  intro c first
  rcases head?_pointText first with rfl | rfl
  · decide
  · exact endsNumber_letter known rest _ rfl

/-- A verb that can be read is read with its flags, its width and its precision. -/
theorem readDirective_text (isRegular : front.IsRegular) (isReadable : front.IsReadable)
    (known : letter ∈ layoutLetters) :
    readDirective (front.text ++ letter :: rest) values = .ok (letter, ⟨front.directive, rest, values⟩) := by
  obtain ⟨-, -, -, others⟩ := layoutLetters_facts letter known
  simp only [List.mem_cons, List.not_mem_nil, or_false, not_or] at others
  obtain ⟨-, -, noPoint, noH, noSmall, noLarge, -⟩ := others
  rw [readDirective_eq (head?_text_ne isRegular known), behindFlags_text isRegular known,
    readWidth_append isReadable.digits (endsNumber_pointText known), if_neg (not_lt.mpr isReadable.width), ok_bind,
    VerbFront.pointText, VerbFront.directive]
  cases point : front.point with
  | none =>
      have noPrecision : (letter :: rest).head? ≠ some '.' := by simpa using noPoint
      simp only [Option.elim_none, List.nil_append, readPrecision_none noPrecision, ok_bind]
      rw [readLetter_cons (by simp [noH, noSmall, noLarge]), precision_foldl]
      rfl
  | some digits =>
      obtain ⟨ascii, bounded⟩ := isReadable.point digits point
      simp only [Option.elim_some, List.cons_append, readPrecision_point ascii (endsNumber_letter known rest),
        if_neg (not_lt.mpr bounded), ok_bind]
      rw [readLetter_cons (by simp [noH, noSmall, noLarge])]
      rfl

/-! ### Digits of other scripts -/

theorem ne_of_digit {c other : Char} (digit : Text.isDecimalDigit c = true)
    (noDigit : Text.isDecimalDigit other = false) : c ≠ other := by
  rintro rfl
  rw [digit] at noDigit
  cases noDigit

theorem notMem_of_digit {c : Char} {others : List Char} (digit : Text.isDecimalDigit c = true)
    (noDigits : others.any Text.isDecimalDigit = false) : c ∉ others :=
  fun known => List.any_eq_false.mp noDigits c known digit

/-- No value is laid out by a digit. -/
theorem place_digit {d : Directive} {c : Char} (digit : Text.isDecimalDigit c = true) (index : Nat) (v : Value) :
    d.place c index v = .error (.directive c index) := by
  have others : c ∉ ['s', 'r', 'a', 'd', 'i', 'u', 'o', 'x', 'X', 'e', 'E', 'f', 'F', 'g', 'G', 'c'] :=
    notMem_of_digit digit (by decide)
  simp only [List.mem_cons, List.not_mem_nil, or_false, not_or] at others
  simp [Directive.place, others]

theorem readLetter_digit {c : Char} (digit : Text.isDecimalDigit c = true) (d : Directive) :
    Reader.readLetter ⟨d, c :: rest, values⟩ = .ok (c, ⟨d, rest, values⟩) :=
  readLetter_cons (notMem_of_digit digit (by decide))

/-- Among digits that are not all ASCII ones there is a first that is none. -/
theorem exists_foreign {digits : List Char} (decimal : ∀ c ∈ digits, Text.isDecimalDigit c = true)
    (foreign : ¬∀ c ∈ digits, Text.isAsciiDigit c = true) :
    ∃ ascii c more, digits = ascii ++ c :: more ∧ (∀ d ∈ ascii, Text.isAsciiDigit d = true) ∧
      Text.isDecimalDigit c = true ∧ ∀ rest, EndsNumber (c :: rest) := by
  cases found : digits.find? fun c => !Text.isAsciiDigit c with
  | none =>
      refine absurd (fun c known => ?_) foreign
      simpa using List.find?_eq_none.mp found c known
  | some c =>
      obtain ⟨other, ascii, more, rfl, before⟩ := List.find?_eq_some_iff_append.mp found
      have digit : Text.isDecimalDigit c = true := decimal c (by simp)
      refine ⟨ascii, c, more, rfl, by simpa using before, digit, ?_⟩
      exact endsNumber_cons (by simpa using other) (ne_of_digit digit (by decide))

/-- A verb that is laid out can be read: a digit of another script would be taken for the letter. -/
theorem isReadable_of_placed {index : Nat} {l : Char} {r : Reader} {v : Value} {out : List Char}
    (isRegular : front.IsRegular) (known : letter ∈ layoutLetters)
    (read : readDirective (front.text ++ letter :: rest) values = .ok (l, r))
    (placed : r.directive.place l index v = .ok out) : front.IsReadable := by
  -- What stands in the place of the letter and is a digit would not be laid out.
  have stray {d : Directive} {c : Char} {behind : List Char} (digit : Text.isDecimalDigit c = true) :
      Reader.readLetter ⟨d, c :: behind, values⟩ ≠ .ok (l, r) := by
    rw [readLetter_digit digit]
    rintro ⟨⟩
    rw [place_digit digit] at placed
    cases placed
  rw [readDirective_eq (head?_text_ne isRegular known), behindFlags_text isRegular known] at read
  by_cases ascii : ∀ c ∈ front.digits, Text.isAsciiDigit c = true
  case neg =>
    obtain ⟨before, c, more, split, ascii, digit, ends⟩ := exists_foreign isRegular.digits ascii
    have noPoint {behind : List Char} : (c :: behind).head? ≠ some '.' := by
      simpa using ne_of_digit digit (by decide)
    rw [split, List.append_assoc, List.cons_append, readWidth_append ascii (ends _)] at read
    split_ifs at read
    · cases read
    · rw [ok_bind, readPrecision_none noPoint, ok_bind] at read
      exact absurd read (stray digit)
  case pos =>
    rw [readWidth_append ascii (endsNumber_pointText known)] at read
    split_ifs at read with wide
    · cases read
    · rw [ok_bind, VerbFront.pointText] at read
      refine ⟨ascii, not_lt.mp wide, fun digits point => ?_⟩
      rw [point] at read
      simp only [Option.elim_some, List.cons_append] at read
      by_cases ascii' : ∀ c ∈ digits, Text.isAsciiDigit c = true
      · rw [readPrecision_point ascii' (endsNumber_letter known rest)] at read
        split_ifs at read with precise
        · cases read
        · exact ⟨ascii', not_lt.mp precise⟩
      · obtain ⟨before, c, more, rfl, ascii', digit, ends⟩ :=
          exists_foreign (isRegular.point digits point).2 ascii'
        rw [List.append_assoc, List.cons_append, readPrecision_point ascii' (ends _)] at read
        split_ifs at read
        · cases read
        · rw [ok_bind] at read
          exact absurd read (stray digit)

end Fronts

end Stencil.Template
