import Stencil.Decimal.Layout
import Stencil.Template.Value
import Stencil.Text.DecimalDigit

/-!
# Formatted printing

A format is worked on in two passes.  The first finds the verbs, takes an argument for each and turns it
into a value that the second pass knows how to lay out; the second pass lays out every directive with its
flags, its width and its precision.  Text that only looks like a verb is left to the second pass.
-/

namespace Stencil.Template

/-- Why a format cannot be printed. -/
inductive FormatFault
  /-- A verb without an argument. -/
  | missing (flags : List Char) (letter : Char)
  /-- A verb that is not known. -/
  | verb (c : Char)
  /-- Arguments that no verb takes. -/
  | extra (count : Nat) (format : List Char)
  /-- A value that has no binary digits. -/
  | binary (kind : String)
  /-- A directive with a name. -/
  | named
  /-- A starred width or precision that is no whole number. -/
  | star
  /-- A starred width that is beyond all widths. -/
  | starWidth
  /-- A starred precision that is beyond all precisions. -/
  | starPrecision
  /-- A width that is beyond all widths. -/
  | width
  /-- A precision that is beyond all precisions. -/
  | precision
  /-- A directive that does not end. -/
  | incomplete
  /-- A directive without a value. -/
  | tooFew
  /-- Values that no directive takes. -/
  | notAll
  /-- A directive that is not known. -/
  | directive (c : Char) (index : Nat)
  /-- A value that is no number, where a number is laid out. -/
  | notReal (letter : Char) (kind : String)
  /-- A value that is no whole number, where one is laid out. -/
  | notInteger (letter : Char) (kind : String)
  /-- A value that is no binary number, where one is laid out. -/
  | notFloat (kind : String)
  /-- A precision with which no whole number is laid out. -/
  | digits
  /-- A whole number that is beyond all binary numbers. -/
  | tooLarge
  /-- A value that is no character. -/
  | notChar
  /-- A number that is the code of no character. -/
  | charRange
deriving DecidableEq, Repr

/-- The wording of a format fault. -/
def FormatFault.message : FormatFault → String
  | .missing flags letter => "printf: missing argument for %" ++ String.ofList (flags ++ [letter])
  | .verb c => "printf: unsupported verb %" ++ String.singleton c
  | .extra count format =>
    "printf: " ++ Data.decimal count ++ " extra argument(s) for " ++ String.ofList (Text.quoted format)
  | .binary kind =>
    if kind = "str" then "Unknown format code 'b' for object of type 'str'"
    else "unsupported format string passed to " ++ kind ++ ".__format__"
  | .named => "format requires a mapping"
  | .star => "* wants int"
  | .starWidth => "Python int too large to convert to C ssize_t"
  | .starPrecision => "Python int too large to convert to C int"
  | .width => "width too big"
  | .precision => "precision too big"
  | .incomplete => "incomplete format"
  | .tooFew => "not enough arguments for format string"
  | .notAll => "not all arguments converted during string formatting"
  | .directive c index =>
    let shown := if 31 ≤ c.toNat ∧ c.toNat ≤ 126 then c else '?'
    "unsupported format character '" ++ String.singleton shown ++ "' (0x" ++
      String.ofList (Text.digits 16 c.toNat) ++ ") at index " ++ Data.decimal index
  | .notReal letter kind => "%" ++ String.singleton letter ++ " format: a real number is required, not " ++ kind
  | .notInteger letter kind => "%" ++ String.singleton letter ++ " format: an integer is required, not " ++ kind
  | .notFloat kind => "must be real number, not " ++ kind
  | .digits => "precision too large"
  | .tooLarge => "int too large to convert to float"
  | .notChar => "%c requires int or char"
  | .charRange => "%c arg not in range(0x110000)"

/-- Whether a fault is one of the size of a number. -/
def FormatFault.isOverflow : FormatFault → Bool
  | .starWidth => true
  | .starPrecision => true
  | .digits => true
  | .tooLarge => true
  | .charRange => true
  | _ => false

/-! ## Verbs -/

/-- Whether a character is a flag. -/
def isFlag (c : Char) : Bool :=
  c = '-' || c = '+' || c = '#' || c = ' ' || c = '0'

/-- A precision at the head of a text: a point and digits. -/
def readPoint (s : List Char) : List Char × List Char :=
  match s with
  | '.' :: rest =>
    let digits := rest.takeWhile Text.isDecimalDigit
    if digits.isEmpty then ([], s) else ('.' :: digits, rest.dropWhile Text.isDecimalDigit)
  | _ => ([], s)

/-- A verb behind a percent sign: its flags with width and precision, its letter, and what follows. -/
def readVerb? (s : List Char) : Option (List Char × Char × List Char) :=
  let flags := s.takeWhile isFlag
  let rest := s.dropWhile isFlag
  let digits := rest.takeWhile Text.isDecimalDigit
  let (point, rest) := readPoint (rest.dropWhile Text.isDecimalDigit)
  match rest with
  | c :: rest => if c.isAlpha || c = '%' then some (flags ++ digits ++ point, c, rest) else none
  | [] => none

/-- A whole number in a base, with a sign. -/
def baseText (base : Nat) (n : Int) : List Char :=
  Decimal.signText (n < 0) ++ Text.digits base n.natAbs

/-- What a verb makes of an argument: the letter of the directive that lays it out, and the value. -/
def convert (verb : Char) (v : Value) : Except FormatFault (Char × Value) :=
  if verb = 'v' ∨ verb = 's' ∨ verb = 't' then .ok ('s', .text v.operandText)
  else if verb = 'q' then .ok ('s', .text (Data.Json.quoted v.operandText))
  else if verb = 'b' then
    match v.toInt? with
    | some n => .ok ('s', .text (baseText 2 n))
    | none => .error (.binary v.kindName)
  else if verb ∈ "dxXocfFeEgG".toList then .ok (verb, v)
  else .error (.verb verb)

/-- The first pass: the format of the second pass, the values it lays out and the arguments left over. -/
def takeVerbs : (fuel : Nat) → (format : List Char) → (args : List Value) →
    Except FormatFault (List Char × List Value × List Value)
  | 0, _, args => .ok ([], [], args)
  | _ + 1, [], args => .ok ([], [], args)
  | fuel + 1, c :: rest, args =>
    match if c = '%' then readVerb? rest else none with
    | none => do
      let (format, values, left) ← takeVerbs fuel rest args
      .ok (c :: format, values, left)
    | some (flags, verb, rest) =>
      if verb = '%' then do
        let (format, values, left) ← takeVerbs fuel rest args
        .ok ('%' :: '%' :: format, values, left)
      else
        match args with
        | [] => .error (.missing flags verb)
        | v :: args => do
          let (letter, value) ← convert verb v
          let (format, values, left) ← takeVerbs fuel rest args
          .ok ('%' :: flags ++ letter :: format, value :: values, left)

/-! ## Directives -/

/-- How a value is laid out. -/
structure Directive where
  /-- At the left of its space. -/
  left : Bool := false
  /-- With a plus sign. -/
  plus : Bool := false
  /-- With a blank in place of a sign. -/
  blank : Bool := false
  /-- In the other form of its letter. -/
  alternate : Bool := false
  /-- With zeros in front. -/
  zero : Bool := false
  /-- The least number of characters. -/
  width : Nat := 0
  /-- The precision, when there is one. -/
  precision : Option Nat := none
deriving DecidableEq, Repr

/-- A directive with one more flag. -/
def Directive.withFlag (d : Directive) (c : Char) : Directive :=
  if c = '-' then { d with left := true }
  else if c = '+' then { d with plus := true }
  else if c = ' ' then { d with blank := true }
  else if c = '#' then { d with alternate := true }
  else { d with zero := true }

/-- The greatest width. -/
def greatestWidth : Nat := 9223372036854775807

/-- The greatest precision. -/
def greatestPrecision : Nat := 2147483647

/-- The most digits that a whole number is filled up to. -/
def mostFilled : Nat := 2147483644

/-- A reader of a directive: what is read of it, the format behind, and the values that are left. -/
structure Reader where
  /-- What is read. -/
  directive : Directive
  /-- The rest of the format. -/
  rest : List Char
  /-- The values that are left. -/
  values : List Value

/-- A starred number from the values. -/
def takeStar (values : List Value) : Except FormatFault (Int × List Value) :=
  match values with
  | [] => .error .tooFew
  | v :: values =>
    match v.toInt? with
    | some n => .ok (n, values)
    | none => .error .star

/-- A number at the head of a text that must not be greater than a limit. -/
def takeNumber (limit : Nat) (fault : FormatFault) (s : List Char) : Except FormatFault (Nat × List Char) :=
  let n := Text.natOfDigits (s.takeWhile Text.isAsciiDigit)
  if limit < n then .error fault else .ok (n, s.dropWhile Text.isAsciiDigit)

/-- Reads the width of a directive. -/
def Reader.readWidth (r : Reader) : Except FormatFault Reader :=
  match r.rest with
  | '*' :: rest => do
    let (n, values) ← takeStar r.values
    if n < -(greatestWidth : Int) - 1 ∨ greatestWidth < n then .error .starWidth
    else
      let d := { r.directive with width := n.natAbs, left := r.directive.left || n < 0 }
      .ok ⟨d, rest, values⟩
  | s => do
    let (n, rest) ← takeNumber greatestWidth .width s
    .ok { r with directive := { r.directive with width := n }, rest }

/-- Reads the precision of a directive. -/
def Reader.readPrecision (r : Reader) : Except FormatFault Reader :=
  match r.rest with
  | '.' :: '*' :: rest => do
    let (n, values) ← takeStar r.values
    if n < -(greatestPrecision : Int) - 1 ∨ greatestPrecision < n then .error .starPrecision
    else .ok ⟨{ r.directive with precision := some n.toNat }, rest, values⟩
  | '.' :: s => do
    let (n, rest) ← takeNumber greatestPrecision .precision s
    .ok { r with directive := { r.directive with precision := some n }, rest }
  | _ => .ok r

/-- Reads the letter of a directive, behind at most one letter of size. -/
def Reader.readLetter (r : Reader) : Except FormatFault (Char × Reader) :=
  match r.rest with
  | [] => .error .incomplete
  | c :: rest =>
    if c = 'h' ∨ c = 'l' ∨ c = 'L' then
      match rest with
      | [] => .error .incomplete
      | c :: rest => .ok (c, { r with rest })
    else .ok (c, { r with rest })

/-- Reads a directive behind its percent sign. -/
def readDirective (s : List Char) (values : List Value) : Except FormatFault (Char × Reader) :=
  match s with
  | '(' :: _ => .error .named
  | _ => do
    let d := (s.takeWhile isFlag).foldl Directive.withFlag {}
    let r ← Reader.readWidth ⟨d, s.dropWhile isFlag, values⟩
    let r ← r.readPrecision
    r.readLetter

/-- A number between its sign, its mark of a base and its digits, laid out. -/
def Directive.placeNumber (d : Directive) (sign mark body : List Char) : List Char :=
  let pad := d.width - (sign.length + mark.length + body.length)
  if d.left then sign ++ mark ++ body ++ List.replicate pad ' '
  else if d.zero then sign ++ mark ++ List.replicate pad '0' ++ body
  else List.replicate pad ' ' ++ sign ++ mark ++ body

/-- A text laid out. -/
def Directive.placeText (d : Directive) (body : List Char) : List Char :=
  let pad := List.replicate (d.width - body.length) ' '
  if d.left then body ++ pad else pad ++ body

/-- The sign of a number. -/
def Directive.sign (d : Directive) (negative : Bool) : List Char :=
  if negative then ['-'] else if d.plus then ['+'] else if d.blank then [' '] else []

/-- A whole number laid out in the base of a letter. -/
def Directive.placeInt (d : Directive) (letter : Char) (n : Int) : Except FormatFault (List Char) :=
  if mostFilled < d.precision.getD 0 then .error .digits
  else
    let base := if letter = 'o' then 8 else if letter = 'x' ∨ letter = 'X' then 16 else 10
    let digits := Text.digits base n.natAbs
    let digits := if letter = 'X' then digits.map Char.toUpper else digits
    let filled := List.replicate (d.precision.getD 0 - digits.length) '0' ++ digits
    let mark := if d.alternate && base ≠ 10 then ['0', letter] else []
    .ok (d.placeNumber (d.sign (n < 0)) mark filled)

/-- A binary number laid out. -/
def Directive.placeFloat (d : Directive) (letter : Char) (negative : Bool) (num den : Nat) : List Char :=
  let layout : Decimal.Layout :=
    if letter = 'e' ∨ letter = 'E' then .scientific
    else if letter = 'g' ∨ letter = 'G' then .general
    else .fixed
  -- The leading digit of an exponent form is one more, and the count of digits turns over at its end.
  let precision := if layout = .scientific ∧ d.precision = some greatestPrecision then 0 else d.precision.getD 6
  let body := layout.magnitude d.alternate precision num den
  d.placeNumber (d.sign negative) [] (if letter = 'E' ∨ letter = 'G' then body.map Char.toUpper else body)

/-- A quoted form in which all characters are ASCII ones. -/
def asciiForm (s : List Char) : List Char :=
  s.flatMap fun c =>
    if c.toNat < 0x80 then [c]
    else if c.toNat < 0x100 then '\\' :: 'x' :: Text.hexPadded 2 c.toNat
    else if c.toNat < 0x10000 then '\\' :: 'u' :: Text.hexPadded 4 c.toNat
    else '\\' :: 'U' :: Text.hexPadded 8 c.toNat

/-- A whole number laid out as the binary number nearest to it. -/
def Directive.placeReal (d : Directive) (letter : Char) (n : Int) : Except FormatFault (List Char) :=
  match Decimal.Binary64.ofInt n with
  | .finite negative m e =>
    .ok (d.placeFloat letter negative (Decimal.Binary64.scaledNumerator m e)
      (Decimal.Binary64.scaledDenominator e))
  | _ => .error .tooLarge

/-- A character, or the character of a code, laid out. -/
def Directive.placeChar (d : Directive) (v : Value) : Except FormatFault (List Char) :=
  match v with
  | .text [c] => .ok (d.placeText [c])
  | v =>
    match v.toInt? with
    | some n =>
      if n < 0 ∨ 0x10FFFF < n then .error .charRange
      else .ok (d.placeText [if n.toNat.isValidChar then Char.ofNat n.toNat else '\uFFFD'])
    | none => .error .notChar

/-- Lays a value out as the letter of a directive says; `index` is the place of the letter. -/
def Directive.place (d : Directive) (letter : Char) (index : Nat) (v : Value) :
    Except FormatFault (List Char) :=
  let placeCut (s : List Char) := d.placeText (s.take (d.precision.getD s.length))
  if letter = 's' then .ok (placeCut v.toData.display.toList)
  else if letter = 'r' then .ok (placeCut v.toData.form.toList)
  else if letter = 'a' then .ok (placeCut (asciiForm v.toData.form.toList))
  else if letter ∈ "diu".toList then
    match v.toInt? with
    | some n => d.placeInt letter n
    | none => .error (.notReal letter v.kindName)
  else if letter ∈ "oxX".toList then
    match v.toInt? with
    | some n => d.placeInt letter n
    | none => .error (.notInteger letter v.kindName)
  else if letter ∈ "eEfFgG".toList then
    match v.toInt? with
    | some n => d.placeReal letter n
    | none => .error (.notFloat v.kindName)
  else if letter = 'c' then d.placeChar v
  else .error (.directive letter index)

/-- The second pass: the directives of a format laid out; `size` is the length of the whole format. -/
def layOut (size : Nat) : (fuel : Nat) → (format : List Char) → (values : List Value) →
    Except FormatFault (List Char)
  | 0, _, _ => .ok []
  | _ + 1, [], values => if values.isEmpty then .ok [] else .error .notAll
  | fuel + 1, c :: rest, values =>
    if c ≠ '%' then (layOut size fuel rest values).map (c :: ·)
    else
      match rest with
      | '%' :: rest => (layOut size fuel rest values).map ('%' :: ·)
      | _ => do
        let (letter, r) ← readDirective rest values
        match r.values with
        | [] => .error .tooFew
        | v :: values => do
          let placed ← r.directive.place letter (size - r.rest.length - 1) v
          (layOut size fuel r.rest values).map (placed ++ ·)

/-- The text that a format and its arguments print. -/
def formatted (format : List Char) (args : List Value) : Except FormatFault (List Char) := do
  let (laid, values, left) ← takeVerbs (format.length + 1) format args
  if left.isEmpty then layOut laid.length (laid.length + 1) laid values
  else .error (.extra left.length format)

end Stencil.Template
