import Stencil.Data.Yaml.Cursor
import Stencil.Text.DecimalDigit
import Stencil.Text.Hex

/-!
# Tags

The tag of a value says what it is.  A plain text without a tag gets one from the way it is written: a word,
a number or a date has the tag of what it spells, and anything else is a text.
-/

namespace Stencil.Data.Yaml

/-- What every tag of the format begins with. -/
def tagStart : String := "tag:yaml.org,2002:"

/-- The tag of the format with a name. -/
def tagOf (name : String) : String :=
  tagStart ++ name

/-- Whether characters of a class and nothing else make up a text, of which one at least is there. -/
def isSpan (p : Char → Bool) (s : List Char) : Bool :=
  !s.isEmpty && s.all p

/-- Whether a character is a digit or an underscore. -/
def isDigitPart (c : Char) : Bool :=
  Text.isAsciiDigit c || c = '_'

/-- A text without the sign at its head. -/
def dropSign : List Char → List Char
  | '+' :: rest => rest
  | '-' :: rest => rest
  | s => s

/-- Whether a text is an exponent with a sign, or nothing. -/
def isExponent : List Char → Bool
  | [] => true
  | mark :: sign :: digits =>
    (mark = 'e' || mark = 'E') && (sign = '+' || sign = '-') && isSpan Text.isAsciiDigit digits
  | _ => false

/-- Whether a text is a digit and then digits and underscores. -/
def isDigits : List Char → Bool
  | [] => false
  | c :: rest => Text.isAsciiDigit c && rest.all isDigitPart

/-- Whether a part between colons is a number below sixty. -/
def isSixtieth : List Char → Bool
  | [a] => Text.isAsciiDigit a
  | [a, b] => '0' ≤ a && a ≤ '5' && Text.isAsciiDigit b
  | _ => false

/-- The parts of a text between colons. -/
def colonParts : List Char → List (List Char)
  | [] => [[]]
  | c :: rest =>
    if c = ':' then [] :: colonParts rest
    else
      match colonParts rest with
      | [] => [[c]]
      | part :: parts => (c :: part) :: parts

/-- Whether a text is a number and then numbers below sixty, between colons. -/
def isSixties (first : List Char → Bool) (s : List Char) : Bool :=
  match colonParts s with
  | part :: next :: more => first part && (next :: more).all isSixtieth
  | _ => false

/-- Whether a text is a number, numbers below sixty behind colons, and a point with digits. -/
def isPointedSixties (s : List Char) : Bool :=
  match s.dropWhile (· ≠ '.') with
  | '.' :: rest => isSixties isDigits (s.takeWhile (· ≠ '.')) && rest.all isDigitPart
  | _ => false

/-- Whether a text spells a binary number. -/
def isNumber (s : List Char) : Bool :=
  let body := dropSign s
  let pointed (s : List Char) : Bool :=
    let behind := s.dropWhile isDigitPart
    isExponent behind
  let named := String.ofList body
  (match body.dropWhile isDigitPart with
    | '.' :: rest => isDigits (body.takeWhile isDigitPart) && pointed rest
    | _ => false) ||
  (match s with
    | '.' :: c :: rest => Text.isAsciiDigit c && pointed rest
    | _ => false) ||
  isPointedSixties body ||
  named ∈ [".inf", ".Inf", ".INF"] || String.ofList s ∈ [".nan", ".NaN", ".NAN"]

/-- Whether a text spells a whole number. -/
def isWhole (s : List Char) : Bool :=
  let body := dropSign s
  (match body with
    | '0' :: 'b' :: digits => isSpan (fun c => c = '0' || c = '1' || c = '_') digits
    | '0' :: 'x' :: digits => isSpan (fun c => (Text.hexValue? c).isSome || c = '_') digits
    | '0' :: digits => digits.isEmpty || isSpan (fun c => '0' ≤ c && c ≤ '7' || c = '_') digits
    | c :: digits => Text.isAsciiDigit c && digits.all isDigitPart
    | [] => false) ||
  isSixties (fun part => part.head? ≠ some '0' && isDigits part) body

/-- The fields of a date, and of a time with its distance from universal time, as they are written. -/
structure WrittenMoment where
  /-- The digits of the year. -/
  year : List Char
  /-- The digits of the month. -/
  month : List Char
  /-- The digits of the day. -/
  day : List Char
  /-- The digits of the hour, the minute and the second, and those behind the point. -/
  time : Option (List Char × List Char × List Char × List Char) := none
  /-- The sign of the distance and the digits of its hours and minutes; no sign when there is no distance. -/
  zone : Option (Option Char × List Char × List Char) := none
deriving DecidableEq, Repr

/-- Up to a number of digits at the head of a text, and what follows them. -/
def leadingDigits (most : Nat) (s : List Char) : List Char × List Char :=
  let digits := (s.take most).takeWhile Text.isAsciiDigit
  (digits, s.drop digits.length)

/-- Digits of which there are at least and at most given numbers, behind a mark. -/
def markedDigits? (mark : Char) (least most : Nat) : List Char → Option (List Char × List Char)
  | [] => none
  | c :: rest =>
    let (digits, rest) := leadingDigits most rest
    if c = mark ∧ least ≤ digits.length then some (digits, rest) else none

/-- Whether a character is a space or a tab. -/
def isBlankChar (c : Char) : Bool :=
  c = ' ' || c = '\t'

/-- The distance from universal time that ends a text. -/
def readZone? (s : List Char) : Option (Option (Option Char × List Char × List Char)) :=
  match s.dropWhile isBlankChar with
  | [] => if s.isEmpty then some none else none
  | ['Z'] => some (some (none, [], []))
  | sign :: rest =>
    if sign = '+' ∨ sign = '-' then
      let (hours, rest) := leadingDigits 2 rest
      if hours.isEmpty then none
      else
        match rest with
        | [] => some (some (some sign, hours, []))
        | rest =>
          match markedDigits? ':' 2 2 rest with
          | some (minutes, []) => some (some (some sign, hours, minutes))
          | _ => none
    else none

/-- The time that ends a text, with its distance. -/
def readTime? (date : WrittenMoment) (s : List Char) : Option WrittenMoment := do
  let (hour, s) := leadingDigits 2 s
  if hour.isEmpty then none
  else
    let (minute, s) ← markedDigits? ':' 2 2 s
    let (second, s) ← markedDigits? ':' 2 2 s
    let (fraction, s) := match s with
      | '.' :: s => (s.takeWhile Text.isAsciiDigit, s.dropWhile Text.isAsciiDigit)
      | s => ([], s)
    let zone ← readZone? s
    some { date with time := some (hour, minute, second, fraction), zone }

/-- The date that a text spells, with a time behind it when one is there. -/
def readMoment? (s : List Char) : Option WrittenMoment := do
  let (year, s) := leadingDigits 4 s
  if year.length ≠ 4 then none
  else
    let (month, s) ← markedDigits? '-' 1 2 s
    let (day, s) ← markedDigits? '-' 1 2 s
    let date : WrittenMoment := ⟨year, month, day, none, none⟩
    match s with
    | [] => some date
    | c :: rest =>
      if c = 'T' ∨ c = 't' then readTime? date rest
      else if isBlankChar c then readTime? date (rest.dropWhile isBlankChar)
      else none

/-- Whether a text without a tag is read as a date; a date alone has all its digits then. -/
def isMoment (s : List Char) : Bool :=
  match readMoment? s with
  | some m => m.time.isSome || m.month.length = 2 && m.day.length = 2
  | none => false

/-- The words that are truth values, in lower case. -/
def flagWords : List (String × Bool) :=
  [("yes", true), ("no", false), ("true", true), ("false", false), ("on", true), ("off", false)]

/-- Whether a text is one of given words in lower case, with a capital, or in capitals. -/
def isWordOf (words : List String) (s : List Char) : Bool :=
  words.any fun word =>
    let letters := word.toList
    s = letters || s = letters.map Char.toUpper ||
      s = (match letters with
        | [] => []
        | c :: rest => c.toUpper :: rest)

/-- The tag of a plain text without its last line end. -/
def plainTagOf (s : List Char) : String :=
  tagOf (if isWordOf (flagWords.map (·.1)) s then "bool"
    else if isNumber s then "float"
    else if isWhole s then "int"
    else if s = ['<', '<'] then "merge"
    else if s = [] ∨ s = ['~'] ∨ isWordOf ["null"] s then "null"
    else if isMoment s then "timestamp"
    else if s = ['='] then "value"
    else "str")

/-- The tag of a plain text.  A line end behind it does not count, unless nothing else is there. -/
def plainTag (s : List Char) : String :=
  if s.getLast? = some '\n' ∧ s.length ≠ 1 then plainTagOf s.dropLast else plainTagOf s

end Stencil.Data.Yaml
