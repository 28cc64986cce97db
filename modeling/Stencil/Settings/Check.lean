import Stencil.Data.Form
import Stencil.Decimal.Layout
import Stencil.Decimal.Reader
import Stencil.Disk.Path
import Stencil.Settings.Basic
import Stencil.Text.Blank

/-!
# Checking values

A value of a data file is accepted for a field of the settings when it can be understood as what the field
holds.  Checks of several fields are all made, so that every fault is found at once, in the order of the
fields.
-/

namespace Stencil.Settings

open Data (Value)
open Decimal (Binary64)

/-- Why a value is refused. -/
inductive Cause
  /-- It is no text. -/
  | notText
  /-- Its bytes are no text. -/
  | undecodableText
  /-- It is no number. -/
  | notNumber
  /-- Its text spells no number. -/
  | unreadableNumber
  /-- It is not greater than zero. -/
  | notPositive
  /-- It is no truth value. -/
  | notFlag
  /-- It does not mean a truth value. -/
  | unreadableFlag
  /-- It is no list. -/
  | notList
  /-- It is no mapping; the settings it should give have a name. -/
  | notMapping (settings : String)
  /-- Its key is no text. -/
  | keyNotText
  /-- Its key is not known. -/
  | unknownKey
  /-- It breaks a rule, which has a wording of its own. -/
  | rule (wording : String)
deriving DecidableEq, Repr

namespace Cause

/-- The name of a cause. -/
def name : Cause → String
  | notText => "string_type"
  | undecodableText => "string_unicode"
  | notNumber => "float_type"
  | unreadableNumber => "float_parsing"
  | notPositive => "greater_than"
  | notFlag => "bool_type"
  | unreadableFlag => "bool_parsing"
  | notList => "list_type"
  | notMapping _ => "model_type"
  | keyNotText => "invalid_key"
  | unknownKey => "extra_forbidden"
  | rule _ => "value_error"

/-- The wording of a cause. -/
def message : Cause → String
  | notText => "Input should be a valid string"
  | undecodableText => "Input should be a valid string, unable to parse raw data as a unicode string"
  | notNumber => "Input should be a valid number"
  | unreadableNumber => "Input should be a valid number, unable to parse string as a number"
  | notPositive => "Input should be greater than 0"
  | notFlag => "Input should be a valid boolean"
  | unreadableFlag => "Input should be a valid boolean, unable to interpret input"
  | notList => "Input should be a valid list"
  | notMapping settings => "Input should be a valid dictionary or instance of " ++ settings
  | keyNotText => "Keys should be strings"
  | unknownKey => "Extra inputs are not permitted"
  | rule wording => "Value error, " ++ wording

end Cause

/-- A refused value. -/
structure Fault where
  /-- The keys that lead to it. -/
  place : List String
  /-- Why it is refused. -/
  cause : Cause
deriving DecidableEq, Repr

/-- What a check gives: a result, or all faults. -/
def Checked (α : Type) := Except (List Fault) α

namespace Checked

variable {α β : Type}

/-- A check that finds no fault. -/
def accept (a : α) : Checked α :=
  .ok a

/-- A check that finds one fault, here. -/
def refuse (cause : Cause) : Checked α :=
  .error [⟨[], cause⟩]

/-- The faults that a check finds. -/
def faults : Checked α → List Fault
  | .ok _ => []
  | .error found => found

/-- A result put through a function. -/
def map (f : α → β) : Checked α → Checked β
  | .ok a => .ok (f a)
  | .error found => .error found

/-- A result checked further. -/
def andThen (c : Checked α) (next : α → Checked β) : Checked β :=
  match c with
  | .ok a => next a
  | .error found => .error found

/-- Two checks that are both made. -/
def both (f : Checked (α → β)) (c : Checked α) : Checked β :=
  match f, c with
  | .ok f, .ok a => .ok (f a)
  | f, c => .error (f.faults ++ c.faults)

instance : Applicative Checked where
  pure := accept
  map := map
  seq f c := both f (c ())

/-- A check of what is under a key. -/
def under (key : String) : Checked α → Checked α
  | .ok a => .ok a
  | .error found => .error (found.map fun fault => { fault with place := key :: fault.place })

end Checked

/-- Checks each item of a list; faults name the place of the item. -/
def checkItems {α : Type} (check : Value → Checked α) (index : Nat) : List Value → Checked (List α)
  | [] => .accept []
  | v :: rest => List.cons <$> (check v).under (toString index) <*> checkItems check (index + 1) rest

/-- A text; bytes count as the text they are written for. -/
def checkText : Value → Checked String
  | .text s => .accept s
  | .bytes b =>
    match Text.Utf8.decode b with
    | .ok s => .accept (String.ofList s)
    | .error _ => .refuse .undecodableText
  | _ => .refuse .notText

/-- A text that may be absent. -/
def checkOptionalText : Value → Checked (Option String)
  | .null => .accept none
  | v => (checkText v).map some

/-- Whether a character may stand around a number. -/
def isMargin (c : Char) : Bool :=
  Text.isBlank c && !(28 ≤ c.toNat && c.toNat ≤ 31)

/-- A text without margins. -/
def trimMargin (s : List Char) : List Char :=
  Text.trimEndWith isMargin (Text.trimStartWith isMargin s)

/-- The number that a word names. -/
def namedNumber? (s : List Char) : Option Binary64 :=
  let (negative, word) := Decimal.readSign s
  match String.ofList (word.map Char.toLower) with
  | "inf" | "infinity" => some (.infinite negative)
  | "nan" => some .nan
  | _ => none

/-- The number that a text spells or names. -/
def spelledNumber? (s : List Char) : Option Binary64 :=
  (Decimal.read? s).or (namedNumber? s)

/-- A text without its underscores, each of which stands alone between other characters. -/
def dropUnderscores? (s : List Char) : Option (List Char) :=
  let pieces := Disk.splitAtChar '_' s
  if pieces.length = 1 ∨ [] ∈ pieces then none else some pieces.flatten

/-- A number in a text. -/
def readNumber? (s : List Char) : Option Binary64 :=
  (spelledNumber? (trimMargin s)).or ((dropUnderscores? s).bind spelledNumber?)

/-- The finite number for a whole one. -/
def wholeNumber? (n : Int) : Option Binary64 :=
  match Binary64.ofInt n with
  | .infinite _ => none
  | x => some x

/-- A number that a text spells. -/
def checkSpelledNumber (s : List Char) : Checked Binary64 :=
  match readNumber? s with
  | some x => .accept x
  | none => .refuse .unreadableNumber

/-- A number; truth values and texts count as numbers. -/
def checkNumber : Value → Checked Binary64
  | .float x => .accept x
  | .bool b => .accept (.ofInt (if b then 1 else 0))
  | .int n =>
    match wholeNumber? n with
    | some x => .accept x
    | none => .refuse .notNumber
  | .text s => checkSpelledNumber s.toList
  | .bytes b =>
    match Text.Utf8.decode b with
    | .ok s => checkSpelledNumber s
    | .error _ => .refuse .unreadableNumber
  | _ => .refuse .notNumber

/-- A number greater than zero. -/
def checkPositive (v : Value) : Checked Binary64 :=
  (checkNumber v).andThen fun x => if x.isPositive then .accept x else .refuse .notPositive

/-- The words that mean false. -/
def falseWords : List String := ["0", "f", "n", "no", "off", "false"]

/-- The words that mean true. -/
def trueWords : List String := ["1", "t", "y", "on", "yes", "true"]

/-- A truth value that a word means in any case of its letters. -/
def checkWord (s : List Char) : Checked Bool :=
  let word := String.ofList (s.map Char.toLower)
  if word ∈ falseWords then .accept false
  else if word ∈ trueWords then .accept true
  else .refuse .unreadableFlag

/-- A truth value that a whole number means. -/
def checkBit (n : Int) : Checked Bool :=
  if n = 0 then .accept false else if n = 1 then .accept true else .refuse .unreadableFlag

/-- The bound below which whole binary numbers are looked at as numbers, `2 ^ 63`. -/
def wholeBound : Nat := 9223372036854775808

/-- A truth value; words and the numbers zero and one count as truth values. -/
def checkFlag : Value → Checked Bool
  | .bool b => .accept b
  | .text s => checkWord s.toList
  | .bytes b =>
    match Text.Utf8.decode b with
    | .ok s => checkWord s
    | .error _ => .refuse .unreadableFlag
  | .int n => checkBit n
  | .float x =>
    match x.toInt? with
    | some n => if n.natAbs < wholeBound then checkBit n else .refuse .notFlag
    | none => .refuse .notFlag
  | _ => .refuse .notFlag

/-- A list of texts. -/
def checkTexts : Value → Checked (List String)
  | .list items => checkItems checkText 0 items
  | .set members => checkItems checkText 0 members
  | _ => .refuse .notList

/-- A key of a mapping as a step on the way to what it leads to. -/
def keyStep : Value → String
  | .text s => s
  | .bool b => if b then "1" else "0"
  | v => v.form

/-- The faults of the keys that are not among those known. -/
def strangerFaults (known : List String) : List (Value × Value) → List Fault
  | [] => []
  | (.text s, _) :: rest =>
    if s ∈ known then strangerFaults known rest else ⟨[s], .unknownKey⟩ :: strangerFaults known rest
  | (key, _) :: rest => ⟨[keyStep key], .keyNotText⟩ :: strangerFaults known rest

/-- A check that a mapping has no keys but those known. -/
def checkKeys (known : List String) (entries : List (Value × Value)) : Checked Unit :=
  match strangerFaults known entries with
  | [] => .accept ()
  | found => .error found

/-- A check of what is under a key of a mapping; what is not there has its default. -/
def checkField {α : Type} (key : String) (default : α) (check : Value → Checked α)
    (entries : List (Value × Value)) : Checked α :=
  match Value.find? key entries with
  | some v => (check v).under key
  | none => .accept default

/-- A check of the entries of a mapping that gives settings of some name. -/
def checkMapping {α : Type} (settings : String) (check : List (Value × Value) → Checked α) :
    Value → Checked α
  | .mapping entries => check entries
  | _ => .refuse (.notMapping settings)

end Stencil.Settings
