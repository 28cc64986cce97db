import Stencil.Data.Calendar
import Stencil.Decimal.Binary64
import Stencil.Text.Utf8

/-!
# Values of data files

What configuration files and answers of a host hold: scalars, lists, and mappings that keep the order in
which their keys were first given.
-/

namespace Stencil.Data

open Decimal (Binary64)

/-- A value of a data file. -/
inductive Value
  /-- The absent value. -/
  | null
  /-- A truth value. -/
  | bool (b : Bool)
  /-- A whole number. -/
  | int (n : Int)
  /-- A binary number. -/
  | float (x : Binary64)
  /-- A text. -/
  | text (s : String)
  /-- A sequence of bytes. -/
  | bytes (b : Bytes)
  /-- A day. -/
  | date (d : Date)
  /-- A time on a day. -/
  | moment (m : Moment)
  /-- A list. -/
  | list (items : List Value)
  /-- A collection without order. -/
  | set (members : List Value)
  /-- A mapping, in the order of its keys. -/
  | mapping (entries : List (Value × Value))
deriving Repr

namespace Value

/-- The name of the kind of a value. -/
def kindName : Value → String
  | null => "NoneType"
  | bool _ => "bool"
  | int _ => "int"
  | float _ => "float"
  | text _ => "str"
  | bytes _ => "bytes"
  | date _ => "datetime.date"
  | moment _ => "datetime.datetime"
  | list _ => "list"
  | set _ => "set"
  | mapping _ => "dict"

/-- Whether a value counts as given: not absent, not false, not zero and not empty. -/
def isGiven : Value → Bool
  | null => false
  | bool b => b
  | int n => n ≠ 0
  | float x => !x.isZero
  | text s => s ≠ ""
  | bytes b => !b.isEmpty
  | date _ => true
  | moment _ => true
  | list items => !items.isEmpty
  | set members => !members.isEmpty
  | mapping entries => !entries.isEmpty

/-- Whether a value can be a key. -/
def isKey : Value → Bool
  | list _ => false
  | set _ => false
  | mapping _ => false
  | _ => true

/-- The number that a value counts as among keys. -/
def number? : Value → Option (Int ⊕ Binary64)
  | bool b => some (.inl (if b then 1 else 0))
  | int n => some (.inl n)
  | float x => some (match x.toInt? with | some n => .inl n | none => .inr x)
  | _ => none

/-- Whether two keys are the same; numbers of different kinds are when they are equal. -/
def sameKey (a b : Value) : Bool :=
  match a.number?, b.number? with
  | some (.inl n), some (.inl m) => n == m
  | some (.inr x), some (.inr y) => x.equal y
  | none, none =>
    match a, b with
    | null, null => true
    | text s, text t => s == t
    | bytes s, bytes t => s == t
    | date s, date t => s == t
    | moment s, moment t => s == t
    | _, _ => false
  | _, _ => false

/-- The entries of a mapping after one more is given; a key that is known keeps its place. -/
def insertEntry (key item : Value) : List (Value × Value) → List (Value × Value)
  | [] => [(key, item)]
  | (k, v) :: rest => if k.sameKey key then (k, item) :: rest else (k, v) :: insertEntry key item rest

/-- The entries of a mapping given one after the other. -/
def gather (entries : List (Value × Value)) : List (Value × Value) :=
  entries.foldl (fun seen entry => insertEntry entry.1 entry.2 seen) []

/-- The item of a text key among entries. -/
def find? (name : String) (entries : List (Value × Value)) : Option Value :=
  (entries.find? fun entry => match entry.1 with | text s => s == name | _ => false).map (·.2)

/-- The item of a text key of a mapping. -/
def get? (v : Value) (name : String) : Option Value :=
  match v with
  | mapping entries => find? name entries
  | _ => none

end Value

end Stencil.Data
