import Stencil.Data.Form
import Stencil.Data.Json.Writer

/-!
# Values of templates

What actions compute, how values are compared, and how they are printed.
-/

namespace Stencil.Template

/-- A value of a template. -/
inductive Value
  /-- No value. -/
  | none
  /-- A truth value. -/
  | bool (b : Bool)
  /-- A whole number. -/
  | int (n : Int)
  /-- A text. -/
  | text (s : List Char)
  /-- A list. -/
  | list (items : List Value)
deriving Repr

namespace Value

mutual

/-- A value as a value of data files. -/
def toData : Value → Data.Value
  | none => .null
  | bool b => .bool b
  | int n => .int n
  | text s => .text (String.ofList s)
  | list items => .list (toDatas items)

/-- Values as values of data files. -/
def toDatas : List Value → List Data.Value
  | [] => []
  | v :: rest => v.toData :: toDatas rest

end

/-- The name of the kind of a value. -/
def kindName (v : Value) : String :=
  v.toData.kindName

/-- Whether a value counts as given: present, true, not zero and not empty. -/
def isGiven : Value → Bool
  | none => false
  | bool b => b
  | int n => n ≠ 0
  | text s => !s.isEmpty
  | list items => !items.isEmpty

/-- Whether a value is a text. -/
def isText : Value → Bool
  | text _ => true
  | _ => false

/-- The whole number that a value counts as. -/
def toInt? : Value → Option Int
  | bool b => some (if b then 1 else 0)
  | int n => some n
  | _ => Option.none

mutual

/-- Whether two values are equal; truth values are numbers. -/
def same : Value → Value → Bool
  | none, none => true
  | text s, text t => s == t
  | list a, list b => sameItems a b
  | list _, _ => false
  | a, b =>
    match a.toInt?, b.toInt? with
    | some n, some m => n == m
    | _, _ => false

/-- Whether two rows of values are equal. -/
def sameItems : List Value → List Value → Bool
  | [], [] => true
  | a :: as, b :: bs => same a b && sameItems as bs
  | _, _ => false

end

/-- A relation between values. -/
inductive Comparison
  /-- Less. -/
  | lt
  /-- Less or equal. -/
  | le
  /-- Greater. -/
  | gt
  /-- Greater or equal. -/
  | ge
deriving DecidableEq, Repr

namespace Comparison

/-- The sign of a relation. -/
def symbol : Comparison → String
  | lt => "<"
  | le => "<="
  | gt => ">"
  | ge => ">="

/-- Whether a relation holds for an order of two values. -/
def holds : Comparison → Ordering → Bool
  | lt, o => o == .lt
  | le, o => o != .gt
  | gt, o => o == .gt
  | ge, o => o != .lt

end Comparison

/-- The order of two texts by their code points. -/
def orderTexts : List Char → List Char → Ordering
  | [], [] => .eq
  | [], _ :: _ => .lt
  | _ :: _, [] => .gt
  | a :: as, b :: bs =>
    if a.toNat < b.toNat then .lt else if b.toNat < a.toNat then .gt else orderTexts as bs

mutual

/-- The order of two values, or the kinds of two values that have none. -/
def order : Value → Value → Except (String × String) Ordering
  | text s, text t => .ok (orderTexts s t)
  | list a, list b => orderItems a b
  | list a, b => .error ((list a).kindName, b.kindName)
  | a, b =>
    match a.toInt?, b.toInt? with
    | some n, some m => .ok (compare n m)
    | _, _ => .error (a.kindName, b.kindName)

/-- The order of two rows of values: that of the first unequal pair, or else that of the lengths. -/
def orderItems : List Value → List Value → Except (String × String) Ordering
  | [], [] => .ok .eq
  | [], _ :: _ => .ok .lt
  | _ :: _, [] => .ok .gt
  | a :: as, b :: bs => if same a b then orderItems as bs else order a b

end

/-- A value as an operand of the printing functions. -/
def operandText : Value → List Char
  | none => "<nil>".toList
  | bool b => (if b then "true" else "false").toList
  | text s => s
  | v => v.toData.display.toList

/-- A value as it is printed by an action. -/
def printed : Value → List Char
  | none => "<no value>".toList
  | v => v.operandText

end Value

end Stencil.Template
