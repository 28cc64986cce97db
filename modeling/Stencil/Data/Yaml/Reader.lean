import Stencil.Data.Value
import Stencil.Data.Yaml.Node
import Stencil.Decimal.Reader
import Stencil.Text.Base64
import Stencil.Text.LetterCase

/-!
# Values of a document

The values that the nodes of a document stand for.  Mappings take over the entries of the mappings that they
merge, unless they have entries of the same key.  Values are made level by level, so that of several faults
the one nearest to the root counts.
-/

namespace Stencil.Data.Yaml

open Decimal (Binary64)

/-! ## Texts -/

/-- A text without underscores. -/
def dropUnderscores (s : List Char) : List Char :=
  s.filter (· ≠ '_')

/-- A whole number in a base. -/
def readWholeIn (base : Nat) (s : List Char) : Reading Int :=
  match Text.readWhole? base s with
  | some n => .ok n
  | none =>
    if Text.isTooLong base s && s.all Text.isAsciiDigit then .error (.tooLong s.length)
    else .error (.whole base s)

/-- The number that digits to the base of sixty spell. -/
def sixtiesValue (parts : List Int) : Int :=
  parts.foldl (fun n part => 60 * n + part) 0

/-- A whole number without its sign. -/
def readUnsigned (s : List Char) : Reading Int :=
  match s with
  | [] => .error .noDigits
  | ['0'] => .ok 0
  | '0' :: 'b' :: digits => readWholeIn 2 digits
  | '0' :: 'x' :: digits => readWholeIn 16 digits
  | '0' :: _ => readWholeIn 8 s
  | s =>
    if s.contains ':' then do return sixtiesValue (← (colonParts s).mapM (readWholeIn 10))
    else readWholeIn 10 s

/-- A whole number. -/
def readInteger (s : List Char) : Reading Value := do
  let s := dropUnderscores s
  if s.isEmpty then .error .noDigits
  else
    let n ← readUnsigned (dropSign s)
    return .int (if s.head? = some '-' then -n else n)

/-- The word for a number, with its sign, in lower case. -/
def namedNumber? (s : List Char) : Option Binary64 :=
  let (negative, word) := Decimal.readSign s
  match String.ofList word with
  | "inf" | "infinity" => some (.infinite negative)
  | "nan" => some .nan
  | _ => none

/-- A binary number; blanks around it do not count. -/
def readBinary (s : List Char) : Reading Binary64 :=
  let text := Text.trim s
  match (Decimal.read? text).or (namedNumber? text) with
  | some x => .ok x
  | none => .error (.number s)

/-- The number that binary digits to the base of sixty spell, summed from the last one. -/
def binarySixties (parts : List Binary64) : Binary64 :=
  (parts.reverse.foldl (fun (sum, base) part => (sum.add (part.mul (.ofInt base)), base * 60))
    ((.ofInt 0, 1) : Binary64 × Int)).1

/-- A binary number without its sign. -/
def readUnsignedBinary (s : List Char) : Reading Binary64 :=
  if s = ".inf".toList then .ok (.infinite false)
  else if s = ".nan".toList then .ok .nan
  else if s.contains ':' then do return binarySixties (← (colonParts s).mapM readBinary)
  else readBinary s

/-- A binary number. -/
def readFloat (s : List Char) : Reading Value := do
  let s := Text.lower (dropUnderscores s)
  if s.isEmpty then .error .noDigits
  else
    let x ← readUnsignedBinary (dropSign s)
    return .float (if s.head? = some '-' then x.neg else x)

/-- A truth value. -/
def readFlag (s : List Char) : Reading Value :=
  let word := Text.lower s
  match flagWords.lookup (String.ofList word) with
  | some b => .ok (.bool b)
  | none => .error (.flag word)

/-- A fault of the calendar as one of the document. -/
def onCalendar {α : Type} (e : Except CalendarFault α) : Reading α :=
  e.mapError .calendar

/-- The minutes by which a clock is ahead of universal time. -/
def minutesAhead : Option Char × List Char × List Char → Int
  | (sign, hours, minutes) =>
    let span : Int := Text.natOfDigits hours * 60 + Text.natOfDigits minutes
    if sign = some '-' then -span else span

/-- The millionths of a second that the digits behind a point spell. -/
def microseconds (fraction : List Char) : Nat :=
  let digits := fraction.take 6
  Text.natOfDigits (digits ++ List.replicate (6 - digits.length) '0')

/-- A day, or a time on one. -/
def readDay (s : List Char) : Reading Value :=
  match readMoment? (if s.getLast? = some '\n' then s.dropLast else s) with
  | none => .error .noDay
  | some m => do
    let year := Text.natOfDigits m.year
    let month := Text.natOfDigits m.month
    let day := Text.natOfDigits m.day
    match m.time with
    | none => return .date (← onCalendar (Date.of year month day))
    | some (hour, minute, second, fraction) =>
      return .moment (← onCalendar (Moment.of year month day (Text.natOfDigits hour)
        (Text.natOfDigits minute) (Text.natOfDigits second) (microseconds fraction)
        (m.zone.map minutesAhead)))

/-- The letter values of bytes written as letters; other characters do not count.  `place` is the number of
letters in the last group, `filling` that of equals signs behind them. -/
def letterValues (place filling : Nat) : List Char → Option (List Nat)
  | [] => if place = 0 then some [] else none
  | c :: rest =>
    if c = '=' then
      if 2 ≤ place ∧ 4 ≤ place + filling + 1 then some []
      else letterValues place (if 2 ≤ place then filling + 1 else filling) rest
    else
      match Text.Base64.value? c with
      | none => letterValues place filling rest
      | some n => (letterValues ((place + 1) % 4) 0 rest).map (n :: ·)

/-- Bytes written as letters. -/
def readLetters (s : List Char) : Reading Value :=
  if s.all (·.toNat < 0x80) then
    match letterValues 0 0 s with
    | some values => .ok (.bytes (Text.Base64.pack values))
    | none => malformed
  else malformed

/-- What a text with a tag stands for. -/
def readScalar (tag : String) (s : List Char) : Reading Value :=
  if tag = tagOf "str" then .ok (.text (String.ofList s))
  else if tag = tagOf "null" then .ok .null
  else if tag = tagOf "bool" then readFlag s
  else if tag = tagOf "int" then readInteger s
  else if tag = tagOf "float" then readFloat s
  else if tag = tagOf "timestamp" then readDay s
  else if tag = tagOf "binary" then readLetters s
  else malformed

/-! ## Nodes -/

/-- The tag of a node. -/
def Node.tag : Node → String
  | .scalar tag _ => tag
  | .list tag _ => tag
  | .mapping tag _ => tag
  | .reference _ => ""

/-- Nodes that have names, and how often a name inside the node of another one is still followed. -/
structure Names where
  /-- The nodes that have names. -/
  named : List (List Char × Node)
  /-- How often a name is still followed. -/
  jumps : Nat
deriving Repr

/-- The node of a name; it is not a name itself. -/
def Names.get (names : Names) (name : List Char) : Node :=
  (names.named.lookup name).getD emptyNode

/-- A node, or the one that it names. -/
def Names.resolve (names : Names) : Node → Node
  | .reference name => names.get name
  | node => node

/-- A key of a mapping; the mark of the value itself is a text. -/
def plainKey (key : Node) : Node :=
  match key with
  | .scalar tag text => if tag = tagOf "value" then .scalar (tagOf "str") text else key
  | key => key

/-- Whether a key asks to merge its value. -/
def isMergeKey (names : Names) (key : Node) : Bool :=
  (names.resolve key).tag = tagOf "merge"

mutual

/-- The entries of a mapping with those of the mappings that it merges in front. -/
def merged (names : Names) : (steps : Nat) → List (Node × Node) → Reading (List (Node × Node))
  | 0, _ => malformed
  | steps + 1, entries => do
    let taken ← mergedValues names steps ((entries.filter fun e => isMergeKey names e.1).map (·.2))
    let own := (entries.filter fun e => !isMergeKey names e.1).map fun (key, value) =>
      (plainKey (names.resolve key), value)
    return taken ++ own

/-- The entries that values of merge keys give, one behind the other. -/
def mergedValues (names : Names) : (steps : Nat) → List Node → Reading (List (Node × Node))
  | 0, _ => malformed
  | _ + 1, [] => .ok []
  | steps + 1, value :: rest => do
    let first ← match names.resolve value with
      | .mapping _ entries => merged names steps entries
      | .list _ items => mergedItems names steps items
      | _ => malformed
    return first ++ (← mergedValues names steps rest)

/-- The entries that a list of mappings gives, those of the last mapping in front. -/
def mergedItems (names : Names) : (steps : Nat) → List Node → Reading (List (Node × Node))
  | 0, _ => malformed
  | _ + 1, [] => .ok []
  | steps + 1, item :: rest => do
    let first ← match names.resolve item with
      | .mapping _ entries => merged names steps entries
      | _ => malformed
    return (← mergedItems names steps rest) ++ first

end

/-- The text of a node; a mapping may give the text of its value. -/
def scalarText (names : Names) : (steps : Nat) → Node → Reading (List Char)
  | 0, _ => malformed
  | steps + 1, node =>
    match node with
    | .scalar _ text => .ok text
    | .mapping _ entries =>
      match entries.find? fun e => (names.resolve e.1).tag = tagOf "value" with
      | some (_, value) => scalarText names steps (names.resolve value)
      | none => malformed
    | _ => malformed

/-- What making values gives: a fault comes with the level that it lies on. -/
abbrev Making (α : Type) := Except (Nat × Fault) α

/-- The outcome of making two values: the fault of the lower level counts, of one level the first. -/
def Making.both {α β : Type} (first : Making α) (second : Making β) : Making (α × β) :=
  match first, second with
  | .ok a, .ok b => .ok (a, b)
  | .error f, .ok _ => .error f
  | .ok _, .error g => .error g
  | .error f, .error g => .error (if g.1 < f.1 then g else f)

/-- A reading at a level. -/
def atLevel {α : Type} (level : Nat) (r : Reading α) : Making α :=
  r.mapError (level, ·)

mutual

/-- The value of a node that a level makes. -/
def make (names : Names) : (steps level : Nat) → Node → Making Value
  | 0, _, _ => .ok .null
  | steps + 1, level, node =>
    match node with
    | .list tag items =>
      if tag = tagOf "seq" then (makeItems names steps (level + 1) items).map .list
      else if tag = tagOf "omap" ∨ tag = tagOf "pairs" then
        (makePairs names steps (level + 1) items).map .list
      else if tag = tagOf "map" ∨ tag = tagOf "set" then .error (level + 1, .malformed)
      else .error (level, .malformed)
    | .mapping tag entries =>
      if tag = tagOf "map" then
        (makeMapping names steps (level + 1) entries).map fun made => .mapping (Value.gather made)
      else if tag = tagOf "set" then
        (makeMapping names steps (level + 1) entries).map fun made =>
          .set ((Value.gather made).map (·.1))
      else if tag = tagOf "seq" ∨ tag = tagOf "omap" ∨ tag = tagOf "pairs" then
        .error (level + 1, .malformed)
      else atLevel level ((scalarText names steps (.mapping tag entries)).bind (readScalar tag))
    | .scalar tag text =>
      if tag = tagOf "map" ∨ tag = tagOf "seq" ∨ tag = tagOf "set" ∨ tag = tagOf "omap" ∨
          tag = tagOf "pairs" then .error (level + 1, .malformed)
      else atLevel level (readScalar tag text)
    | .reference name =>
      if names.jumps = 0 then .ok .null
      else make { names with jumps := names.jumps - 1 } steps level (names.get name)

/-- The values of the items of a list. -/
def makeItems (names : Names) : (steps level : Nat) → List Node → Making (List Value)
  | 0, _, _ => .ok []
  | _ + 1, _, [] => .ok []
  | steps + 1, level, item :: rest =>
    ((make names steps level item).both (makeItems names steps level rest)).map fun (v, more) => v :: more

/-- The pairs that a list of mappings of one entry each stands for. -/
def makePairs (names : Names) : (steps level : Nat) → List Node → Making (List Value)
  | 0, _, _ => .ok []
  | _ + 1, _, [] => .ok []
  | steps + 1, level, item :: rest =>
    match names.resolve item with
    | .mapping _ [(key, value)] =>
      (((make names steps level key).both (make names steps level value)).both
        (makePairs names steps level rest)).map fun ((k, v), more) => .list [k, v] :: more
    | _ => .error (level, .malformed)

/-- The entries of a mapping with those of the mappings that it merges. -/
def makeMapping (names : Names) (steps level : Nat) (entries : List (Node × Node)) :
    Making (List (Value × Value)) :=
  match steps with
  | 0 => .ok []
  | steps + 1 =>
    match merged names (steps + 1) entries with
    | .error fault => .error (level, fault)
    | .ok entries => makeEntries names steps level entries

/-- The values of the entries of a mapping; no key is a list or a mapping. -/
def makeEntries (names : Names) : (steps level : Nat) → List (Node × Node) →
    Making (List (Value × Value))
  | 0, _, _ => .ok []
  | _ + 1, _, [] => .ok []
  | steps + 1, level, (key, value) :: rest =>
    let made : Making Value :=
      match make names steps level key with
      | .ok k => if k.isKey then .ok k else .error (level, .malformed)
      | .error fault => .error fault
    ((made.both (make names steps level value)).both (makeEntries names steps level rest)).map
      fun ((k, v), more) => (k, v) :: more

end

/-- The number of nodes of a node. -/
def nodeSize : Node → Nat
  | .scalar _ _ => 1
  | .reference _ => 1
  | .list _ items => 1 + sizes items
  | .mapping _ entries => 1 + entrySizes entries
where
  /-- The number of nodes of the items of a list. -/
  sizes : List Node → Nat
    | [] => 0
    | item :: rest => 1 + nodeSize item + sizes rest
  /-- The number of nodes of the entries of a mapping. -/
  entrySizes : List (Node × Node) → Nat
    | [] => 0
    | (key, value) :: rest => 1 + nodeSize key + nodeSize value + entrySizes rest

/-- How often a name that leads into its own node is followed beyond the number of names. -/
def unfoldings : Nat := 4

/-- The value of a document.  A name may lead into the node that it stands for; such a value is unfolded a few
times. -/
def Document.value (d : Document) : Reading Value :=
  let jumps := d.named.length + unfoldings
  let steps := 4 * (jumps + 1) * (nodeSize d.root + d.named.foldl (fun n entry => n + nodeSize entry.2) 1)
  (make ⟨d.named, jumps⟩ steps 0 d.root).mapError (·.2)

/-- The value that a text holds; a text without a document holds none. -/
def read (text : List Char) : Reading Value := do
  match ← documentOf (← tokens text) with
  | none => return .null
  | some d => d.value

end Stencil.Data.Yaml
