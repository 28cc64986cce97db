import Stencil.Text.Hex

/-!
# Reading escapes

The inverse of writing escapes: backslash sequences for control characters, octal and hexadecimal codes.
A sequence that is not known stands for itself.  A refusal names the stretch that could not be read, in
columns in which a character outside ASCII is ten wide.
-/

namespace Stencil.Text

/-- Why an escape cannot be read. -/
inductive EscapeReason
  /-- Fewer than two hexadecimal digits after an `x`. -/
  | shortByte
  /-- Fewer than four hexadecimal digits after a `u`. -/
  | shortUnit
  /-- Fewer than eight hexadecimal digits after a `U`. -/
  | shortCode
  /-- A code above the last character. -/
  | beyondLast
  /-- A character name that is not between braces. -/
  | malformedName
  /-- A character name that names nothing. -/
  | unknownName
deriving DecidableEq, Repr

/-- An escape that cannot be read, with its first column and the column after its last. -/
structure EscapeFault where
  /-- Why it cannot be read. -/
  reason : EscapeReason
  /-- The column of its backslash. -/
  start : Nat
  /-- The first column that is not part of it. -/
  stop : Nat
deriving DecidableEq, Repr

/-- The columns that a character takes. -/
def columns (c : Char) : Nat :=
  if c.toNat < 0x80 then 1 else 10

/-- The columns that a text takes; a backslash before a character outside ASCII is six wide. -/
def columnsOf : List Char → Nat
  | [] => 0
  | '\\' :: c :: rest => (if c.toNat < 0x80 then 2 else 6 + columns c) + columnsOf rest
  | c :: rest => columns c + columnsOf rest

/-- At most `count` leading hexadecimal digits: how many there are, their value and the rest. -/
def hexRun : (count : Nat) → (value : Nat) → List Char → Nat × Nat × List Char
  | 0, value, s => (0, value, s)
  | _ + 1, value, [] => (0, value, [])
  | count + 1, value, c :: rest =>
    match hexValue? c with
    | some d => let (n, v, r) := hexRun count (16 * value + d) rest; (n + 1, v, r)
    | none => (0, value, c :: rest)

/-- A code written with `count` hexadecimal digits, after the backslash at column `column` and its letter. -/
def readCode (column count : Nat) (reason : EscapeReason) (s : List Char) :
    Except EscapeFault (List Char × Nat × List Char) :=
  let (found, value, rest) := hexRun count 0 s
  if found < count then .error ⟨reason, column, column + 2 + found⟩
  else if 0x10FFFF < value then .error ⟨.beyondLast, column, column + 2 + count⟩
  else .ok ([if value.isValidChar then Char.ofNat value else '\uFFFD'], 2 + count, rest)

/-- Up to two further octal digits after a first one of value `value`. -/
def octalRun : (count : Nat) → (value : Nat) → List Char → Nat × Nat × List Char
  | 0, value, s => (0, value, s)
  | _ + 1, value, [] => (0, value, [])
  | count + 1, value, c :: rest =>
    if '0' ≤ c ∧ c ≤ '7' then
      let (n, v, r) := octalRun count (8 * value + (c.toNat - 48)) rest
      (n + 1, v, r)
    else (0, value, c :: rest)

/-- The refusal of a character name after the backslash at `column`; `s` follows the letter. -/
def nameFault (column : Nat) (s : List Char) : EscapeFault :=
  match s with
  | '{' :: inner =>
    let name := inner.takeWhile (· ≠ '}')
    if name.length = inner.length then ⟨.malformedName, column, column + 3 + columnsOf inner⟩
    else if name = [] then ⟨.malformedName, column, column + 3⟩
    else ⟨.unknownName, column, column + 4 + columnsOf name⟩
  | _ => ⟨.malformedName, column, column + 2⟩

/-- One escape after the backslash at `column`: what it stands for, its width and the rest. -/
def readEscape (column : Nat) : List Char → Except EscapeFault (List Char × Nat × List Char)
  | [] => .ok (['\\'], 1, [])
  | c :: rest =>
    match c with
    | '\n' => .ok ([], 2, rest)
    | '\\' => .ok (['\\'], 2, rest)
    | '\'' => .ok (['\''], 2, rest)
    | '"' => .ok (['"'], 2, rest)
    | 'a' => .ok (['\x07'], 2, rest)
    | 'b' => .ok (['\x08'], 2, rest)
    | 't' => .ok (['\t'], 2, rest)
    | 'n' => .ok (['\n'], 2, rest)
    | 'v' => .ok (['\x0b'], 2, rest)
    | 'f' => .ok (['\x0c'], 2, rest)
    | 'r' => .ok (['\r'], 2, rest)
    | 'x' => readCode column 2 .shortByte rest
    | 'u' => readCode column 4 .shortUnit rest
    | 'U' => readCode column 8 .shortCode rest
    | 'N' => .error (nameFault column rest)
    | _ =>
      if '0' ≤ c ∧ c ≤ '7' then
        let (n, value, r) := octalRun 2 (c.toNat - 48) rest
        .ok ([Char.ofNat value], 2 + n, r)
      else .ok (['\\', c], if c.toNat < 0x80 then 2 else 6 + columns c, rest)

theorem hexRun_length_le (count value : Nat) (s : List Char) :
    (hexRun count value s).2.2.length ≤ s.length := by
  induction s generalizing count value with
  | nil => cases count <;> simp [hexRun]
  | cons c rest ih =>
    cases count with
    | zero => simp [hexRun]
    | succ count =>
      cases h : hexValue? c with
      | none => simp [hexRun, h]
      | some d =>
        simp only [hexRun, h]
        exact Nat.le_succ_of_le (ih count (16 * value + d))

theorem octalRun_length_le (count value : Nat) (s : List Char) :
    (octalRun count value s).2.2.length ≤ s.length := by
  induction s generalizing count value with
  | nil => cases count <;> simp [octalRun]
  | cons c rest ih =>
    cases count with
    | zero => simp [octalRun]
    | succ count =>
      by_cases h : '0' ≤ c ∧ c ≤ '7'
      · simp only [octalRun, h, and_self, if_true]
        exact Nat.le_succ_of_le (ih count (8 * value + (c.toNat - 48)))
      · simp [octalRun, h]

theorem readCode_length_le {column count : Nat} {reason : EscapeReason} {s : List Char}
    {result : List Char × Nat × List Char} (read : readCode column count reason s = .ok result) :
    result.2.2.length ≤ s.length := by
  have shorter := hexRun_length_le count 0 s
  revert read
  rcases run : hexRun count 0 s with ⟨found, value, rest⟩
  rw [run] at shorter
  simp only [readCode, run]
  split
  · simp
  · split
    · simp
    · rintro ⟨⟩
      exact shorter

/-- What follows an escape is no longer than what follows its backslash. -/
theorem readEscape_length_le {column : Nat} {s : List Char} {result : List Char × Nat × List Char}
    (read : readEscape column s = .ok result) : result.2.2.length ≤ s.length := by
  revert read
  unfold readEscape
  split
  · rintro ⟨⟩
    simp
  · rename_i c rest
    split <;> try (rintro ⟨⟩; simp)
    · exact fun read => Nat.le_succ_of_le (readCode_length_le read)
    · exact fun read => Nat.le_succ_of_le (readCode_length_le read)
    · exact fun read => Nat.le_succ_of_le (readCode_length_le read)
    · nofun
    · split
      · have shorter := octalRun_length_le 2 (c.toNat - 48) rest
        rintro ⟨⟩
        exact Nat.le_succ_of_le shorter
      · rintro ⟨⟩
        simp

/-- The text that an escaped text stands for, when it begins at `column`. -/
def unescapeFrom (column : Nat) (s : List Char) : Except EscapeFault (List Char) :=
  match s with
  | [] => .ok []
  | c :: rest =>
    if c = '\\' then
      match _step : readEscape column rest with
      | .error fault => .error fault
      | .ok (text, width, rest') => (unescapeFrom (column + width) rest').map (text ++ ·)
    else (unescapeFrom (column + columns c) rest).map (c :: ·)
termination_by s.length
decreasing_by
  · have := readEscape_length_le _step
    simp only [List.length_cons]
    simp only at this
    omega
  · simp

/-- The text that an escaped text stands for. -/
def unescape (s : List Char) : Except EscapeFault (List Char) :=
  unescapeFrom 0 s

end Stencil.Text
