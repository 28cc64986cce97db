/-!
# Blanks

The characters that separate words, and the two operations that depend on them: trimming a text and
cutting its first word off.
-/

namespace Stencil.Text

/-- Whether a character separates words: the ASCII separators, the line ends and the spaces of all scripts. -/
def isBlank (c : Char) : Bool :=
  let n := c.toNat
  (9 ≤ n && n ≤ 13) || (28 ≤ n && n ≤ 32) || n == 0x85 || n == 0xA0 || n == 0x1680 ||
    (0x2000 ≤ n && n ≤ 0x200A) || n == 0x2028 || n == 0x2029 || n == 0x202F || n == 0x205F || n == 0x3000

/-- Drops leading characters of a class. -/
def trimStartWith (p : Char → Bool) (s : List Char) : List Char :=
  s.dropWhile p

/-- Drops trailing characters of a class. -/
def trimEndWith (p : Char → Bool) (s : List Char) : List Char :=
  (s.reverse.dropWhile p).reverse

/-- Drops leading blanks. -/
def trimStart (s : List Char) : List Char :=
  trimStartWith isBlank s

/-- Drops trailing blanks. -/
def trimEnd (s : List Char) : List Char :=
  trimEndWith isBlank s

/-- Drops blanks at both ends. -/
def trim (s : List Char) : List Char :=
  trimEnd (trimStart s)

/-- The first word of a text and what follows the blanks behind it. -/
def splitWord (s : List Char) : List Char × List Char :=
  let start := trimStart s
  (start.takeWhile (!isBlank ·), trimStart (start.dropWhile (!isBlank ·)))

/-- Trims a string at both ends. -/
def trimString (s : String) : String :=
  String.ofList (trim s.toList)

end Stencil.Text
