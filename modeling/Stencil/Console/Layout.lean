import Stencil.Text.Blank
import Stencil.Text.Width

/-!
# Lines of the console

Text is laid out in lines: tabs lead to the next multiple of eight columns, and text that is wider than its
place is broken between words, or within a word that is wider than the place itself.
-/

namespace Stencil.Console

open Text (width totalWidth isBlank)

/-- The columns from one tab to the next. -/
def tabWidth : Nat := 8

/-- A line in which blanks stand for tabs; the line begins at a column. -/
def expandTabs (column : Nat) : List Char → List Char
  | [] => []
  | '\t' :: rest =>
    let count := tabWidth - column % tabWidth
    List.replicate count ' ' ++ expandTabs (column + count) rest
  | c :: rest => c :: expandTabs (column + width c) rest

/-- The lines of a text. -/
def textLines : List Char → List (List Char)
  | [] => [[]]
  | '\n' :: rest => [] :: textLines rest
  | c :: rest =>
    match textLines rest with
    | [] => [[c]]
    | line :: more => (c :: line) :: more

/-- The lines of a text without tabs. -/
def plainLines (s : List Char) : List (List Char) :=
  (textLines s).map (expandTabs 0)

/-- The words of a line with the blanks around them: those behind a word belong to it, and those at the head
to the first word. -/
def wordsFrom (fuel : Nat) (s : List Char) : List (List Char) :=
  match fuel with
  | 0 => []
  | fuel + 1 =>
    let head := s.takeWhile isBlank
    let rest := s.drop head.length
    let body := rest.takeWhile (!isBlank ·)
    let tail := (rest.drop body.length).takeWhile isBlank
    if body.isEmpty then [] else (head ++ body ++ tail) :: wordsFrom fuel (rest.drop (body.length + tail.length))

/-- The words of a line. -/
def words (s : List Char) : List (List Char) :=
  wordsFrom s.length s

/-- Cuts a word into pieces that are as wide as possible; `column` is the width of the piece begun. -/
def chop (wide column : Nat) : List Char → List (List Char)
  | [] => [[]]
  | c :: rest =>
    if wide < column + width c then
      match chop wide (width c) rest with
      | [] => [[], [c]]
      | piece :: more => [] :: (c :: piece) :: more
    else
      match chop wide (column + width c) rest with
      | [] => [[c]]
      | piece :: more => (c :: piece) :: more

/-- Lines that are being filled. -/
structure Filling where
  /-- The full lines. -/
  full : List (List Char) := []
  /-- The line begun. -/
  line : List Char := []
  /-- The columns of the line begun that count as taken. -/
  column : Nat := 0
  /-- Whether anything came before. -/
  started : Bool := false

/-- Begins a new line with a word, unless nothing came before. -/
def Filling.break (f : Filling) (word : List Char) : Filling :=
  if f.started then ⟨f.full ++ [f.line], word, totalWidth word, true⟩
  else ⟨f.full, word, totalWidth word, true⟩

/-- Adds a word to lines of a width. -/
def Filling.add (wide : Nat) (f : Filling) (word : List Char) : Filling :=
  let needed := totalWidth (Text.trimEnd word)
  if f.column + needed ≤ wide then ⟨f.full, f.line ++ word, f.column + totalWidth word, true⟩
  else if wide < needed then (chop wide 0 word).foldl Filling.break f
  else f.break word

/-- The lines of a line that is broken at a width. -/
def wrapLine (wide : Nat) (s : List Char) : List (List Char) :=
  let filled := (words s).foldl (Filling.add wide) {}
  filled.full ++ [filled.line]

/-- The lines of a text that is broken at a width. -/
def wrap (wide : Nat) (s : List Char) : List (List Char) :=
  (plainLines s).flatMap (wrapLine wide)

end Stencil.Console
