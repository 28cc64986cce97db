import Stencil.Console.Layout
import Stencil.Console.Markup

/-!
# Tables

A table has a title, headings and rows of cells, all of them marked text.  It is as wide as its widest cells
ask for, and a title that is wider is broken.
-/

namespace Stencil.Console

/-- A line that is printed. -/
inductive Line
  /-- A line of text. -/
  | text (s : String)
  /-- A line of a table, cell by cell. -/
  | row (cells : List String)
deriving DecidableEq, Repr

/-- A table. -/
structure Table where
  /-- What stands above it. -/
  title : String
  /-- The headings of the columns. -/
  headings : List String
  /-- The rows of cells. -/
  rows : List (List String)
deriving DecidableEq, Repr

/-- The lines that marked text shows. -/
def shownLines (s : String) : Except MarkupFault (List (List Char)) :=
  (shown s.toList).map plainLines

/-- The lines of text that marked text is printed as. -/
def printed (s : String) : Except MarkupFault (List Line) :=
  (shownLines s).map fun lines => lines.map fun line => .text (String.ofList line)

namespace Table

/-- The cells of a column, the heading first. -/
def column (t : Table) (i : Nat) : List String :=
  t.headings.getD i "" :: t.rows.map fun row => row.getD i ""

/-- What the columns show: the lines of their cells. -/
def columns (t : Table) : Except MarkupFault (List (List (List (List Char)))) :=
  (List.range t.headings.length).mapM fun i => (t.column i).mapM shownLines

/-- The width of a column that shows the given cells. -/
def columnWidth (cells : List (List (List Char))) : Nat :=
  (cells.flatten.map Text.totalWidth).foldl max 0

/-- The width of a table with columns of the given widths: two blanks in every cell, and a rule before each
column and behind the last. -/
def tableWidth (widths : List Nat) : Nat :=
  widths.foldl (fun n w => n + w + 3) 1

/-- The lines of the row of cells in a place of every column. -/
def rowLines (columns : List (List (List (List Char)))) (place : Nat) : List Line :=
  let cells := columns.map fun cells => cells.getD place []
  let height := (cells.map List.length).foldl max 0
  (List.range height).map fun k => .row (cells.map fun lines => String.ofList (lines.getD k []))

/-- The lines of a table. -/
def lines (t : Table) : Except MarkupFault (List Line) := do
  let columns ← t.columns
  let title ← shown t.title.toList
  let wide := tableWidth (columns.map columnWidth)
  let titleLines := (wrap wide title).map fun line => Line.text (String.ofList (Text.trim line))
  return titleLines ++ (List.range (t.rows.length + 1)).flatMap (rowLines columns)

end Table

end Stencil.Console
