import Mathlib
import Stencil.Proofs.Console.Literal

/-!
# Rows of tables

A row of a table takes as many lines as its highest cell.  So a table prints its rows as they are exactly if each cell
shows itself: a cell that shows anything else changes its row, or takes more lines, or keeps the table from being
printed.
-/

namespace Stencil

/-- Parts that are put together to the list they come from are each the one item. -/
theorem eq_singleton_of_flatMap_eq_self {α : Type} {parts : α → List α} {l : List α}
    (some : ∀ a ∈ l, parts a ≠ []) (same : l.flatMap parts = l) : ∀ a ∈ l, parts a = [a] := by
  induction l with
  | nil => nofun
  | cons a rest induction =>
      obtain ⟨some, others⟩ := List.forall_mem_cons.mp some
      obtain ⟨first, more, split⟩ := List.exists_cons_of_ne_nil some
      rw [List.flatMap_cons, split, List.cons_append] at same
      obtain ⟨rfl, behind⟩ := List.cons.inj same
      -- The parts of the other items are as many as these at least, so nothing is left for the first one.
      have enough : rest.length ≤ (rest.flatMap parts).length := by
        have sizes : ∀ n ∈ rest.map fun b => (parts b).length, 1 ≤ n :=
          List.forall_mem_map.mpr fun b known => List.length_pos_iff.mpr (others b known)
        have sum := List.length_le_sum_of_one_le _ sizes
        rwa [List.length_map, ← List.length_flatMap] at sum
      have whole := congrArg List.length behind
      rw [List.length_append] at whole
      obtain rfl : more = [] := List.length_eq_zero_iff.mp (by omega)
      exact List.forall_mem_cons.mpr ⟨split, induction others behind⟩

theorem foldl_max_le_iff {l : List Nat} {least most : Nat} :
    l.foldl max least ≤ most ↔ least ≤ most ∧ ∀ n ∈ l, n ≤ most := by
  induction l generalizing least with
  | nil => simp
  | cons n rest induction => rw [List.foldl_cons, induction, List.forall_mem_cons, max_le_iff, and_assoc]

namespace Console

/-- The cells of a line of a table. -/
def Line.cells? : Line → Option (List String)
  | .text _ => none
  | .row cells => some cells

/-- The rows among lines. -/
def rowsAmong (lines : List Line) : List (List String) :=
  lines.filterMap Line.cells?

theorem rowsAmong_append (lines more : List Line) : rowsAmong (lines ++ more) = rowsAmong lines ++ rowsAmong more :=
  List.filterMap_append

/-- How many lines a row takes whose cells show the given lines. -/
def height (cells : List (List (List Char))) : Nat :=
  (cells.map List.length).foldl max 0

theorem height_le_iff {cells : List (List (List Char))} {most : Nat} :
    height cells ≤ most ↔ ∀ lines ∈ cells, lines.length ≤ most := by
  rw [height, foldl_max_le_iff, List.forall_mem_map]
  exact and_iff_right (Nat.zero_le most)

/-- The lines of such a row. -/
def rowOf (cells : List (List (List Char))) : List Line :=
  (List.range (height cells)).map fun k => .row (cells.map fun lines => String.ofList (lines.getD k []))

theorem rowsAmong_rowOf (cells : List (List (List Char))) :
    rowsAmong (rowOf cells) =
      (List.range (height cells)).map fun k => cells.map fun lines => String.ofList (lines.getD k []) := by
  rw [rowsAmong, rowOf, List.filterMap_map]
  exact congrFun List.filterMap_eq_map _

/-- What a cell shows, if it can be shown. -/
def cellLines (cell : String) : List (List Char) :=
  (shownLines cell).toOption.getD []

theorem shownLines_ne_nil {cell : String} {lines : List (List Char)} (shows : shownLines cell = .ok lines) :
    lines ≠ [] := by
  obtain ⟨text, -, rfl⟩ := map_eq_ok_iff.mp shows
  rw [plainLines, textLines_eq_splitAtChar]
  simpa using Disk.splitAtChar_ne_nil '\n' text

theorem height_pos {row : List String} (some : row ≠ [])
    (shows : ∀ cell ∈ row, shownLines cell = .ok (cellLines cell)) : 0 < height (row.map cellLines) := by
  obtain ⟨cell, known⟩ := List.exists_mem_of_ne_nil row some
  have high := List.length_pos_iff.mpr (shownLines_ne_nil (shows cell known))
  exact high.trans_le (height_le_iff.mp le_rfl _ (List.mem_map_of_mem known))

/-- A row is on one line as it is exactly if its cells show themselves. -/
theorem rowsAmong_rowOf_eq_singleton_iff {row : List String} (some : row ≠ [])
    (shows : ∀ cell ∈ row, shownLines cell = .ok (cellLines cell)) :
    rowsAmong (rowOf (row.map cellLines)) = [row] ↔ ∀ cell ∈ row, IsLiteral cell.toList := by
  rw [rowsAmong_rowOf]
  constructor
  · intro same cell known
    have one := congrArg List.length same
    rw [List.length_map, List.length_range, List.length_singleton] at one
    rw [one, List.range_one, List.map_singleton, List.singleton_inj, List.map_map] at same
    have low := height_le_iff.mp one.le _ (List.mem_map_of_mem known)
    have high := List.length_pos_iff.mpr (shownLines_ne_nil (shows cell known))
    obtain ⟨line, lines⟩ := List.length_eq_one_iff.mp (le_antisymm low high)
    have spelled := List.map_inj_left.mp (same.trans (List.map_id row).symm) cell known
    rw [Function.comp, lines, List.getD_cons_zero, id] at spelled
    rw [← shownLines_eq_self_iff, shows cell known, lines, ← spelled, String.toList_ofList]
  · intro literal
    have lines {cell : String} (known : cell ∈ row) : cellLines cell = [cell.toList] :=
      Except.ok.inj ((shows cell known).symm.trans ((shownLines_eq_self_iff cell).mpr (literal cell known)))
    have low : height (row.map cellLines) ≤ 1 :=
      height_le_iff.mpr (List.forall_mem_map.mpr fun cell known => by rw [lines known, List.length_singleton])
    rw [le_antisymm low (height_pos some shows), List.range_one, List.map_singleton, List.singleton_inj, List.map_map]
    refine (List.map_congr_left fun cell known => ?_).trans (List.map_id row)
    rw [Function.comp, lines known, List.getD_cons_zero, String.ofList_toList, id]

namespace Table

/-- The rows of a table, the headings first. -/
def grid (t : Table) : List (List String) :=
  t.headings :: t.rows

/-- A table with a cell in each column of each row. -/
structure IsEven (t : Table) : Prop where
  /-- There is a column. -/
  wide : t.headings ≠ []
  /-- No row has more or fewer cells than there are headings. -/
  even : ∀ row ∈ t.grid, row.length = t.headings.length

variable {t : Table}

theorem column_eq (t : Table) (i : Nat) : t.column i = t.grid.map fun row => row.getD i "" := rfl

theorem IsEven.mem_grid_iff (isEven : t.IsEven) {cell : String} :
    (∃ i < t.headings.length, cell ∈ t.column i) ↔ ∃ row ∈ t.grid, cell ∈ row := by
  constructor
  · rintro ⟨i, within, known⟩
    obtain ⟨row, inGrid, rfl⟩ := List.mem_map.mp (t.column_eq i ▸ known)
    rw [← isEven.even row inGrid] at within
    exact ⟨row, inGrid, by rw [List.getD_eq_getElem _ _ within]; exact List.getElem_mem within⟩
  · rintro ⟨row, inGrid, known⟩
    obtain ⟨i, within, rfl⟩ := List.getElem_of_mem known
    refine ⟨i, isEven.even row inGrid ▸ within, ?_⟩
    rw [column_eq, ← List.getD_eq_getElem _ "" within]
    exact List.mem_map_of_mem inGrid

/-- Where the columns of a table can be shown, so can its cells. -/
theorem IsEven.shows_of_columns (isEven : t.IsEven) {columns : List (List (List (List Char)))}
    (shown : t.columns = .ok columns) : ∀ row ∈ t.grid, ∀ cell ∈ row, shownLines cell = .ok (cellLines cell) := by
  intro row inGrid cell known
  obtain ⟨i, within, inColumn⟩ := isEven.mem_grid_iff.mpr ⟨row, inGrid, known⟩
  have all := mapM_eq_ok_iff.mp shown
  have column : (t.column i).mapM shownLines ∈ columns.map .ok :=
    all ▸ List.mem_map_of_mem (List.mem_range.mpr within)
  obtain ⟨cells, -, column⟩ := List.mem_map.mp column
  have cell' : shownLines cell ∈ cells.map .ok := mapM_eq_ok_iff.mp column.symm ▸ List.mem_map_of_mem inColumn
  obtain ⟨lines, -, shows⟩ := List.mem_map.mp cell'
  rw [cellLines, ← shows]
  rfl

theorem IsEven.columns_eq (isEven : t.IsEven)
    (shows : ∀ row ∈ t.grid, ∀ cell ∈ row, shownLines cell = .ok (cellLines cell)) :
    t.columns = .ok ((List.range t.headings.length).map fun i => (t.column i).map cellLines) := by
  refine mapM_eq_ok_iff.mpr ?_
  rw [List.map_map]
  refine List.map_congr_left fun i within => mapM_eq_ok_iff.mpr ?_
  rw [List.map_map]
  refine List.map_congr_left fun cell inColumn => ?_
  obtain ⟨row, inGrid, known⟩ := isEven.mem_grid_iff.mp ⟨i, List.mem_range.mp within, inColumn⟩
  exact shows row inGrid cell known

/-- The lines in a place of all columns are those of a row. -/
theorem IsEven.flatMap_rowLines (isEven : t.IsEven) :
    (List.range (t.rows.length + 1)).flatMap
        (rowLines ((List.range t.headings.length).map fun i => (t.column i).map cellLines)) =
      t.grid.flatMap fun row => rowOf (row.map cellLines) := by
  have places : (List.range (t.rows.length + 1)).map (fun place => t.grid.getD place []) = t.grid := by
    refine List.ext_getElem (by simp [grid]) fun place _ within => ?_
    rw [List.getElem_map, List.getElem_range, List.getD_eq_getElem _ _ within]
  have lines : ∀ place ∈ List.range (t.rows.length + 1),
      rowLines ((List.range t.headings.length).map fun i => (t.column i).map cellLines) place =
        rowOf ((t.grid.getD place []).map cellLines) := by
    intro place known
    have within : place < t.grid.length := List.mem_range.mp known
    rw [List.getD_eq_getElem _ _ within]
    refine congrArg rowOf (List.ext_getElem ?_ fun i _ inside => ?_)
    · simp [isEven.even _ (List.getElem_mem within)]
    · rw [List.length_map] at inside
      simp [column_eq, within, inside]
  conv_rhs => rw [← places]
  rw [List.flatMap_map, List.flatMap_congr lines]

/-- A table prints its rows as they are exactly if its title can be shown and its cells show themselves. -/
theorem IsEven.printsRows_iff (isEven : t.IsEven) :
    (∃ lines, t.lines = .ok lines ∧ rowsAmong lines = t.grid) ↔
      (∃ title, shown t.title.toList = .ok title) ∧ ∀ row ∈ t.grid, ∀ cell ∈ row, IsLiteral cell.toList := by
  have some : ∀ row ∈ t.grid, row ≠ [] := fun row inGrid none =>
    isEven.wide (List.length_eq_zero_iff.mp ((isEven.even row inGrid).symm.trans (none ▸ rfl)))
  have rows (front : List (List Char)) : rowsAmong (front.map (fun line => .text (String.ofList (Text.trim line))) ++
      t.grid.flatMap fun row => rowOf (row.map cellLines)) =
        t.grid.flatMap fun row => rowsAmong (rowOf (row.map cellLines)) := by
    have texts : rowsAmong (front.map fun line => .text (String.ofList (Text.trim line))) = [] := by
      rw [rowsAmong, List.filterMap_map]
      exact List.filterMap_eq_nil_iff.mpr fun _ _ => rfl
    rw [rowsAmong_append, texts, List.nil_append, rowsAmong, List.filterMap_flatMap]
    rfl
  constructor
  · rintro ⟨lines, ends, same⟩
    obtain ⟨columns, shown, ends⟩ := bind_eq_ok_iff.mp ends
    obtain ⟨title, titled, ends⟩ := bind_eq_ok_iff.mp ends
    have shows := isEven.shows_of_columns shown
    obtain rfl := Except.ok.inj (shown.symm.trans (isEven.columns_eq shows))
    rw [← Except.ok.inj ends, isEven.flatMap_rowLines, rows] at same
    refine ⟨⟨title, titled⟩, fun row inGrid => ?_⟩
    refine (rowsAmong_rowOf_eq_singleton_iff (some row inGrid) (shows row inGrid)).mp ?_
    refine eq_singleton_of_flatMap_eq_self (fun row inGrid none => ?_) same row inGrid
    rw [rowsAmong_rowOf, List.map_eq_nil_iff, List.range_eq_nil] at none
    exact (height_pos (some row inGrid) (shows row inGrid)).ne' none
  · rintro ⟨⟨title, titled⟩, literal⟩
    have shows : ∀ row ∈ t.grid, ∀ cell ∈ row, shownLines cell = .ok (cellLines cell) := fun row inGrid cell known => by
      rw [cellLines, (shownLines_eq_self_iff cell).mpr (literal row inGrid cell known)]
      rfl
    rw [Table.lines, isEven.columns_eq shows, titled]
    refine ⟨_, rfl, ?_⟩
    rw [isEven.flatMap_rowLines, rows]
    refine (List.flatMap_congr fun row inGrid => ?_).trans (List.flatMap_singleton' t.grid)
    exact (rowsAmong_rowOf_eq_singleton_iff (some row inGrid) (shows row inGrid)).mpr (literal row inGrid)

end Table

end Console

end Stencil
