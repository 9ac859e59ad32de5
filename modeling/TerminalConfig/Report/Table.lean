/-
Tables with a frame.

Every column is as wide as its widest cell, and every cell has a space on either side.
A cell may have several lines; the other cells of its row are then filled with blank
lines.
-/
import TerminalConfig.Report.Width

namespace TerminalConfig.Report

/-- A column of a table. -/
structure Column where
  heading : String
  /-- The cells are set against the right edge. -/
  rightAligned : Bool := false

/-- A table: its columns, and the cells of its rows. -/
structure Table where
  columns : List Column
  rows : List (List String)

/-- The characters of one horizontal line of a frame. -/
structure Rule where
  left : Char
  line : Char
  cross : Char
  right : Char

namespace Table

/-- The line above the headings. -/
def topRule : Rule := ⟨'┏', '━', '┳', '┓'⟩

/-- The line below the headings. -/
def headRule : Rule := ⟨'┡', '━', '╇', '┩'⟩

/-- The line below the last row. -/
def bottomRule : Rule := ⟨'└', '─', '┴', '┘'⟩

/-- The widths of columns that hold the cells of one row. -/
def widen (widths : List Nat) (cells : List (List (List Char))) : List Nat :=
  widths.zipWith (fun w cell => (cell.map width).foldl max w) cells

/-- A line in a column of a given width. -/
def pad (rightAligned : Bool) (columnWidth : Nat) (line : List Char) : List Char :=
  let blanks := List.replicate (columnWidth - width line) ' '
  if rightAligned then blanks ++ line else line ++ blanks

/-- A horizontal line over columns of given widths. -/
def ruled (rule : Rule) (widths : List Nat) : List Char :=
  rule.left :: ([rule.cross].intercalate
    (widths.map fun w => List.replicate (w + 2) rule.line)) ++ [rule.right]

/-- One line of a row between bars. -/
def barred (bar : Char) (cells : List (List Char)) : List Char :=
  bar :: ([bar].intercalate (cells.map fun cell => ' ' :: cell ++ [' '])) ++ [bar]

/-- The lines of a row, as many as its tallest cell has. -/
def rowLines (bar : Char) (columns : List Column) (widths : List Nat)
    (cells : List (List (List Char))) : List (List Char) :=
  let height := (cells.map List.length).foldl max 1
  (List.range height).map fun i =>
    barred bar ((columns.zip (widths.zip cells)).map fun (column, w, cell) =>
      pad column.rightAligned w (cell.getD i []))

/-- The table as lines. -/
def render (t : Table) : List String :=
  let headings := t.columns.map fun column => lines column.heading
  let rows := t.rows.map fun row => row.map lines
  let widths := (headings :: rows).foldl widen (t.columns.map fun _ => 0)
  let body := rows.flatMap (rowLines '│' t.columns widths)
  ([ruled topRule widths] ++ rowLines '┃' t.columns widths headings ++
    [ruled headRule widths] ++ body ++ [ruled bottomRule widths]).map String.ofList

end Table

end TerminalConfig.Report
