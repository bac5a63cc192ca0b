import EntitySchema.Text.Width

/-!
# Text/Grid — tables drawn with lines

A grid has a border with round corners, lines between columns, and one line between the first row and
the others.  A column is as wide as the widest line of its cells; a cell of several lines makes its
row as high.
-/

namespace EntitySchema.Text

/-- The lines of a cell. -/
def cellLines (cell : String) : List String := (cell.toList.splitOn '\n').map String.ofList

/-- The columns that a cell takes. -/
def cellWidth (cell : String) : Nat := ((cellLines cell).map width).foldl max 0

/-- The width of each column, if all rows have as many cells as there are `columns`. -/
def columnWidths (columns : Nat) (rows : List (List String)) : List Nat :=
  (List.range columns).map fun i =>
    (rows.map fun row => (row[i]?.map cellWidth).getD 0).foldl max 0

/-- A text with spaces behind it, up to a width. -/
def padTo (n : Nat) (s : String) : String :=
  s ++ String.ofList (List.replicate (n - width s) ' ')

/-- A line across the grid. -/
def rule (left middle right : String) (widths : List Nat) : String :=
  left ++ middle.intercalate (widths.map fun n => String.ofList (List.replicate (n + 2) '─')) ++
    right

/-- The lines of a row. -/
def rowLines (widths : List Nat) (row : List String) : List String :=
  let cells := row.map cellLines
  let height := (cells.map List.length).foldl max 0
  (List.range height).map fun i =>
    "│" ++ "│".intercalate
      ((cells.zip widths).map fun (lines, n) => " " ++ padTo n (lines[i]?.getD "") ++ " ") ++ "│"

/-- The lines of a grid with a row of headings. -/
def gridLines (headings : List String) (rows : List (List String)) : List String :=
  let widths := columnWidths headings.length (headings :: rows)
  [rule "╭" "┬" "╮" widths] ++ rowLines widths headings ++ [rule "├" "┼" "┤" widths] ++
    rows.flatMap (rowLines widths) ++ [rule "╰" "┴" "╯" widths]

/-- The text of a grid, without a line break at its end. -/
def grid (headings : List String) (rows : List (List String)) : String :=
  "\n".intercalate (gridLines headings rows)

end EntitySchema.Text
