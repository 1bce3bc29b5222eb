import RoundWorkflow.Text.Parts
import RoundWorkflow.Text.Width

/-!
# Grids

A grid is a table drawn with plain characters: a rule above and below every row, bars
between the cells, and every cell as wide as the widest of its column.  Cells stand at
the left, with one space on either side, and a cell of several lines makes its row as
high.
-/

namespace RoundWorkflow.Grid

/-- The columns that a cell takes. -/
def cellWidth (cell : List Char) : Nat :=
  ((Text.parts '\n' cell).map Text.displayWidth).foldl max 0

/-- The widths of the columns of some rows. -/
def columnWidths : List (List (List Char)) → List Nat
  | [] => []
  | [row] => row.map cellWidth
  | row :: rows => (row.map cellWidth).zipWith max (columnWidths rows)

/-- The rule above and below a row. -/
def rule (widths : List Nat) : List Char :=
  '+' :: widths.flatMap fun w => List.replicate (w + 2) '-' ++ ['+']

/-- A cell of a line, filled up to a width. -/
def fill (width : Nat) (cs : List Char) : List Char :=
  ' ' :: (cs ++ List.replicate (width - Text.displayWidth cs) ' ' ++ [' ', '|'])

/-- Line `i` of a row. -/
def rowLine (widths : List Nat) (row : List (List Char)) (i : Nat) : List Char :=
  '|' :: (widths.zip row).flatMap fun (w, cell) => fill w ((Text.parts '\n' cell)[i]?.getD [])

/-- The lines of a row. -/
def rowLines (widths : List Nat) (row : List (List Char)) : List (List Char) :=
  (List.range ((row.map fun cell => (Text.parts '\n' cell).length).foldl max 1)).map
    (rowLine widths row)

/-- The lines of a grid. -/
def gridLines (rows : List (List (List Char))) : List (List Char) :=
  let widths := columnWidths rows
  rule widths :: rows.flatMap fun row => rowLines widths row ++ [rule widths]

/-- The text of a grid, a line end after every line. -/
def text (rows : List (List String)) : String :=
  String.ofList ((gridLines (rows.map (·.map String.toList))).flatMap fun l => l ++ ['\n'])

end RoundWorkflow.Grid
