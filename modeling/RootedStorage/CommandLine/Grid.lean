import RootedStorage.Csv.CellText
import RootedStorage.Text.Width

/-!
# Tables as grids

A table is shown as a grid of cells with a rule above and below the names of the columns and a rule
at the end.  A cell with several lines makes its row as high as it has lines, and every column is as
wide as its widest line.
-/

namespace RootedStorage.CommandLine

/-- The lines of a cell. -/
abbrev GridCell := List (List Char)

/-- The lines of a text. -/
def linesOf : List Char → GridCell
  | [] => [[]]
  | c :: rest =>
    if c = '\n' then [] :: linesOf rest
    else
      match linesOf rest with
      | [] => [[c]]
      | line :: lines => (c :: line) :: lines

/-- The greatest of some numbers. -/
def greatest (ns : List Nat) : Nat := ns.foldl max 0

/-- The columns that a cell takes. -/
def cellWidth (c : GridCell) : Nat := greatest (c.map Text.width)

/-- The text up to a width. -/
def padRight (width : Nat) (line : List Char) : List Char :=
  line ++ List.replicate (width - Text.width line) ' '

/-- A rule of dashes between crosses. -/
def rule (widths : List Nat) : List Char :=
  '+' :: widths.flatMap (fun w => List.replicate (w + 2) '-' ++ ['+'])
    ++ (if widths.isEmpty then ['+'] else [])

/-- One line of a row. -/
def rowLine (cells : List (Nat × List Char)) : List Char :=
  '|' :: cells.flatMap (fun c => ' ' :: padRight c.1 c.2 ++ [' ', '|'])
    ++ (if cells.isEmpty then ['|'] else [])

/-- The lines of a row. -/
def rowLines (widths : List Nat) (row : List GridCell) : List (List Char) :=
  let height := max 1 (greatest (row.map List.length))
  (List.range height).map fun i =>
    rowLine (widths.zip (row.map fun cell => (cell[i]?).getD []))

/-- The lines of a grid with a row of names. -/
def gridLines (names : List GridCell) (rows : List (List GridCell)) : List (List Char) :=
  let widths := names.mapIdx fun i name =>
    greatest (cellWidth name :: rows.map fun row => cellWidth ((row[i]?).getD []))
  rule widths :: rowLines widths names ++ rule widths :: rows.flatMap (rowLines widths)
    ++ [rule widths]

/-- The lines of a cell of a table. -/
def shownCell (type : ColumnType) (cell : Cell) : GridCell :=
  linesOf ((Csv.cellText type cell).getD "").toList

/-- A table as a grid, without a line end behind it. -/
def grid (b : Batch) : String :=
  let rows := Batch.rowsOf b.rows (b.columns.map fun c => c.cells.map (shownCell c.field.type))
  String.intercalate "\n"
    ((gridLines (b.names.map fun n => linesOf n.toList) rows).map String.ofList)

end RootedStorage.CommandLine
