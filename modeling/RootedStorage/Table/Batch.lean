import RootedStorage.Table.ColumnType

/-!
# Tables in memory

A table is a list of named columns of cells.  All cells of a column belong to the column's type,
and all columns of a table have the same length; `Batch.WellFormed` states both.
-/

namespace RootedStorage

/-- One cell.  Whole numbers, day counts and tick counts are kept as `integer`, floating point
numbers as the bits of their binary format. -/
inductive Cell where
  | null
  | boolean (value : Bool)
  | integer (value : Int)
  | float (bits : Nat)
  | text (value : String)
  deriving DecidableEq, Repr, Inhabited

/-- Name, type and nullability of a column. -/
structure Field where
  name : String
  type : ColumnType
  nullable : Bool
  deriving DecidableEq, Repr, Inhabited

/-- A column: its field and its cells from the first row to the last. -/
structure Column where
  field : Field
  cells : List Cell
  deriving DecidableEq, Repr, Inhabited

/-- A table in memory. -/
structure Batch where
  columns : List Column
  deriving DecidableEq, Repr, Inhabited

namespace Cell

/-- Whether the cell belongs to a column of the given type. -/
def Fits : Cell → ColumnType → Prop
  | null, _ => True
  | boolean _, .boolean => True
  | integer n, .integer t => t.holds n = true
  | integer n, .date32 => IntegerType.int32.holds n = true
  | integer n, .date64 => IntegerType.int64.holds n = true
  | integer n, .timestamp _ _ => IntegerType.int64.holds n = true
  | float bits, .float .float32 => bits < Nat.pow 2 32
  | float bits, .float .float64 => bits < Nat.pow 2 64
  | text _, .text => True
  | text _, .largeText => True
  | _, _ => False

end Cell

namespace Batch

/-- The table of no columns. -/
def empty : Batch := ⟨[]⟩

/-- The number of rows. -/
def rows (b : Batch) : Nat := (b.columns.head?.map (·.cells.length)).getD 0

/-- The rows of a grid with the given number of rows, from its columns. -/
def rowsOf {α : Type} (count : Nat) (columns : List (List α)) : List (List α) :=
  columns.foldr (List.zipWith List.cons) (List.replicate count [])

/-- The columns' fields. -/
def fields (b : Batch) : List Field := b.columns.map (·.field)

/-- The columns' names. -/
def names (b : Batch) : List String := b.columns.map (·.field.name)

/-- All columns have the same length and hold only cells of their type, and only a nullable column
has an empty cell. -/
def WellFormed (b : Batch) : Prop :=
  ∀ c ∈ b.columns, c.cells.length = b.rows ∧ (∀ x ∈ c.cells, x.Fits c.field.type)
    ∧ (c.field.nullable = false → Cell.null ∉ c.cells)

/-- The first column of a given name. -/
def column? (b : Batch) (name : String) : Option Column :=
  b.columns.find? (·.field.name = name)

/-- The table of the given fields without rows. -/
def ofFields (fields : List Field) : Batch := ⟨fields.map (⟨·, []⟩)⟩

end Batch

end RootedStorage
