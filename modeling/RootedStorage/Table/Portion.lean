import RootedStorage.Table.Batch

/-!
# Rows in portions

A reader decodes a given number of rows at a time and puts the tables of these portions together.  A
reader that takes no row at a time stops at once.
-/

namespace RootedStorage

namespace Portion

variable {α : Type}

/-- Fills a portion row by row and gives it out when it is full: `room` is how many more rows it
takes, and `taken` are the rows that it has, the last one first. -/
def fill (size : Nat) : Nat → List α → List α → List (List α)
  | _, [], [] => []
  | _, row :: taken, [] => [(row :: taken).reverse]
  | room, taken, row :: rows =>
    if room ≤ 1 then (row :: taken).reverse :: fill size size [] rows
    else fill size (room - 1) (row :: taken) rows

/-- Rows in portions of the given size; the last portion may be shorter. -/
def ofRows (size : Nat) (rows : List α) : List (List α) :=
  if size = 0 then [] else fill size size [] rows

end Portion

namespace Batch

/-- The table of the given fields that has the rows of the tables, one table after the other. -/
def concat (fields : List Field) (parts : List Batch) : Batch :=
  ⟨fields.mapIdx fun i f => ⟨f, parts.flatMap fun b => (b.columns[i]?.map (·.cells)).getD []⟩⟩

/-- The length of the longest column. -/
def height (b : Batch) : Nat := b.columns.foldr (fun c n => max c.cells.length n) 0

/-- The table of the rows at the given indices. -/
def rowsAt (b : Batch) (indices : List Nat) : Batch :=
  ⟨b.columns.map fun c =>
    let cells := c.cells.toArray
    ⟨c.field, indices.filterMap fun i => cells[i]?⟩⟩

/-- The rows of a table in portions of the given size. -/
def portions (size : Nat) (b : Batch) : List Batch :=
  (Portion.ofRows size (List.range b.height)).map b.rowsAt

end Batch

end RootedStorage
