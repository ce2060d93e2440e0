import RootedStorage.Parquet.Options
import RootedStorage.Table.Batch

/-!
# Containers

How a table is laid out in the bytes of a columnar file is the affair of the container that writes and
reads it.  A `Container` is what the codec relies on: some types of columns are refused, and every other
table is read back as it was written, with its fields, the order of its columns and rows and its values,
under every compression.
-/

namespace RootedStorage.Parquet

/-- The step of writing at which a type is refused: when the fields of the table are set down, or when
its cells are written. -/
inductive Refusal where
  | fields
  | cells
  deriving DecidableEq, Repr

/-- The bytes of tables. -/
structure Container where
  /-- The refusal of a type, if columns of it are not written. -/
  refusal? : ColumnType → Option Refusal
  /-- The content of a file with a table. -/
  write : Compression → Batch → Bytes
  /-- The table of a file with the content, if it is one of this container. -/
  read? : Bytes → Option Batch
  /-- A table with columns is read back as it was written. -/
  read?_write : ∀ compression b, b.columns ≠ [] →
    (∀ c ∈ b.columns, refusal? c.field.type = none) → read? (write compression b) = some b

namespace Container

/-- The container writes columns of the types that the table has. -/
def Holds (container : Container) (b : Batch) : Prop :=
  ∀ c ∈ b.columns, container.refusal? c.field.type = none

/-- The content of a file with a table, unless a type is refused.  The fields come before the cells. -/
def content (container : Container) (compression : Compression) (b : Batch) : Outcome Bytes :=
  match b.columns.filterMap fun c => container.refusal? c.field.type with
  | [] => .ok (container.write compression b)
  | refusals =>
    .error (.access (if refusals.contains .fields then .createParquet else .writeParquet))

/-- Content is written exactly for the tables that the container holds. -/
theorem content_eq_ok_iff {container : Container} {compression : Compression} {b : Batch}
    {data : Bytes} : container.content compression b = .ok data ↔
      container.Holds b ∧ container.write compression b = data := by
  have hholds : container.Holds b ↔
      b.columns.filterMap (fun c => container.refusal? c.field.type) = [] :=
    List.filterMap_eq_nil_iff.symm
  rw [hholds, content]
  cases b.columns.filterMap fun c => container.refusal? c.field.type <;> simp

end Container

end RootedStorage.Parquet
