import RootedStorage.Parquet.Container
import RootedStorage.Table.Portion
import RootedStorage.Table.Schema

/-!
# The Parquet format

`encode` writes the columns that a schema selects into a container, and `decode` reads the columns
that a schema selects out of one, in the order of the schema.  Types and nullability are those of
the table that was written.  Both work with any container.
-/

namespace RootedStorage.Parquet

/-- The columns of a container whose names a schema asks for, in the order of the container. -/
def selectColumns (b : Batch) (schema : TableSchema) : Outcome Batch :=
  if !schema.hasFields then .ok b
  else
    match schema.names.find? fun name => !b.names.contains name with
    | some name => .error (.access (.missingColumn name "Parquet data"))
    | none =>
      let wanted := schema.names.map fun name => b.names.idxOf name
      .ok ⟨(b.columns.zipIdx.filter fun c => wanted.contains c.2).map (·.1)⟩

/-- How many rows are decoded at a time if the options do not say it. -/
def defaultBatchSize : Nat := 1024

/-- The rows of a table, read in portions. -/
def decodedRows (options : Options) (b : Batch) : Batch :=
  .concat b.fields (b.portions (options.batchSize.getD defaultBatchSize))

/-- The table that is read from a container. -/
def decode (container : Container) (content : Bytes) (schema : TableSchema)
    (options : FormatOptions) : Outcome Batch := do
  let options ← Options.ofFormatOptions options
  match container.read? content with
  | some b =>
    let selected ← selectColumns b schema
    schema.project "table" (decodedRows options selected)
  | none => .error (.access .openParquet)

/-- The content of a container with a table. -/
def encode (container : Container) (schema : TableSchema) (b : Batch) (options : FormatOptions) :
    Outcome Bytes := do
  let options ← Options.ofFormatOptions options
  let b ← schema.project "table" b
  container.content options.compression b

end RootedStorage.Parquet
