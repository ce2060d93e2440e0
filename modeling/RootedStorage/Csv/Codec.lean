import RootedStorage.Csv.CellText
import RootedStorage.Table.Portion
import RootedStorage.Table.Schema

/-!
# The CSV format

`decode` reads a table from a text and `encode` writes one.  Declared fields name the columns that
are read and give their types; without a first record of names they name the columns by position.
Types of columns that are not declared are inferred.
-/

namespace RootedStorage.Csv

/-- What is read from a text: the types of its columns, in the order of the text, and the fields of
the table with the column that each is read from. -/
structure ReadPlan where
  width : Nat
  columns : List (Field × Nat)
  deriving DecidableEq, Repr

/-- How the inferred fields and the declared schema are combined. -/
def readPlan (inferred : List Field) (schema : TableSchema) (header : Bool) : Outcome ReadPlan :=
  if !schema.hasFields then .ok ⟨inferred.length, inferred.zipIdx⟩
  else if !header then
    if schema.fields.length ≠ inferred.length then
      .error (.access (.columnCount inferred.length schema.fields.length))
    else
      .ok ⟨inferred.length, schema.fields.mapIdx fun i f => (⟨f.name, f.type, true⟩, i)⟩
  else
    ReadPlan.mk inferred.length <$> schema.names.mapM fun name =>
      match inferred.findIdx? (·.name = name), schema.field? name with
      | some i, some declared => .ok (⟨name, declared.type, true⟩, i)
      | _, _ => .error (.access (.missingColumn name "CSV data"))

/-- The cells of one column. -/
def readColumn (rows : List (List String)) (type : ColumnType) (index : Nat) :
    Option (List Cell) :=
  (columnAt rows index).mapM (parseCell type)

/-- The rows of a table under a plan: every record has to be UTF-8 and as wide as the plan, and
every cell of a column that is read has to fit its type. -/
def readRows (plan : ReadPlan) (rows : List Record) : Option Batch := do
  let texts ← rows.mapM fun row => if row.length = plan.width then recordTexts row else none
  Batch.mk <$> plan.columns.mapM fun column =>
    (readColumn texts column.1.type column.2).map (⟨column.1, ·⟩)

/-- The table of rows that are read in portions of the given size. -/
def readPortions (plan : ReadPlan) (size : Nat) (rows : List Record) : Option Batch :=
  ((Portion.ofRows size rows).mapM (readRows plan)).map (Batch.concat (plan.columns.map (·.1)))

/-- The records that hold the rows of a table: all but the names. -/
def dataRecords (header : Bool) (all : List Record) : List Record :=
  if header then all.drop 1 else all

/-- Whether a text has content behind its byte order mark in which no record begins. -/
def isBlankText (bytes : Bytes) : Bool := !(dropByteOrderMark bytes).isEmpty

/-- The table that a text holds under options that are read already. -/
def decodeWith (bytes : Bytes) (schema : TableSchema) (options : Options) : Outcome Batch := do
  let all := records options.dialect bytes
  let some inferred := inferFields options all | .error (.access .inferLayout)
  let plan ← readPlan inferred schema options.header
  if options.batchSize ≠ 0 && plan.width = 0 && isBlankText bytes then .error (.access .decodeCsv)
  else
    match readPortions plan options.batchSize (dataRecords options.header all) with
    | some batch => .ok batch
    | none => .error (.access .decodeCsv)

/-- The table that a text holds.  Empty content holds the declared fields without rows. -/
def decode (bytes : Bytes) (schema : TableSchema) (options : FormatOptions) : Outcome Batch := do
  let options ← Options.ofFormatOptions options
  if bytes.isEmpty then .ok (Batch.ofFields schema.toFields) else decodeWith bytes schema options

/-- The fields that a column is written as, if every cell has a text. -/
def columnFields (c : Column) : Option (List FieldText) :=
  c.cells.mapM fun cell => (cellText c.field.type cell).map Utf8.encode

/-- The records of a table's rows, if every cell has a text. -/
def rowRecords (b : Batch) : Option (List Record) :=
  (b.columns.mapM columnFields).map (Batch.rowsOf b.rows)

/-- The text of a table. -/
def encode (schema : TableSchema) (b : Batch) (options : FormatOptions) : Outcome Bytes := do
  let options ← Options.ofFormatOptions options
  let b ← schema.project "table" b
  if !b.columns.all fun c => isWritable c.field.type then .error (.access .encodeCsv)
  else
    match rowRecords b with
    | none => .error (.access .encodeCsv)
    | some rows =>
      let names : List Record := if options.header then [b.names.map Utf8.encode] else []
      .ok ((names ++ rows).flatMap (writeRecord options.dialect))

end RootedStorage.Csv
