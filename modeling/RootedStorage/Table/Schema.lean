import RootedStorage.Error
import RootedStorage.Table.Batch
import RootedStorage.Text.Lowercase

/-!
# Declared schemas

A schema declares the fields of a table by name and type name.  It selects columns: a schema
without fields selects every column, any other the columns of its fields' names in its order.
-/

namespace RootedStorage

/-- A declared field. -/
structure FieldDeclaration where
  name : String
  typeName : String := "string"
  nullable : Bool := true
  deriving DecidableEq, Repr, Inhabited

/-- A declared schema. -/
structure TableSchema where
  fields : List FieldDeclaration := []
  deriving DecidableEq, Repr, Inhabited

namespace ColumnType

/-- The type names of declarations, in lower case. -/
def declaredNames : List (String × ColumnType) :=
  [("int8", .integer .int8), ("int16", .integer .int16), ("int32", .integer .int32),
    ("int64", .integer .int64), ("int", .integer .int64), ("integer", .integer .int64),
    ("uint8", .integer .uint8), ("uint16", .integer .uint16), ("uint32", .integer .uint32),
    ("uint64", .integer .uint64), ("float32", .float .float32), ("float", .float .float32),
    ("float64", .float .float64), ("double", .float .float64), ("decimal", .float .float64),
    ("string", .text), ("utf8", .text), ("text", .text), ("boolean", .boolean),
    ("bool", .boolean), ("datetime", .timestamp .microsecond none),
    ("timestamp", .timestamp .microsecond none), ("date", .date32)]

/-- The type of a declared type name.  Case does not matter, and an unknown name means text. -/
def ofDeclared (typeName : String) : ColumnType :=
  match declaredNames.find? (·.1 = Text.lowercase typeName) with
  | some entry => entry.2
  | none => .text

/-- The type name that declares a type, or the one for text. -/
def declaredName : ColumnType → String
  | integer .int8 => "int8"
  | integer .int16 => "int16"
  | integer .int32 => "int32"
  | integer .int64 => "int64"
  | integer .uint8 => "uint8"
  | integer .uint16 => "uint16"
  | integer .uint32 => "uint32"
  | integer .uint64 => "uint64"
  | float .float32 => "float32"
  | float .float64 => "float64"
  | boolean => "boolean"
  | timestamp _ _ => "datetime"
  | date32 | date64 => "date"
  | null | text | largeText | other _ => "string"

end ColumnType

/-- The type that a declared field stands for. -/
def FieldDeclaration.type (f : FieldDeclaration) : ColumnType := .ofDeclared f.typeName

namespace TableSchema

/-- Whether the schema selects columns. -/
def hasFields (s : TableSchema) : Bool := !s.fields.isEmpty

/-- The names of the fields. -/
def names (s : TableSchema) : List String := s.fields.map (·.name)

/-- The first declared field of a given name. -/
def field? (s : TableSchema) (name : String) : Option FieldDeclaration :=
  s.fields.find? (·.name = name)

/-- The fields with their column types. -/
def toFields (s : TableSchema) : List Field := s.fields.map fun f => ⟨f.name, f.type, f.nullable⟩

/-- The declaration of given fields. -/
def ofFields (fields : List Field) : TableSchema :=
  ⟨fields.map fun f => ⟨f.name, f.type.declaredName, f.nullable⟩⟩

/-- The columns that the schema selects from a table, the first of each name; `source` names the
table in the error for a name that it lacks. -/
def project (s : TableSchema) (source : String) (b : Batch) : Outcome Batch :=
  if s.hasFields then
    Batch.mk <$> s.names.mapM fun name =>
      match b.column? name with
      | some c => .ok c
      | none => .error (.access (.missingColumn name source))
  else .ok b

end TableSchema

end RootedStorage
