import RootedStorage.Error
import RootedStorage.Json.Decoder
import RootedStorage.Json.Writer
import RootedStorage.Table.Schema

/-!
# Configurations

A system configuration names storages; a storage has a type and options.  Configurations and
declared schemas are read from JSON texts.
-/

namespace RootedStorage

/-- The configuration of one storage. -/
structure StorageConfig where
  storageType : String
  options : Dictionary String := .empty
  deriving Repr, DecidableEq

/-- The configurations of all storages, by their keys. -/
structure SystemConfig where
  storage : Dictionary StorageConfig := .empty
  deriving Repr, DecidableEq

/-- The option that names the root directory of a storage. -/
def rootPathOption : String := "root_path"

namespace StorageConfig

/-- Adds an option. -/
def withOption (c : StorageConfig) (key value : String) : StorageConfig :=
  { c with options := c.options.put key value }

/-- The value of an option. -/
def option? (c : StorageConfig) (key : String) : Option String := c.options.get? key

/-- The value of an option that has to be given. -/
def requiredOption (c : StorageConfig) (key : String) : Outcome String :=
  match c.option? key with
  | some value => .ok value
  | none => .error (.config (.missingOption key c.storageType))

/-- The members read so far. -/
structure Draft where
  storageType : Option String := none
  options : Option (Dictionary String) := none

open Json in
/-- One member. -/
def member (d : Draft) (key : String) : Reader Draft :=
  match key with
  | "storage_type" => once key d.storageType string fun v => { d with storageType := some v }
  | "storage_config" => once key d.options (dictionary string) fun v => { d with options := some v }
  | _ => ignored d

open Json in
/-- A configuration, read from a JSON text. -/
def read : Reader StorageConfig :=
  record "struct StorageConfig"
    (fun s => (allMembers member {} s).andThen fun d s =>
      (required "storage_type" d.storageType s).map fun storageType =>
        { storageType, options := d.options.getD .empty })
    (fun s => (fieldAt 0 "struct StorageConfig with 2 elements" none string s).andThen
      fun storageType s =>
        (fieldAt 1 "struct StorageConfig with 2 elements" (some .empty) (dictionary string) s).map
          fun options => { storageType, options })

open Json in
/-- The configuration as JSON. -/
def toJson (c : StorageConfig) : String :=
  writeObject [
    ("storage_type", writeString c.storageType),
    ("storage_config", writeObject (c.options.entries.map fun e => (e.1, writeString e.2)))]

/-- Whether two configurations give the same type and the same options. -/
def same (a b : StorageConfig) : Bool :=
  a.storageType = b.storageType
    && (a.options.keys ++ b.options.keys).all fun k => a.option? k = b.option? k

end StorageConfig

namespace SystemConfig

/-- Adds a storage. -/
def withStorage (c : SystemConfig) (key : String) (storage : StorageConfig) : SystemConfig :=
  ⟨c.storage.put key storage⟩

open Json in
/-- A configuration, read from a JSON text. -/
def read : Reader SystemConfig :=
  record "struct SystemConfig"
    (fun s => (allMembers (σ := Option (Dictionary StorageConfig))
      (fun d key => match key with
        | "storage" => once key d (dictionary StorageConfig.read) some
        | _ => ignored d) none s).map fun d => ⟨d.getD .empty⟩)
    (fun s => (fieldAt 0 "struct SystemConfig with 1 element" (some .empty)
      (dictionary StorageConfig.read) s).map SystemConfig.mk)

/-- The configuration that a JSON text stands for. -/
def ofJson (text : String) : Outcome SystemConfig :=
  match Json.decode read text with
  | .ok c => .ok c
  | .error e => .error (.config (.invalidDocument e))

open Json in
/-- The configuration as JSON. -/
def toJson (c : SystemConfig) : String :=
  writeObject [("storage", writeObject (c.storage.entries.map fun e => (e.1, e.2.toJson)))]

/-- Whether two configurations give the same storages under the same keys. -/
def same (a b : SystemConfig) : Bool :=
  (a.storage.keys ++ b.storage.keys).all fun k =>
    match a.storage.get? k, b.storage.get? k with
    | some x, some y => x.same y
    | _, _ => false

end SystemConfig

namespace FieldDeclaration

/-- The members read so far. -/
structure Draft where
  name : Option String := none
  typeName : Option String := none
  nullable : Option Bool := none

open Json in
/-- One member. -/
def member (d : Draft) (key : String) : Reader Draft :=
  match key with
  | "name" => once key d.name string fun v => { d with name := some v }
  | "data_type" => once key d.typeName string fun v => { d with typeName := some v }
  | "nullable" => once key d.nullable boolean fun v => { d with nullable := some v }
  | _ => ignored d

open Json in
/-- A declared field, read from a JSON text.  Type and nullability may be left out. -/
def read : Reader FieldDeclaration :=
  record "struct FieldDef"
    (fun s => (allMembers member {} s).andThen fun d s =>
      (required "name" d.name s).map fun name =>
        { name, typeName := d.typeName.getD "string", nullable := d.nullable.getD true })
    (fun s => (fieldAt 0 "struct FieldDef with 3 elements" none string s).andThen fun name s =>
      (fieldAt 1 "struct FieldDef with 3 elements" (some "string") string s).andThen
        fun typeName s =>
          (fieldAt 2 "struct FieldDef with 3 elements" (some true) boolean s).map
            fun nullable => { name, typeName, nullable })

end FieldDeclaration

namespace TableSchema

open Json in
/-- A declared schema, read from a JSON text. -/
def read : Reader TableSchema :=
  record "struct TableSchema"
    (fun s => (allMembers (σ := Option (List FieldDeclaration))
      (fun d key => match key with
        | "fields" => once key d (list FieldDeclaration.read) some
        | _ => ignored d) none s).map fun d => ⟨d.getD []⟩)
    (fun s => (fieldAt 0 "struct TableSchema with 1 element" (some [])
      (list FieldDeclaration.read) s).map TableSchema.mk)

/-- The declared schema that a JSON text stands for. -/
def ofJson (text : String) : Except Json.Error TableSchema := Json.decode read text

end TableSchema

end RootedStorage
