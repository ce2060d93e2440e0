import RootedStorage.Config
import RootedStorage.TableStorage

/-!
# Storage types and the storage manager

A storage type says how file storage and table storage are built from a configuration.  The manager
builds every configured storage, in the order of the keys, or fails with the error of the first that
cannot be built.
-/

namespace RootedStorage

/-- What storages are built on: the disk, the directory that relative roots start from, and how much
one read of a file gives. -/
structure Host where
  disk : Disk
  here : Location := []
  supply : Supply := .buffered

/-- How the storages of a type are built. -/
structure StorageBinding where
  files : StorageConfig → Host → Outcome FileStorage
  tables : StorageConfig → FileStorage → Host → Outcome TableStorage

/-- The storage types by their names. -/
structure StorageTypeRegistry where
  bindings : Dictionary StorageBinding := .empty

/-- The built storages by their keys. -/
structure StorageManager where
  files : Dictionary FileStorage := .empty
  tables : Dictionary TableStorage := .empty

namespace FileStorage

/-- File storage below the configured root. -/
def ofConfig (c : StorageConfig) (host : Host) : Outcome FileStorage := do
  let root ← c.requiredOption rootPathOption
  atRoot host.here root host.disk

end FileStorage

namespace TableStorage

/-- Table storage over file storage.  Pushdown goes to the configured root. -/
def ofConfig (pushdown : Bool) (formats : FormatRegistry) (c : StorageConfig)
    (files : FileStorage) (host : Host) : Outcome TableStorage :=
  if pushdown then
    (FileStorage.ofConfig c host).map fun s => ⟨files, formats, some s.root⟩
  else .ok ⟨files, formats, none⟩

end TableStorage

/-- The name of the storage type for local directories. -/
def localStorageType : String := "LOCAL_STORAGE"

namespace StorageBinding

/-- Storages below the configured root, with or without pushdown. -/
def rooted (pushdown : Bool) : StorageBinding where
  files := FileStorage.ofConfig
  tables := TableStorage.ofConfig pushdown .builtin

end StorageBinding

namespace StorageTypeRegistry

/-- Binds a storage type, in the place of an earlier binding. -/
def register (r : StorageTypeRegistry) (type : String) (binding : StorageBinding) :
    StorageTypeRegistry :=
  ⟨r.bindings.put type binding⟩

/-- The registry of the storage types of this library. -/
def builtin : StorageTypeRegistry :=
  ({} : StorageTypeRegistry).register localStorageType (.rooted true)

/-- Whether the storage type is bound. -/
def contains (r : StorageTypeRegistry) (type : String) : Bool := r.bindings.contains type

/-- The names of the bound storage types, sorted. -/
def storageTypes (r : StorageTypeRegistry) : List String := r.bindings.sortedKeys

end StorageTypeRegistry

/-- A list of quoted texts. -/
def quotedList (texts : List String) : String :=
  "[" ++ String.intercalate ", " (texts.map Text.quoted) ++ "]"

/-- The registry as it is shown. -/
def StorageTypeRegistry.shown (r : StorageTypeRegistry) : String :=
  "StorageTypeRegistry \x7b storage_types: " ++ quotedList r.storageTypes ++ " \x7d"

namespace StorageManager

/-- Builds one configured storage. -/
def buildOne (r : StorageTypeRegistry) (key : String) (c : StorageConfig) (host : Host) :
    Outcome (FileStorage × TableStorage) :=
  match r.bindings.get? c.storageType with
  | none => .error (.config (.typeUnavailable c.storageType key))
  | some binding => do
    let files ← binding.files c host
    let tables ← binding.tables c files host
    .ok (files, tables)

/-- Builds the storages of the given keys on top of those that are built already. -/
def buildKeys (r : StorageTypeRegistry) (c : SystemConfig) (host : Host) :
    StorageManager → List String → Outcome StorageManager
  | m, [] => .ok m
  | m, key :: keys =>
    match c.storage.get? key with
    | none => buildKeys r c host m keys
    | some storage => do
      let built ← buildOne r key storage host
      buildKeys r c host ⟨m.files.put key built.1, m.tables.put key built.2⟩ keys

/-- Builds every configured storage. -/
def build (r : StorageTypeRegistry) (c : SystemConfig) (host : Host) : Outcome StorageManager :=
  buildKeys r c host {} c.storage.sortedKeys

/-- Whether the key has file storage. -/
def hasFiles (m : StorageManager) (key : String) : Bool := m.files.contains key

/-- Whether the key has table storage. -/
def hasTables (m : StorageManager) (key : String) : Bool := m.tables.contains key

/-- The file storage of a key. -/
def fileStorage (m : StorageManager) (key : String) : Outcome FileStorage :=
  match m.files.get? key with
  | some s => .ok s
  | none => .error (.keyNotFound key)

/-- The table storage of a key. -/
def tableStorage (m : StorageManager) (key : String) : Outcome TableStorage :=
  match m.tables.get? key with
  | some t => .ok t
  | none => .error (.keyNotFound key)

/-- The configured keys, sorted. -/
def storageKeys (m : StorageManager) : List String := m.files.sortedKeys

/-- The manager as it is shown. -/
def shown (m : StorageManager) : String :=
  "StorageManager \x7b storage_keys: " ++ quotedList m.storageKeys ++ " \x7d"

end StorageManager

end RootedStorage
