import RootedStorage.CommandLine.Arguments
import RootedStorage.CommandLine.Grid
import RootedStorage.Manager

/-!
# Running commands

A run reads its arguments and its configuration, builds the configured storages and carries out one
command on the storage that the arguments name.  It gives an exit code, the octets of its output
and, if it fails, what it says.
-/

namespace RootedStorage.CommandLine

/-- A command on a storage. -/
inductive Command where
  | list (path : String)
  | stat (path : String)
  | cat (path : String)
  | put (source path : String) (overwrite : Bool)
  | makeDirectory (path : String) (parents existsOk : Bool)
  | remove (path : String) (recursive : Bool)
  | showTable (path format : String) (fields options : List String)
  deriving Repr

/-- What a run is asked to do. -/
structure Invocation where
  config : String
  storage : String
  command : Command
  deriving Repr

/-- What the arguments ask for. -/
inductive Asked where
  | run (invocation : Invocation)
  | version
  | help
  | misuse
  deriving Repr

/-- Why a run fails. -/
inductive Failure where
  | loadConfig (path : String)
  | initialise
  | readSource (path : String)
  | unnamedField (field : String)
  | emptyField
  | optionForm (option : String)
  | storage (error : StorageError)
  deriving DecidableEq, Repr

/-- What a run gives. -/
structure Report where
  exit : Nat
  output : Bytes := []
  failure : Option Failure := none
  deriving DecidableEq, Repr

/-- The failure in words. -/
def Failure.message : Failure → String
  | loadConfig path => "Failed to load config " ++ path
  | initialise => "Failed to initialise storage"
  | readSource path => "Failed to read " ++ path
  | unnamedField field => "Field [" ++ field ++ "] has no name"
  | emptyField => "Empty field name"
  | optionForm option => "Format option [" ++ option ++ "] must be KEY=VALUE"
  | storage error => error.message

/-! ## Arguments -/

/-- The argument that asks for help. -/
def helpArgument : Named := ⟨"help", some "help", some 'h', .stop⟩

/-- The named arguments in front of a command. -/
def leadingArguments : List Named := [
  ⟨"config", some "config", some 'c', .value false⟩,
  ⟨"version", some "version", some 'V', .stop⟩,
  helpArgument]

/-- The commands' names. -/
def commandNames : List String := ["ls", "stat", "cat", "put", "mkdir", "rm", "table-cat", "help"]

/-- The named arguments of a command. -/
def commandArguments (name : String) : List Named :=
  helpArgument ::
    match name with
    | "put" => [⟨"overwrite", some "overwrite", none, .flag⟩]
    | "mkdir" => [⟨"parents", some "parents", some 'p', .flag⟩,
        ⟨"exists-ok", some "exists-ok", none, .flag⟩]
    | "rm" => [⟨"recursive", some "recursive", some 'r', .flag⟩]
    | "table-cat" => [⟨"format", some "format", some 'f', .value true⟩,
        ⟨"field", some "field", none, .values⟩, ⟨"option", some "option", some 'o', .values⟩]
    | _ => []

/-- The command that arguments stand for. -/
def commandOf (name : String) (g : Given) : Option Command :=
  match name, g.positional with
  | "ls", [] => some (.list "")
  | "ls", [path] => some (.list path)
  | "stat", [path] => some (.stat path)
  | "cat", [path] => some (.cat path)
  | "put", [source, path] =>
    if source = "" then none else some (.put source path (g.has "overwrite"))
  | "mkdir", [path] => some (.makeDirectory path (g.has "parents") (g.has "exists-ok"))
  | "rm", [path] => some (.remove path (g.has "recursive"))
  | "table-cat", [path] =>
    some (.showTable path ((g.value? "format").getD "csv") (g.values "field") (g.values "option"))
  | _, _ => none

/-- What the arguments behind a command's name ask for, after those in front of it. -/
def askedOf (before : Given) (name : String) (rest : List String) : Asked :=
  if name = "help" then
    match rest with
    | [] => .help
    | [topic] => if commandNames.contains topic then .help else .misuse
    | _ => .misuse
  else
    match read (commandArguments name) [] 2 {} rest with
    | .stopped _ => .help
    | .complete g =>
      match before.value? "config", before.positional, commandOf name g with
      | some config, [storage], some command => .run ⟨config, storage, command⟩
      | _, _, _ => .misuse
    | _ => .misuse

/-- What the arguments ask for. -/
def asked (arguments : List String) : Asked :=
  match read leadingArguments commandNames 1 {} arguments with
  | .stopped id => if id = "version" then .version else .help
  | .subcommand before name rest => askedOf before name rest
  | _ => .misuse

/-! ## Fields and options -/

/-- What stands before and behind the first occurrence of a character. -/
def splitOnce (c : Char) (s : String) : Option (String × String) :=
  let chars := s.toList
  if chars.contains c then
    some (String.ofList (chars.takeWhile (· ≠ c)), String.ofList ((chars.dropWhile (· ≠ c)).drop 1))
  else none

/-- A field: a name, or a name and a type. -/
def fieldOf (s : String) : Except Failure FieldDeclaration :=
  match splitOnce ':' s with
  | some ("", _) => .error (.unnamedField s)
  | some (name, typeName) => .ok { name, typeName }
  | none => if s = "" then .error .emptyField else .ok { name := s }

/-- An option: a key and a value. -/
def optionOf (s : String) : Except Failure (String × String) :=
  match splitOnce '=' s with
  | some ("", _) => .error (.optionForm s)
  | some entry => .ok entry
  | none => .error (.optionForm s)

/-! ## Commands -/

/-- A value of the metadata, or a dash. -/
def orDash {α : Type} (show_ : α → String) : Option α → String
  | some a => show_ a
  | none => "-"

/-- A moment with its date and its time of day apart. -/
def shownMoment (m : Moment) : String :=
  String.ofList (m.date.chars ++ ' ' :: m.clock.chars) ++ " UTC"

/-- The metadata of the entry at a path, one value a line. -/
def shownStat (path : String) (s : FileStat) : String :=
  "path:  " ++ path ++ "\n"
    ++ "type:  " ++ orDash FileType.shown s.fileType ++ "\n"
    ++ "size:  " ++ toString s.size ++ "\n"
    ++ "mtime: " ++ orDash shownMoment s.modified ++ "\n"
    ++ "atime: " ++ orDash shownMoment s.accessed ++ "\n"
    ++ "ctime: " ++ orDash shownMoment s.changed ++ "\n"
    ++ "uid:   " ++ orDash toString s.user ++ "\n"
    ++ "gid:   " ++ orDash toString s.group ++ "\n"
    ++ "mode:  " ++ orDash (fun m => String.ofList (Nat.toDigits 8 m)) s.mode ++ "\n"

/-- How many octets are printed at a time. -/
def printChunk : Nat := 65536

/-- What a reader gives when it is read in chunks until nothing comes.  The fuel bounds the number
of chunks. -/
def drain (supply : Supply) (d : Disk) : Nat → ByteReader → Outcome Bytes
  | 0, _ => .ok []
  | fuel + 1, r =>
    match r.read printChunk supply d with
    | (.error e, _) => .error e
    | (.ok [], _) => .ok []
    | (.ok chunk, r) => (drain supply d fuel r).map (chunk ++ ·)

/-- How many chunks a reader can give at most. -/
def chunkBound (r : ByteReader) (d : Disk) : Nat :=
  match r.ahead d with
  | .ok rest => rest.length + 1
  | .error _ => 1

/-- The content of a file outside storage. -/
def readSource (source : String) (host : Host) : Except Failure Bytes :=
  match if source = "" then .error .missing
    else host.disk.locate true (Disk.start host.here source) (Disk.parts source) with
  | .ok (_, .file _ content) => .ok content
  | _ => .error (.readSource source)

/-- The outcome of a storage operation in a run. -/
def stored {α : Type} (result : Outcome α) : Except Failure α := result.mapError .storage

/-- Text as output. -/
def printed (text : String) : Bytes := Utf8.encode text

/-- Shows a table. -/
def showTable (m : StorageManager) (storage path format : String) (fields options : List String)
    (d : Disk) : Except Failure Bytes := do
  let tables ← stored (m.tableStorage storage)
  let declared ← fields.mapM fieldOf
  let given ← options.mapM optionOf
  let batch ← stored (tables.readTable ⟨declared⟩ path format (Dictionary.ofList given) d)
  .ok (printed (grid batch ++ "\n"))

/-- Carries out a command on a storage. -/
def perform (m : StorageManager) (storage : String) (command : Command) (host : Host) :
    Except Failure Bytes × Disk :=
  let d := host.disk
  match m.fileStorage storage with
  | .error e => (.error (.storage e), d)
  | .ok files =>
    match command with
    | .list path =>
      (stored ((files.list path d).map fun children =>
        printed (String.join (children.map (· ++ "\n")))), d)
    | .stat path => (stored ((files.stat path d).map fun s => printed (shownStat path s)), d)
    | .cat path =>
      (stored (do
        let reader ← files.openRead path d
        drain host.supply d (chunkBound reader d) reader), d)
    | .put source path overwrite =>
      match readSource source host with
      | .error e => (.error e, d)
      | .ok data =>
        let (result, d) := files.writeBytes path data overwrite d
        (stored (result.map fun _ => []), d)
    | .makeDirectory path parents existsOk =>
      let (result, d) := files.makeDirectory path parents existsOk d
      (stored (result.map fun _ => []), d)
    | .remove path recursive =>
      let (result, d) := files.remove path recursive d
      (stored (result.map fun _ => []), d)
    | .showTable path format fields options =>
      (showTable m storage path format fields options d, d)

/-- The configuration in a file. -/
def loadConfig (path : String) (host : Host) : Except Failure SystemConfig :=
  match readSource path host with
  | .error _ => .error (.loadConfig path)
  | .ok content =>
    match Utf8.decode? content with
    | none => .error (.loadConfig path)
    | some text => (SystemConfig.ofJson text).mapError fun _ => .loadConfig path

/-- The storages of a configuration. -/
def initialise (c : SystemConfig) (host : Host) : Except Failure StorageManager :=
  (StorageManager.build .builtin c host).mapError fun _ => .initialise

/-- Carries out an invocation. -/
def invoke (i : Invocation) (host : Host) : Except Failure Bytes × Disk :=
  match loadConfig i.config host with
  | .error e => (.error e, host.disk)
  | .ok config =>
    match initialise config host with
    | .error e => (.error e, host.disk)
    | .ok manager => perform manager i.storage i.command host

/-- The name and the version of the command. -/
def versionLine : String := "trove 0.1.0\n"

/-- Runs the command with the given arguments. -/
def run (arguments : List String) (host : Host) : Report × Disk :=
  match asked arguments with
  | .version => ({ exit := 0, output := printed versionLine }, host.disk)
  | .help => ({ exit := 0 }, host.disk)
  | .misuse => ({ exit := 2 }, host.disk)
  | .run invocation =>
    match invoke invocation host with
    | (.ok output, d) => ({ exit := 0, output }, d)
    | (.error failure, d) => ({ exit := 1, failure := some failure }, d)

end RootedStorage.CommandLine
