import RootedStorage.Manager

/-!
# Sessions

A session is a run of requests to the storages of a manager.  Between two requests it keeps the disk
and the streams that are open, by the names that the requests give them.
-/

namespace RootedStorage

/-- An open stream. -/
inductive Handle where
  | reader (r : ByteReader)
  | textReader (r : TextReader)
  | writer (w : Writer)
  | textWriter (w : Writer)
  deriving Repr

/-- A request to the file storage of one key. -/
inductive FileRequest where
  | exists (path : String)
  | size (path : String)
  | stat (path : String)
  | list (path : String)
  | makeDirectory (path : String) (recursive existsOk : Bool)
  | remove (path : String) (recursive : Bool)
  | readBytes (path : String)
  | readText (path : String)
  | writeBytes (path : String) (data : Bytes) (overwrite : Bool)
  | writeText (path text : String) (overwrite : Bool)
  | openRead (path handle : String)
  | openTextRead (path handle : String)
  | openWrite (path handle : String) (overwrite : Bool)
  | openTextWrite (path handle : String) (overwrite : Bool)

/-- A request to the table storage of one key. -/
inductive TableRequest where
  | read (path format : String) (schema : TableSchema) (options : FormatOptions)
  | write (path format : String) (schema : TableSchema) (options : FormatOptions) (batch : Batch)
    (overwrite : Bool)

/-- A request to an open stream. -/
inductive StreamRequest where
  | read (count : Nat)
  | readLine
  | readRest
  | write (data : Bytes) (text : String)
  | close

/-- A request of a session. -/
inductive Request where
  | overview
  | has (key : String)
  | hasType (type : String)
  | fileStorage (key : String)
  | tableStorage (key : String)
  | file (key : String) (request : FileRequest)
  | table (key : String) (request : TableRequest)
  | stream (handle : String) (request : StreamRequest)

/-- What a request gives. -/
inductive Answer where
  | done
  | overview (keys types : List String) (manager registry : String)
  | flag (value : Bool)
  | flags (values : List Bool)
  | size (value : Nat)
  | stat (value : FileStat)
  | paths (values : List String)
  | bytes (value : Bytes)
  | text (value : String)
  | line (count : Nat) (text : String)
  | opened (path : String)
  | openedText (path : String)
  | batch (value : Batch)
  | noHandle

/-- The state of a session. -/
structure Session where
  manager : StorageManager
  registry : StorageTypeRegistry
  disk : Disk
  handles : Dictionary (Option Handle) := .empty
  supply : Supply := .buffered

namespace Session

/-- What a request that only looks at the disk gives. -/
def look (s : Session) (answer : Outcome Answer) : Outcome Answer × Session := (answer, s)

/-- What a request that may change the disk gives. -/
def change {α : Type} (s : Session) (effect : Effect α) (answer : α → Answer) :
    Outcome Answer × Session :=
  (effect.1.map answer, { s with disk := effect.2 })

/-- The open stream of a name. -/
def handle? (s : Session) (name : String) : Option Handle := (s.handles.get? name).join

/-- Keeps a stream under a name, or forgets it. -/
def keep (s : Session) (name : String) (h : Option Handle) : Session :=
  { s with handles := s.handles.put name h }

/-- Keeps the stream of a request that opens one. -/
def keepOpened {α : Type} (s : Session) (name : String) (effect : Effect α) (handle : α → Handle)
    (answer : Answer) : Outcome Answer × Session :=
  match effect with
  | (.ok stream, disk) => (.ok answer, { s with disk }.keep name (some (handle stream)))
  | (.error e, disk) => (.error e, { s with disk })

/-- Answers a request to file storage. -/
def answerFile (s : Session) (files : FileStorage) : FileRequest → Outcome Answer × Session
  | .exists path => s.look ((files.exists? path s.disk).map .flag)
  | .size path => s.look ((files.size path s.disk).map .size)
  | .stat path => s.look ((files.stat path s.disk).map .stat)
  | .list path => s.look ((files.list path s.disk).map .paths)
  | .makeDirectory path recursive existsOk =>
    s.change (files.makeDirectory path recursive existsOk s.disk) fun _ => .done
  | .remove path recursive => s.change (files.remove path recursive s.disk) fun _ => .done
  | .readBytes path => s.look ((files.readBytes path s.disk).map .bytes)
  | .readText path => s.look ((files.readText path s.disk).map .text)
  | .writeBytes path data overwrite =>
    s.change (files.writeBytes path data overwrite s.disk) fun _ => .done
  | .writeText path text overwrite =>
    s.change (files.writeText path text overwrite s.disk) fun _ => .done
  | .openRead path handle =>
    s.keepOpened handle (files.openRead path s.disk, s.disk) .reader (.opened path)
  | .openTextRead path handle =>
    s.keepOpened handle (files.openTextRead path s.disk, s.disk) .textReader (.openedText path)
  | .openWrite path handle overwrite =>
    s.keepOpened handle (files.openWrite path overwrite s.disk) .writer (.opened path)
  | .openTextWrite path handle overwrite =>
    s.keepOpened handle (files.openWrite path overwrite s.disk) .textWriter (.openedText path)

/-- Answers a request to table storage. -/
def answerTable (s : Session) (tables : TableStorage) : TableRequest → Outcome Answer × Session
  | .read path format schema options =>
    s.look ((tables.readTable schema path format options s.disk).map .batch)
  | .write path format schema options batch overwrite =>
    s.change (tables.writeTable schema batch path format options overwrite s.disk) fun _ => .done

/-- Answers a request to an open stream.  A stream that has another direction or another content
than the request asks for counts as none. -/
def answerStream (s : Session) (name : String) (request : StreamRequest) :
    Outcome Answer × Session :=
  match request, s.handle? name with
  | .read count, some (.reader r) =>
    let (result, r) := r.read count s.supply s.disk
    (result.map .bytes, s.keep name (some (.reader r)))
  | .readRest, some (.reader r) =>
    let (result, r) := r.readToEnd s.disk
    (result.map .bytes, s.keep name (some (.reader r)))
  | .readLine, some (.textReader r) =>
    let (result, r) := r.readLine "" s.disk
    (result.map fun x => .line x.1 x.2, s.keep name (some (.textReader r)))
  | .readRest, some (.textReader r) =>
    let (result, r) := r.readToEnd s.disk
    (result.map .text, s.keep name (some (.textReader r)))
  | .write data _, some (.writer w) =>
    let (w, disk) := w.write data s.disk
    (.ok .done, { s with disk }.keep name (some (.writer w)))
  | .write _ text, some (.textWriter w) =>
    let (w, disk) := w.write (Utf8.encode text) s.disk
    (.ok .done, { s with disk }.keep name (some (.textWriter w)))
  | .close, some _ => (.ok .done, s.keep name none)
  | _, _ => (.ok .noHandle, s)

/-- Answers a request. -/
def answer (s : Session) : Request → Outcome Answer × Session
  | .overview =>
    s.look (.ok (.overview s.manager.storageKeys s.registry.storageTypes s.manager.shown
      s.registry.shown))
  | .has key => s.look (.ok (.flags [s.manager.hasFiles key, s.manager.hasTables key]))
  | .hasType type => s.look (.ok (.flag (s.registry.contains type)))
  | .fileStorage key => s.look ((s.manager.fileStorage key).map fun _ => .done)
  | .tableStorage key => s.look ((s.manager.tableStorage key).map fun _ => .done)
  | .file key request =>
    match s.manager.fileStorage key with
    | .ok files => s.answerFile files request
    | .error e => (.error e, s)
  | .table key request =>
    match s.manager.tableStorage key with
    | .ok tables => s.answerTable tables request
    | .error e => (.error e, s)
  | .stream handle request => s.answerStream handle request

/-- Answers requests one after the other. -/
def run (s : Session) : List Request → List (Outcome Answer) × Session
  | [] => ([], s)
  | request :: requests =>
    let (result, s) := s.answer request
    let (results, s) := s.run requests
    (result :: results, s)

/-- The session of a configuration, if its storages can be built. -/
def start (r : StorageTypeRegistry) (c : SystemConfig) (host : Host) : Outcome Session :=
  (StorageManager.build r c host).map fun manager =>
    { manager, registry := r, disk := host.disk, supply := host.supply }

end Session

end RootedStorage
