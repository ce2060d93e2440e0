import RootedStorage.FileStat
import RootedStorage.Stream

/-!
# File storage

File storage gives access to the entries below a root directory by storage paths.  Every operation
resolves its path below the root first; one that fails leaves the disk as it was.
-/

namespace RootedStorage

/-- Access to the entries below a root directory. -/
structure FileStorage where
  root : Location
  deriving DecidableEq, Repr

/-- What an operation gives, and the disk after it. -/
abbrev Effect (α : Type) := Outcome α × Disk

namespace Entry

/-- The kind of an entry. -/
def fileType? : Entry → Option FileType
  | file _ _ => some .file
  | directory => some .directory
  | _ => none

/-- The size of an entry.  Directories have a size that is not zero. -/
def size : Entry → Nat
  | file _ content => content.length
  | directory => 4096
  | _ => 0

/-- The kind and the permissions of an entry, as one number. -/
def mode : Entry → Nat
  | file _ _ => 0o100644
  | directory => 0o040755
  | pipe => 0o010644
  | link _ => 0o120777

/-- The metadata of an entry. -/
def stat (e : Entry) (a : Attributes) : FileStat where
  fileType := e.fileType?
  size := e.size
  changed := some ⟨a.seconds, 0⟩
  modified := some ⟨a.seconds, 0⟩
  accessed := some ⟨a.seconds, 0⟩
  user := some a.user
  group := some a.group
  mode := some e.mode

end Entry

namespace FileStorage

/-- The location that a storage path names. -/
def location (s : FileStorage) (path : String) : Outcome Location :=
  (Path.segments path).map (s.root ++ ·)

/-- The outcome of a request to the disk, as one of an operation on `path`. -/
def asked {α : Type} (path : String) (result : Except DiskFault α) : Outcome α :=
  result.mapError (.ofFault path)

/-- Whether an entry stands at the path, through links. -/
def exists? (s : FileStorage) (path : String) (d : Disk) : Outcome Bool :=
  (s.location path).map fun l => (d.lookup l).isOk

/-- The entry at the path, through links. -/
def entryAt (s : FileStorage) (path : String) (d : Disk) : Outcome Entry := do
  let l ← s.location path
  asked path (d.lookup l)

/-- The metadata of the entry at the path. -/
def stat (s : FileStorage) (path : String) (d : Disk) : Outcome FileStat :=
  (s.entryAt path d).map (·.stat d.attributes)

/-- The size of the entry at the path. -/
def size (s : FileStorage) (path : String) (d : Disk) : Outcome Nat :=
  (s.stat path d).map (·.size)

/-- Whether an entry is listed: it leads to a file or a directory. -/
def isListed (d : Disk) (l : Location) : Bool :=
  match d.lookup l with
  | .ok e => e.fileType?.isSome
  | .error _ => false

/-- The names in the directory that a location leads to. -/
def childNames (d : Disk) (l : Location) : List String :=
  match d.locate true [] l with
  | .ok (at_, .directory) => d.names at_
  | _ => []

/-- The storage paths of the entries in the directory at the path, sorted.  Entries that lead
neither to a file nor to a directory are left out. -/
def list (s : FileStorage) (path : String) (d : Disk) : Outcome (List String) := do
  let names ← Path.segments path
  match ← asked path (d.lookup (s.root ++ names)) with
  | .directory =>
    let children := (childNames d (s.root ++ names)).filter fun name =>
      isListed d (s.root ++ names ++ [name])
    .ok ((children.map fun name => Path.ofSegments (names ++ [name])).mergeSort
      fun a b => decide (a ≤ b))
  | _ => .error (.notFound path)

/-- The outcome of creating a directory where no entry stands. -/
def created (path : String) (existsOk : Bool) : Except DiskFault Unit → Outcome Unit
  | .ok () => .ok ()
  | .error .occupied => if existsOk then .ok () else .error (.alreadyExists path)
  | .error .missing => .error (.access (.missingParentDirectory path))
  | .error fault => .error (.ofFault path fault)

/-- Creates one directory. -/
def createOne (l : Location) (d : Disk) : Except DiskFault Unit × Disk :=
  match d.makeDirectory l with
  | .ok new => (.ok (), new)
  | .error fault => (.error fault, d)

/-- Creates a directory; `recursive` creates the missing directories on the way to it too, and
`existsOk` accepts a directory that is there already. -/
def makeDirectory (s : FileStorage) (path : String) (recursive existsOk : Bool) (d : Disk) :
    Effect Unit :=
  match s.location path with
  | .error e => (.error e, d)
  | .ok l =>
    match d.lookup l with
    | .ok e =>
      (if existsOk && e = .directory then .ok () else .error (.alreadyExists path), d)
    | .error _ =>
      let (result, d) := if recursive then d.makeDirectories l.reverse else createOne l d
      (created path existsOk result, d)

/-- Removes the entry at the path; a link is removed itself.  The root cannot be removed. -/
def remove (s : FileStorage) (path : String) (recursive : Bool) (d : Disk) : Effect Unit :=
  if Path.isRoot path then (.error (.access .removeRoot), d)
  else
    match s.location path with
    | .error e => (.error e, d)
    | .ok l =>
      let (result, d) := d.remove recursive l
      (result.mapError (.ofFault path), d)

/-! ## Streams -/

/-- What a reader of an entry reads from.  A pipe has nothing to read. -/
def sourceOf : Entry → Source
  | .file stamp _ => .file stamp
  | .directory => .directory
  | _ => .memory []

/-- Opens the entry at the path for reading. -/
def openRead (s : FileStorage) (path : String) (d : Disk) : Outcome ByteReader :=
  (s.entryAt path d).map fun e => { path, source := sourceOf e }

/-- Opens the entry at the path for reading text. -/
def openTextRead (s : FileStorage) (path : String) (d : Disk) : Outcome TextReader :=
  (s.openRead path d).map fun reader => { reader }

/-- The outcome of opening a file for writing. -/
def opened (path : String) (d : Disk) : Except DiskFault (Nat × Disk) → Effect Writer
  | .ok (stamp, new) => (.ok { path, stamp }, new)
  | .error .missing => (.error (.access (.missingParent path)), d)
  | .error fault => (.error (.ofFault path fault), d)

/-- Opens a file for writing.  Without `overwrite` nothing may stand at the path; with it a file
that stands there loses its content at once. -/
def openWrite (s : FileStorage) (path : String) (overwrite : Bool) (d : Disk) : Effect Writer :=
  match s.location path with
  | .error e => (.error e, d)
  | .ok l => opened path d (d.openWrite overwrite l)

/-! ## Whole content -/

/-- The content of the file at the path. -/
def readBytes (s : FileStorage) (path : String) (d : Disk) : Outcome Bytes := do
  let reader ← s.openRead path d
  (reader.readToEnd d).1

/-- The text of the file at the path. -/
def readText (s : FileStorage) (path : String) (d : Disk) : Outcome String := do
  let reader ← s.openTextRead path d
  (reader.readToEnd d).1

/-- Writes a file. -/
def writeBytes (s : FileStorage) (path : String) (data : Bytes) (overwrite : Bool) (d : Disk) :
    Effect Unit :=
  match s.openWrite path overwrite d with
  | (.ok w, d) => (.ok (), (w.write data d).2)
  | (.error e, d) => (.error e, d)

/-- Writes a text file. -/
def writeText (s : FileStorage) (path text : String) (overwrite : Bool) (d : Disk) :
    Effect Unit :=
  s.writeBytes path (Utf8.encode text) overwrite d

end FileStorage

/-- The text of a location. -/
def Location.text (l : Location) : String := "/" ++ String.intercalate "/" l

namespace FileStorage

/-- File storage below the directory that a path text names, from the directory `here` on. -/
def atRoot (here : Location) (path : String) (d : Disk) : Outcome FileStorage :=
  match if path = "" then .error .missing
    else d.locate true (Disk.start here path) (Disk.parts path) with
  | .ok (root, .directory) => .ok ⟨root⟩
  | .ok (l, _) => .error (.config (.rootNotDirectory l.text))
  | .error fault => .error (.config (.unresolvedRoot path fault.message))

end FileStorage

end RootedStorage
