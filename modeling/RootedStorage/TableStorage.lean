import RootedStorage.FileStorage
import RootedStorage.Format

/-!
# Table storage

Table storage reads and writes tables in files of a format.  It goes through file storage, or, with
a pushdown root, straight to the files below that root.  A pushdown write that replaces a file
writes a temporary file beside it first and moves it over the target only when it is complete; one
that creates a file takes it away again when the table cannot be encoded.
-/

namespace RootedStorage

/-- Access to tables in files. -/
structure TableStorage where
  files : FileStorage
  formats : FormatRegistry
  pushdownRoot : Option Location

namespace TableStorage

/-- Whether tables are read and written without going through file storage. -/
def pushdownEnabled (t : TableStorage) : Bool := t.pushdownRoot.isSome

/-- What a codec reads of an entry.  Only a file has content. -/
def sourceOf : Entry → TableSource
  | .file _ content => .content content
  | .directory => .unreadable
  | _ => .content []

/-- The source of a table that is read through file storage. -/
def streamSource (t : TableStorage) (format : TableFormat) (path : String) (d : Disk) :
    Outcome TableSource :=
  if format.isBinary then (t.files.readBytes path d).map .content
  else (t.files.readText path d).map fun text => .content (Utf8.encode text)

/-- The source of a table that is read below a root. -/
def pushdownSource (root : Location) (path : String) (d : Disk) : Outcome TableSource := do
  let names ← Path.segments path
  let e ← FileStorage.asked path (d.lookup (root ++ names))
  .ok (sourceOf e)

/-- Reads a table. -/
def readTable (t : TableStorage) (schema : TableSchema) (path format : String)
    (options : FormatOptions) (d : Disk) : Outcome Batch := do
  let format ← t.formats.get format
  let source ← match t.pushdownRoot with
    | some root => pushdownSource root path d
    | none => t.streamSource format path d
  format.decode source schema options

/-- The name of the temporary file beside a file. -/
def temporaryName (name : String) : String := "." ++ name ++ ".trove-tmp"

/-- The location of the temporary file beside a file. -/
def temporarySibling (l : Location) : Location :=
  l.dropLast ++ [temporaryName (l.getLastD "")]

/-- Takes a file away again; a file that cannot be removed is left. -/
def discard (l : Location) (d : Disk) : Disk :=
  match d.locate false [] l with
  | .ok (_, .directory) => d
  | .ok (at_, _) => d.drop (· = at_)
  | .error _ => d

/-- Creates a file with encoded content.  The file is opened first, and taken away again when there
is no content. -/
def createEncoded (l : Location) (path : String) (content : Outcome Bytes) (d : Disk) :
    Effect Unit :=
  match FileStorage.opened path d (d.openWrite false l) with
  | (.error e, d) => (.error e, d)
  | (.ok w, d) =>
    match content with
    | .ok content => (.ok (), (w.write content d).2)
    | .error e => (.error e, discard l d)

/-- Replaces a file by encoded content.  The content goes to a temporary file first, which is moved
over the file when it is complete. -/
def replaceEncoded (l : Location) (path : String) (content : Outcome Bytes) (d : Disk) :
    Effect Unit :=
  let sibling := temporarySibling l
  match FileStorage.opened path d (d.openWrite true sibling) with
  | (.error e, d) => (.error e, d)
  | (.ok w, d) =>
    match content with
    | .error e => (.error e, discard sibling d)
    | .ok content =>
      let d := (w.write content d).2
      match d.moveFile sibling l with
      | .ok d => (.ok (), d)
      | .error _ => (.error (.access (.replaceFailed path)), discard sibling d)

/-- Writes a table below a root. -/
def pushdownWrite (root : Location) (path : String) (content : Outcome Bytes) (overwrite : Bool)
    (d : Disk) : Effect Unit :=
  if Path.isRoot path then (.error (.access .tableOverRoot), d)
  else
    match Path.segments path with
    | .error e => (.error e, d)
    | .ok names =>
      if overwrite then replaceEncoded (root ++ names) path content d
      else createEncoded (root ++ names) path content d

/-- Writes a table through file storage.  The content of a format that is not binary has to be
text. -/
def streamWrite (t : TableStorage) (format : TableFormat) (path : String)
    (content : Outcome Bytes) (overwrite : Bool) (d : Disk) : Effect Unit :=
  match content with
  | .error e => (.error e, d)
  | .ok content =>
    if format.isBinary then t.files.writeBytes path content overwrite d
    else
      match Utf8.decode? content with
      | some text => t.files.writeText path text overwrite d
      | none => (.error (.access (.encodedText format.name)), d)

/-- Writes a table. -/
def writeTable (t : TableStorage) (schema : TableSchema) (b : Batch) (path format : String)
    (options : FormatOptions) (overwrite : Bool) (d : Disk) : Effect Unit :=
  match t.formats.get format with
  | .error e => (.error e, d)
  | .ok format =>
    let content := format.encode schema b options
    match t.pushdownRoot with
    | some root => pushdownWrite root path content overwrite d
    | none => t.streamWrite format path content overwrite d

end TableStorage

end RootedStorage
