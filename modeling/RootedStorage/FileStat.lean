import RootedStorage.Calendar.Internet
import RootedStorage.Json.Decoder
import RootedStorage.Json.Writer

/-!
# Metadata of entries

What is known about an entry: its kind, its size, its times and its owner.  The metadata is written
as JSON and read back; times are written in universal time.
-/

namespace RootedStorage

/-- The kind of an entry that is a file or a directory. -/
inductive FileType where
  | file
  | directory
  deriving DecidableEq, Repr

/-- The metadata of an entry.  Entries that are neither files nor directories have no kind. -/
structure FileStat where
  fileType : Option FileType
  size : Nat
  changed : Option Moment := none
  modified : Option Moment := none
  accessed : Option Moment := none
  user : Option Nat := none
  group : Option Nat := none
  mode : Option Nat := none
  deriving DecidableEq, Repr

namespace FileType

/-- The kind as it is shown. -/
def shown : FileType → String
  | file => "FILE"
  | directory => "DIRECTORY"

/-- The kind's name in JSON texts. -/
def name : FileType → String
  | file => "File"
  | directory => "Directory"

/-- The kinds' names. -/
def names : List String := [file.name, directory.name]

/-- The kind of a given name, or the fault that there is none. -/
def ofName (name : String) (s : Bytes) : Json.Step FileType :=
  if name = file.name then .value file s
  else if name = directory.name then .value directory s
  else Json.failLater (.unknownVariant name names) s

/-- The name of a kind, read from a JSON text. -/
def readName (s : Bytes) : Json.Step FileType :=
  match Json.skip s with
  | [] => Json.failNext .endOfValue []
  | b :: rest =>
    (if b = 34 then (Json.stringBody rest).andThen ofName
    else Json.unexpected "variant identifier" (b :: rest)).placed

/-- Null, as the content of a kind. -/
def readUnit (s : Bytes) : Json.Step Unit :=
  match Json.skip s with
  | [] => Json.failNext .endOfValue []
  | 110 :: rest => (Json.word "ull".toList rest).placed
  | rest => (Json.unexpected "unit" rest).placed

/-- A kind, read from a JSON text: its name, or an object with the name as its only key and null as
its value. -/
def read (s : Bytes) : Json.Step FileType :=
  match Json.skip s with
  | [] => Json.failNext .endOfValue []
  | b :: rest =>
    if b = 123 then
      (readName rest).andThen fun type rest =>
        (Json.memberValue readUnit rest).andThen fun _ rest =>
          match Json.skip rest with
          | [] => Json.failHere .endOfObject []
          | b :: rest =>
            if b = 125 then .value type rest else Json.failHere .noValue (b :: rest)
    else if b = 34 then readName (b :: rest)
    else Json.failNext .noValue (b :: rest)

end FileType

namespace Moment

/-- A moment, read from a JSON text. -/
def readJson (s : Bytes) : Json.Step Moment :=
  ((Json.stringAs "an RFC 3339 formatted date and time string" s).andThen fun text rest =>
    match Internet.parse text.toList with
    | .ok m => .value m rest
    | .error fault => Json.failLater (.custom fault.message) rest).placed

/-- The moment as JSON. -/
def writeJson (m : Moment) : String := Json.writeString m.universalText

end Moment

namespace FileStat

/-- Whether the entry is a file. -/
def isFile (s : FileStat) : Bool := s.fileType = some .file

/-- Whether the entry is a directory. -/
def isDirectory (s : FileStat) : Bool := s.fileType = some .directory

/-- The members read so far. -/
structure Draft where
  fileType : Option (Option FileType) := none
  size : Option Nat := none
  changed : Option (Option Moment) := none
  modified : Option (Option Moment) := none
  accessed : Option (Option Moment) := none
  user : Option (Option Nat) := none
  group : Option (Option Nat) := none
  mode : Option (Option Nat) := none

/-- A file size. -/
def readSize : Json.Reader Nat := Json.natural (Nat.pow 2 64) "u64"

/-- A number of 32 bits. -/
def readWord : Json.Reader Nat := Json.natural (Nat.pow 2 32) "u32"

open Json in
/-- One member. -/
def member (d : Draft) (key : String) : Reader Draft :=
  match key with
  | "file_type" =>
    once key d.fileType (optional FileType.read) fun v => { d with fileType := some v }
  | "size" => once key d.size readSize fun v => { d with size := some v }
  | "ctime" => once key d.changed (optional Moment.readJson) fun v => { d with changed := some v }
  | "mtime" => once key d.modified (optional Moment.readJson) fun v => { d with modified := some v }
  | "atime" => once key d.accessed (optional Moment.readJson) fun v => { d with accessed := some v }
  | "uid" => once key d.user (optional readWord) fun v => { d with user := some v }
  | "gid" => once key d.group (optional readWord) fun v => { d with group := some v }
  | "mode" => once key d.mode (optional readWord) fun v => { d with mode := some v }
  | _ => ignored d

open Json in
/-- The metadata of the members.  Only the size has to stand. -/
def ofDraft (d : Draft) (s : Bytes) : Step FileStat :=
  (required "size" d.size s).map fun size =>
    { fileType := d.fileType.join
      size
      changed := d.changed.join
      modified := d.modified.join
      accessed := d.accessed.join
      user := d.user.join
      group := d.group.join
      mode := d.mode.join }

/-- A list of all fields, in words. -/
def listForm : String := "struct FileStat with 8 elements"

open Json in
/-- The metadata of a list of all fields. -/
def ofList (s : Bytes) : Step FileStat :=
  (fieldAt 0 listForm none (optional FileType.read) s).andThen fun fileType s =>
  (fieldAt 1 listForm none readSize s).andThen fun size s =>
  (fieldAt 2 listForm none (optional Moment.readJson) s).andThen fun changed s =>
  (fieldAt 3 listForm none (optional Moment.readJson) s).andThen fun modified s =>
  (fieldAt 4 listForm none (optional Moment.readJson) s).andThen fun accessed s =>
  (fieldAt 5 listForm none (optional readWord) s).andThen fun user s =>
  (fieldAt 6 listForm none (optional readWord) s).andThen fun group s =>
  (fieldAt 7 listForm none (optional readWord) s).map fun mode =>
    { fileType, size, changed, modified, accessed, user, group, mode }

open Json in
/-- The metadata that a JSON text stands for. -/
def ofJson (text : String) : Except Json.Error FileStat :=
  decode (record "struct FileStat" (fun s => (allMembers member {} s).andThen ofDraft) ofList) text

open Json in
/-- The metadata as JSON. -/
def toJson (s : FileStat) : String :=
  writeObject [
    ("file_type", writeOption (fun t => writeString t.name) s.fileType),
    ("size", toString s.size),
    ("ctime", writeOption Moment.writeJson s.changed),
    ("mtime", writeOption Moment.writeJson s.modified),
    ("atime", writeOption Moment.writeJson s.accessed),
    ("uid", writeOption toString s.user),
    ("gid", writeOption toString s.group),
    ("mode", writeOption toString s.mode)]

end FileStat

end RootedStorage
