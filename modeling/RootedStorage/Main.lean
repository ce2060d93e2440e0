import RootedStorage.CommandLine.Run

/-!
# The command

The command loads what its arguments name from the file system into a disk, runs on that disk and
carries the changes back.  What it does is decided by `CommandLine.run` alone.
-/

namespace RootedStorage.CommandLine

/-- A place of the file system. -/
def place (l : Location) : IO.FS.DirEntry := ⟨"/", String.intercalate "/" l⟩

/-- The disk with a directory and all directories above it. -/
def withDirectories (d : Disk) (l : Location) : Disk :=
  (List.range l.length).foldl (fun d n => d.put (l.take (n + 1)) .directory) d

/-- The name of a place of its own for a link that leads nowhere.  No file system has such names. -/
def vacantName (d : Disk) : String := String.singleton (Char.ofNat 0) ++ toString d.entries.length

/-- The links of a disk that lead nowhere, each with the place that stands for where it leads. -/
def dangling (d : Disk) : List (Location × Location) :=
  d.entries.filterMap fun
    | (l, .link target) =>
      if Disk.isPathText target then none else some (l, Disk.parts target)
    | _ => none

/-- The disk on which a link that leads nowhere leads through a missing directory. -/
def sealDangling (d : Disk) : Disk :=
  (dangling d).foldl (fun d link => d.put link.1 (.link "")) d

/-- Loads the entry at a location with everything below it.  Where a link leads to is loaded too.  A
link that leads nowhere leads to a vacant place, and one that cannot be followed leads to itself. -/
partial def load (d : Disk) (l : Location) : IO Disk := do
  let path := (place l).path
  let .ok found ← path.symlinkMetadata.toBaseIO | return d
  match found.type with
  | .file =>
    let .ok content ← (IO.FS.readBinFile path).toBaseIO | return d
    return d.putFile l content.data.toList
  | .dir =>
    let d := if l = [] then d else d.put l .directory
    let .ok children ← path.readDir.toBaseIO | return d
    children.foldlM (fun d child => load d (l ++ [child.fileName])) d
  | .symlink =>
    match ← path.metadata.toBaseIO with
    | .ok _ =>
      let real ← IO.FS.realPath path
      let target := Disk.parts real.toString
      let d := d.put l (.link real.toString)
      if (d.find? target).isSome then return d else load (withDirectories d target.dropLast) target
    | .error (.noFileOrDirectory ..) => return d.put l (.link ("/" ++ vacantName d))
    | .error _ => return d.put l (.link path.toString)
  | .other => return d.put l .pipe

/-- Loads everything that a path text leads through and to. -/
def loadPath (here : Location) (d : Disk) (text : String) : IO Disk := do
  let start := Disk.start here text
  let parts := Disk.parts text
  let mut d := withDirectories d start
  for n in List.range parts.length do
    let .ok above ← (IO.FS.realPath (place (start ++ parts.take n)).path).toBaseIO | return d
    let above := Disk.parts above.toString
    let name := (parts[n]?).getD ""
    let l := if Path.isName name then above ++ [name] else above
    let .ok found ← (place l).path.symlinkMetadata.toBaseIO | return d
    d := withDirectories d above
    if found.type == .dir && n + 1 < parts.length then d := withDirectories d l else d ← load d l
  return d

/-- The files outside storage that an invocation reads. -/
def sources (i : Invocation) : List String :=
  i.config :: match i.command with
    | .put source _ _ => [source]
    | _ => []

/-- The directories that a configuration names. -/
def roots (c : SystemConfig) : List String :=
  c.storage.entries.filterMap fun entry => entry.2.option? rootPathOption

/-- The time at which the entry was changed whose metadata an invocation asks for. -/
def attributes (i : Invocation) (c : SystemConfig) (here : Location) : IO Attributes := do
  match i.command, (c.storage.get? i.storage).bind (·.option? rootPathOption) with
  | .stat path, some root =>
    let l := Disk.start here root ++ Disk.parts root ++ Disk.parts path
    let .ok found ← (place l).path.metadata.toBaseIO | return {}
    return { seconds := found.modified.sec }
  | _, _ => return {}

/-- The disk that the arguments are about. -/
def loadFor (arguments : List String) (here : Location) : IO Disk := do
  let .run i := asked arguments | return {}
  let d ← (sources i).foldlM (loadPath here) {}
  let .ok c := loadConfig i.config { disk := d, here } | return d
  let d ← (roots c).foldlM (loadPath here) d
  return { d with attributes := ← attributes i c here }

/-- Whether a disk has the given entry at a location. -/
def holds (d : Disk) (l : Location) (e : Entry) : Bool :=
  match d.find? l with
  | some other => e.sameContent other
  | none => false

/-- Carries the changes between two disks over to the file system: removals from the deepest
location up, then new and changed entries from the highest location down. -/
def carryOver (before after : Disk) : IO Unit := do
  let gone := before.entries.filter fun x => (after.find? x.1).isNone
  for (l, e) in gone.mergeSort fun a b => b.1.length ≤ a.1.length do
    if e = .directory then IO.FS.removeDir (place l).path else IO.FS.removeFile (place l).path
  let changed := after.entries.filter fun x => x.1.all Disk.isPathText && !holds before x.1 x.2
  for (l, e) in changed.mergeSort fun a b => a.1.length ≤ b.1.length do
    match e with
    | .directory => IO.FS.createDir (place l).path
    | .file _ content => IO.FS.writeBinFile (place l).path ⟨content.toArray⟩
    | _ => pure ()

/-- Writes what was put at the places of links that lead nowhere through the links themselves.  Gives
whether that was possible: the directory that such a link leads to may be missing. -/
def writeThrough (before after : Disk) : IO Bool := do
  for (l, vacant) in dangling before do
    if let some (.file _ content) := after.find? vacant then
      let .ok _ ← (IO.FS.writeBinFile (place l).path ⟨content.toArray⟩).toBaseIO | return false
  return true

/-- Runs the command and gives its exit code. -/
def execute (arguments : List String) : IO UInt32 := do
  let here := Disk.parts (← IO.currentDir).toString
  let loaded ← loadFor arguments here
  let possible ← writeThrough loaded (run arguments { disk := loaded, here }).2
  let before := if possible then loaded else sealDangling loaded
  let (report, after) := run arguments { disk := before, here }
  carryOver before after
  (← IO.getStdout).write ⟨report.output.toArray⟩
  if let some failure := report.failure then IO.eprintln ("Error: " ++ failure.message)
  return report.exit.toUInt32

end RootedStorage.CommandLine

/-- Runs the command. -/
def main (arguments : List String) : IO UInt32 := RootedStorage.CommandLine.execute arguments
