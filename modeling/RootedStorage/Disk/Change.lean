import RootedStorage.Disk.Walk

/-!
# Changing a disk

The elementary changes: opening files, and creating, removing and moving entries.  Each gives the
changed disk or the fault that refuses it, and a refused change leaves no disk behind.  Only the
creation of several directories and the removal of a directory with what is in it are several changes:
they give the disk that is left, whether they are refused or not.
-/

namespace RootedStorage.Disk

/-- Opens a file for writing.  With `overwrite` a file at the end of the path loses its content and
a missing one is created, also at the end of a link; without it the entry must be missing.  Gives
the stamp of the file. -/
def openWrite (d : Disk) (overwrite : Bool) (l : Location) : Except DiskFault (Nat × Disk) :=
  match d.walk overwrite [] l with
  | .error fault => .error fault
  | .ok (.vacant at_ slash) =>
    if slash then .error .isDirectory else .ok (d.nextStamp, d.putFile at_ [])
  | .ok (.entry at_ e) =>
    if !overwrite then .error .occupied
    else
      match e with
      | .file stamp _ => .ok (stamp, d.put at_ (.file stamp []))
      | .directory => .error .isDirectory
      | _ => .error .unsupported

/-- Creates a directory. -/
def makeDirectory (d : Disk) (l : Location) : Except DiskFault Disk :=
  match d.walk false [] l with
  | .error fault => .error fault
  | .ok (.vacant at_ _) => .ok (d.put at_ .directory)
  | .ok (.entry _ _) => .error .occupied

/-- Whether the names of a location lead to a directory, through links. -/
def isDirectory (d : Disk) (l : Location) : Bool :=
  match d.lookup l with
  | .ok .directory => true
  | _ => false

/-- Creates a directory unless one stands there already. -/
def ensureDirectory (d : Disk) (l : Location) : Except DiskFault Unit × Disk :=
  match d.makeDirectory l with
  | .ok d => (.ok (), d)
  | .error fault => (if d.isDirectory l then .ok () else .error fault, d)

/-- Creates a directory and the missing directories on the way to it.  The names are given from the
last to the first.  A directory that stands there already is no fault; when the last name is
refused, the directories before it stay. -/
def makeDirectories (d : Disk) : List String → Except DiskFault Unit × Disk
  | [] => (.ok (), d)
  | name :: above =>
    match d.makeDirectory (name :: above).reverse with
    | .error .missing =>
      match makeDirectories d above with
      | (.ok (), d) => d.ensureDirectory (name :: above).reverse
      | (.error fault, d) => (.error fault, d)
    | _ => d.ensureDirectory (name :: above).reverse

/-- How many names the longest location has. -/
def depth (d : Disk) : Nat := d.entries.foldl (fun n x => max n x.1.length) 0

/-- Removes what stands in a directory, entry by entry.  A subdirectory is cleared before it is
removed, at most `levels` of them one in the other; a link is removed and not followed. -/
def clearWithin : Nat → Disk → Location → Disk
  | 0, d, _ => d
  | levels + 1, d, at_ =>
    (d.names at_).foldl (fun d name =>
      let child := at_ ++ [name]
      let d := if d.find? child = some .directory then clearWithin levels d child else d
      d.drop (· = child)) d

/-- Removes everything that stands below a directory. -/
def clear (d : Disk) (at_ : Location) : Disk := clearWithin d.depth d at_

/-- Removes the directory that the names of a location lead to, which has to be empty. -/
def removeDirectory (d : Disk) (l : Location) : Except DiskFault Unit × Disk :=
  match d.locate false [] l with
  | .error fault => (.error fault, d)
  | .ok (at_, .directory) =>
    if (d.names at_).isEmpty then (.ok (), d.drop (· = at_)) else (.error .notEmpty, d)
  | .ok _ => (.error .notDirectory, d)

/-- Removes an entry without following a link at the end of the path.  A directory has to be empty
unless `recursive` removes first what is in it.  After that the names are followed once more: they may
have led through a link that is gone now, and then the empty directory is left and that is no fault. -/
def remove (d : Disk) (recursive : Bool) (l : Location) : Except DiskFault Unit × Disk :=
  match d.locate false [] l with
  | .error fault => (.error fault, d)
  | .ok (at_, .directory) =>
    if recursive then
      match (d.clear at_).removeDirectory l with
      | (.error .missing, d) => (.ok (), d)
      | outcome => outcome
    else d.removeDirectory l
  | .ok (at_, _) => (.ok (), d.drop (· = at_))

/-- Moves the file at one location to another, in the place of an entry that stands there. -/
def moveFile (d : Disk) (source target : Location) : Except DiskFault Disk :=
  match d.locate false [] source, d.walk false [] target with
  | .error fault, _ => .error fault
  | _, .error fault => .error fault
  | .ok (_, .directory), _ => .error .unsupported
  | .ok (_, _), .ok (.entry _ .directory) => .error .isDirectory
  | .ok (old, e), .ok (.entry new _) =>
    let d := d.drop (· = new)
    .ok ({ d with entries := d.entries.filter fun x => x.1 ≠ old }.put new e)
  | .ok (old, e), .ok (.vacant new _) =>
    .ok ({ d with entries := d.entries.filter fun x => x.1 ≠ old }.put new e)

end RootedStorage.Disk
