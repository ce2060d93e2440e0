import RootedStorage.Disk.Basic

/-!
# Finding entries

A walk follows the parts of a path from a directory on.  Links are replaced by the parts of their
targets, at most forty on one walk; a link at the end of a path is followed only if the walk asks
for it.
-/

namespace RootedStorage

/-- Where a walk ends: at an entry, or at a free place in a directory.  `slash` says whether the
path ended with a slash there. -/
inductive Spot where
  | entry (location : Location) (entry : Entry)
  | vacant (location : Location) (slash : Bool)
  deriving DecidableEq, Repr

/-- How far a walk comes before it meets a link that it has to follow. -/
inductive Advance where
  | arrived (spot : Spot)
  | link (directory : Location) (target : String) (rest : List String)
  | failed (fault : DiskFault)
  deriving Repr

namespace Disk

/-- Most octets of a name. -/
def nameLimit : Nat := 255

/-- Most octets of a path. -/
def pathLimit : Nat := 4095

/-- Most links that one walk follows. -/
def linkLimit : Nat := 40

/-- Whether a part of a path names the directory itself. -/
def isStay (part : String) : Bool := part = "" || part = "."

/-- Follows the parts of a path from a directory up to the first link. -/
def advance (d : Disk) (follow : Bool) (here : Location) : List String → Advance
  | [] => .arrived (.entry here .directory)
  | part :: rest =>
    if isStay part then advance d follow here rest
    else if part = ".." then advance d follow here.dropLast rest
    else if nameLimit < part.utf8ByteSize then .failed .nameTooLong
    else
      match d.find? (here ++ [part]) with
      | none =>
        if rest = [] then .arrived (.vacant (here ++ [part]) false)
        else if rest.all (· = "") then .arrived (.vacant (here ++ [part]) true)
        else .failed .missing
      | some .directory => advance d follow (here ++ [part]) rest
      | some (.link target) =>
        if rest = [] && !follow then .arrived (.entry (here ++ [part]) (.link target))
        else .link here target rest
      | some e => if rest = [] then .arrived (.entry (here ++ [part]) e) else .failed .notDirectory

/-- The parts of a path text between slashes, with an empty part at the end if it ends with a
slash. -/
def parts (path : String) : List String :=
  let names := (Path.split path).filter (· ≠ "")
  if path.endsWith '/' then names ++ [""] else names

/-- The directory that a path text starts from. -/
def start (here : Location) (path : String) : Location :=
  if Path.isAbsolute path then [] else here

/-- Follows the parts of a path and at most a given number of links. -/
def walkWithin (d : Disk) (follow : Bool) : Nat → Location → List String → Except DiskFault Spot
  | links, here, ps =>
    match d.advance follow here ps with
    | .arrived spot => .ok spot
    | .failed fault => .error fault
    | .link directory target rest =>
      match links with
      | 0 => .error .tooManyLinks
      | links + 1 =>
        if target = "" then .error .missing
        else walkWithin d follow links (start directory target) (parts target ++ rest)

/-- Whether a text can be part of a path at all. -/
def isPathText (part : String) : Bool := !part.toList.contains (Char.ofNat 0)

/-- The spot that the parts of a path lead to from a directory. -/
def walk (d : Disk) (follow : Bool) (here : Location) (ps : List String) :
    Except DiskFault Spot :=
  if !ps.all isPathText then .error .invalidName
  else if pathLimit < ps.foldl (fun n part => n + part.utf8ByteSize + 1) 0 then .error .nameTooLong
  else d.walkWithin follow linkLimit here ps

/-- The entry at the end of a path and its location. -/
def locate (d : Disk) (follow : Bool) (here : Location) (ps : List String) :
    Except DiskFault (Location × Entry) :=
  match d.walk follow here ps with
  | .ok (.entry l e) => .ok (l, e)
  | .ok (.vacant _ _) => .error .missing
  | .error fault => .error fault

/-- The entry that a location's names lead to, through links. -/
def lookup (d : Disk) (l : Location) : Except DiskFault Entry := (d.locate true [] l).map (·.2)

end Disk

end RootedStorage
