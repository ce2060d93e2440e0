import RootedStorage.Error

/-!
# Storage paths

A storage path names an entry below a storage root: segments between slashes, where empty segments
and single dots say nothing.  A path that begins with a slash or has a double dot is refused.  The
segments of an accepted path are its normal form; `resolve` puts them below a root and
`toStorage` takes them off again.
-/

namespace RootedStorage

/-- A part of a path between slashes, with its meaning. -/
inductive Component where
  | root
  | current
  | parent
  | name (text : String)
  deriving DecidableEq, Repr

/-- A component as text. -/
def Component.text : Component → String
  | .root => "/"
  | .current => "."
  | .parent => ".."
  | .name text => text

namespace Path

/-- The parts of a text between slashes. -/
def pieces : List Char → List (List Char)
  | [] => [[]]
  | c :: rest =>
    if c = '/' then [] :: pieces rest
    else
      match pieces rest with
      | [] => [[c]]
      | p :: ps => (c :: p) :: ps

/-- The parts of a path text between slashes. -/
def split (path : String) : List String := (pieces path.toList).map String.ofList

/-- Whether the path begins with a slash. -/
def isAbsolute (path : String) : Bool := path.toList.head? = some '/'

/-- Whether a part between slashes stands for an entry of a directory. -/
def isName (part : String) : Bool := part ≠ "" && part ≠ "." && part ≠ ".."

/-- The components of a path.  A dot counts only at the start. -/
def components (path : String) : List Component :=
  let parts := split path
  let start : List Component :=
    if isAbsolute path then [.root] else if parts.head? = some "." then [.current] else []
  start ++ parts.filterMap fun part =>
    if part = ".." then some .parent else if isName part then some (.name part) else none

/-- The normal form of a storage path: its segments, if it is accepted. -/
def segments? (path : String) : Option (List String) :=
  if isAbsolute path || (split path).contains ".." then none
  else some ((split path).filter isName)

/-- The segments of a storage path, or the error that refuses it. -/
def segments (path : String) : Outcome (List String) :=
  match segments? path with
  | some names => .ok names
  | none => .error (.access (.invalidPath path))

/-- A path text extended by one segment. -/
def push (base segment : String) : String :=
  if base = "" then segment
  else if base.endsWith '/' then base ++ segment
  else base ++ "/" ++ segment

/-- The text of the path below `root` that a storage path names. -/
def resolve (root path : String) : Outcome String :=
  (segments path).map fun names => names.foldl push root

/-- Whether the storage path names the root itself. -/
def isRoot (path : String) : Bool := segments? path = some []

/-- What follows `start` in a list that begins with it. -/
def afterStart? {α : Type} [DecidableEq α] : List α → List α → Option (List α)
  | [], l => some l
  | _ :: _, [] => none
  | a :: start, b :: l => if a = b then afterStart? start l else none

/-- The storage path of a path text below a root. -/
def toStorage (root native : String) : Outcome String :=
  match afterStart? (components root) (components native) with
  | some rest => .ok (String.intercalate "/" (rest.map Component.text))
  | none => .error (.internal "Path prefix strip failed: prefix not found")

/-- The storage path of a list of segments. -/
def ofSegments (names : List String) : String := String.intercalate "/" names

end Path

end RootedStorage
