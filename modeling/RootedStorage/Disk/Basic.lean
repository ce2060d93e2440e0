import RootedStorage.Path
import RootedStorage.Text.Utf8

/-!
# Disks

A disk is a tree of named entries.  Every entry but the root directory is kept under its location,
the list of names that leads to it.  A file has a stamp besides its content: whoever has opened it
goes on to reach it by its stamp, also when it is moved, replaced or removed, so the content of
removed files is kept under their stamps.

`Disk.find?` is the view that every operation is described by.
-/

namespace RootedStorage

/-- Names from the root directory to an entry. -/
abbrev Location := List String

/-- An entry of a directory. -/
inductive Entry where
  | directory
  | file (stamp : Nat) (content : Bytes)
  | pipe
  | link (target : String)
  deriving DecidableEq, Repr, Inhabited

/-- Times and owner, which are the same for all entries of a disk. -/
structure Attributes where
  seconds : Int := 0
  user : Nat := 0
  group : Nat := 0
  deriving DecidableEq, Repr, Inhabited

/-- A tree of entries. -/
structure Disk where
  entries : List (Location × Entry) := []
  removed : List (Nat × Bytes) := []
  nextStamp : Nat := 0
  attributes : Attributes := {}
  deriving Repr, Inhabited

/-- Why the disk refuses an operation. -/
inductive DiskFault where
  | missing
  | occupied
  | notDirectory
  | isDirectory
  | notEmpty
  | tooManyLinks
  | nameTooLong
  | invalidName
  | unsupported
  deriving DecidableEq, Repr, Inhabited

/-- The fault in words. -/
def DiskFault.message : DiskFault → String
  | missing => "No such file or directory (os error 2)"
  | occupied => "File exists (os error 17)"
  | notDirectory => "Not a directory (os error 20)"
  | isDirectory => "Is a directory (os error 21)"
  | notEmpty => "Directory not empty (os error 39)"
  | tooManyLinks => "Too many levels of symbolic links (os error 40)"
  | nameTooLong => "File name too long (os error 36)"
  | invalidName => "file name contained an unexpected NUL byte"
  | unsupported => "No such device or address (os error 6)"

/-- The error of a storage operation on `path` that the disk refuses. -/
def StorageError.ofFault (path : String) : DiskFault → StorageError
  | .missing => .notFound path
  | .occupied => .alreadyExists path
  | _ => .access (.io path)

/-- The stamp and the content of a file. -/
def Entry.fileContent? : Entry → Option (Nat × Bytes)
  | .file stamp content => some (stamp, content)
  | _ => none

/-- The entry with new content if it is the file with a given stamp. -/
def Entry.withContent (stamp : Nat) (content : Bytes) : Entry → Entry
  | .file s old => .file s (if s = stamp then content else old)
  | e => e

/-- Whether two entries are the same, stamps aside. -/
def Entry.sameContent : Entry → Entry → Bool
  | .file _ a, .file _ b => a = b
  | a, b => a = b

namespace Disk

/-- The entry in a list of entries at a location. -/
def entryIn? (l : Location) : List (Location × Entry) → Option Entry
  | [] => none
  | (k, e) :: rest => if k = l then some e else entryIn? l rest

/-- The entry at a location. -/
def find? (d : Disk) (l : Location) : Option Entry :=
  if l = [] then some .directory else entryIn? l d.entries

/-- Puts an entry at a location. -/
def put (d : Disk) (l : Location) (e : Entry) : Disk :=
  { d with entries := (l, e) :: d.entries.filter fun x => x.1 ≠ l }

/-- Takes away the entries at which `gone` holds; whoever has a file open keeps its content. -/
def drop (d : Disk) (gone : Location → Bool) : Disk :=
  { d with
    entries := d.entries.filter fun x => !gone x.1
    removed := (d.entries.filter fun x => gone x.1).filterMap (Entry.fileContent? ·.2)
      ++ d.removed }

/-- Puts a new file at a location. -/
def putFile (d : Disk) (l : Location) (content : Bytes) : Disk :=
  { d.put l (.file d.nextStamp content) with nextStamp := d.nextStamp + 1 }

/-- The names of the entries of a directory. -/
def names (d : Disk) (l : Location) : List String :=
  d.entries.filterMap fun x =>
    match x.1.getLast? with
    | some name => if x.1.dropLast = l then some name else none
    | none => none

/-- The content of the file with a stamp, whether it is still an entry or not. -/
def content (d : Disk) (stamp : Nat) : Bytes :=
  match d.entries.findSome? fun x =>
      match x.2 with
      | .file s content => if s = stamp then some content else none
      | _ => none with
  | some content => content
  | none => ((d.removed.find? fun x => x.1 = stamp).map (·.2)).getD []

/-- Gives new content to the file with a stamp, whether it is still an entry or not. -/
def setContent (d : Disk) (stamp : Nat) (content : Bytes) : Disk :=
  { d with
    entries := d.entries.map fun x => (x.1, x.2.withContent stamp content)
    removed := d.removed.map fun x => if x.1 = stamp then (stamp, content) else x }

theorem entryIn?_filter (entries : List (Location × Entry)) (keep : Location → Bool)
    (k : Location) :
    entryIn? k (entries.filter fun x => keep x.1) =
      if keep k then entryIn? k entries else none := by
  induction entries with
  | nil => simp [entryIn?]
  | cons x xs ih =>
    by_cases hk : x.1 = k
    · subst hk
      by_cases hg : keep x.1 <;> simp [entryIn?, hg, ih]
    · by_cases hg : keep x.1 <;> simp [entryIn?, hg, hk, ih]

/-- Putting an entry changes its location and no other. -/
theorem find?_put (d : Disk) (l k : Location) (e : Entry) (hl : l ≠ []) :
    (d.put l e).find? k = if k = l then some e else d.find? k := by
  unfold find? put
  by_cases hk : k = l
  · simp [hk, hl, entryIn?]
  · by_cases h0 : k = []
    · simp [h0, Ne.symm hl]
    · have hf := entryIn?_filter d.entries (fun x => decide (x ≠ l)) k
      rw [if_pos (decide_eq_true hk)] at hf
      simp only [h0, if_false, entryIn?, Ne.symm hk, hk, hf]

/-- Putting a file changes its location and no other. -/
theorem find?_putFile (d : Disk) (l k : Location) (content : Bytes) (hl : l ≠ []) :
    (d.putFile l content).find? k =
      if k = l then some (.file d.nextStamp content) else d.find? k :=
  find?_put d l k _ hl

/-- Taking entries away leaves the other locations as they are.  The root directory stays. -/
theorem find?_drop (d : Disk) (gone : Location → Bool) (k : Location) :
    (d.drop gone).find? k = if gone k && k ≠ [] then none else d.find? k := by
  unfold find? drop
  rw [entryIn?_filter d.entries (fun l => !gone l) k]
  by_cases h0 : k = []
  · simp [h0]
  · by_cases hg : gone k <;> simp [h0, hg]

theorem entryIn?_map_withContent (entries : List (Location × Entry)) (stamp : Nat)
    (content : Bytes) (k : Location) :
    entryIn? k (entries.map fun x => (x.1, x.2.withContent stamp content)) =
      (entryIn? k entries).map (Entry.withContent stamp content) := by
  induction entries with
  | nil => rfl
  | cons x xs ih => by_cases hk : x.1 = k <;> simp [entryIn?, hk, ih]

/-- New content reaches the file with the stamp wherever it stands, and no other entry. -/
theorem find?_setContent (d : Disk) (stamp : Nat) (content : Bytes) (k : Location) :
    (d.setContent stamp content).find? k =
      (d.find? k).map (Entry.withContent stamp content) := by
  unfold find? setContent
  by_cases h0 : k = []
  · simp [h0, Entry.withContent]
  · simp only [h0, if_false]
    exact entryIn?_map_withContent d.entries stamp content k

end Disk

end RootedStorage
