import Mathlib.Data.List.Sort
import RootedStorage.Proofs.Disk.Directories
import RootedStorage.Proofs.FileStorage.ReadSide
import RootedStorage.Proofs.FileStorage.Remove
import RootedStorage.Proofs.Text.Order

/-!
# What a listing holds

A listing of a path holds one path for every name in the directory that the path leads to, if a file or
a directory is found under it: the segments of the path and the name, put together with slashes.  The
paths stand in the order of their octets and none stands twice, and each of them names the entry that it
was made for (`lists_of_list`).
-/

namespace RootedStorage

namespace FileStorage

variable {s : FileStorage} {d : Disk} {path : String} {names paths : List String} {there : Location}
  {name : String} {e : Entry}

/-- A file or a directory is found at the path, through links. -/
def Shows (s : FileStorage) (path : String) (d : Disk) : Prop :=
  ∃ stat, s.stat path d = .ok stat ∧
    (stat.fileType = some .file ∨ stat.fileType = some .directory)

/-- The paths are those of the entries in the directory `there` that lead to a file or a directory, in
order, each made of the segments before it and its name. -/
structure Lists (s : FileStorage) (d : Disk) (names : List String) (there : Location)
    (paths : List String) : Prop where
  increasing : paths.Pairwise fun a b => Utf8.encode a < Utf8.encode b
  mem_iff : ∀ c, c ∈ paths ↔ ∃ name e, d.find? (there ++ [name]) = some e ∧
    c = Path.ofSegments (names ++ [name]) ∧ s.Shows c d
  usable : ∀ name e, d.find? (there ++ [name]) = some e → Path.ofSegments (names ++ [name]) ∈ paths →
    Path.segments? (Path.ofSegments (names ++ [name])) = some (names ++ [name]) ∧
      s.Names (Path.ofSegments (names ++ [name])) d (there ++ [name]) e

theorem shows_iff (hpath : Path.segments? path = some names) :
    s.Shows path d ↔ ∃ e, d.lookup (s.root ++ names) = .ok e ∧ e.fileType?.isSome = true := by
  simp only [Shows, stat_eq_ok_iff, entryAt_eq_ok_iff hpath]
  constructor
  · rintro ⟨-, ⟨e, he, rfl⟩, htype⟩
    refine ⟨e, he, ?_⟩
    cases e <;> simp [Entry.stat, Entry.fileType?] at htype ⊢
  · rintro ⟨e, he, htype⟩
    refine ⟨_, ⟨e, he, rfl⟩, ?_⟩
    cases e <;> simp [Entry.stat, Entry.fileType?] at htype ⊢

theorem isListed_iff {l : Location} :
    isListed d l = true ↔ ∃ e, d.lookup l = .ok e ∧ e.fileType?.isSome = true := by
  unfold isListed
  cases d.lookup l <;> simp

/-- A listing of a directory. -/
theorem list_of_lookup (hpath : Path.segments? path = some names)
    (hlookup : d.lookup (s.root ++ names) = .ok .directory) :
    s.list path d = .ok ((((childNames d (s.root ++ names)).filter fun name =>
      isListed d (s.root ++ names ++ [name])).map fun name =>
        Path.ofSegments (names ++ [name])).mergeSort fun a b => decide (a ≤ b)) := by
  unfold list
  rw [Path.segments_eq_ok_iff.2 hpath]
  simp only [bind, Except.bind, asked, hlookup, Except.mapError]

theorem childNames_of_locate {l : Location} (h : d.locate true [] l = .ok (there, .directory)) :
    childNames d l = d.names there := by
  unfold childNames
  rw [h]

section
variable (hd : d.WellFormed) (hpath : Path.segments? path = some names)
include hd hpath

/-- The path of an entry in a directory is accepted. -/
theorem segments?_child (hfind : d.find? (there ++ [name]) = some e) :
    Path.segments? (Path.ofSegments (names ++ [name])) = some (names ++ [name]) := by
  have hname := hd.name hfind
  apply Path.segments?_ofSegments
  · intro part hpart
    rcases List.mem_append.1 hpart with hpart | hpart
    · exact Path.isName_of_mem_segments? hpath hpart
    · obtain rfl := List.mem_singleton.1 hpart
      exact hname.isName
  · intro part hpart
    rcases List.mem_append.1 hpart with hpart | hpart
    · exact Path.slash_not_mem_of_mem_segments? hpath hpart
    · obtain rfl := List.mem_singleton.1 hpart
      exact hname.no_slash

/-- The path of an entry names it if something is found there. -/
theorem names_child {links : Nat} (hreach : Disk.Reaches d Disk.linkLimit [] (s.root ++ names) links there)
    (hfind : d.find? (there ++ [name]) = some e)
    (hshows : s.Shows (Path.ofSegments (names ++ [name])) d) :
    s.Names (Path.ofSegments (names ++ [name])) d (there ++ [name]) e := by
  have hsegments := segments?_child hd hpath hfind
  obtain ⟨x, hlookup, -⟩ := (shows_iff hsegments).1 hshows
  obtain ⟨place, hwalk⟩ := Disk.lookup_eq_ok_iff_walk.1 hlookup
  have hwalkable := Disk.walkable_of_walk hwalk
  rw [← List.append_assoc] at hwalkable
  exact ⟨names, name, links, there, hsegments, hwalkable, hreach, rfl, hfind⟩

/-- Entries under different names have different paths. -/
theorem nodup_children :
    ((d.names there).map fun name => Path.ofSegments (names ++ [name])).Nodup := by
  refine (hd.toKeyed.nodup_names there).map_on fun a ha b hb heq => ?_
  obtain ⟨x, hx⟩ := (Disk.mem_names_iff hd.toKeyed).1 ha
  obtain ⟨y, hy⟩ := (Disk.mem_names_iff hd.toKeyed).1 hb
  have hsegments := segments?_child hd hpath hx
  rw [heq, segments?_child hd hpath hy] at hsegments
  obtain ⟨-, hlast⟩ := List.append_inj' (Option.some.inj hsegments) rfl
  exact (List.singleton_inj.1 hlast).symm

/-- What is listed of a directory. -/
theorem mem_listed_iff {c : String} :
    c ∈ ((d.names there).filter fun name => isListed d (s.root ++ names ++ [name])).map
        (fun name => Path.ofSegments (names ++ [name])) ↔
      ∃ name e, d.find? (there ++ [name]) = some e ∧ c = Path.ofSegments (names ++ [name]) ∧
        s.Shows c d := by
  have hlisted : ∀ {name e}, d.find? (there ++ [name]) = some e →
      (isListed d (s.root ++ names ++ [name]) = true ↔
        s.Shows (Path.ofSegments (names ++ [name])) d) := fun hfind => by
    rw [List.append_assoc, isListed_iff, shows_iff (segments?_child hd hpath hfind)]
  rw [List.mem_map]
  constructor
  · rintro ⟨name, hname, rfl⟩
    obtain ⟨hthere, hshown⟩ := List.mem_filter.1 hname
    obtain ⟨e, hfind⟩ := (Disk.mem_names_iff hd.toKeyed).1 hthere
    exact ⟨name, e, hfind, rfl, (hlisted hfind).1 hshown⟩
  · rintro ⟨name, e, hfind, rfl, hshows⟩
    have hthere := (Disk.mem_names_iff hd.toKeyed).2 ⟨e, hfind⟩
    exact ⟨name, List.mem_filter.2 ⟨hthere, (hlisted hfind).2 hshows⟩, rfl⟩

/-- A listing that is given holds the paths of the entries in the directory that the path leads to. -/
theorem lists_of_list (h : s.list path d = .ok paths) :
    ∃ links there, Disk.Reaches d Disk.linkLimit [] (s.root ++ names) links there ∧
      s.Lists d names there paths := by
  have hlookup := (entryAt_eq_ok_iff hpath).1 ((exists_list_iff hpath).1 ⟨paths, h⟩)
  obtain ⟨there, hlocate⟩ := Disk.lookup_directory_iff.1 hlookup
  obtain ⟨-, links, hreach⟩ := Disk.locate_directory_iff.1 hlocate
  rw [list_of_lookup hpath hlookup, childNames_of_locate hlocate] at h
  obtain rfl := Except.ok.inj h
  refine ⟨links, there, hreach, ?_, fun c => ?_, fun name e hfind hlisted => ?_⟩
  · have hall : ((d.names there).map fun name => Path.ofSegments (names ++ [name])).Nodup :=
      nodup_children hd hpath
    have hnodup := hall.sublist
      ((List.filter_sublist (p := fun name => isListed d (s.root ++ names ++ [name]))).map _)
    rw [← (List.mergeSort_perm _ _).nodup_iff] at hnodup
    exact (List.sortedLE_mergeSort.pairwise.and hnodup).imp fun hab =>
      Utf8.encode_lt_encode_iff.2 (lt_of_le_of_ne hab.1 hab.2)
  · rw [List.mem_mergeSort]
    exact mem_listed_iff hd hpath
  · rw [List.mem_mergeSort, mem_listed_iff hd hpath] at hlisted
    obtain ⟨-, -, -, -, hshows⟩ := hlisted
    exact ⟨segments?_child hd hpath hfind, names_child hd hpath hreach hfind hshows⟩

end

/-- Through a link to the directory itself its two entries are listed, the link among them, and both
paths lead on through the link. -/
theorem lists_of_list_link :
    ∃ there, (FileStorage.mk ["r"]).Lists (Disk.linked [1] ".") ["l"] there ["l/l", "l/t"] := by
  have hd := Disk.wellFormed_linked [1] (show Disk.isPathText "." = true by decide)
  have hpath : Path.segments? "./l" = some ["l"] := by decide
  have hlookup : (Disk.linked [1] ".").lookup ["r", "l"] = .ok .directory := by decide +kernel
  have hlisted : ((childNames (Disk.linked [1] ".") ["r", "l"]).filter fun name =>
      isListed (Disk.linked [1] ".") ["r", "l", name]).map (fun name => Path.ofSegments ["l", name]) =
        ["l/l", "l/t"] := by
    decide +kernel
  have hsorted : ["l/l", "l/t"].Pairwise fun a b : String => decide (a ≤ b) = true := by
    decide +kernel
  have hlist : (FileStorage.mk ["r"]).list "./l" (Disk.linked [1] ".") = .ok ["l/l", "l/t"] := by
    rw [list_of_lookup hpath hlookup]
    simp only [List.cons_append, List.nil_append, hlisted,
      List.mergeSort_of_pairwise hsorted]
  obtain ⟨-, there, -, hlists⟩ := lists_of_list hd hpath hlist
  exact ⟨there, hlists⟩

end FileStorage

end RootedStorage
