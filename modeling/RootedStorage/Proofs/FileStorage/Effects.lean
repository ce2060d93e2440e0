import RootedStorage.FileStorage
import RootedStorage.Proofs.Disk.Removal

/-!
# What the operations of file storage do

Each operation either fails and leaves the disk, or takes place where a walk to its path ends.
-/

namespace RootedStorage

theorem overwriteAt_length (content data : Bytes) :
    overwriteAt content content.length data = content ++ data := by
  simp [overwriteAt]

/-- Content that is written behind all that a file holds is added to it. -/
theorem Disk.Written.append {d d' : Disk} {overwrite : Bool} {l place : Location} {stamp : Nat}
    {held : Bytes} (h : d.Written overwrite l place stamp held d') {w : Writer}
    (hstamp : w.stamp = stamp) (hoffset : w.offset = held.length) (data : Bytes) :
    d.Written overwrite l place stamp (held ++ data) (w.write data d').2 := by
  have hheld : d'.content stamp = held := h.wellFormed.content_eq h.find?_place
  simp only [Writer.write, hstamp, hoffset, hheld, overwriteAt_length]
  exact h.setContent (held ++ data)

/-- Content that is written to a file just opened is all that the file holds. -/
theorem Disk.Written.write {d d' : Disk} {overwrite : Bool} {l place : Location} {stamp : Nat}
    (h : d.Written overwrite l place stamp [] d') (path : String) (data : Bytes) :
    d.Written overwrite l place stamp data (Writer.write { path, stamp } data d').2 :=
  h.append rfl rfl data

namespace FileStorage

variable {s : FileStorage} {d : Disk} {path : String}

theorem location_eq {names : List String} (h : Path.segments? path = some names) :
    s.location path = .ok (s.root ++ names) := by
  unfold location
  rw [Path.segments_eq_ok_iff.2 h]
  rfl

theorem location_eq_ok_iff {l : Location} :
    s.location path = .ok l ↔ ∃ names, Path.segments? path = some names ∧ l = s.root ++ names := by
  constructor
  · intro h
    unfold location at h
    cases hsegments : Path.segments path with
    | error e =>
      rw [hsegments] at h
      cases h
    | ok names =>
      rw [hsegments] at h
      exact ⟨names, Path.segments_eq_ok_iff.1 hsegments, (Except.ok.inj h).symm⟩
  · rintro ⟨names, h, rfl⟩
    exact location_eq h

section
variable (hd : d.WellFormed) {root : Location} (hroot : d.find? root = some .directory)
include hd hroot

/-- No part of a location below a directory holds a slash. -/
theorem no_slash_of_segments? {names : List String} (h : Path.segments? path = some names) :
    ∀ part ∈ root ++ names, '/' ∉ part.toList := by
  intro part hpart
  rcases List.mem_append.1 hpart with hpart | hpart
  · exact (hd.entryName_of_mem hroot part hpart).no_slash
  · exact Path.slash_not_mem_of_mem_segments? h hpart

/-- The parts of a location below a directory are names. -/
theorem isName_of_segments? {names : List String} (h : Path.segments? path = some names) :
    ∀ part ∈ root ++ names, Path.isName part = true := by
  intro part hpart
  rcases List.mem_append.1 hpart with hpart | hpart
  · exact (hd.entryName_of_mem hroot part hpart).isName
  · exact Path.isName_of_mem_segments? h hpart

end

section
variable (hd : d.WellFormed) (hroot : d.find? s.root = some .directory)
include hd hroot

/-- Opening fails if the disk refuses it, and leaves an empty file otherwise. -/
theorem openWrite_of_segments? {names : List String} (hnames : Path.segments? path = some names)
    (overwrite : Bool) :
    (∃ fault e, d.openWrite overwrite (s.root ++ names) = .error fault ∧
      s.openWrite path overwrite d = (.error e, d)) ∨
    ∃ place stamp d', s.openWrite path overwrite d = (.ok { path, stamp }, d') ∧
      d.Written overwrite (s.root ++ names) place stamp [] d' := by
  unfold openWrite
  rw [location_eq hnames]
  dsimp only
  cases hopen : d.openWrite overwrite (s.root ++ names) with
  | error fault => cases fault <;> exact Or.inl ⟨_, _, rfl, rfl⟩
  | ok opened =>
    obtain ⟨stamp, d'⟩ := opened
    obtain ⟨place, hplace⟩ := Disk.written_of_openWrite hd
      (no_slash_of_segments? hd hroot hnames) hopen
    exact Or.inr ⟨place, stamp, d', rfl, hplace⟩

/-- Opening fails and changes nothing, or leaves an empty file at the end of the path. -/
theorem openWrite_cases (path : String) (overwrite : Bool) :
    (∃ e, s.openWrite path overwrite d = (.error e, d)) ∨
    ∃ names place stamp d', Path.segments? path = some names ∧
      s.openWrite path overwrite d = (.ok { path, stamp }, d') ∧
      d.Written overwrite (s.root ++ names) place stamp [] d' := by
  cases hlocation : s.location path with
  | error e =>
    left
    refine ⟨e, ?_⟩
    simp [openWrite, hlocation]
  | ok l =>
    obtain ⟨names, hnames, -⟩ := location_eq_ok_iff.1 hlocation
    rcases openWrite_of_segments? hd hroot hnames overwrite with
      ⟨-, e, -, h⟩ | ⟨place, stamp, d', h⟩
    · exact Or.inl ⟨e, h⟩
    · exact Or.inr ⟨names, place, stamp, d', hnames, h⟩

/-- Writing fails if the file cannot be opened, and puts the data in it otherwise. -/
theorem writeBytes_of_segments? {names : List String} (hnames : Path.segments? path = some names)
    (data : Bytes) (overwrite : Bool) :
    (∃ fault e, d.openWrite overwrite (s.root ++ names) = .error fault ∧
      s.writeBytes path data overwrite d = (.error e, d)) ∨
    ∃ place stamp d', s.writeBytes path data overwrite d = (.ok (), d') ∧
      d.Written overwrite (s.root ++ names) place stamp data d' := by
  unfold writeBytes
  rcases openWrite_of_segments? hd hroot hnames overwrite with
    ⟨fault, e, hopen, h⟩ | ⟨place, stamp, d', h, hwritten⟩
  · rw [h]
    exact Or.inl ⟨fault, e, hopen, rfl⟩
  · rw [h]
    exact Or.inr ⟨place, stamp, _, rfl, hwritten.write path data⟩

/-- Writing fails and changes nothing, or puts the data in a file at the end of the path. -/
theorem writeBytes_cases (path : String) (data : Bytes) (overwrite : Bool) :
    (∃ e, s.writeBytes path data overwrite d = (.error e, d)) ∨
    ∃ names place stamp d', Path.segments? path = some names ∧
      s.writeBytes path data overwrite d = (.ok (), d') ∧
      d.Written overwrite (s.root ++ names) place stamp data d' := by
  unfold writeBytes
  rcases openWrite_cases hd hroot path overwrite with
    ⟨e, h⟩ | ⟨names, place, stamp, d', hnames, h, hwritten⟩
  · rw [h]
    exact Or.inl ⟨e, rfl⟩
  · rw [h]
    exact Or.inr ⟨names, place, stamp, _, hnames, rfl, hwritten.write path data⟩

/-- Removing fails and changes nothing, or takes away the entry that the path leads to. -/
theorem remove_cases (path : String) (recursive : Bool) :
    (∃ e, s.remove path recursive d = (.error e, d)) ∨
    ∃ names place e d', Path.segments? path = some names ∧ names ≠ [] ∧
      s.remove path recursive d = (.ok (), d') ∧
      d.Removal recursive (s.root ++ names) place e d' := by
  unfold remove
  by_cases hisRoot : Path.isRoot path = true
  · exact Or.inl ⟨_, if_pos hisRoot⟩
  rw [if_neg hisRoot]
  cases hlocation : s.location path with
  | error e => exact Or.inl ⟨e, rfl⟩
  | ok l =>
    obtain ⟨names, hnames, rfl⟩ := location_eq_ok_iff.1 hlocation
    dsimp only
    rcases Disk.remove_cases hd (no_slash_of_segments? hd hroot hnames) recursive with
      ⟨fault, hremove⟩ | ⟨place, e, d', hremove, hremoval⟩
    · rw [hremove]
      exact Or.inl ⟨_, rfl⟩
    · refine Or.inr ⟨names, place, e, d', hnames, ?_, by rw [hremove]; rfl, hremoval⟩
      rintro rfl
      exact hisRoot (Path.isRoot_iff.2 hnames)

/-- Below a root without links, what stood at the path and below it is gone, and nothing else. -/
theorem remove_cases_of_linkFree (hlinks : d.LinkFreeBelow s.root) (path : String)
    (recursive : Bool) :
    (∃ e, s.remove path recursive d = (.error e, d)) ∨
    ∃ names d', Path.segments? path = some names ∧ names ≠ [] ∧
      s.remove path recursive d = (.ok (), d') ∧
      (∀ k, d'.find? k = if s.root ++ names <+: k ∧ k ≠ [] then none else d.find? k) ∧
      d'.WellFormed := by
  refine (remove_cases hd hroot path recursive).imp_right ?_
  rintro ⟨names, place, e, d', hnames, hne, hremove, hremoval⟩
  have hstraight := hlinks.straight_of_segments? hd hnames
  exact ⟨names, d', hnames, hne, hremove, hremoval.find?_of_straight hd hstraight,
    hremoval.wellFormed⟩

/-- Creating directories makes nothing else. -/
theorem grown_makeDirectory (path : String) (recursive existsOk : Bool) :
    d.Grown (s.makeDirectory path recursive existsOk d).2 := by
  unfold makeDirectory
  cases hlocation : s.location path with
  | error e => exact Disk.Grown.refl hd
  | ok l =>
    obtain ⟨names, hnames, rfl⟩ := location_eq_ok_iff.1 hlocation
    have hl := no_slash_of_segments? hd hroot hnames
    dsimp only
    cases hlookup : d.lookup (s.root ++ names) with
    | ok e => exact Disk.Grown.refl hd
    | error fault =>
      cases recursive with
      | true =>
        exact Disk.grown_makeDirectories hd _ fun part hpart => hl part (List.mem_reverse.1 hpart)
      | false =>
        show d.Grown (createOne (s.root ++ names) d).2
        unfold createOne
        cases hmake : d.makeDirectory (s.root ++ names) with
        | error fault => exact Disk.Grown.refl hd
        | ok d' => exact Disk.grown_of_makeDirectory hd hl hmake

end

/-- Reading gives the content of the file that the path leads to. -/
theorem readBytes_of_lookup {names : List String} (hnames : Path.segments? path = some names)
    {stamp : Nat} {c : Bytes} (hlookup : d.lookup (s.root ++ names) = .ok (.file stamp c)) :
    s.readBytes path d = .ok (d.content stamp) := by
  simp [readBytes, openRead, entryAt, location_eq hnames, asked, hlookup, bind, Except.bind,
    Except.map, Except.mapError, sourceOf, ByteReader.readToEnd, ByteReader.ahead]

/-- Reading gives the content of the file that stands at the path, if no link stands on the way. -/
theorem readBytes_of_find? (hd : d.WellFormed) {names : List String}
    (hnames : Path.segments? path = some names) (hstraight : d.Straight (s.root ++ names))
    (hwalkable : Disk.Walkable (s.root ++ names)) {stamp : Nat} {c : Bytes}
    (hfind : d.find? (s.root ++ names) = some (.file stamp c)) : s.readBytes path d = .ok c := by
  rw [readBytes_of_lookup hnames ((hstraight.lookup_eq_ok_iff hd).2 ⟨hfind, hwalkable⟩),
    hd.content_eq hfind]

/-- Reading fails where the path leads to no entry or to a directory. -/
theorem readBytes_error_of_lookup {names : List String}
    (hnames : Path.segments? path = some names)
    (hlookup : ∀ e, d.lookup (s.root ++ names) = .ok e → e = .directory) :
    ∃ e, s.readBytes path d = .error e := by
  cases h : d.lookup (s.root ++ names) with
  | error fault =>
    refine ⟨.ofFault path fault, ?_⟩
    simp [readBytes, openRead, entryAt, location_eq hnames, asked, h, bind, Except.bind,
      Except.map, Except.mapError]
  | ok e =>
    obtain rfl := hlookup e h
    refine ⟨.access (.io path), ?_⟩
    simp [readBytes, openRead, entryAt, location_eq hnames, asked, h, bind, Except.bind,
      Except.map, Except.mapError, sourceOf, ByteReader.readToEnd, ByteReader.ahead]

end FileStorage

end RootedStorage
