import RootedStorage.Proofs.FileStorage.Effects
import RootedStorage.Proofs.Prelude

/-!
# The operations that read

Looking at an entry, listing it and reading it start from the same entry, the one that the path leads
to through links.  What each of them gives is a function of that entry, and the content that is read by
its stamp is the content that stands in the tree (`readBytes_eq`).  So they agree with each other on
every kind of entry and at the end of every chain of links (`FileStorage.coherent`).
-/

namespace RootedStorage

namespace FileStorage

/-- What can be read of an entry. -/
def contentOf (path : String) : Entry → Outcome Bytes
  | .file _ content => .ok content
  | .directory => .error (.access (.io path))
  | _ => .ok []

section
variable {s : FileStorage} {d : Disk} (hd : d.WellFormed)
  (hroot : d.find? s.root = some .directory) (path : String)
include hd hroot

/-- An entry that is looked up stands somewhere. -/
theorem exists_find?_of_entryAt {e : Entry} (h : s.entryAt path d = .ok e) :
    ∃ place, d.find? place = some e := by
  obtain ⟨l, hl, hlookup⟩ := bind_eq_ok_iff.1 h
  obtain ⟨names, hnames, rfl⟩ := location_eq_ok_iff.1 hl
  unfold asked at hlookup
  cases hfound : d.lookup (s.root ++ names) with
  | error fault =>
    rw [hfound] at hlookup
    cases hlookup
  | ok x =>
    rw [hfound] at hlookup
    cases hlookup
    obtain ⟨place, hwalk⟩ := Disk.lookup_eq_ok_iff_walk.1 hfound
    exact ⟨place, Disk.walk_sound hd (no_slash_of_segments? hd hroot hnames) hwalk⟩

/-- Reading gives the content of the entry that the path leads to. -/
theorem readBytes_eq : s.readBytes path d = s.entryAt path d >>= contentOf path := by
  unfold readBytes openRead
  cases hentry : s.entryAt path d with
  | error e => rfl
  | ok e =>
    cases e with
    | file stamp c =>
      obtain ⟨place, hfind⟩ := exists_find?_of_entryAt hd hroot path hentry
      have hcontent := hd.content_eq hfind
      simp [bind, Except.bind, Except.map, sourceOf, contentOf, ByteReader.readToEnd,
        ByteReader.ahead, hcontent]
    | directory => rfl
    | pipe => rfl
    | link target => rfl

omit hd hroot in
/-- Reading a text decodes the content that is read. -/
theorem readText_eq :
    s.readText path d = s.readBytes path d >>= fun content => decodeText content path := by
  unfold readText openTextRead readBytes openRead
  cases hentry : s.entryAt path d with
  | error e => rfl
  | ok e =>
    cases e with
    | file stamp c => rfl
    | directory => rfl
    | pipe => rfl
    | link target => rfl

end

/-! ## Coherence -/

/-- What the operations that read at a path say of each other. -/
structure Coherent (s : FileStorage) (path : String) (d : Disk) : Prop where
  exists_isOk : ∃ found, s.exists? path d = .ok found
  exists_iff : s.exists? path d = .ok true ↔ ∃ stat, s.stat path d = .ok stat
  size_eq : s.size path d = (s.stat path d).map FileStat.size
  list_iff : (∃ paths, s.list path d = .ok paths) ↔
    ∃ stat, s.stat path d = .ok stat ∧ stat.fileType = some .directory
  file : ∀ stat, s.stat path d = .ok stat → stat.fileType = some .file →
    ∃ content, s.readBytes path d = .ok content ∧ s.size path d = .ok content.length ∧
      ∀ text, s.readText path d = .ok text ↔ content = Utf8.encode text
  directory : ∀ stat, s.stat path d = .ok stat → stat.fileType = some .directory →
    ∃ e, s.readBytes path d = .error e

section
variable {s : FileStorage} {d : Disk} {path : String} {names : List String}

/-- The entry of an accepted path is looked up by its segments. -/
theorem entryAt_eq (hnames : Path.segments? path = some names) :
    s.entryAt path d = asked path (d.lookup (s.root ++ names)) := by
  unfold entryAt
  rw [location_eq hnames]
  rfl

/-- The entry at the path is the one that its names lead to below the root. -/
theorem entryAt_eq_ok_iff (hnames : Path.segments? path = some names) {e : Entry} :
    s.entryAt path d = .ok e ↔ d.lookup (s.root ++ names) = .ok e := by
  rw [entryAt_eq hnames]
  exact mapError_eq_ok_iff

/-- A path exists exactly if it leads to an entry. -/
theorem exists?_eq (hnames : Path.segments? path = some names) :
    s.exists? path d = .ok (s.entryAt path d).isOk := by
  rw [entryAt_eq hnames]
  unfold exists?
  rw [location_eq hnames]
  cases h : d.lookup (s.root ++ names) <;> simp [h, asked, Except.map, Except.mapError, Except.isOk,
    Except.toBool]

/-- The metadata of a path is that of its entry. -/
theorem stat_eq_ok_iff {stat : FileStat} :
    s.stat path d = .ok stat ↔ ∃ e, s.entryAt path d = .ok e ∧ e.stat d.attributes = stat := by
  unfold FileStorage.stat
  cases s.entryAt path d <;> simp [Except.map]

/-- Listing succeeds on directories only. -/
theorem exists_list_iff (hnames : Path.segments? path = some names) :
    (∃ paths, s.list path d = .ok paths) ↔ s.entryAt path d = .ok .directory := by
  rw [entryAt_eq hnames]
  unfold list
  rw [Path.segments_eq_ok_iff.2 hnames]
  simp only [bind, Except.bind]
  cases asked path (d.lookup (s.root ++ names)) with
  | error e => simp
  | ok e => cases e <;> simp

/-- Directories only have the type of a directory. -/
theorem fileType?_eq_directory_iff {e : Entry} : e.fileType? = some .directory ↔ e = .directory := by
  cases e <;> simp [Entry.fileType?]

/-- Files only have the type of a file. -/
theorem fileType?_eq_file_iff {e : Entry} :
    e.fileType? = some .file ↔ ∃ stamp content, e = .file stamp content := by
  cases e <;> simp [Entry.fileType?]

/-- Content is decoded to a text exactly if it encodes that text. -/
theorem decodeText_eq_ok_iff {content : Bytes} {text : String} :
    decodeText content path = .ok text ↔ content = Utf8.encode text := by
  rw [← Utf8.decode?_eq_some_iff]
  unfold decodeText
  cases Utf8.decode? content <;> simp

end

/-- On every disk and at every accepted path, looking, listing and reading agree. -/
theorem coherent (s : FileStorage) {d : Disk} (hd : d.WellFormed)
    (hroot : d.find? s.root = some .directory) {path : String} {names : List String}
    (hpath : Path.segments? path = some names) : s.Coherent path d where
  exists_isOk := ⟨_, exists?_eq hpath⟩
  exists_iff := by
    rw [exists?_eq hpath]
    simp only [stat_eq_ok_iff]
    cases s.entryAt path d <;> simp [Except.isOk, Except.toBool]
  size_eq := rfl
  list_iff := by
    rw [exists_list_iff hpath]
    constructor
    · intro h
      exact ⟨_, stat_eq_ok_iff.2 ⟨_, h, rfl⟩, rfl⟩
    · rintro ⟨stat, hstat, hdirectory⟩
      obtain ⟨e, he, rfl⟩ := stat_eq_ok_iff.1 hstat
      rw [he, fileType?_eq_directory_iff.1 hdirectory]
  file := by
    intro stat hstat hfile
    obtain ⟨e, he, rfl⟩ := stat_eq_ok_iff.1 hstat
    obtain ⟨stamp, content, rfl⟩ := fileType?_eq_file_iff.1 hfile
    have hread : s.readBytes path d = .ok content := by
      rw [readBytes_eq hd hroot, he]
      rfl
    refine ⟨content, hread, ?_, fun text => ?_⟩
    · unfold FileStorage.size
      rw [hstat]
      rfl
    · rw [readText_eq, hread]
      exact decodeText_eq_ok_iff
  directory := by
    intro stat hstat hdirectory
    obtain ⟨e, he, rfl⟩ := stat_eq_ok_iff.1 hstat
    obtain rfl := fileType?_eq_directory_iff.1 hdirectory
    refine ⟨.access (.io path), ?_⟩
    rw [readBytes_eq hd hroot, he]
    rfl

/-- Through a link, a text of two octets: its size is told and its text is read. -/
theorem coherent_link :
    (FileStorage.mk ["r"]).size "./l" (Disk.linked [195, 169] "t") = .ok 2 ∧
    (FileStorage.mk ["r"]).readText "./l" (Disk.linked [195, 169] "t") = .ok "é" := by
  have hd := Disk.wellFormed_linked [195, 169] (show Disk.isPathText "t" = true by decide)
  have hroot : (Disk.linked [195, 169] "t").find? ["r"] = some .directory := by
    simp [Disk.find?_linked, Disk.find?_single]
  have hentry : (FileStorage.mk ["r"]).entryAt "./l" (Disk.linked [195, 169] "t") =
      .ok (.file 0 [195, 169]) := by decide +kernel
  have hbytes : (FileStorage.mk ["r"]).readBytes "./l" (Disk.linked [195, 169] "t") =
      .ok [195, 169] := by
    rw [readBytes_eq hd hroot, hentry]
    rfl
  have hlaw := coherent (FileStorage.mk ["r"]) hd hroot (show Path.segments? "./l" = some ["l"] by decide)
  obtain ⟨content, hread, hsize, htext⟩ := hlaw.file _ (stat_eq_ok_iff.2 ⟨_, hentry, rfl⟩) rfl
  obtain rfl := Except.ok.inj (hbytes.symm.trans hread)
  exact ⟨hsize, (htext "é").2 (by decide)⟩

end FileStorage

end RootedStorage
