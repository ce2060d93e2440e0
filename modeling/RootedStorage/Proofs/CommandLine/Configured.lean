import RootedStorage.CommandLine.Run
import RootedStorage.Proofs.Manager.Lasting

/-!
# What a configuration serves

Every run reads its configuration and builds the storages anew.  The storage that it finds under a key
(`servedFiles`) is the same one on every disk that has the directories and the links of the first and
holds the same content in the file that the configuration is read from (`servedFiles_lasts`).
-/

namespace RootedStorage.CommandLine

variable {d d' : Disk} {here : Location} {supply supply' : Supply} {host : Host}
  {config key source : String}

/-! ## Files outside storage -/

theorem readSource_eq_ok_iff {content : Bytes} : readSource source host = .ok content ↔
    source ≠ "" ∧ ∃ place stamp,
      host.disk.locate true (Disk.start host.here source) (Disk.parts source) =
        .ok (place, .file stamp content) := by
  unfold readSource
  by_cases hsource : source = ""
  · simp [hsource]
  rw [if_neg hsource]
  constructor
  · intro h
    split at h
    · next place stamp found hlocate =>
      obtain rfl := Except.ok.inj h
      exact ⟨hsource, place, stamp, hlocate⟩
    · cases h
  · rintro ⟨-, place, stamp, hlocate⟩
    rw [hlocate]

/-- What is read from a file is read again if the file holds it still. -/
theorem readSource_lasts (hd : d.WellFormed) (hhere : d.find? here = some .directory)
    (h : d.Lasting d')
    (hfile : ∀ place stamp content,
      d.locate true (Disk.start here source) (Disk.parts source) = .ok (place, .file stamp content) →
        ∃ stamp', d'.find? place = some (.file stamp' content)) :
    Lasts (readSource source ⟨d, here, supply⟩) (readSource source ⟨d', here, supply'⟩) := by
  intro content hread
  obtain ⟨hsource, place, stamp, hlocate⟩ := readSource_eq_ok_iff.1 hread
  obtain ⟨stamp', hfind'⟩ := hfile place stamp content hlocate
  have hfind : d.find? place = some (.file stamp content) :=
    Disk.find?_of_locate_text hd hhere hlocate
  have hwalk : d.walk true (Disk.start here source) (Disk.parts source) = .ok (d.spotAt place) := by
    rw [Disk.spotAt_of_find? hfind]
    exact Disk.locate_eq_ok_iff.1 hlocate
  have hholds : d.HoldsFile place := Or.inr ⟨stamp, content, hfind⟩
  exact readSource_eq_ok_iff.2 ⟨hsource, place, stamp', h.locate_file hholds hfind' hwalk⟩

/-! ## Storages -/

/-- The file storage that a configuration gives to a key. -/
def servedFiles (config key : String) (host : Host) : Except Failure FileStorage := do
  let c ← loadConfig config host
  let m ← initialise c host
  stored (m.fileStorage key)

theorem loadConfig_lasts {host' : Host}
    (h : Lasts (readSource config host) (readSource config host')) :
    Lasts (loadConfig config host) (loadConfig config host') := by
  intro c hc
  unfold loadConfig at hc ⊢
  cases hread : readSource config host with
  | error e =>
    rw [hread] at hc
    cases hc
  | ok content =>
    rw [hread] at hc
    rw [h content hread]
    exact hc

theorem initialise_lasts (h : d.Lasting d') (c : SystemConfig) :
    Lasts (initialise c ⟨d, here, supply⟩) (initialise c ⟨d', here, supply'⟩) :=
  (StorageManager.build_lasts StorageTypeRegistry.lasting_builtin h c).mapError _

/-- A key is served by the same storage as long as the configuration, the directories and the links
are what they were. -/
theorem servedFiles_lasts (h : d.Lasting d')
    (hconfig : Lasts (readSource config ⟨d, here, supply⟩) (readSource config ⟨d', here, supply'⟩))
    (key : String) :
    Lasts (servedFiles config key ⟨d, here, supply⟩) (servedFiles config key ⟨d', here, supply'⟩) := by
  refine (loadConfig_lasts hconfig).bind fun c => ?_
  exact (initialise_lasts h c).bind fun m => Lasts.refl _

/-- The same trees serve a key alike. -/
theorem servedFiles_of_tree (hd : d.WellFormed) (hhere : d.find? here = some .directory)
    (htree : d'.tree = d.tree) (key : String) :
    Lasts (servedFiles config key ⟨d, here, supply⟩) (servedFiles config key ⟨d', here, supply'⟩) := by
  have hlasting : d.Lasting d' := Disk.lasting_of_tree htree
  refine servedFiles_lasts hlasting ?_ key
  refine readSource_lasts hd hhere hlasting fun place stamp content hlocate => ?_
  exact Disk.exists_file_of_tree htree (Disk.find?_of_locate_text hd hhere hlocate)

section
variable {files : FileStorage}

theorem servedFiles_eq_ok_iff : servedFiles config key host = .ok files ↔
    ∃ c m, loadConfig config host = .ok c ∧ StorageManager.build .builtin c host = .ok m ∧
      m.fileStorage key = .ok files := by
  unfold servedFiles
  simp only [bind_eq_ok_iff, initialise, stored, mapError_eq_ok_iff]
  constructor
  · rintro ⟨c, hload, m, hbuild, hfiles⟩
    exact ⟨c, m, hload, hbuild, hfiles⟩
  · rintro ⟨c, m, hload, hbuild, hfiles⟩
    exact ⟨c, hload, m, hbuild, hfiles⟩

variable (h : servedFiles config key host = .ok files)
include h

/-- An invocation is carried out by a manager that has the storage. -/
theorem exists_manager_of_servedFiles : ∃ m : StorageManager, m.fileStorage key = .ok files ∧
    ∀ command, invoke ⟨config, key, command⟩ host = perform m key command host := by
  obtain ⟨c, m, hload, hbuild, hfiles⟩ := servedFiles_eq_ok_iff.1 h
  refine ⟨m, hfiles, fun command => ?_⟩
  have hinitialise : initialise c host = .ok m := mapError_eq_ok_iff.2 hbuild
  unfold invoke
  dsimp only
  rw [hload]
  dsimp only
  rw [hinitialise]

/-- A configuration that is read has a name. -/
theorem ne_empty_of_servedFiles : config ≠ "" := by
  rintro rfl
  obtain ⟨c, m, hload, -⟩ := servedFiles_eq_ok_iff.1 h
  cases hload

/-- The storage is at a directory. -/
theorem find?_root_of_servedFiles (hd : host.disk.WellFormed)
    (hhere : host.disk.find? host.here = some .directory) :
    host.disk.find? files.root = some .directory := by
  obtain ⟨c, m, -, hbuild, hfiles⟩ := servedFiles_eq_ok_iff.1 h
  exact StorageManager.find?_root_of_build hd hhere hbuild hfiles

end

end RootedStorage.CommandLine
