import RootedStorage.Proofs.Disk.Lasting
import RootedStorage.Proofs.Manager.Construction

/-!
# Storages that last

A storage is bound to the directory that its root led to when it was built.  As long as the
directories and the links of the disk stand, the same configuration therefore builds the same storages
again (`StorageManager.build_lasts`), for the storage types of this library and for all others whose
bindings look at nothing else (`StorageBinding.Lasting`).
-/

namespace RootedStorage

variable {d d' : Disk} {here : Location} {supply supply' : Supply}

namespace FileStorage

variable {path : String} {s : FileStorage}

/-- File storage is built at a path exactly if the path leads to a directory. -/
theorem atRoot_eq_ok_iff : atRoot here path d = .ok s ↔
    path ≠ "" ∧ d.locate true (Disk.start here path) (Disk.parts path) = .ok (s.root, .directory) := by
  unfold atRoot
  by_cases hpath : path = ""
  · simp [hpath]
  rw [if_neg hpath]
  constructor
  · intro h
    split at h
    · next root hlocate =>
      obtain rfl := Except.ok.inj h
      exact ⟨hpath, hlocate⟩
    · cases h
    · cases h
  · rintro ⟨-, hlocate⟩
    rw [hlocate]

/-- File storage is built at a directory. -/
theorem find?_root_of_atRoot (hd : d.WellFormed) (hhere : d.find? here = some .directory)
    (h : atRoot here path d = .ok s) : d.find? s.root = some .directory :=
  Disk.find?_of_locate_text hd hhere (atRoot_eq_ok_iff.1 h).2

/-- File storage at a path is built again. -/
theorem atRoot_lasts (h : d.Lasting d') (here : Location) (path : String) :
    Lasts (atRoot here path d) (atRoot here path d') := by
  intro s hs
  obtain ⟨hpath, hlocate⟩ := atRoot_eq_ok_iff.1 hs
  exact atRoot_eq_ok_iff.2 ⟨hpath, h.locate_directory hlocate⟩

/-- File storage of a configuration is built again. -/
theorem ofConfig_lasts (h : d.Lasting d') (c : StorageConfig) (here : Location) :
    Lasts (ofConfig c ⟨d, here, supply⟩) (ofConfig c ⟨d', here, supply'⟩) :=
  (Lasts.refl _).bind fun root => atRoot_lasts h here root

end FileStorage

/-- Table storage of a configuration is built again. -/
theorem TableStorage.ofConfig_lasts (h : d.Lasting d') (pushdown : Bool) (formats : FormatRegistry)
    (c : StorageConfig) (files : FileStorage) (here : Location) :
    Lasts (ofConfig pushdown formats c files ⟨d, here, supply⟩)
      (ofConfig pushdown formats c files ⟨d', here, supply'⟩) := by
  unfold ofConfig
  split
  · exact (FileStorage.ofConfig_lasts h c here).map _
  · exact Lasts.refl _

/-- What the binding has built is built again as long as the directories and the links stand. -/
structure StorageBinding.Lasting (binding : StorageBinding) : Prop where
  files : ∀ {d d' : Disk} {supply supply' : Supply} (_ : d.Lasting d') (c : StorageConfig)
    (here : Location), Lasts (binding.files c ⟨d, here, supply⟩) (binding.files c ⟨d', here, supply'⟩)
  tables : ∀ {d d' : Disk} {supply supply' : Supply} (_ : d.Lasting d') (c : StorageConfig)
    (files : FileStorage) (here : Location),
    Lasts (binding.tables c files ⟨d, here, supply⟩) (binding.tables c files ⟨d', here, supply'⟩)

/-- The bindings of this library last. -/
theorem StorageBinding.lasting_rooted (pushdown : Bool) : (rooted pushdown).Lasting where
  files := FileStorage.ofConfig_lasts
  tables := fun h => TableStorage.ofConfig_lasts h pushdown .builtin

/-- All bindings of a registry last. -/
def StorageTypeRegistry.Lasting (r : StorageTypeRegistry) : Prop :=
  ∀ type binding, r.bindings.get? type = some binding → binding.Lasting

/-- The builtin registry has bindings of this library only. -/
theorem StorageTypeRegistry.eq_rooted_of_get?_builtin {type : String} {binding : StorageBinding}
    (h : builtin.bindings.get? type = some binding) : binding = .rooted true := by
  unfold builtin register at h
  rw [Dictionary.get?_put] at h
  split at h
  · exact (Option.some.inj h).symm
  · cases h

/-- The builtin registry lasts. -/
theorem StorageTypeRegistry.lasting_builtin : builtin.Lasting := by
  intro type binding h
  obtain rfl := eq_rooted_of_get?_builtin h
  exact StorageBinding.lasting_rooted true

namespace StorageManager

variable {r : StorageTypeRegistry}

/-- The storages of one key are built again. -/
theorem buildOne_lasts (hr : r.Lasting) (h : d.Lasting d') (key : String) (c : StorageConfig) :
    Lasts (buildOne r key c ⟨d, here, supply⟩) (buildOne r key c ⟨d', here, supply'⟩) := by
  unfold buildOne
  cases hbinding : r.bindings.get? c.storageType with
  | none => exact Lasts.refl _
  | some binding =>
    have hlasting := hr _ _ hbinding
    refine (hlasting.files h c here).bind fun files => ?_
    exact (hlasting.tables h c files here).bind fun tables => Lasts.refl _

/-- The storages of some keys are built again. -/
theorem buildKeys_lasts (hr : r.Lasting) (h : d.Lasting d') (c : SystemConfig) (keys : List String)
    (m : StorageManager) :
    Lasts (buildKeys r c ⟨d, here, supply⟩ m keys) (buildKeys r c ⟨d', here, supply'⟩ m keys) := by
  induction keys generalizing m with
  | nil => exact Lasts.refl _
  | cons key keys ih =>
    unfold buildKeys
    cases c.storage.get? key with
    | none => exact ih m
    | some storage => exact (buildOne_lasts hr h key storage).bind fun built => ih _

/-- A manager is built again as long as the directories and the links stand. -/
theorem build_lasts (hr : r.Lasting) (h : d.Lasting d') (c : SystemConfig) :
    Lasts (build r c ⟨d, here, supply⟩) (build r c ⟨d', here, supply'⟩) :=
  buildKeys_lasts hr h c _ _

/-- File storage that a manager of the builtin types gives is at a directory. -/
theorem find?_root_of_build (hd : d.WellFormed) (hhere : d.find? here = some .directory)
    {c : SystemConfig} {m : StorageManager} (hbuild : build .builtin c ⟨d, here, supply⟩ = .ok m)
    {key : String} {files : FileStorage} (h : m.fileStorage key = .ok files) :
    d.find? files.root = some .directory := by
  have hserves : m.Serves [(localStorageType, .rooted true)] c ⟨d, here, supply⟩ := serves_of_build hbuild
  cases hstorage : c.storage.get? key with
  | none =>
    rw [(hserves.unconfigured key hstorage).1] at h
    cases h
  | some storage =>
    obtain ⟨files', tables, hconstructs, hfiles, -⟩ := hserves.configured key storage hstorage
    obtain rfl := Except.ok.inj (hfiles.symm.trans h)
    cases hconstructs with
    | built hlatest hbuilt _ =>
      rw [← StorageTypeRegistry.get?_ofRegistrations] at hlatest
      obtain rfl := StorageTypeRegistry.eq_rooted_of_get?_builtin hlatest
      obtain ⟨root, -, hroot⟩ := bind_eq_ok_iff.1 hbuilt
      exact FileStorage.find?_root_of_atRoot hd hhere hroot

end StorageManager

end RootedStorage
