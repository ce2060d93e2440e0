import RootedStorage.Manager
import RootedStorage.Proofs.Dictionary
import RootedStorage.Proofs.Prelude
import RootedStorage.Proofs.Text.Order

/-!
# A manager is built as a whole or not at all

What the storage of a key comes to is a matter of its own configuration and of the binding that was
registered last for its type (`Constructs`).  A manager is built when every configured storage can
be built, and it then serves exactly these (`StorageManager.Serves`); otherwise building fails as the
smallest of the keys does whose storage cannot be built (`build_ofRegistrations`).

The loop over the keys is described from both ends: what a whole run has put into the manager
(`get?_of_buildKeys`), and where a run that fails has stopped (`exists_of_buildKeys_error`).
-/

namespace RootedStorage

namespace StorageTypeRegistry

/-- The registry after registrations, one after the other. -/
def ofRegistrations (registrations : List (String × StorageBinding)) : StorageTypeRegistry :=
  registrations.foldl (fun r e => r.register e.1 e.2) {}

/-- The binding that was registered last for a storage type. -/
def latest? (registrations : List (String × StorageBinding)) (type : String) :
    Option StorageBinding :=
  registrations.reverse.lookup type

/-- Registering types one after the other puts their bindings one after the other. -/
theorem bindings_foldl_register (registrations : List (String × StorageBinding))
    (r : StorageTypeRegistry) :
    (registrations.foldl (fun r e => r.register e.1 e.2) r).bindings =
      registrations.foldl (fun d e => d.put e.1 e.2) r.bindings := by
  induction registrations generalizing r with
  | nil => rfl
  | cons e registrations ih => exact ih _

/-- A registry finds the binding that was registered last. -/
theorem get?_ofRegistrations (registrations : List (String × StorageBinding)) (type : String) :
    (ofRegistrations registrations).bindings.get? type = latest? registrations type := by
  rw [ofRegistrations, bindings_foldl_register, Dictionary.get?_putAll]
  exact Option.or_none

end StorageTypeRegistry

/-- What building the storage of a key comes to after registrations: the binding that was registered
last for its type builds the file storage first, and the table storage over it. -/
inductive Constructs (registrations : List (String × StorageBinding)) (key : String)
    (storage : StorageConfig) (host : Host) : Outcome (FileStorage × TableStorage) → Prop
  | unbound (h : StorageTypeRegistry.latest? registrations storage.storageType = none) :
    Constructs registrations key storage host
      (.error (.config (.typeUnavailable storage.storageType key)))
  | noFiles {binding : StorageBinding} {e : StorageError}
      (h : StorageTypeRegistry.latest? registrations storage.storageType = some binding)
      (hfiles : binding.files storage host = .error e) :
    Constructs registrations key storage host (.error e)
  | noTables {binding : StorageBinding} {files : FileStorage} {e : StorageError}
      (h : StorageTypeRegistry.latest? registrations storage.storageType = some binding)
      (hfiles : binding.files storage host = .ok files)
      (htables : binding.tables storage files host = .error e) :
    Constructs registrations key storage host (.error e)
  | built {binding : StorageBinding} {files : FileStorage} {tables : TableStorage}
      (h : StorageTypeRegistry.latest? registrations storage.storageType = some binding)
      (hfiles : binding.files storage host = .ok files)
      (htables : binding.tables storage files host = .ok tables) :
    Constructs registrations key storage host (.ok (files, tables))

namespace StorageManager

variable {registrations : List (String × StorageBinding)} {r : StorageTypeRegistry}
  {c : SystemConfig} {host : Host} {key : String} {storage : StorageConfig}

/-- Building one storage has the outcome that the registrations give it. -/
theorem constructs_buildOne (registrations : List (String × StorageBinding)) (key : String)
    (storage : StorageConfig) (host : Host) :
    Constructs registrations key storage host
      (buildOne (.ofRegistrations registrations) key storage host) := by
  unfold buildOne
  rw [StorageTypeRegistry.get?_ofRegistrations]
  cases hbinding : StorageTypeRegistry.latest? registrations storage.storageType with
  | none => exact .unbound hbinding
  | some binding =>
    cases hfiles : binding.files storage host with
    | error e => simpa [hfiles, bind, Except.bind] using .noFiles hbinding hfiles
    | ok files =>
      cases htables : binding.tables storage files host with
      | error e =>
        simpa [hfiles, htables, bind, Except.bind] using .noTables hbinding hfiles htables
      | ok tables => simpa [hfiles, htables, bind, Except.bind] using .built hbinding hfiles htables

/-- Building comes to one thing only. -/
theorem constructs_iff {outcome : Outcome (FileStorage × TableStorage)} :
    Constructs registrations key storage host outcome ↔
      buildOne (.ofRegistrations registrations) key storage host = outcome := by
  constructor
  · intro h
    unfold buildOne
    rw [StorageTypeRegistry.get?_ofRegistrations]
    cases h with
    | unbound h => rw [h]
    | noFiles h hfiles => simp [h, hfiles, bind, Except.bind]
    | noTables h hfiles htables => simp [h, hfiles, htables, bind, Except.bind]
    | built h hfiles htables => simp [h, hfiles, htables, bind, Except.bind]
  · rintro rfl
    exact constructs_buildOne registrations key storage host

/-- A configured storage has one outcome only. -/
theorem Constructs.unique {outcome outcome' : Outcome (FileStorage × TableStorage)}
    (h : Constructs registrations key storage host outcome)
    (h' : Constructs registrations key storage host outcome') : outcome = outcome' :=
  (constructs_iff.1 h).symm.trans (constructs_iff.1 h')

/-- Only the latest binding of the storage's own type matters. -/
theorem constructs_congr {registrations' : List (String × StorageBinding)}
    (h : StorageTypeRegistry.latest? registrations' storage.storageType =
      StorageTypeRegistry.latest? registrations storage.storageType)
    {outcome : Outcome (FileStorage × TableStorage)} :
    Constructs registrations' key storage host outcome ↔
      Constructs registrations key storage host outcome := by
  rw [constructs_iff, constructs_iff, buildOne, buildOne, StorageTypeRegistry.get?_ofRegistrations,
    StorageTypeRegistry.get?_ofRegistrations, h]

/-! ## The loop over the keys -/

/-- The manager with the storages of one more key. -/
def add (m : StorageManager) (key : String) (built : FileStorage × TableStorage) :
    StorageManager :=
  ⟨m.files.put key built.1, m.tables.put key built.2⟩

/-- Whether the manager has the given storages under a key. -/
def Has (m : StorageManager) (key : String) (built : Option (FileStorage × TableStorage)) : Prop :=
  m.files.get? key = built.map Prod.fst ∧ m.tables.get? key = built.map Prod.snd

/-- An empty manager has nothing under any key. -/
theorem has_empty (key : String) : ({} : StorageManager).Has key none := ⟨rfl, rfl⟩

/-- A manager has what was added last under its key. -/
theorem has_add (m : StorageManager) (key : String) (built : FileStorage × TableStorage) :
    (m.add key built).Has key (some built) := by
  simp [Has, add]

/-- Adding under one key leaves what is under the others. -/
theorem Has.add {m : StorageManager} {key other : String}
    {built : Option (FileStorage × TableStorage)} (h : m.Has other built) (hne : other ≠ key)
    (new : FileStorage × TableStorage) : (m.add key new).Has other built := by
  simpa [Has, StorageManager.add, hne] using h

/-- The first key is built first, and its failure ends the run. -/
theorem buildKeys_cons {m : StorageManager} {key : String} {storage : StorageConfig}
    (h : c.storage.get? key = some storage) (keys : List String) :
    buildKeys r c host m (key :: keys) =
      buildOne r key storage host >>= fun built => buildKeys r c host (m.add key built) keys := by
  rw [buildKeys, h]
  rfl

/-- Behind a whole run every key of it has the storages that were built for it, and every other key
has what it had. -/
theorem get?_of_buildKeys {m m' : StorageManager} {keys : List String}
    (hkeys : ∀ key ∈ keys, ∃ storage, c.storage.get? key = some storage)
    (h : buildKeys r c host m keys = .ok m') :
    (∀ key ∈ keys, ∀ storage, c.storage.get? key = some storage →
      ∃ built, buildOne r key storage host = .ok built ∧ m'.Has key (some built)) ∧
    ∀ key built, key ∉ keys → m.Has key built → m'.Has key built := by
  induction keys generalizing m with
  | nil =>
    obtain rfl := Except.ok.inj h
    exact ⟨fun _ hkey => absurd hkey List.not_mem_nil, fun _ _ _ hhas => hhas⟩
  | cons key keys ih =>
    obtain ⟨⟨storage, hstorage⟩, hkeys⟩ := List.forall_mem_cons.1 hkeys
    rw [buildKeys_cons hstorage, bind_eq_ok_iff] at h
    obtain ⟨built, hbuilt, h⟩ := h
    obtain ⟨hrun, hkeep⟩ := ih hkeys h
    constructor
    · intro other hother storage' hstorage'
      by_cases hlater : other ∈ keys
      · exact hrun other hlater storage' hstorage'
      · obtain rfl := (List.mem_cons.1 hother).resolve_right hlater
        obtain rfl := Option.some.inj (hstorage.symm.trans hstorage')
        exact ⟨built, hbuilt, hkeep other _ hlater (has_add m other built)⟩
    · intro other given hother hhas
      obtain ⟨hne, hlater⟩ := not_or.1 (List.mem_cons.not.1 hother)
      exact hkeep other given hlater (hhas.add hne built)

/-- Building keys keeps the manager's keys distinct. -/
theorem distinct_of_buildKeys {m m' : StorageManager} {keys : List String}
    (hkeys : ∀ key ∈ keys, ∃ storage, c.storage.get? key = some storage)
    (hm : m.files.Distinct) (h : buildKeys r c host m keys = .ok m') : m'.files.Distinct := by
  induction keys generalizing m with
  | nil =>
    obtain rfl := Except.ok.inj h
    exact hm
  | cons key keys ih =>
    obtain ⟨⟨storage, hstorage⟩, hkeys⟩ := List.forall_mem_cons.1 hkeys
    rw [buildKeys_cons hstorage, bind_eq_ok_iff] at h
    obtain ⟨built, -, h⟩ := h
    exact ih hkeys (hm.put key built.1) h

/-- A run that fails has built all keys before the one it fails at. -/
theorem exists_of_buildKeys_error {m : StorageManager} {keys : List String} {e : StorageError}
    (hkeys : ∀ key ∈ keys, ∃ storage, c.storage.get? key = some storage)
    (h : buildKeys r c host m keys = .error e) :
    ∃ before key after storage, keys = before ++ key :: after ∧
      c.storage.get? key = some storage ∧ buildOne r key storage host = .error e ∧
      ∀ other ∈ before, ∀ storage', c.storage.get? other = some storage' →
        ∃ built, buildOne r other storage' host = .ok built := by
  induction keys generalizing m with
  | nil => cases h
  | cons key keys ih =>
    obtain ⟨⟨storage, hstorage⟩, hkeys⟩ := List.forall_mem_cons.1 hkeys
    rw [buildKeys_cons hstorage] at h
    cases hbuilt : buildOne r key storage host with
    | error e' =>
      rw [hbuilt] at h
      obtain rfl := Except.error.inj h
      exact ⟨[], key, keys, storage, rfl, hstorage, hbuilt, fun _ hmem =>
        absurd hmem List.not_mem_nil⟩
    | ok built =>
      rw [hbuilt] at h
      obtain ⟨before, failed, after, storage', hsplit, hfailed, herror, hbefore⟩ := ih hkeys h
      refine ⟨key :: before, failed, after, storage', by rw [hsplit, List.cons_append], hfailed,
        herror, List.forall_mem_cons.2 ⟨fun other hother => ?_, hbefore⟩⟩
      obtain rfl := Option.some.inj (hstorage.symm.trans hother)
      exact ⟨built, hbuilt⟩

/-! ## The whole manager -/

/-- The manager answers for exactly the configured keys, each with the storages that the binding
registered last for its type builds. -/
structure Serves (m : StorageManager) (registrations : List (String × StorageBinding))
    (c : SystemConfig) (host : Host) : Prop where
  configured : ∀ key storage, c.storage.get? key = some storage → ∃ files tables,
    Constructs registrations key storage host (.ok (files, tables)) ∧
    m.fileStorage key = .ok files ∧ m.tableStorage key = .ok tables ∧
    m.hasFiles key = true ∧ m.hasTables key = true
  unconfigured : ∀ key, c.storage.get? key = none →
    m.fileStorage key = .error (.keyNotFound key) ∧
    m.tableStorage key = .error (.keyNotFound key) ∧
    m.hasFiles key = false ∧ m.hasTables key = false
  sorted : m.storageKeys.Pairwise fun a b => Utf8.encode a < Utf8.encode b
  keys : ∀ key, key ∈ m.storageKeys ↔ ∃ storage, c.storage.get? key = some storage

/-- The fault of the smallest key whose storage cannot be built. -/
def FailsFirst (registrations : List (String × StorageBinding)) (c : SystemConfig) (host : Host)
    (e : StorageError) : Prop :=
  ∃ key storage, c.storage.get? key = some storage ∧
    Constructs registrations key storage host (.error e) ∧
    ∀ other storage', c.storage.get? other = some storage' → Utf8.encode other < Utf8.encode key →
      ∃ built, Constructs registrations other storage' host (.ok built)

/-- A key with storages is answered by every accessor. -/
theorem Has.answers {m : StorageManager} {key : String} {files : FileStorage}
    {tables : TableStorage} (h : m.Has key (some (files, tables))) :
    m.fileStorage key = .ok files ∧ m.tableStorage key = .ok tables ∧
      m.hasFiles key = true ∧ m.hasTables key = true := by
  obtain ⟨hfiles, htables⟩ := h
  simp [fileStorage, tableStorage, hasFiles, hasTables, Dictionary.contains, hfiles, htables]

/-- A key without storages is refused by every accessor. -/
theorem Has.refuses {m : StorageManager} {key : String} (h : m.Has key none) :
    m.fileStorage key = .error (.keyNotFound key) ∧
      m.tableStorage key = .error (.keyNotFound key) ∧
      m.hasFiles key = false ∧ m.hasTables key = false := by
  obtain ⟨hfiles, htables⟩ := h
  simp [fileStorage, tableStorage, hasFiles, hasTables, Dictionary.contains, hfiles, htables]

/-- A manager that is built serves the whole configuration. -/
theorem serves_of_build {m : StorageManager}
    (h : build (.ofRegistrations registrations) c host = .ok m) :
    m.Serves registrations c host := by
  have hkeys : ∀ key ∈ c.storage.sortedKeys, ∃ storage, c.storage.get? key = some storage :=
    fun key hkey => Dictionary.mem_sortedKeys_iff.1 hkey
  obtain ⟨hbuilt, hkeep⟩ := get?_of_buildKeys hkeys h
  have hnone : ∀ key, c.storage.get? key = none → m.Has key none := by
    intro key hkey
    refine hkeep key none (fun hmem => ?_) (has_empty key)
    obtain ⟨storage, hstorage⟩ := hkeys key hmem
    rw [hkey] at hstorage
    cases hstorage
  have hsome : ∀ key storage, c.storage.get? key = some storage → ∃ files tables,
      buildOne (.ofRegistrations registrations) key storage host = .ok (files, tables) ∧
        m.Has key (some (files, tables)) := by
    intro key storage hstorage
    obtain ⟨⟨files, tables⟩, hone, hhas⟩ :=
      hbuilt key (Dictionary.mem_sortedKeys_iff.2 ⟨storage, hstorage⟩) storage hstorage
    exact ⟨files, tables, hone, hhas⟩
  constructor
  case configured =>
    intro key storage hstorage
    obtain ⟨files, tables, hone, hhas⟩ := hsome key storage hstorage
    exact ⟨files, tables, constructs_iff.2 hone, hhas.answers⟩
  case unconfigured => exact fun key hkey => (hnone key hkey).refuses
  case sorted =>
    have hdistinct := distinct_of_buildKeys hkeys Dictionary.distinct_empty h
    exact hdistinct.pairwise_lt_sortedKeys.imp fun hab => Utf8.encode_lt_encode_iff.2 hab
  case keys =>
    intro key
    rw [storageKeys, Dictionary.mem_sortedKeys_iff]
    cases hkey : c.storage.get? key with
    | none => simp [(hnone key hkey).1]
    | some storage =>
      obtain ⟨files, tables, -, hhas⟩ := hsome key storage hkey
      simp [hhas.1]

/-- Building that fails does so for the smallest key. -/
theorem failsFirst_of_build {e : StorageError}
    (h : build (.ofRegistrations registrations) c host = .error e) :
    FailsFirst registrations c host e := by
  have hkeys : ∀ key ∈ c.storage.sortedKeys, ∃ storage, c.storage.get? key = some storage :=
    fun key hkey => Dictionary.mem_sortedKeys_iff.1 hkey
  obtain ⟨before, key, after, storage, hsplit, hstorage, herror, hbefore⟩ :=
    exists_of_buildKeys_error hkeys h
  refine ⟨key, storage, hstorage, constructs_iff.2 herror, ?_⟩
  intro other storage' hother hlt
  have hsorted := c.storage.pairwise_le_sortedKeys
  have hmem := Dictionary.mem_sortedKeys_iff.2 ⟨storage', hother⟩
  rw [hsplit] at hsorted hmem
  -- Keys behind the failing one are not smaller.
  have hafter : other ∉ key :: after := by
    intro hlater
    have hle : key ≤ other := by
      rcases List.mem_cons.1 hlater with rfl | hlater
      · exact le_refl _
      · exact (List.pairwise_cons.1 (List.pairwise_append.1 hsorted).2.1).1 other hlater
    exact absurd (Utf8.encode_lt_encode_iff.1 hlt) (not_lt_of_ge hle)
  obtain ⟨built, hbuilt⟩ :=
    hbefore other ((List.mem_append.1 hmem).resolve_right hafter) storage' hother
  exact ⟨built, constructs_iff.2 hbuilt⟩

/-- There is one smallest key that fails, and it fails in one way. -/
theorem FailsFirst.unique {e e' : StorageError} (h : FailsFirst registrations c host e)
    (h' : FailsFirst registrations c host e') : e = e' := by
  obtain ⟨key, storage, hstorage, hfails, hbefore⟩ := h
  obtain ⟨key', storage', hstorage', hfails', hbefore'⟩ := h'
  rcases lt_trichotomy key key' with hlt | rfl | hlt
  · obtain ⟨built, hbuilt⟩ := hbefore' key storage hstorage (Utf8.encode_lt_encode_iff.2 hlt)
    cases Constructs.unique hbuilt hfails
  · obtain rfl := Option.some.inj (hstorage.symm.trans hstorage')
    exact Except.error.inj (Constructs.unique hfails hfails')
  · obtain ⟨built, hbuilt⟩ := hbefore key' storage' hstorage' (Utf8.encode_lt_encode_iff.2 hlt)
    cases Constructs.unique hbuilt hfails'

/-- Building fails with the error of the smallest key that cannot be built. -/
theorem build_eq_error_iff {e : StorageError} :
    build (.ofRegistrations registrations) c host = .error e ↔
      FailsFirst registrations c host e := by
  refine ⟨failsFirst_of_build, fun h => ?_⟩
  cases hbuild : build (.ofRegistrations registrations) c host with
  | error e' => rw [(failsFirst_of_build hbuild).unique h]
  | ok m =>
    obtain ⟨key, storage, hstorage, hfails, -⟩ := h
    obtain ⟨files, tables, hbuilt, -⟩ := (serves_of_build hbuild).configured key storage hstorage
    cases Constructs.unique hbuilt hfails

/-- Managers that serve the same configuration give the same answers. -/
theorem Serves.unique {m m' : StorageManager} (h : m.Serves registrations c host)
    (h' : m'.Serves registrations c host) :
    m.storageKeys = m'.storageKeys ∧ ∀ key, m.fileStorage key = m'.fileStorage key ∧
      m.tableStorage key = m'.tableStorage key := by
  constructor
  · have hstrict : ∀ {m : StorageManager}, m.Serves registrations c host →
        m.storageKeys.Pairwise (· < ·) := fun h => h.sorted.imp Utf8.encode_lt_encode_iff.1
    refine List.Perm.eq_of_pairwise (fun a b _ _ hab hba => absurd hab (lt_asymm hba))
      (hstrict h) (hstrict h') ((List.perm_ext_iff_of_nodup ?_ ?_).2 fun key => ?_)
    · exact (hstrict h).imp ne_of_lt
    · exact (hstrict h').imp ne_of_lt
    · rw [h.keys, h'.keys]
  · intro key
    cases hkey : c.storage.get? key with
    | none =>
      have hm := h.unconfigured key hkey
      have hm' := h'.unconfigured key hkey
      exact ⟨hm.1.trans hm'.1.symm, hm.2.1.trans hm'.2.1.symm⟩
    | some storage =>
      obtain ⟨files, tables, hbuilt, hfiles, htables, -⟩ := h.configured key storage hkey
      obtain ⟨files', tables', hbuilt', hfiles', htables', -⟩ := h'.configured key storage hkey
      obtain ⟨rfl, rfl⟩ := Prod.mk.inj (Except.ok.inj (Constructs.unique hbuilt hbuilt'))
      exact ⟨hfiles.trans hfiles'.symm, htables.trans htables'.symm⟩

/-- Two registries and two configurations that give every key the same configuration and its type
the same latest binding. -/
structure SameView (registrations registrations' : List (String × StorageBinding))
    (c c' : SystemConfig) : Prop where
  storage : ∀ key, c'.storage.get? key = c.storage.get? key
  latest : ∀ key storage, c.storage.get? key = some storage →
    StorageTypeRegistry.latest? registrations' storage.storageType =
      StorageTypeRegistry.latest? registrations storage.storageType

section
variable {registrations' : List (String × StorageBinding)} {c' : SystemConfig}
  (h : SameView registrations registrations' c c')
include h

/-- What serves one history serves every other with the same view. -/
theorem SameView.serves {m : StorageManager} (hm : m.Serves registrations' c' host) :
    m.Serves registrations c host := by
  constructor
  case configured =>
    intro key storage hstorage
    obtain ⟨files, tables, hbuilt, hanswers⟩ :=
      hm.configured key storage ((h.storage key).trans hstorage)
    exact ⟨files, tables, (constructs_congr (h.latest key storage hstorage)).1 hbuilt, hanswers⟩
  case unconfigured => exact fun key hkey => hm.unconfigured key ((h.storage key).trans hkey)
  case sorted => exact hm.sorted
  case keys =>
    intro key
    rw [hm.keys, h.storage]

/-- Histories with the same view fail at the same key. -/
theorem SameView.failsFirst {e : StorageError} (he : FailsFirst registrations' c' host e) :
    FailsFirst registrations c host e := by
  obtain ⟨key, storage, hstorage, hfails, hbefore⟩ := he
  rw [h.storage] at hstorage
  refine ⟨key, storage, hstorage, (constructs_congr (h.latest key storage hstorage)).1 hfails, ?_⟩
  intro other storage' hother hlt
  obtain ⟨built, hbuilt⟩ := hbefore other storage' ((h.storage other).trans hother) hlt
  exact ⟨built, (constructs_congr (h.latest other storage' hother)).1 hbuilt⟩

/-- Having the same view is symmetric. -/
theorem SameView.symm : SameView registrations' registrations c' c where
  storage key := (h.storage key).symm
  latest key storage hstorage := (h.latest key storage ((h.storage key).symm.trans hstorage)).symm

end

/-- A manager is built if and only if every configured storage can be built by the binding that was
registered last for its type.  It then serves exactly the configured keys; otherwise the fault is
the one of the smallest key that fails.  Neither the order in which the configuration lists its keys
nor registrations of other types have any influence. -/
theorem build_ofRegistrations (registrations : List (String × StorageBinding)) (c : SystemConfig)
    (host : Host) :
    ((∃ m, build (.ofRegistrations registrations) c host = .ok m) ↔
      ∀ key storage, c.storage.get? key = some storage →
        ∃ built, Constructs registrations key storage host (.ok built)) ∧
    (∀ m, build (.ofRegistrations registrations) c host = .ok m →
      m.Serves registrations c host) ∧
    (∀ e, build (.ofRegistrations registrations) c host = .error e ↔
      FailsFirst registrations c host e) ∧
    ∀ registrations' c', SameView registrations registrations' c c' →
      (∀ e, build (.ofRegistrations registrations') c' host = .error e ↔
        build (.ofRegistrations registrations) c host = .error e) ∧
      ∀ m m', build (.ofRegistrations registrations) c host = .ok m →
        build (.ofRegistrations registrations') c' host = .ok m' →
        m.storageKeys = m'.storageKeys ∧ ∀ key, m.fileStorage key = m'.fileStorage key ∧
          m.tableStorage key = m'.tableStorage key := by
  refine ⟨⟨?_, ?_⟩, fun m => serves_of_build, fun e => build_eq_error_iff, ?_⟩
  · rintro ⟨m, hm⟩ key storage hstorage
    obtain ⟨files, tables, hbuilt, -⟩ := (serves_of_build hm).configured key storage hstorage
    exact ⟨(files, tables), hbuilt⟩
  · intro hall
    cases hbuild : build (.ofRegistrations registrations) c host with
    | ok m => exact ⟨m, rfl⟩
    | error e =>
      obtain ⟨key, storage, hstorage, hfails, -⟩ := failsFirst_of_build hbuild
      obtain ⟨built, hbuilt⟩ := hall key storage hstorage
      cases Constructs.unique hbuilt hfails
  · intro registrations' c' hview
    refine ⟨fun e => ?_, fun m m' hm hm' => ?_⟩
    · rw [build_eq_error_iff, build_eq_error_iff]
      exact ⟨hview.failsFirst, hview.symm.failsFirst⟩
    · exact (serves_of_build hm).unique (hview.serves (serves_of_build hm'))

/-- A binding of storages below one root. -/
def fixedBinding (root : Location) : StorageBinding where
  files _ _ := .ok ⟨root⟩
  tables _ files _ := .ok ⟨files, .builtin, none⟩

/-- A binding that builds no table storage. -/
def tablelessBinding : StorageBinding where
  files _ _ := .ok ⟨[]⟩
  tables _ _ _ := .error (.unsupported "tables")

/-- The later of two registrations counts.  Of two keys that fail, the smaller one, here the one
that is configured last, gives the fault. -/
theorem build_ofRegistrations_replaced :
    (∃ m, build (.ofRegistrations [("A", tablelessBinding), ("A", fixedBinding ["x"])])
        ⟨⟨[("k", ⟨"A", .empty⟩)]⟩⟩ { disk := {} } = .ok m ∧
      m.fileStorage "k" = .ok ⟨["x"]⟩ ∧ m.fileStorage "K" = .error (.keyNotFound "K")) ∧
    build (.ofRegistrations [("A", fixedBinding ["x"]), ("A", tablelessBinding)])
      ⟨⟨[("z", ⟨"B", .empty⟩), ("k", ⟨"A", .empty⟩)]⟩⟩ { disk := {} } =
        .error (.unsupported "tables") := by
  obtain ⟨hbuilds, hserves, -, -⟩ := build_ofRegistrations
    [("A", tablelessBinding), ("A", fixedBinding ["x"])] ⟨⟨[("k", ⟨"A", .empty⟩)]⟩⟩ { disk := {} }
  obtain ⟨-, -, hfails, -⟩ := build_ofRegistrations
    [("A", fixedBinding ["x"]), ("A", tablelessBinding)]
    ⟨⟨[("z", ⟨"B", .empty⟩), ("k", ⟨"A", .empty⟩)]⟩⟩ { disk := {} }
  have hlatest : StorageTypeRegistry.latest?
      [("A", tablelessBinding), ("A", fixedBinding ["x"])] "A" = some (fixedBinding ["x"]) := rfl
  have hlatest' : StorageTypeRegistry.latest?
      [("A", fixedBinding ["x"]), ("A", tablelessBinding)] "A" = some tablelessBinding := rfl
  have hbuilt : Constructs [("A", tablelessBinding), ("A", fixedBinding ["x"])] "k"
      ⟨"A", .empty⟩ { disk := {} } (.ok (⟨["x"]⟩, ⟨⟨["x"]⟩, .builtin, none⟩)) :=
    .built hlatest rfl rfl
  have hkey : ∀ key storage, (⟨[("k", ⟨"A", .empty⟩)]⟩ : Dictionary StorageConfig).get? key =
      some storage → key = "k" ∧ storage = ⟨"A", .empty⟩ := by
    intro key storage h
    by_cases hk : "k" = key
    · simp [Dictionary.get?, Dictionary.find?, hk] at h
      exact ⟨hk.symm, h.symm⟩
    · simp [Dictionary.get?, Dictionary.find?, hk] at h
  constructor
  · obtain ⟨m, hm⟩ := hbuilds.2 fun key storage h => by
      obtain ⟨rfl, rfl⟩ := hkey key storage h
      exact ⟨_, hbuilt⟩
    have hm' := hserves m hm
    obtain ⟨files, tables, hbuilt', hfiles, -⟩ := hm'.configured "k" ⟨"A", .empty⟩ (by decide)
    obtain ⟨rfl, -⟩ := Prod.mk.inj (Except.ok.inj (Constructs.unique hbuilt' hbuilt))
    exact ⟨m, hm, hfiles, (hm'.unconfigured "K" (by decide)).1⟩
  · refine (hfails _).2 ⟨"k", ⟨"A", .empty⟩, by decide,
      .noTables hlatest' rfl rfl, fun other storage h hlt => ?_⟩
    by_cases hz : "z" = other
    · subst hz
      exact absurd hlt (by decide)
    · by_cases hk : "k" = other
      · subst hk
        exact absurd hlt (by decide)
      · simp [Dictionary.get?, Dictionary.find?, hz, hk] at h

end StorageManager

end RootedStorage
