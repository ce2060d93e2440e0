import RootedStorage.Proofs.Disk.Missing
import RootedStorage.Proofs.TableStorage.Reading

/-!
# Asking for what is not there

Whoever asks for an entry that does not exist gets an error, and on ways without links all operations
get the same one, since they look at the same location.  It says that the entry was not found if the
first name that is not there is missing in a directory (`Disk.Lacks`).  If something else ends the way,
a file or a name that is too long, the error is one of access (`notFound_iff_lacks`).
-/

namespace RootedStorage

/-- The outcome is an error of the given kind. -/
def FailsWith {α : Type} (kind : StorageError → Prop) (result : Outcome α) : Prop :=
  ∃ e, result = .error e ∧ kind e

theorem FailsWith.map {α β : Type} {kind : StorageError → Prop} {result : Outcome α}
    (h : FailsWith kind result) (f : α → β) : FailsWith kind (result.map f) := by
  obtain ⟨e, rfl, he⟩ := h
  exact ⟨e, rfl, he⟩

theorem FailsWith.bind {α β : Type} {kind : StorageError → Prop} {result : Outcome α}
    (h : FailsWith kind result) (f : α → Outcome β) : FailsWith kind (result >>= f) := by
  obtain ⟨e, rfl, he⟩ := h
  exact ⟨e, rfl, he⟩

/-- All that asks for the entry at the path below the root fails with an error of the given kind, and
leaves the disk: file storage, and table storage of the library's formats on either route, whatever
the container of columnar files. -/
structure Refused (root : Location) (path : String) (d : Disk) (kind : StorageError → Prop) :
    Prop where
  stat : FailsWith kind ((FileStorage.mk root).stat path d)
  size : FailsWith kind ((FileStorage.mk root).size path d)
  list : FailsWith kind ((FileStorage.mk root).list path d)
  remove : ∀ recursive, FailsWith kind ((FileStorage.mk root).remove path recursive d).1 ∧
    ((FileStorage.mk root).remove path recursive d).2 = d
  readBytes : FailsWith kind ((FileStorage.mk root).readBytes path d)
  readText : FailsWith kind ((FileStorage.mk root).readText path d)
  readTable : ∀ container pushdown, pushdown = none ∨ pushdown = some root → ∀ format f,
    (FormatRegistry.standard container).get format = .ok f → ∀ schema options, FailsWith kind
      ((TableStorage.mk ⟨root⟩ (.standard container) pushdown).readTable schema path format options d)

/-- An error of a path that names no entry: it was not found, or it could not be reached. -/
def IsAbsence (path : String) (e : StorageError) : Prop :=
  e = .notFound path ∨ ∃ cause, e = .access cause

section
variable {root : Location} {path : String} {names : List String} {d : Disk}
  {kind : StorageError → Prop}

theorem ofFault_of_isObstacle (path : String) {fault : DiskFault} (h : Disk.IsObstacle fault) :
    StorageError.ofFault path fault = .access (.io path) := by
  obtain ⟨hmissing, hoccupied⟩ := h
  cases fault <;> first | rfl | exact absurd rfl hmissing | exact absurd rfl hoccupied

theorem FileStorage.failsWith_list {s : FileStorage} (hpath : Path.segments? path = some names)
    (h : FailsWith kind (s.entryAt path d)) : FailsWith kind (s.list path d) := by
  rw [FileStorage.entryAt_eq hpath] at h
  unfold FileStorage.list
  rw [Path.segments_eq_ok_iff.2 hpath]
  exact h.bind _

/-- All that looks at the entry fails as the look does. -/
theorem refused_of_entryAt (hd : d.WellFormed) (hroot : d.find? root = some .directory)
    (hpath : Path.segments? path = some names)
    (hentry : FailsWith kind ((FileStorage.mk root).entryAt path d))
    (hremove : ∀ recursive, FailsWith kind ((FileStorage.mk root).remove path recursive d).1 ∧
      ((FileStorage.mk root).remove path recursive d).2 = d) : Refused root path d kind := by
  have hbytes : FailsWith kind ((FileStorage.mk root).readBytes path d) := by
    rw [FileStorage.readBytes_eq hd hroot]
    exact hentry.bind _
  refine
    { stat := hentry.map _
      size := (hentry.map _).map _
      list := FileStorage.failsWith_list hpath hentry
      remove := hremove
      readBytes := hbytes
      readText := by
        rw [FileStorage.readText_eq]
        exact hbytes.bind _
      readTable := ?_ }
  rintro container pushdown hpushdown format f hformat schema options
  unfold TableStorage.readTable
  rw [show (TableStorage.mk ⟨root⟩ (.standard container) pushdown).formats.get format = .ok f
    from hformat]
  -- both routes start from the entry and fail before the codec is asked
  rcases hpushdown with rfl | rfl
  · have hsource : FailsWith kind
        ((TableStorage.mk ⟨root⟩ (.standard container) none).streamSource f path d) := by
      rw [TableStorage.streamSource_eq hd hroot rfl]
      exact hentry.bind _
    exact hsource.bind _
  · have hsource : FailsWith kind (TableStorage.pushdownSource root path d) := by
      rw [TableStorage.pushdownSource_eq]
      exact hentry.map _
    exact hsource.bind _

/-- A fault that the disk finds whether it follows links or not is what every operation answers; only
the root is not removed for another reason. -/
theorem refused_of_locate (hd : d.WellFormed) (hroot : d.find? root = some .directory)
    (hpath : Path.segments? path = some names) {fault : DiskFault}
    (hlocate : ∀ follow, d.locate follow [] (root ++ names) = .error fault)
    (hkind : kind (.ofFault path fault)) (hnames : names = [] → kind (.access .removeRoot)) :
    Refused root path d kind := by
  refine refused_of_entryAt hd hroot hpath ⟨_, ?_, hkind⟩ fun recursive => ?_
  · rw [FileStorage.entryAt_eq hpath, Disk.lookup, hlocate true]
    rfl
  · unfold FileStorage.remove
    by_cases hisRoot : Path.isRoot path = true
    · rw [if_pos hisRoot]
      rw [Path.isRoot_iff, hpath] at hisRoot
      exact ⟨⟨_, rfl, hnames (Option.some.inj hisRoot)⟩, rfl⟩
    · rw [if_neg hisRoot, FileStorage.location_eq hpath]
      dsimp only
      rw [Disk.remove, hlocate false]
      exact ⟨⟨_, rfl, hkind⟩, rfl⟩

/-- What the disk lacks is not the root. -/
theorem ne_nil_of_lacks (hd : d.WellFormed) (hroot : d.find? root = some .directory)
    (h : d.Lacks (root ++ names)) : names ≠ [] := by
  rintro rfl
  obtain ⟨-, above, name, below, hsplit, -, hfree, -⟩ := h
  rw [List.append_nil] at hsplit
  have hstands : d.find? (above ++ [name]) = some .directory :=
    hd.find?_of_prefix hroot (by rw [hsplit]; simp)
  rw [hfree] at hstands
  cases hstands

/-- All that asks for an entry that does not exist fails.  The entry is said not to be found exactly if
the disk lacks it. -/
theorem notFound_iff_lacks (hd : d.WellFormed) (hroot : d.LinkFreeBelow root)
    (hpath : Path.segments? path = some names)
    (habsent : (FileStorage.mk root).exists? path d = .ok false) :
    Refused root path d (IsAbsence path) ∧
      (Refused root path d (fun e => e = .notFound path) ↔ d.Lacks (root ++ names)) := by
  have hdirectory := hroot.isDirectory
  rcases (hroot.straight_of_segments? hd hpath).locate_cases hd with
    ⟨e, hlocate⟩ | ⟨hlacks, hlocate⟩ | ⟨hlacks, fault, hfault, hlocate⟩
  · rw [FileStorage.exists?_eq hpath, FileStorage.entryAt_eq hpath, Disk.lookup, hlocate true] at habsent
    cases habsent
  · have hne := ne_nil_of_lacks hd hdirectory hlacks
    exact ⟨refused_of_locate hd hdirectory hpath hlocate (Or.inl rfl) fun h => absurd h hne,
      iff_of_true (refused_of_locate hd hdirectory hpath hlocate rfl fun h => absurd h hne) hlacks⟩
  · have haccess := ofFault_of_isObstacle path hfault
    refine ⟨refused_of_locate hd hdirectory hpath hlocate (Or.inr ⟨_, haccess⟩)
      fun _ => Or.inr ⟨_, rfl⟩, iff_of_false (fun hrefused => ?_) hlacks⟩
    -- the look itself answers with an error of access
    obtain ⟨e, hstat, rfl⟩ := hrefused.stat
    rw [FileStorage.stat, FileStorage.entryAt_eq hpath, Disk.lookup, hlocate true] at hstat
    have herror := Except.error.inj hstat
    rw [haccess] at herror
    cases herror

/-- Below a directory that is missing nothing is found, by whatever operation. -/
theorem notFound_iff_lacks_parent :
    Refused ["r"] "a/b" (Disk.single "r") (fun e => e = .notFound "a/b") := by
  have hd : (Disk.single "r").WellFormed := Disk.wellFormed_single (by decide)
  have hfind := Disk.find?_single "r"
  have habsent : (FileStorage.mk ["r"]).exists? "a/b" (Disk.single "r") = .ok false := by
    decide +kernel
  refine (notFound_iff_lacks hd (Disk.linkFreeBelow_single "r")
    (show Path.segments? "a/b" = some ["a", "b"] by decide) habsent).2.2 ?_
  refine ⟨⟨by decide, by decide⟩, ["r"], "a", ["b"], rfl, ?_, ?_, by decide⟩
  · simp [hfind]
  · simp [hfind]

/-- Below a file there is nothing, and yet the answer is not that nothing was found. -/
theorem not_notFound_of_absent :
    ¬ ∀ (root : Location) (path : String) (d : Disk), d.WellFormed → d.LinkFreeBelow root →
      (FileStorage.mk root).exists? path d = .ok false →
      Refused root path d (fun e => e = .notFound path) := by
  intro hall
  have hsingle : (Disk.single "r").WellFormed := Disk.wellFormed_single (by decide)
  have hroot := Disk.linkFreeBelow_single "r"
  have hfile : (Disk.single "r").find? ["r", "t"] = none := by simp [Disk.find?_single]
  have hd : ((Disk.single "r").putFile ["r", "t"] []).WellFormed :=
    hsingle.putFile hroot.isDirectory (by decide) hfile []
  have hfree : ((Disk.single "r").putFile ["r", "t"] []).LinkFreeBelow ["r"] := by
    have hfind := fun l => Disk.find?_putFile (Disk.single "r") ["r", "t"] l [] (by simp)
    refine ⟨by simp [hfind, Disk.find?_single], fun names target => ?_⟩
    rw [hfind]
    split
    · simp
    · exact hroot.no_link names target
  have habsent : (FileStorage.mk ["r"]).exists? "t/x" ((Disk.single "r").putFile ["r", "t"] []) =
      .ok false := by decide +kernel
  obtain ⟨e, hstat, rfl⟩ := (hall ["r"] "t/x" _ hd hfree habsent).stat
  have hfailed : (FileStorage.mk ["r"]).stat "t/x" ((Disk.single "r").putFile ["r", "t"] []) =
      .error (.access (.io "t/x")) := rfl
  rw [hfailed] at hstat
  cases hstat

end

end RootedStorage
