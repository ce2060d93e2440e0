import Mathlib.Data.List.Infix
import RootedStorage.Proofs.Disk.Dangling
import RootedStorage.Proofs.FileStorage.ReadSide

/-!
# What a directory that was made leaves

If a directory is made at a path, the path leads to a directory afterwards, what stood before stands,
and only the directories that were missing on the way are new.  There is one exception: where a link on
the way leads nowhere, the disk finds the place occupied, and an occupied place is no fault if the
caller accepts a directory that is there already.  Then nothing is made and nothing is found at the
path (`makeDirectory_leads_to_directory_iff`).
-/

namespace RootedStorage

namespace FileStorage

variable {s : FileStorage} {d d' : Disk} {path : String} {names : List String} {l : Location}

theorem created_eq_ok {existsOk : Bool} {result : Except DiskFault Unit}
    (h : created path existsOk result = .ok ()) :
    result = .ok () ∨ result = .error .occupied := by
  unfold created at h
  split at h <;> simp_all

/-- A directory is found at the path if its names lead to one. -/
theorem exists_stat_directory_iff (hnames : Path.segments? path = some names) :
    (∃ stat, s.stat path d = .ok stat ∧ stat.fileType = some .directory) ↔
      d.lookup (s.root ++ names) = .ok .directory := by
  rw [← entryAt_eq_ok_iff hnames]
  constructor
  · rintro ⟨stat, hstat, hdirectory⟩
    obtain ⟨e, he, rfl⟩ := stat_eq_ok_iff.1 hstat
    rw [he, fileType?_eq_directory_iff.1 hdirectory]
  · intro he
    exact ⟨_, stat_eq_ok_iff.2 ⟨_, he, rfl⟩, rfl⟩

/-- What the disk answers where nothing can be looked up: the directory is made and no link on the
way leads nowhere, or such a link occupies the place and nothing is made. -/
structure Answered (d : Disk) (l : Location) (result : Except DiskFault Unit) (d' : Disk) : Prop where
  made : result = .ok () → d.Made l d' ∧ ∀ p, p <+: l → ¬ d.Dangling p
  occupied : result = .error .occupied → d' = d ∧ ∃ p, p <+: l ∧ d.Dangling p

section
variable (hd : d.WellFormed) (hslash : ∀ part ∈ l, '/' ∉ part.toList)
  (hnames : ∀ part ∈ l, Path.isName part = true) (hlookup : ∀ e, d.lookup l ≠ .ok e)
include hd hslash hnames hlookup

theorem answered_createOne : Answered d l (createOne l d).1 (createOne l d).2 := by
  obtain ⟨parent, name, rfl⟩ : ∃ parent name, l = parent ++ [name] := by
    refine (List.eq_nil_or_concat' l).resolve_left ?_
    rintro rfl
    exact hlookup _ (Disk.lookup_directory_iff.2
      ⟨[], Disk.locate_directory_iff.2 ⟨Disk.walkable_nil, _, .done _ _⟩⟩)
  unfold createOne
  cases hmake : d.makeDirectory (parent ++ [name]) with
  | ok new =>
    exact
      { made := fun _ => ⟨Disk.made_of_makeDirectory hslash hnames hd hmake,
          fun p hp hdangling => hdangling.makeDirectory_ne_ok hp hnames hmake⟩
        occupied := nofun }
  | error fault =>
    refine ⟨nofun, fun h => ⟨rfl, ?_⟩⟩
    obtain rfl := Except.error.inj h
    rcases Disk.dangling_or_lookup (hnames name (by simp)) hmake with hdangling | ⟨e, he⟩
    · exact ⟨_, List.prefix_refl _, hdangling⟩
    · exact absurd he (hlookup e)

theorem answered_makeDirectories :
    Answered d l (d.makeDirectories l.reverse).1 (d.makeDirectories l.reverse).2 := by
  have hslash' : ∀ part ∈ l.reverse, '/' ∉ part.toList :=
    fun part hpart => hslash part (List.mem_reverse.1 hpart)
  have hnames' : ∀ part ∈ l.reverse, Path.isName part = true :=
    fun part hpart => hnames part (List.mem_reverse.1 hpart)
  have hstopped : ∀ p, p <+: l → d.Dangling p →
      ∃ fault, d.makeDirectories l.reverse = (.error fault, d) := fun p hp hdangling =>
    hdangling.makeDirectories_eq l.reverse (by rwa [List.reverse_reverse]) hnames'
  rcases hmake : d.makeDirectories l.reverse with ⟨result, new⟩
  rw [hmake] at hstopped
  constructor
  · rintro rfl
    have hmade := Disk.made_of_makeDirectories hd l.reverse hslash' hnames' hmake
    rw [List.reverse_reverse] at hmade
    refine ⟨hmade, fun p hp hdangling => ?_⟩
    obtain ⟨fault, hfault⟩ := hstopped p hp hdangling
    cases hfault
  · rintro rfl
    have hcases := Disk.dangling_or_lookup_of_makeDirectories hd l.reverse hslash' hnames' hmake
    rw [List.reverse_reverse] at hcases
    rcases hcases with ⟨p, hp, hdangling⟩ | ⟨e, he⟩
    · obtain ⟨fault, hfault⟩ := hstopped p hp hdangling
      exact ⟨(Prod.mk.inj hfault).2, p, hp, hdangling⟩
    · exact absurd he (hlookup e)

end

section
variable (hd : d.WellFormed) (hroot : d.find? s.root = some .directory)
include hd hroot

/-- Where nothing can be looked up, storage passes on what the disk answers. -/
theorem exists_answered (hnames : Path.segments? path = some names)
    (hmissing : ∀ e, d.lookup (s.root ++ names) ≠ .ok e) {recursive existsOk : Bool}
    (h : s.makeDirectory path recursive existsOk d = (.ok (), d')) :
    ∃ result, created path existsOk result = .ok () ∧ Answered d (s.root ++ names) result d' := by
  have hslash := no_slash_of_segments? hd hroot hnames
  have hname := isName_of_segments? hd hroot hnames
  unfold makeDirectory at h
  rw [location_eq hnames] at h
  dsimp only at h
  split at h
  · next e hlookup => exact absurd hlookup (hmissing e)
  · obtain ⟨hcreated, rfl⟩ := Prod.mk.inj h
    cases recursive with
    | true => exact ⟨_, hcreated, answered_makeDirectories hd hslash hname hmissing⟩
    | false => exact ⟨_, hcreated, answered_createOne hd hslash hname hmissing⟩

/-- Making a directory succeeds if the path leads to a directory afterwards, or if a link on the way
leads nowhere; then nothing is made. -/
theorem made_or_dangling {recursive existsOk : Bool}
    (h : s.makeDirectory path recursive existsOk d = (.ok (), d')) :
    ∃ names, Path.segments? path = some names ∧
      ((d.Made (s.root ++ names) d' ∧ ∀ p, p <+: s.root ++ names → ¬ d.Dangling p) ∨
        d' = d ∧ ∃ p, p <+: s.root ++ names ∧ d.Dangling p) := by
  cases hlocation : s.location path with
  | error e =>
    unfold makeDirectory at h
    rw [hlocation] at h
    cases h
  | ok l =>
    obtain ⟨names, hnames, rfl⟩ := location_eq_ok_iff.1 hlocation
    refine ⟨names, hnames, ?_⟩
    cases hlookup : d.lookup (s.root ++ names) with
    | error fault =>
      have hmissing : ∀ e, d.lookup (s.root ++ names) ≠ .ok e := by simp [hlookup]
      obtain ⟨result, hcreated, hanswered⟩ := exists_answered hd hroot hnames hmissing h
      exact (created_eq_ok hcreated).imp hanswered.made hanswered.occupied
    | ok e =>
      -- a directory that is there already is accepted, and nothing else
      unfold makeDirectory at h
      rw [hlocation] at h
      dsimp only at h
      rw [hlookup] at h
      dsimp only at h
      split at h
      · next hthere =>
        obtain ⟨-, rfl⟩ : existsOk = true ∧ e = .directory := by simpa using hthere
        cases h
        have hname := isName_of_segments? hd hroot hnames
        exact Or.inl ⟨⟨hlookup, Disk.madeOnly_self _ _, Or.inl rfl⟩,
          fun p hp hdangling => hdangling.lookup_ne_ok hp hname _ hlookup⟩
      · cases h

end

/-- A directory that was made is found at the path unless a link on the way leads nowhere.  In either
case all entries stay as they were, and those that are new are the directories that were missing on the
way. -/
theorem makeDirectory_leads_to_directory_iff (hd : d.WellFormed)
    (hroot : d.find? s.root = some .directory) {recursive existsOk : Bool}
    (h : s.makeDirectory path recursive existsOk d = (.ok (), d')) :
    ∃ names, Path.segments? path = some names ∧
      (∀ k e, d.find? k = some e → d'.find? k = some e) ∧ d.MadeOnly (s.root ++ names) d' ∧
      ((∃ stat, s.stat path d' = .ok stat ∧ stat.fileType = some .directory) ↔
        ∀ p, p <+: s.root ++ names → ¬ d.Dangling p) := by
  have hgrown := grown_makeDirectory hd hroot path recursive existsOk
  rw [h] at hgrown
  obtain ⟨names, hnames, hcases⟩ := made_or_dangling hd hroot h
  refine ⟨names, hnames, fun k e => hgrown.find?_of_some, ?_⟩
  rw [exists_stat_directory_iff hnames]
  rcases hcases with ⟨hmade, hclear⟩ | ⟨rfl, p, hp, hdangling⟩
  · exact ⟨hmade.only, iff_of_true hmade.lookup hclear⟩
  · have hname := isName_of_segments? hd hroot hnames
    exact ⟨d'.madeOnly_self _, iff_of_false (hdangling.lookup_ne_ok hp hname .directory)
      fun hclear => hclear p hp hdangling⟩

/-- Two directories are made in the directory that a link leads to, and both are new. -/
theorem makeDirectory_leads_to_directory_through_link :
    (∃ stat, (FileStorage.mk ["r"]).stat "l/a/b"
        ((FileStorage.mk ["r"]).makeDirectory "l/a/b" true false (Disk.linked [1] ".")).2 = .ok stat ∧
      stat.fileType = some .directory) ∧
    (Disk.linked [1] ".").MadeOnly ["r", "l", "a", "b"]
      ((FileStorage.mk ["r"]).makeDirectory "l/a/b" true false (Disk.linked [1] ".")).2 := by
  have hd := Disk.wellFormed_linked [1] (show Disk.isPathText "." = true by decide)
  have hroot : (Disk.linked [1] ".").find? ["r"] = some .directory := by
    simp [Disk.find?_linked, Disk.find?_single]
  have hok : ((FileStorage.mk ["r"]).makeDirectory "l/a/b" true false (Disk.linked [1] ".")).1 =
      .ok () := by decide +kernel
  obtain ⟨names, hnames, -, hmade, hfound⟩ := makeDirectory_leads_to_directory_iff hd
    (s := FileStorage.mk ["r"]) hroot (Prod.ext hok rfl)
  obtain rfl : names = ["l", "a", "b"] := by
    have hsegments : Path.segments? "l/a/b" = some ["l", "a", "b"] := by decide
    rw [hsegments] at hnames
    exact (Option.some.inj hnames).symm
  have hclear : ∀ p ∈ List.inits ["r", "l", "a", "b"], ¬ (Disk.linked [1] ".").Dangling p := by
    decide +kernel
  exact ⟨hfound.2 fun p hp => hclear p ((List.mem_inits p _).2 hp), hmade⟩

/-- Where a link leads nowhere, a directory is said to be there and is not found. -/
theorem not_makeDirectory_leads_to_directory :
    ¬ ∀ (s : FileStorage) (d d' : Disk) (path : String) (recursive existsOk : Bool),
      d.WellFormed → d.find? s.root = some .directory →
      s.makeDirectory path recursive existsOk d = (.ok (), d') →
      ∃ stat, s.stat path d' = .ok stat ∧ stat.fileType = some .directory := by
  intro hall
  have hd := Disk.wellFormed_linked [] (show Disk.isPathText "x" = true by decide)
  have hroot : (Disk.linked [] "x").find? ["r"] = some .directory := by
    simp [Disk.find?_linked, Disk.find?_single]
  have hok : ((FileStorage.mk ["r"]).makeDirectory "l" false true (Disk.linked [] "x")).1 = .ok () := by
    decide +kernel
  have hlost : ((FileStorage.mk ["r"]).stat "l"
      ((FileStorage.mk ["r"]).makeDirectory "l" false true (Disk.linked [] "x")).2).isOk = false := by
    decide +kernel
  obtain ⟨stat, hstat, -⟩ := hall ⟨["r"]⟩ _ _ "l" false true hd hroot (Prod.ext hok rfl)
  rw [hstat] at hlost
  cases hlost

end FileStorage

end RootedStorage
