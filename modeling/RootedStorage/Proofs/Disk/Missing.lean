import RootedStorage.Proofs.Disk.Straight

/-!
# Ways that lead to nothing

A way without links that leads to nothing has a first name that is not there.  The disk calls the entry
missing if that name is missing in a directory and could stand there (`Lacks`).  Below a file or a pipe,
and where a name or the path is too long, it names another fault.  It does not matter whether links are
followed (`Straight.locate_cases`).
-/

namespace RootedStorage

namespace Disk

variable {d : Disk} {follow : Bool} {l : Location}

/-- The disk can look for the path, and the first name on the way that is not there is missing in a
directory. -/
def Lacks (d : Disk) (l : Location) : Prop :=
  Walkable l ∧ ∃ above name below, l = above ++ name :: below ∧ d.find? above = some .directory ∧
    d.find? (above ++ [name]) = none ∧ name.utf8ByteSize ≤ nameLimit

/-- A fault that says something else than that an entry is missing or in the way. -/
def IsObstacle (fault : DiskFault) : Prop := fault ≠ .missing ∧ fault ≠ .occupied

/-- A way to nothing has a first name that is not there. -/
theorem exists_first_free (h : d.find? l = none) :
    ∃ above name below e, l = above ++ name :: below ∧ d.find? above = some e ∧
      d.find? (above ++ [name]) = none := by
  induction l using List.reverseRecOn with
  | nil =>
    rw [find?_nil] at h
    cases h
  | append_singleton parent last ih =>
    cases hparent : d.find? parent with
    | some e => exact ⟨parent, last, [], e, rfl, hparent, h⟩
    | none =>
      obtain ⟨above, name, below, e, rfl, habove, hname⟩ := ih hparent
      exact ⟨above, name, below ++ [last], e, by simp, habove, hname⟩

theorem locate_of_vacant {ps : List String} {here place : Location} {slash : Bool}
    (h : d.walk follow here ps = .ok (.vacant place slash)) :
    d.locate follow here ps = .error .missing := by
  unfold locate
  rw [h]

theorem locate_of_error {ps : List String} {here : Location} {fault : DiskFault}
    (h : d.walk follow here ps = .error fault) : d.locate follow here ps = .error fault := by
  unfold locate
  rw [h]

/-- A path that the disk cannot take is an obstacle. -/
theorem exists_locate_of_not_walkable (d : Disk) {ps : List String} (h : ¬ Walkable ps) :
    ∃ fault, IsObstacle fault ∧ ∀ follow here, d.locate follow here ps = .error fault := by
  by_cases htext : ps.all isPathText = true
  · refine ⟨.nameTooLong, ⟨by simp, by simp⟩, fun follow here => locate_of_error ?_⟩
    have hlong := fun hshort => h ⟨htext, hshort⟩
    rw [walk, if_neg (by simp [htext]), if_pos (Nat.not_le.1 hlong)]
  · refine ⟨.invalidName, ⟨by simp, by simp⟩, fun follow here => locate_of_error ?_⟩
    rw [walk, if_pos (by simpa using htext)]

section
variable (hd : d.WellFormed) {above below : Location} {name : String}
  (hwalkable : Walkable (above ++ name :: below))
include hd hwalkable

/-- A walk looks at the first name below a directory there. -/
theorem walk_below_directory (habove : d.find? above = some .directory) :
    d.walk follow [] (above ++ name :: below) =
      d.walkWithin follow linkLimit above (name :: below) := by
  rw [walk_of_walkable hwalkable, (hd.reaches linkLimit habove).walkWithin_append (by simp)]

theorem locate_of_first_free (habove : d.find? above = some .directory)
    (hnames : ∀ part ∈ name :: below, Path.isName part = true)
    (hfree : d.find? (above ++ [name]) = none) (hshort : name.utf8ByteSize ≤ nameLimit) :
    d.locate follow [] (above ++ name :: below) = .error .missing := by
  have hwalk : d.walk follow [] _ = _ := walk_below_directory hd hwalkable habove
  rw [walkWithin_free (hnames name List.mem_cons_self) hshort hfree] at hwalk
  cases below with
  | nil =>
    rw [if_pos rfl] at hwalk
    exact locate_of_vacant hwalk
  | cons next rest =>
    have hnext : next ≠ "" := (Path.isName_iff.1 (hnames next (by simp))).1
    rw [if_neg (by simp), if_neg (by simp [hnext])] at hwalk
    exact locate_of_error hwalk

theorem locate_of_first_long (habove : d.find? above = some .directory)
    (hname : Path.isName name = true) (hlong : nameLimit < name.utf8ByteSize) :
    d.locate follow [] (above ++ name :: below) = .error .nameTooLong := by
  have hwalk : d.walk follow [] _ = _ := walk_below_directory hd hwalkable habove
  rw [walkWithin_long hname hlong] at hwalk
  exact locate_of_error hwalk

/-- Nothing can be looked for below a file or a pipe. -/
theorem locate_below_leaf {e : Entry} (habove : d.find? above = some e) (hdirectory : e ≠ .directory)
    (hlink : ∀ target, e ≠ .link target) :
    d.locate follow [] (above ++ name :: below) = .error .notDirectory := by
  obtain ⟨parent, last, rfl⟩ : ∃ parent last, above = parent ++ [last] := by
    refine (List.eq_nil_or_concat' above).resolve_left ?_
    rintro rfl
    rw [find?_nil] at habove
    exact hdirectory (Option.some.inj habove).symm
  have hlast := hd.name habove
  rw [List.append_assoc] at hwalkable ⊢
  refine locate_of_error ?_
  rw [List.singleton_append] at hwalkable ⊢
  rw [walk_below_directory hd hwalkable (hd.parent habove),
    walkWithin_leaf hlast.isName hlast.short habove hdirectory hlink, if_neg (by simp)]

end

/-- What the disk lacks is missing. -/
theorem Lacks.locate (h : d.Lacks l) (hd : d.WellFormed)
    (hnames : ∀ part ∈ l, Path.isName part = true) : d.locate follow [] l = .error .missing := by
  obtain ⟨hwalkable, above, name, below, rfl, habove, hfree, hshort⟩ := h
  exact locate_of_first_free hd hwalkable habove
    (fun part hpart => hnames part (List.mem_append_right above hpart)) hfree hshort

/-- Where a straight way leads to nothing, the disk lacks an entry or something is in the way. -/
theorem Straight.lacks_or_obstacle (h : d.Straight l) (hd : d.WellFormed) (hwalkable : Walkable l)
    (hfree : d.find? l = none) :
    d.Lacks l ∨ ∃ fault, IsObstacle fault ∧ ∀ follow, d.locate follow [] l = .error fault := by
  obtain ⟨above, name, below, e, rfl, habove, hname⟩ := exists_first_free hfree
  by_cases hdirectory : e = .directory
  · subst hdirectory
    rcases Nat.lt_or_ge nameLimit name.utf8ByteSize with hlong | hshort
    · have hisName := h.isName name (by simp)
      exact Or.inr ⟨.nameTooLong, ⟨by simp, by simp⟩,
        fun _ => locate_of_first_long hd hwalkable habove hisName hlong⟩
    · exact Or.inl ⟨hwalkable, above, name, below, rfl, habove, hname, hshort⟩
  · have hlink : ∀ target, e ≠ .link target := by
      rintro target rfl
      exact h.no_link above target (List.prefix_append _ _) habove
    exact Or.inr ⟨.notDirectory, ⟨by simp, by simp⟩,
      fun _ => locate_below_leaf hd hwalkable habove hdirectory hlink⟩

/-- At the end of a straight way stands an entry, or the disk lacks one there, or something on the way
does not let the disk look. -/
theorem Straight.locate_cases (h : d.Straight l) (hd : d.WellFormed) :
    (∃ e, ∀ follow, d.locate follow [] l = .ok (l, e)) ∨
    (d.Lacks l ∧ ∀ follow, d.locate follow [] l = .error .missing) ∨
    (¬ d.Lacks l ∧ ∃ fault, IsObstacle fault ∧ ∀ follow, d.locate follow [] l = .error fault) := by
  -- where something is in the way nothing is missing
  have hobstacle : (∃ fault, IsObstacle fault ∧ ∀ follow, d.locate follow [] l = .error fault) →
      ¬ d.Lacks l := by
    rintro ⟨fault, hfault, hlocate⟩ hlacks
    have hmissing : d.locate true [] l = _ := hlacks.locate hd h.isName
    rw [hlocate true] at hmissing
    exact hfault.1 (Except.error.inj hmissing)
  by_cases hwalkable : Walkable l
  · cases hfind : d.find? l with
    | some e => exact Or.inl ⟨e, fun _ => locate_eq_ok_iff.2 (h.walk_of_find? hd hfind hwalkable)⟩
    | none =>
      rcases h.lacks_or_obstacle hd hwalkable hfind with hlacks | hfault
      · exact Or.inr (Or.inl ⟨hlacks, fun _ => hlacks.locate hd h.isName⟩)
      · exact Or.inr (Or.inr ⟨hobstacle hfault, hfault⟩)
  · obtain ⟨fault, hfault, hlocate⟩ := exists_locate_of_not_walkable d hwalkable
    have hhere : ∀ follow, d.locate follow [] l = .error fault := fun follow => hlocate follow []
    exact Or.inr (Or.inr ⟨hobstacle ⟨fault, hfault, hhere⟩, fault, hfault, hhere⟩)

end Disk

end RootedStorage
