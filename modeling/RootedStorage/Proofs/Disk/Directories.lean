import RootedStorage.Proofs.Disk.Change

/-!
# Chains of directories

Creating the directories on a way climbs to the first that can be looked up, and comes down again.  On
the way down each directory is made in one that was just made, so nothing is there to stand in its
way.  If the names on the way are not too long, the chain is therefore made as a whole or not at all
(`makeDirectories_cases`).
-/

namespace RootedStorage

namespace Disk

variable {d d' : Disk} {l parent there : Location} {name : String} {m n : Nat}

/-! ## Ways to directories -/

/-- The parts end at the entry: it is the directory that they lead to, or nothing can be looked for
below it. -/
def EndsAt (d : Disk) (n : Nat) (here : Location) (ps : List String) (place : Location) (e : Entry) :
    Prop :=
  (e = .directory ∧ ∃ m, Reaches d n here ps m place) ∨
    e ≠ .directory ∧ ∀ (follow : Bool) (rest : List String), rest ≠ [] →
      d.walkWithin follow n here (ps ++ rest) = .error .notDirectory

section
variable {here here' place : Location} {ps ps' : List String} {e : Entry}

/-- Parts end where those end that a walk has left after a step. -/
theorem EndsAt.of_step {n' : Nat} (h : EndsAt d n' here' ps' place e)
    (hreach : ∀ m, Reaches d n' here' ps' m place → Reaches d n here ps m place)
    (hwalk : ∀ (follow : Bool) (rest : List String), rest ≠ [] →
      d.walkWithin follow n here (ps ++ rest) = d.walkWithin follow n' here' (ps' ++ rest)) :
    EndsAt d n here ps place e := by
  rcases h with ⟨he, m, hway⟩ | ⟨he, hends⟩
  · exact Or.inl ⟨he, m, hreach m hway⟩
  · refine Or.inr ⟨he, fun follow rest hrest => ?_⟩
    rw [hwalk follow rest hrest, hends follow rest hrest]

/-- A walk that meets an entry without children ends there. -/
theorem endsAt_of_leaf {part : String} {x : Entry} (hpart : Path.isName part = true)
    (hshort : part.utf8ByteSize ≤ nameLimit) (hfind : d.find? (here ++ [part]) = some x)
    (hdirectory : x ≠ .directory) (hlink : ∀ target, x ≠ .link target)
    (h : d.walkWithin true n here (part :: ps) = .ok (.entry place e)) :
    EndsAt d n here (part :: ps) place e := by
  rw [walkWithin_leaf hpart hshort hfind hdirectory hlink] at h
  split at h
  · cases h
    refine Or.inr ⟨hdirectory, fun follow rest hrest => ?_⟩
    rw [List.cons_append, walkWithin_leaf hpart hshort hfind hdirectory hlink,
      if_neg (List.append_ne_nil_of_right_ne_nil _ hrest)]
  · cases h

/-- A walk through links ends where its parts do. -/
theorem endsAt_of_walkWithin (h : d.walkWithin true n here ps = .ok (.entry place e)) :
    EndsAt d n here ps place e := by
  -- the links left come first: a link puts its target's parts before the others
  induction n using Nat.strongRecOn generalizing here ps with
  | ind n ihn =>
    induction ps generalizing here with
    | nil =>
      rw [walkWithin_nil] at h
      cases h
      exact Or.inl ⟨rfl, n, .done n _⟩
    | cons part ps ihps =>
      rcases part_cases part with hstay | rfl | ⟨hpart, hlong⟩ | ⟨hpart, hshort⟩
      · rw [walkWithin_stay hstay] at h
        exact (ihps h).of_step (fun _ => .stay hstay) fun _ _ _ => walkWithin_stay hstay
      · rw [walkWithin_up] at h
        exact (ihps h).of_step (fun _ => .up) fun _ _ _ => walkWithin_up
      · rw [walkWithin_long hpart hlong] at h
        cases h
      cases hfind : d.find? (here ++ [part]) with
      | none =>
        rw [walkWithin_free hpart hshort hfind] at h
        split at h
        · cases h
        · split at h <;> cases h
      | some x =>
        cases x with
        | directory =>
          rw [walkWithin_down hpart hshort hfind] at h
          exact (ihps h).of_step (fun _ => .down hpart hshort hfind)
            fun _ _ _ => walkWithin_down hpart hshort hfind
        | link target =>
          rcases walkWithin_link_ok hpart hshort hfind h with ⟨hstop, -⟩ | ⟨m, rfl, htarget, hgo⟩
          · cases hstop
          · refine (ihn m (Nat.lt_succ_self m) hgo).of_step
              (fun _ => .link hpart hshort hfind htarget) fun follow rest hrest => ?_
            rw [List.cons_append, walkWithin_link hpart hshort hfind
              (Or.inl (List.append_ne_nil_of_right_ne_nil _ hrest))]
            dsimp only
            rw [if_neg htarget, ← List.append_assoc]
        | file stamp c => exact endsAt_of_leaf hpart hshort hfind (by simp) (by simp) h
        | pipe => exact endsAt_of_leaf hpart hshort hfind (by simp) (by simp) h

end

/-- A path is found to lead to a directory if its parts do and it is not too long. -/
theorem locate_directory_iff {here : Location} {ps : List String} :
    d.locate true here ps = .ok (there, .directory) ↔
      Walkable ps ∧ ∃ m, Reaches d linkLimit here ps m there := by
  rw [locate_eq_ok_iff]
  constructor
  · intro h
    have hwalkable := walkable_of_walk h
    rw [walk_of_walkable hwalkable] at h
    rcases endsAt_of_walkWithin h with ⟨-, hreach⟩ | ⟨hne, -⟩
    · exact ⟨hwalkable, hreach⟩
    · exact absurd rfl hne
  · rintro ⟨hwalkable, m, hreach⟩
    rw [walk_of_walkable hwalkable, hreach.walkWithin]

/-- A directory is found exactly if it is located somewhere. -/
theorem lookup_directory_iff :
    d.lookup l = .ok .directory ↔ ∃ place, d.locate true [] l = .ok (place, .directory) := by
  simp only [lookup_eq_ok_iff_walk, locate_eq_ok_iff]

/-- A path names a directory exactly if one is found there. -/
theorem isDirectory_iff : d.isDirectory l = true ↔ d.lookup l = .ok .directory := by
  unfold isDirectory
  split
  · next h => simp [h]
  · next h => exact iff_of_false (by simp) h

/-- A path that names a directory reaches it. -/
theorem reaches_of_isDirectory (h : d.isDirectory l = true) :
    ∃ m there, Reaches d linkLimit [] l m there := by
  obtain ⟨place, hlocate⟩ := lookup_directory_iff.1 (isDirectory_iff.1 h)
  obtain ⟨-, m, hreach⟩ := locate_directory_iff.1 hlocate
  exact ⟨m, place, hreach⟩

/-! ## One directory -/

/-- A directory cannot be made for a missing one above it only if the walk says so. -/
theorem makeDirectory_eq_missing (h : d.makeDirectory l = .error .missing) :
    d.walk false [] l = .error .missing := by
  unfold makeDirectory at h
  split at h <;> simp_all

/-- Only a path that can be looked up leads to nothing. -/
theorem walkable_of_missing {follow : Bool} {here : Location} {ps : List String}
    (h : d.walk follow here ps = .error .missing) : Walkable ps := by
  unfold walk at h
  split at h
  · cases h
  · next htext =>
    split at h
    · cases h
    · next hlong => exact ⟨by simpa using htext, Nat.not_lt.1 hlong⟩

/-- Below a directory that is there, no directory is missing on the way. -/
theorem Reaches.makeDirectory_ne_missing (h : Reaches d linkLimit [] parent m there)
    (hname : Path.isName name = true) : d.makeDirectory (parent ++ [name]) ≠ .error .missing := by
  intro hmake
  have hwalk := makeDirectory_eq_missing hmake
  rw [walk_of_reaches h (walkable_of_missing hwalk)] at hwalk
  rcases Nat.lt_or_ge nameLimit name.utf8ByteSize with hlong | hshort
  · rw [walkWithin_long hname hlong] at hwalk
    cases hwalk
  · rw [walkWithin_name hname hshort] at hwalk
    cases hwalk

/-- A directory is made under the last name in the directory that the others lead to, where nothing
stood. -/
theorem exists_reaches_of_makeDirectory (hd : d.WellFormed)
    (hl : ∀ part ∈ parent ++ [name], '/' ∉ part.toList) (hname : Path.isName name = true)
    (h : d.makeDirectory (parent ++ [name]) = .ok d') :
    ∃ m there, Reaches d linkLimit [] parent m there ∧ d.find? (there ++ [name]) = none ∧
      Reaches d' linkLimit [] (parent ++ [name]) m (there ++ [name]) ∧
      ∀ k, d'.find? k = if k = there ++ [name] then some .directory else d.find? k := by
  obtain ⟨place, slash, hwalk, hfree, hfind, -⟩ := makeDirectory_spec hd hl h
  obtain ⟨m, there, hreach, hshort, hlast⟩ := exists_reaches_of_walk hname hwalk
  have hplace : place = there ++ [name] := by
    rw [walkWithin_name hname hshort] at hlast
    exact (find?_of_spotAt_vacant (Except.ok.inj hlast)).1
  subst hplace
  have hmade : d'.find? (there ++ [name]) = some .directory := by rw [hfind, if_pos rfl]
  have hway := (grown_of_makeDirectory hd hl h).reaches hreach
  exact ⟨m, there, hreach, hfree, hway.trans (.down hname hshort hmade (.done m _)), hfind⟩

/-- The names lead to a directory with nothing in it. -/
def LeadsToEmpty (d : Disk) (l : Location) : Prop :=
  ∃ m there, Reaches d linkLimit [] l m there ∧ ∀ name, d.find? (there ++ [name]) = none

/-- A directory just made has nothing in it. -/
theorem leadsToEmpty_of_makeDirectory (hd : d.WellFormed)
    (hl : ∀ part ∈ parent ++ [name], '/' ∉ part.toList) (hname : Path.isName name = true)
    (h : d.makeDirectory (parent ++ [name]) = .ok d') : d'.LeadsToEmpty (parent ++ [name]) := by
  obtain ⟨m, there, -, hfree, hmade, hfind⟩ := exists_reaches_of_makeDirectory hd hl hname h
  refine ⟨m, there ++ [name], hmade, fun child => ?_⟩
  rw [hfind, if_neg (by simp)]
  exact hd.find?_append_eq_none (by simp [hfree]) (by simp)

/-- In a directory with nothing in it a directory can be made. -/
theorem LeadsToEmpty.exists_makeDirectory (h : d.LeadsToEmpty parent)
    (hname : Path.isName name = true) (hshort : name.utf8ByteSize ≤ nameLimit)
    (hwalkable : Walkable (parent ++ [name])) : ∃ d', d.makeDirectory (parent ++ [name]) = .ok d' := by
  obtain ⟨m, there, hreach, hempty⟩ := h
  unfold makeDirectory
  rw [walk_false_of_reaches hreach hname hshort hwalkable, spotAt_of_free (hempty name)]
  exact ⟨_, rfl⟩

/-- A directory that can be made is made. -/
theorem ensureDirectory_of_ok (h : d.makeDirectory l = .ok d') :
    d.ensureDirectory l = (.ok (), d') := by
  unfold ensureDirectory
  rw [h]

/-- A directory that cannot be made may be there; otherwise the failure is the answer. -/
theorem ensureDirectory_of_error {fault : DiskFault} (h : d.makeDirectory l = .error fault) :
    d.ensureDirectory l = (.ok (), d) ∧ d.isDirectory l = true ∨
      d.ensureDirectory l = (.error fault, d) := by
  unfold ensureDirectory
  rw [h]
  by_cases hdirectory : d.isDirectory l = true
  · exact Or.inl ⟨by simp [hdirectory], hdirectory⟩
  · exact Or.inr (by simp [hdirectory])

/-- What is ensured was made, or it stood there before. -/
theorem ensureDirectory_ok_cases (h : d.ensureDirectory l = (.ok (), d')) :
    d.makeDirectory l = .ok d' ∨ d' = d ∧ d.isDirectory l = true := by
  cases hmake : d.makeDirectory l with
  | ok new =>
    rw [ensureDirectory_of_ok hmake] at h
    cases h
    exact Or.inl rfl
  | error fault =>
    rcases ensureDirectory_of_error hmake with ⟨hok, hdirectory⟩ | herror
    · rw [hok] at h
      cases h
      exact Or.inr ⟨rfl, hdirectory⟩
    · rw [herror] at h
      cases h

/-- A directory that cannot be ensured cannot be made, and for the same reason. -/
theorem makeDirectory_of_ensureDirectory_error {fault : DiskFault}
    (h : d.ensureDirectory l = (.error fault, d')) : d.makeDirectory l = .error fault := by
  cases hmake : d.makeDirectory l with
  | ok new =>
    rw [ensureDirectory_of_ok hmake] at h
    cases h
  | error refused =>
    rcases ensureDirectory_of_error hmake with ⟨hok, -⟩ | herror
    · rw [hok] at h
      cases h
    · rw [herror] at h
      cases h
      rfl

/-! ## The chain -/

/-- The climb ends where the disk can tell what stands there. -/
theorem makeDirectories_of_ne_missing {above : List String}
    (h : d.makeDirectory (above.reverse ++ [name]) ≠ .error .missing) :
    d.makeDirectories (name :: above) = d.ensureDirectory (above.reverse ++ [name]) := by
  rw [makeDirectories, List.reverse_cons]
  split
  · next hmissing => exact absurd hmissing h
  · rfl

/-- Where the directory above is missing, those above are made first. -/
theorem makeDirectories_of_missing {above : List String}
    (h : d.makeDirectory (above.reverse ++ [name]) = .error .missing) :
    d.makeDirectories (name :: above) =
      match d.makeDirectories above with
      | (.ok (), d) => d.ensureDirectory (above.reverse ++ [name])
      | (.error fault, d) => (.error fault, d) := by
  rcases hmade : d.makeDirectories above with ⟨_ | _, d'⟩
  · simp only [makeDirectories, List.reverse_cons, h, hmade]
  · simp only [makeDirectories, List.reverse_cons, h, hmade]

/-- The directories on a way are there already, or they are made and the last of them is empty, or
nothing is made at all. -/
theorem makeDirectories_cases (hd : d.WellFormed) (names : List String)
    (hslash : ∀ part ∈ names, '/' ∉ part.toList) (hname : ∀ part ∈ names, Path.isName part = true)
    (hshort : ∀ part ∈ names, part.utf8ByteSize ≤ nameLimit) :
    (∃ fault, d.makeDirectories names = (.error fault, d)) ∨
    (d.makeDirectories names = (.ok (), d) ∧
      ∃ m there, Reaches d linkLimit [] names.reverse m there) ∨
    ∃ d', d.makeDirectories names = (.ok (), d') ∧ d'.WellFormed ∧
      d'.LeadsToEmpty names.reverse := by
  induction names with
  | nil => exact Or.inr (Or.inl ⟨rfl, linkLimit, [], .done _ _⟩)
  | cons name above ih =>
    rw [List.forall_mem_cons] at hname hshort
    have hl : ∀ part ∈ above.reverse ++ [name], '/' ∉ part.toList := fun part hpart =>
      hslash part (by simpa [or_comm] using hpart)
    have habove := ih (fun part hpart => hslash part (List.mem_cons_of_mem _ hpart)) hname.2 hshort.2
    rw [List.reverse_cons]
    -- a directory that can be made at once is the last of the chain
    have hmade : ∀ {d₁ d₂ : Disk}, d₁.WellFormed →
        d₁.makeDirectory (above.reverse ++ [name]) = .ok d₂ →
        d₂.WellFormed ∧ d₂.LeadsToEmpty (above.reverse ++ [name]) := fun hd₁ h =>
      ⟨(grown_of_makeDirectory hd₁ hl h).wellFormed,
        leadsToEmpty_of_makeDirectory hd₁ hl hname.1 h⟩
    by_cases hmissing : d.makeDirectory (above.reverse ++ [name]) = .error .missing
    · rw [makeDirectories_of_missing hmissing]
      rcases habove with ⟨fault, h⟩ | ⟨-, m, there, hreach⟩ | ⟨d₁, h, hd₁, hempty⟩
      · rw [h]
        exact Or.inl ⟨fault, rfl⟩
      · exact absurd hmissing (hreach.makeDirectory_ne_missing hname.1)
      · have hwalkable := walkable_of_missing (makeDirectory_eq_missing hmissing)
        obtain ⟨d₂, hlast⟩ := hempty.exists_makeDirectory hname.1 hshort.1 hwalkable
        rw [h]
        exact Or.inr (Or.inr ⟨d₂, ensureDirectory_of_ok hlast, hmade hd₁ hlast⟩)
    · rw [makeDirectories_of_ne_missing hmissing]
      cases hmake : d.makeDirectory (above.reverse ++ [name]) with
      | ok d' => exact Or.inr (Or.inr ⟨d', ensureDirectory_of_ok hmake, hmade hd hmake⟩)
      | error fault =>
        rcases ensureDirectory_of_error hmake with ⟨hok, hdirectory⟩ | herror
        · exact Or.inr (Or.inl ⟨hok, reaches_of_isDirectory hdirectory⟩)
        · exact Or.inl ⟨fault, herror⟩

end Disk

end RootedStorage
