import RootedStorage.Proofs.Disk.Straight

/-!
# What a removal takes away

Clearing a directory takes away all that stands below it, and nothing else (`cleared_clear`).  A walk
over what is left ends where it ended before or finds nothing (`Thinned.locate`), so the second walk of
a removal leads to the cleared directory or to nothing, and no removal fails after its first change
(`remove_cases`).  `Removal` says what is left: the entry is gone with all below it, except that a
directory stays, empty, if the names led to it through what was in it.  Where no link stands on the way
that does not happen (`Removal.find?_of_straight`).
-/

namespace RootedStorage

namespace Disk

variable {d d' : Disk} {follow : Bool} {n : Nat} {here l place : Location} {ps : List String} {e : Entry}

/-! ## Empty places -/

/-- No entry stands in the directory. -/
def IsEmptyAt (d : Disk) (place : Location) : Prop := ∀ name, d.find? (place ++ [name]) = none

/-- Nothing at all stands below an empty place. -/
theorem WellFormed.find?_below (hd : d.WellFormed) (hempty : d.IsEmptyAt place) {k : Location}
    (hk : place <+: k) (hne : k ≠ place) : d.find? k = none := by
  obtain ⟨rest, rfl⟩ := hk
  cases rest with
  | nil => exact absurd (List.append_nil place) hne
  | cons name below =>
    by_cases hbelow : below = []
    · subst hbelow
      exact hempty name
    · rw [List.append_cons]
      exact hd.find?_append_eq_none (by simp [hempty name]) hbelow

/-- An entry that is no directory has nothing in it. -/
theorem WellFormed.isEmptyAt_of_ne_directory (hd : d.WellFormed) (h : d.find? place = some e)
    (he : e ≠ .directory) : d.IsEmptyAt place := fun _ =>
  hd.find?_append_eq_none (by simpa [h] using he) (by simp)

/-- A directory is empty if it has no names. -/
theorem Keyed.isEmptyAt_iff (hd : d.Keyed) : d.IsEmptyAt place ↔ d.names place = [] := by
  rw [List.eq_nil_iff_forall_not_mem]
  refine forall_congr' fun name => ?_
  rw [mem_names_iff hd, not_exists]
  exact Option.eq_none_iff_forall_ne_some

/-- An entry with nothing in it leaves nothing behind when it goes. -/
theorem WellFormed.find?_drop_of_isEmptyAt (hd : d.WellFormed) (hempty : d.IsEmptyAt place)
    (hplace : place ≠ []) (k : Location) :
    (d.drop fun x => decide (x = place)).find? k = if place <+: k then none else d.find? k := by
  rw [find?_drop]
  by_cases hk : k = place
  · subst hk
    simp [hplace]
  · rw [if_neg (by simp [hk])]
    split
    · next hbelow => exact hd.find?_below hempty hbelow hk
    · rfl

/-- An entry with nothing in it may be taken away. -/
theorem WellFormed.drop_of_isEmptyAt (hd : d.WellFormed) (hempty : d.IsEmptyAt place) :
    (d.drop fun x => decide (x = place)).WellFormed := by
  refine hd.drop fun k name hk hsome => ?_
  rw [of_decide_eq_true hk, hempty name] at hsome
  cases hsome

/-! ## Clearing a directory -/

/-- Entries went from a disk, and nothing else happened to those that are left. -/
def Thinned (d d' : Disk) : Prop := ∀ k, d'.find? k = d.find? k ∨ d'.find? k = none

theorem Thinned.refl (d : Disk) : d.Thinned d := fun _ => Or.inl rfl

/-- What is left stood there before. -/
theorem Thinned.find?_of_some (h : d.Thinned d') {k : Location} (hk : d'.find? k = some e) :
    d.find? k = some e := by
  rcases h k with hsame | hnone
  · rw [← hsame, hk]
  · rw [hnone] at hk
    cases hk

/-- What stood below the place is gone, and all else is as it was. -/
structure Cleared (d : Disk) (place : Location) (d' : Disk) : Prop where
  find? : ∀ k, d'.find? k = if place <+: k ∧ k ≠ place then none else d.find? k
  wellFormed : d'.WellFormed

/-- Nothing has to go from an empty place. -/
theorem WellFormed.cleared (hd : d.WellFormed) (hempty : d.IsEmptyAt place) : d.Cleared place d where
  find? := by
    intro k
    split
    · next hk => exact hd.find?_below hempty hk.1 hk.2
    · rfl
  wellFormed := hd

/-- A cleared place is empty. -/
theorem Cleared.isEmptyAt (h : d.Cleared place d') : d'.IsEmptyAt place := by
  intro name
  rw [h.find?, if_pos ⟨List.prefix_append place [name], by simp⟩]

/-- Nothing but what stood below the place is touched. -/
theorem Cleared.find?_of_not_below (h : d.Cleared place d') {k : Location} (hk : ¬ place <+: k) :
    d'.find? k = d.find? k := by
  rw [h.find?, if_neg fun hx => hk hx.1]

/-- The cleared directory itself stays. -/
theorem Cleared.find?_place (h : d.Cleared place d') : d'.find? place = d.find? place := by
  rw [h.find?, if_neg fun hx => hx.2 rfl]

/-- Entries that are removed one after the other, each cleared before it is dropped, are gone with all
that stood below them. -/
theorem foldl_drop_cleared {original : Disk} {clearChild : Disk → Location → Disk}
    (names : List String)
    (hclear : ∀ (left : Disk) (name : String), left.WellFormed → original.Thinned left →
      left.Cleared (place ++ [name]) (clearChild left (place ++ [name])))
    (hd : d.WellFormed) (hthinned : original.Thinned d) :
    (∀ k, (names.foldl (fun d name =>
        (clearChild d (place ++ [name])).drop fun x => decide (x = place ++ [name])) d).find? k =
      if ∃ name ∈ names, place ++ [name] <+: k then none else d.find? k) ∧
    (names.foldl (fun d name =>
      (clearChild d (place ++ [name])).drop fun x => decide (x = place ++ [name])) d).WellFormed := by
  induction names generalizing d with
  | nil => exact ⟨fun k => by simp, hd⟩
  | cons name names ih =>
    have hchild := hclear d name hd hthinned
    have hfind : ∀ k, ((clearChild d (place ++ [name])).drop
        fun x => decide (x = place ++ [name])).find? k =
          if place ++ [name] <+: k then none else d.find? k := by
      intro k
      rw [hchild.wellFormed.find?_drop_of_isEmptyAt hchild.isEmptyAt (by simp)]
      split
      · rfl
      · next hk => exact hchild.find?_of_not_below hk
    obtain ⟨hrest, hwellFormed⟩ := ih (hchild.wellFormed.drop_of_isEmptyAt hchild.isEmptyAt) fun k => by
      rw [hfind]
      split
      · exact Or.inr rfl
      · exact hthinned k
    refine ⟨fun k => ?_, hwellFormed⟩
    rw [List.foldl_cons, hrest, hfind]
    by_cases hname : place ++ [name] <+: k <;> simp [hname]

/-- Clearing enters every directory below the place if none is deeper than the levels allow. -/
theorem cleared_clearWithin (levels : Nat) (hd : d.WellFormed)
    (hdeep : ∀ k, place <+: k → (d.find? k).isSome → k.length ≤ place.length + levels) :
    d.Cleared place (clearWithin levels d place) := by
  -- one level for each step down; the entries of one directory are the inner recursion
  induction levels generalizing d place with
  | zero =>
    refine hd.cleared fun name => ?_
    by_contra hsome
    have hlength := hdeep _ (List.prefix_append place [name]) (Option.isSome_iff_ne_none.2 hsome)
    rw [List.length_append, List.length_singleton] at hlength
    omega
  | succ levels ih =>
    let clearChild := fun (d : Disk) (child : Location) =>
      if d.find? child = some .directory then clearWithin levels d child else d
    have hclear : ∀ (left : Disk) (name : String), left.WellFormed → d.Thinned left →
        left.Cleared (place ++ [name]) (clearChild left (place ++ [name])) := by
      intro left name hleft hthinned
      dsimp only [clearChild]
      split
      · refine ih hleft fun k hk hsome => ?_
        obtain ⟨x, hx⟩ := Option.isSome_iff_exists.1 hsome
        have hlength := hdeep k ((List.prefix_append place [name]).trans hk)
          (Option.isSome_iff_exists.2 ⟨x, hthinned.find?_of_some hx⟩)
        rw [List.length_append, List.length_singleton]
        omega
      · next hleaf => exact hleft.cleared fun _ => hleft.find?_append_eq_none hleaf (by simp)
    obtain ⟨hfind, hwellFormed⟩ := foldl_drop_cleared (d.names place) hclear hd (Thinned.refl d)
    refine ⟨fun k => ?_, hwellFormed⟩
    refine (hfind k).trans ?_
    by_cases hk : place <+: k ∧ k ≠ place
    · rw [if_pos hk]
      split
      · rfl
      · next hnone =>
        obtain ⟨⟨rest, rfl⟩, hne⟩ := hk
        cases rest with
        | nil => exact absurd (List.append_nil place) hne
        | cons name below =>
          have hfree : d.find? (place ++ [name]) = none := by
            by_contra hsome
            obtain ⟨x, hx⟩ := Option.ne_none_iff_exists'.1 hsome
            exact hnone ⟨name, (mem_names_iff hd.toKeyed).2 ⟨x, hx⟩, below, by simp⟩
          by_cases hbelow : below = []
          · subst hbelow
            exact hfree
          · rw [List.append_cons]
            exact hd.find?_append_eq_none (by simp [hfree]) hbelow
    · rw [if_neg hk, if_neg]
      rintro ⟨name, -, hbelow⟩
      refine hk ⟨(List.prefix_append place [name]).trans hbelow, ?_⟩
      rintro rfl
      have hlength := hbelow.length_le
      rw [List.length_append, List.length_singleton] at hlength
      omega

/-- No location is longer than the disk is deep. -/
theorem length_le_depth (h : (d.find? l).isSome) : l.length ≤ d.depth := by
  have hfold : ∀ (entries : List (Location × Entry)) (n : Nat),
      n ≤ entries.foldl (fun n x => max n x.1.length) n ∧
        ∀ x ∈ entries, x.1.length ≤ entries.foldl (fun n x => max n x.1.length) n := by
    intro entries
    induction entries with
    | nil => simp
    | cons x entries ih =>
      intro n
      obtain ⟨hstart, hmem⟩ := ih (max n x.1.length)
      rw [List.foldl_cons]
      refine ⟨by omega, List.forall_mem_cons.2 ⟨by omega, hmem⟩⟩
  by_cases hl : l = []
  · simp [hl]
  · obtain ⟨e, he⟩ := Option.isSome_iff_exists.1 h
    exact (hfold d.entries 0).2 _ (mem_entries_of_find? hl he)

/-- Clearing a directory takes away all that stands below it and nothing else. -/
theorem cleared_clear (hd : d.WellFormed) (place : Location) : d.Cleared place (d.clear place) :=
  cleared_clearWithin d.depth hd fun _ _ hk =>
    Nat.le_trans (length_le_depth hk) (Nat.le_add_left _ _)

/-- Clearing a directory only takes entries away. -/
theorem Cleared.thinned (h : d.Cleared place d') : d.Thinned d' := by
  intro k
  rw [h.find?]
  split
  · exact Or.inr rfl
  · exact Or.inl rfl

/-! ## Following the names again -/

/-- The walk has found no entry: it fails because there is none, or ends at a free place. -/
def FindsNothing (result : Except DiskFault Spot) : Prop :=
  result = .error .missing ∨ ∃ l slash, result = .ok (.vacant l slash)

/-- A name at which nothing stands leads to nothing. -/
theorem findsNothing_of_free {part : String} (hpart : Path.isName part = true)
    (hshort : part.utf8ByteSize ≤ nameLimit) (hfind : d.find? (here ++ [part]) = none) :
    FindsNothing (d.walkWithin follow n here (part :: ps)) := by
  rw [walkWithin_free hpart hshort hfind]
  split
  · exact Or.inr ⟨_, _, rfl⟩
  · split
    · exact Or.inr ⟨_, _, rfl⟩
    · exact Or.inl rfl

/-- Where entries went, a walk ends at the entry where it ended before, or finds nothing. -/
theorem Thinned.walkWithin (h : d.Thinned d')
    (hwalk : d.walkWithin follow n here ps = .ok (.entry place e)) :
    d'.walkWithin follow n here ps = .ok (.entry place e) ∨
      FindsNothing (d'.walkWithin follow n here ps) := by
  -- a link makes the list of parts longer, but leaves fewer links to follow
  induction n using Nat.strongRecOn generalizing here ps with
  | ind n ihn =>
    induction ps generalizing here with
    | nil =>
      rw [walkWithin_nil] at hwalk ⊢
      exact Or.inl hwalk
    | cons part ps ihps =>
      rcases part_cases part with hstay | rfl | ⟨hpart, hlong⟩ | ⟨hpart, hshort⟩
      · rw [walkWithin_stay hstay] at hwalk ⊢
        exact ihps hwalk
      · rw [walkWithin_up] at hwalk ⊢
        exact ihps hwalk
      · rw [walkWithin_long hpart hlong] at hwalk
        cases hwalk
      rcases h (here ++ [part]) with hsame | hgone
      · cases hfind : d.find? (here ++ [part]) with
        | none => exact Or.inr (findsNothing_of_free hpart hshort (hsame.trans hfind))
        | some x =>
          have hfind' := hsame.trans hfind
          cases x with
          | directory =>
            rw [walkWithin_down hpart hshort hfind] at hwalk
            rw [walkWithin_down hpart hshort hfind']
            exact ihps hwalk
          | file stamp c =>
            rw [walkWithin_leaf hpart hshort hfind (by simp) (by simp)] at hwalk
            rw [walkWithin_leaf hpart hshort hfind' (by simp) (by simp)]
            exact Or.inl hwalk
          | pipe =>
            rw [walkWithin_leaf hpart hshort hfind (by simp) (by simp)] at hwalk
            rw [walkWithin_leaf hpart hshort hfind' (by simp) (by simp)]
            exact Or.inl hwalk
          | link target =>
            by_cases hgo : ps ≠ [] ∨ follow = true
            · rw [walkWithin_link hpart hshort hfind hgo] at hwalk
              rw [walkWithin_link hpart hshort hfind' hgo]
              cases n with
              | zero => cases hwalk
              | succ n =>
                dsimp only at hwalk ⊢
                split at hwalk
                · cases hwalk
                · next htarget =>
                  rw [if_neg htarget]
                  exact ihn n (Nat.lt_succ_self n) hwalk
            · obtain ⟨rfl, rfl⟩ : ps = [] ∧ follow = false := by simpa using hgo
              rw [walkWithin_last_link hpart hshort hfind] at hwalk
              rw [walkWithin_last_link hpart hshort hfind']
              exact Or.inl hwalk
      · exact Or.inr (findsNothing_of_free hpart hshort hgone)

/-- Where entries went, a path leads to the entry to which it led before, or to nothing. -/
theorem Thinned.locate (h : d.Thinned d') (hlocate : d.locate follow here ps = .ok (place, e)) :
    d'.locate follow here ps = .ok (place, e) ∨ d'.locate follow here ps = .error .missing := by
  rw [locate_eq_ok_iff] at hlocate ⊢
  have hwalkable := walkable_of_walk hlocate
  rw [walk_of_walkable hwalkable] at hlocate ⊢
  refine (h.walkWithin hlocate).imp_right fun hnothing => ?_
  rw [Disk.locate, walk_of_walkable hwalkable]
  rcases hnothing with hwalk | ⟨l, slash, hwalk⟩ <;> rw [hwalk]

/-! ## Removing -/

/-- The removal clears the directory at the place, and the names led to it through what stood in it. -/
def LosesWay (d : Disk) (recursive : Bool) (l place : Location) : Prop :=
  recursive = true ∧ d.find? place = some .directory ∧
    (d.clear place).locate false [] l ≠ .ok (place, .directory)

/-- A removal has taken away the entry that the names lead to, with all that stood below it.  A
directory that it cleared is left, empty, if the names led to it through what was in it. -/
structure Removal (d : Disk) (recursive : Bool) (l place : Location) (e : Entry) (d' : Disk) :
    Prop where
  walk : d.walk false [] l = .ok (.entry place e)
  entry : d.find? place = some e
  below : ∀ k, place <+: k → k ≠ place → d'.find? k = none
  kept : ∀ k, ¬ place <+: k → d'.find? k = d.find? k
  left : d.LosesWay recursive l place → d'.find? place = some .directory
  gone : place ≠ [] → ¬ d.LosesWay recursive l place → d'.find? place = none
  allowed : e = .directory → recursive = true ∨ d.IsEmptyAt place
  wellFormed : d'.WellFormed

section
variable (hd : d.WellFormed)
include hd

/-- An entry with nothing in it goes alone. -/
theorem WellFormed.removal_drop {recursive : Bool} (hwalk : d.walk false [] l = .ok (.entry place e))
    (hfind : d.find? place = some e) (hempty : d.IsEmptyAt place)
    (hgoes : e = .directory → recursive = false) :
    d.Removal recursive l place e (d.drop fun x => decide (x = place)) where
  walk := hwalk
  entry := hfind
  below := by
    intro k hk hne
    rw [find?_drop, if_neg (by simp [hne])]
    exact hd.find?_below hempty hk hne
  kept := by
    intro k hk
    rw [find?_drop, if_neg]
    rw [Bool.and_eq_true, decide_eq_true_iff]
    rintro ⟨rfl, -⟩
    exact hk (List.prefix_refl _)
  left := by
    rintro ⟨hrecursive, hdirectory, -⟩
    rw [hgoes (Option.some.inj (hfind.symm.trans hdirectory))] at hrecursive
    cases hrecursive
  gone := by
    intro hplace _
    rw [hd.find?_drop_of_isEmptyAt hempty hplace, if_pos (List.prefix_refl _)]
  allowed := fun _ => Or.inr hempty
  wellFormed := hd.drop_of_isEmptyAt hempty

/-- A directory is removed where the names lead to it, if it is empty. -/
theorem removeDirectory_eq (hlocate : d.locate false [] l = .ok (place, .directory)) :
    (d.IsEmptyAt place ∧ d.removeDirectory l = (.ok (), d.drop fun x => decide (x = place))) ∨
      (¬ d.IsEmptyAt place ∧ d.removeDirectory l = (.error .notEmpty, d)) := by
  rw [hd.toKeyed.isEmptyAt_iff, removeDirectory, hlocate]
  dsimp only
  by_cases hnames : d.names place = []
  · exact Or.inl ⟨hnames, if_pos (by simp [hnames])⟩
  · exact Or.inr ⟨hnames, if_neg (by simp [hnames])⟩

/-- A cleared directory is removed where the names still lead to it, and left where they do not. -/
theorem removal_of_clear (hwalk : d.walk false [] l = .ok (.entry place .directory))
    (hfind : d.find? place = some .directory) :
    ∃ d', d.remove true l = (.ok (), d') ∧ d.Removal true l place .directory d' := by
  have hlocate := locate_eq_ok_iff.2 hwalk
  have hclear := cleared_clear hd place
  have hbelow : ∀ k, place <+: k → k ≠ place → (d.clear place).find? k = none := by
    intro k hk hne
    rw [hclear.find?, if_pos ⟨hk, hne⟩]
  rw [remove, hlocate]
  dsimp only
  rw [if_pos rfl]
  rcases hclear.thinned.locate hlocate with hagain | hmissing
  · obtain ⟨-, hremove⟩ | ⟨hfull, -⟩ := removeDirectory_eq hclear.wellFormed hagain
    · rw [hremove]
      have hfind' := hclear.wellFormed.find?_drop_of_isEmptyAt hclear.isEmptyAt
      refine ⟨_, rfl,
        { walk := hwalk
          entry := hfind
          below := fun k hk hne => ?_
          kept := fun k hk => ?_
          left := fun hlost => absurd hagain hlost.2.2
          gone := fun hplace _ => ?_
          allowed := fun _ => Or.inl rfl
          wellFormed := hclear.wellFormed.drop_of_isEmptyAt hclear.isEmptyAt }⟩
      · rw [find?_drop, if_neg (by simp [hne]), hbelow k hk hne]
      · have hne : k ≠ place := by
          rintro rfl
          exact hk (List.prefix_refl _)
        rw [find?_drop, if_neg (by simp [hne]), hclear.find?_of_not_below hk]
      · rw [hfind' hplace, if_pos (List.prefix_refl _)]
    · exact absurd hclear.isEmptyAt hfull
  · have hstays : (d.clear place).removeDirectory l = (.error .missing, d.clear place) := by
      rw [removeDirectory, hmissing]
    rw [hstays]
    refine ⟨_, rfl,
      { walk := hwalk
        entry := hfind
        below := hbelow
        kept := fun k hk => hclear.find?_of_not_below hk
        left := fun _ => hclear.find?_place.trans hfind
        gone := fun _ hway => absurd ⟨rfl, hfind, ?_⟩ hway
        allowed := fun _ => Or.inl rfl
        wellFormed := hclear.wellFormed }⟩
    rw [hmissing]
    exact fun h => by cases h

/-- An entry that is found is removed, a directory if it is empty or taken with what is in it. -/
theorem removal_of_walk {recursive : Bool} (hwalk : d.walk false [] l = .ok (.entry place e))
    (hfind : d.find? place = some e) (hallowed : e = .directory → recursive = true ∨ d.IsEmptyAt place) :
    ∃ d', d.remove recursive l = (.ok (), d') ∧ d.Removal recursive l place e d' := by
  by_cases he : e = .directory
  · subst he
    cases recursive with
    | true => exact removal_of_clear hd hwalk hfind
    | false =>
      have hempty := (hallowed rfl).resolve_left (by simp)
      have hlocate := locate_eq_ok_iff.2 hwalk
      refine ⟨_, ?_, hd.removal_drop hwalk hfind hempty fun _ => rfl⟩
      rw [remove, hlocate]
      exact ((removeDirectory_eq hd hlocate).resolve_right fun h => h.1 hempty).2
  · refine ⟨_, ?_, hd.removal_drop hwalk hfind (hd.isEmptyAt_of_ne_directory hfind he)
      fun h => absurd h he⟩
    rw [remove, locate_eq_ok_iff.2 hwalk]
    cases e <;> first | rfl | exact absurd rfl he

/-- A directory with something in it is not removed alone. -/
theorem remove_of_not_isEmptyAt (hlocate : d.locate false [] l = .ok (place, .directory))
    (hfull : ¬ d.IsEmptyAt place) : d.remove false l = (.error .notEmpty, d) := by
  rw [remove, hlocate]
  exact ((removeDirectory_eq hd hlocate).resolve_left fun h => hfull h.1).2

/-- A removal is refused and changes nothing, or takes away the entry that the names lead to. -/
theorem remove_cases (hl : ∀ part ∈ l, '/' ∉ part.toList) (recursive : Bool) :
    (∃ fault, d.remove recursive l = (.error fault, d)) ∨
      ∃ place e d', d.remove recursive l = (.ok (), d') ∧ d.Removal recursive l place e d' := by
  cases hlocate : d.locate false [] l with
  | error fault => exact Or.inl ⟨fault, by rw [remove, hlocate]⟩
  | ok found =>
    obtain ⟨place, e⟩ := found
    have hwalk := locate_eq_ok_iff.1 hlocate
    have hfind : d.find? place = some e := walk_sound hd hl hwalk
    by_cases hallowed : e = .directory → recursive = true ∨ d.IsEmptyAt place
    · exact Or.inr ⟨place, e, removal_of_walk hd hwalk hfind hallowed⟩
    · obtain ⟨rfl, hrefused⟩ := Classical.not_imp.1 hallowed
      obtain ⟨hflat, hfull⟩ := not_or.1 hrefused
      obtain rfl := eq_false_of_ne_true hflat
      exact Or.inl ⟨.notEmpty, remove_of_not_isEmptyAt hd hlocate hfull⟩

omit hd in
/-- What a straight way leads to is removed at its location. -/
theorem Removal.eq_of_straight {recursive : Bool} (h : d.Removal recursive l place e d')
    (hl : d.Straight l) : place = l :=
  (find?_of_spotAt (hl.walk_eq h.walk).symm).1

/-- The way to a directory is not lost if no link stands on it. -/
theorem not_losesWay_of_straight (hl : d.Straight l) (hwalkable : Walkable l) (recursive : Bool) :
    ¬ d.LosesWay recursive l l := by
  rintro ⟨-, hfind, hlost⟩
  have hclear := cleared_clear hd l
  have hstraight : (d.clear l).Straight l :=
    { isName := hl.isName
      no_link := fun k target hk hlink =>
        hl.no_link k target hk (hclear.thinned.find?_of_some hlink) }
  exact hlost (locate_eq_ok_iff.2 (hstraight.walk_of_find? hclear.wellFormed
    (hclear.find?_place.trans hfind) hwalkable))

/-- Where no link stands on the way, the entry at the location is gone with all that stood below it. -/
theorem Removal.find?_of_straight {recursive : Bool} (h : d.Removal recursive l place e d')
    (hl : d.Straight l) (k : Location) :
    d'.find? k = if l <+: k ∧ k ≠ [] then none else d.find? k := by
  obtain rfl := h.eq_of_straight hl
  by_cases hroot : k = []
  · subst hroot
    simp
  by_cases hk : place <+: k
  · rw [if_pos ⟨hk, hroot⟩]
    by_cases hplace : k = place
    · subst hplace
      exact h.gone hroot (not_losesWay_of_straight hd hl (walkable_of_walk h.walk) recursive)
    · exact h.below k hk hplace
  · rw [if_neg fun hx => hk hx.1, h.kept k hk]

end

end Disk

end RootedStorage
