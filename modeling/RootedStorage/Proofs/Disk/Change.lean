import RootedStorage.Proofs.Disk.Walk

/-!
# What the changes of a disk do

One statement for each change: where it takes place, what stands at every location afterwards, and
that the disk stays well-formed.  Later proofs read these and do not look into the changes.
-/

namespace RootedStorage

namespace Disk

variable {d d' : Disk} {l : Location}

/-- A sound vacant spot is not the root. -/
theorem Spot.Sound.ne_nil {l : Location} {slash : Bool}
    (h : Spot.Sound d (.vacant l slash)) : l ≠ [] := by
  rintro rfl
  have hfree := h.1
  simp at hfree

/-- What is no directory does not stand at the root. -/
theorem ne_nil_of_find? {e : Entry} (h : d.find? l = some e) (he : e ≠ .directory) : l ≠ [] := by
  rintro rfl
  rw [find?_nil] at h
  exact he (Option.some.inj h).symm

/-- New content reaches the file that has the stamp and no other. -/
theorem WellFormed.find?_setContent_eq (hd : d.WellFormed) {stamp : Nat} {c : Bytes}
    (h : d.find? l = some (.file stamp c)) (new : Bytes) (k : Location) :
    (d.setContent stamp new).find? k = if k = l then some (.file stamp new) else d.find? k := by
  rw [find?_setContent]
  by_cases hk : k = l
  · rw [if_pos hk, hk, h]
    simp [Entry.withContent]
  · rw [if_neg hk]
    cases hfind : d.find? k with
    | none => rfl
    | some e =>
      cases e with
      | file s c' =>
        have hne : s ≠ stamp := by
          rintro rfl
          exact hk (hd.stamp_unique hfind h)
        simp [Entry.withContent, hne]
      | directory => rfl
      | pipe => rfl
      | link target => rfl

/-! ## Opening for writing -/

/-- Content was written: it stands in the file at `place`, where there was nothing or a file before,
and all else is as it was. -/
structure Written (d : Disk) (overwrite : Bool) (l place : Location) (stamp : Nat) (data : Bytes)
    (d' : Disk) : Prop where
  walk : d.walk overwrite [] l = .ok (d.spotAt place)
  before : d.find? place = none ∨ overwrite = true ∧ ∃ c, d.find? place = some (.file stamp c)
  find? : ∀ k, d'.find? k = if k = place then some (.file stamp data) else d.find? k
  wellFormed : d'.WellFormed

/-- A file that was opened stands empty. -/
theorem written_of_openWrite (hd : d.WellFormed) (hl : ∀ part ∈ l, '/' ∉ part.toList)
    {overwrite : Bool} {stamp : Nat} (h : d.openWrite overwrite l = .ok (stamp, d')) :
    ∃ place, Written d overwrite l place stamp [] d' := by
  unfold openWrite at h
  cases hwalk : d.walk overwrite [] l with
  | error fault =>
    rw [hwalk] at h
    cases h
  | ok spot =>
    have hsound := walk_sound hd hl hwalk
    rw [hwalk] at h
    cases spot with
    | vacant place slash =>
      cases slash with
      | true => cases h
      | false =>
        obtain ⟨hfree, parent, name, rfl, hparent, hname⟩ := hsound
        cases h
        exact ⟨_,
          { walk := by rw [hwalk, spotAt_of_free hfree]
            before := Or.inl hfree
            find? := fun k => find?_putFile d _ k [] (by simp)
            wellFormed := hd.putFile hparent hname hfree [] }⟩
    | entry place e =>
      have hfind : d.find? place = some e := hsound
      cases overwrite with
      | false => cases h
      | true =>
        cases e with
        | directory => cases h
        | pipe => cases h
        | link target => cases h
        | file s c =>
          cases h
          have hne := ne_nil_of_find? hfind (by simp)
          obtain ⟨parent, name, rfl⟩ := (List.eq_nil_or_concat' place).resolve_left hne
          refine ⟨_,
            { walk := by rw [hwalk, spotAt_of_find? hfind]
              before := Or.inr ⟨rfl, c, hfind⟩
              find? := fun k => find?_put d _ k _ hne
              wellFormed := ?_ }⟩
          refine hd.put (hd.parent hfind) (hd.name hfind) (Or.inr (by rw [hfind]; simp))
            (fun _ ht => by cases ht) fun s' c' hs => ?_
          obtain ⟨rfl, -⟩ := Entry.file.inj hs
          exact ⟨hd.stamp_lt hfind, fun k c'' hk => hd.stamp_unique hk hfind⟩

/-- Opening succeeds where nothing stands, and on a file if it may be overwritten. -/
theorem openWrite_isOk_of_walk {overwrite : Bool} {place : Location}
    (hwalk : d.walk overwrite [] l = .ok (d.spotAt place))
    (hplace : d.find? place = none ∨
      overwrite = true ∧ ∃ stamp c, d.find? place = some (.file stamp c)) :
    ∃ stamp d', d.openWrite overwrite l = .ok (stamp, d') := by
  unfold openWrite
  rw [hwalk]
  rcases hplace with hfree | ⟨rfl, stamp, c, hfind⟩
  · rw [spotAt_of_free hfree]
    exact ⟨_, _, rfl⟩
  · rw [spotAt_of_find? hfind]
    exact ⟨_, _, rfl⟩

namespace Written

variable {overwrite : Bool} {place : Location} {stamp : Nat} {data : Bytes}
  (h : Written d overwrite l place stamp data d')
include h

/-- What was written stands at its place. -/
theorem find?_place : d'.find? place = some (.file stamp data) := by
  rw [h.find?, if_pos rfl]

/-- No directory and no link is lost or new. -/
theorem find?_eq_of_not_file {k : Location} {e : Entry} (he : ∀ s c, e ≠ .file s c) :
    d'.find? k = some e ↔ d.find? k = some e := by
  rw [h.find?]
  by_cases hk : k = place
  · rw [if_pos hk, hk]
    refine ⟨fun hx => absurd (Option.some.inj hx).symm (he _ _), fun hx => ?_⟩
    rcases h.before with hfree | ⟨-, c, hfind⟩
    · rw [hfree] at hx
      cases hx
    · rw [hfind] at hx
      exact absurd (Option.some.inj hx).symm (he _ _)
  · rw [if_neg hk]

/-- Ways to directories are as before. -/
theorem reaches {n m : Nat} {here there : Location} {ps : List String}
    (hreach : Reaches d n here ps m there) : Reaches d' n here ps m there :=
  hreach.mono (fun _ hk => (h.find?_eq_of_not_file (by simp)).2 hk)
    fun _ _ hk => (h.find?_eq_of_not_file (by simp)).2 hk

/-- Writing changes the tree at its place only. -/
theorem tree_eq (k : Location) :
    d'.tree k = if k = place then some (.file 0 data) else d.tree k := by
  rw [tree, h.find?]
  split
  · rfl
  · rfl

/-- The file could be opened. -/
theorem isOk_openWrite : ∃ stamp d', d.openWrite overwrite l = .ok (stamp, d') := by
  refine openWrite_isOk_of_walk h.walk (h.before.imp_right ?_)
  rintro ⟨hoverwrite, c, hfind⟩
  exact ⟨hoverwrite, stamp, c, hfind⟩

/-- What was written could be opened. -/
theorem openWrite_ne_error (fault : DiskFault) : d.openWrite overwrite l ≠ .error fault := by
  obtain ⟨stamp, d', hopened⟩ := h.isOk_openWrite
  rw [hopened]
  exact fun herror => by cases herror

/-- The location of a directory is not written. -/
theorem find?_ne_directory (hd : d.WellFormed) : d.find? l ≠ some .directory := by
  intro hdirectory
  obtain rfl := spotAt_inj (hd.walk_directory hdirectory h.walk)
  rcases h.before with hfree | ⟨-, c, hfind⟩
  · rw [hdirectory] at hfree
    cases hfree
  · rw [hdirectory] at hfind
    cases hfind

/-- New content takes the place of what was written. -/
theorem setContent (new : Bytes) :
    Written d overwrite l place stamp new (d'.setContent stamp new) where
  walk := h.walk
  before := h.before
  find? := by
    intro k
    rw [h.wellFormed.find?_setContent_eq h.find?_place, h.find?]
    by_cases hk : k = place <;> simp [hk]
  wellFormed := h.wellFormed.setContent _ _

end Written

/-! ## Creating directories -/

/-- The disk has new directories and is else as before. -/
structure Grown (d d' : Disk) : Prop where
  find? : ∀ k, d'.find? k = d.find? k ∨ d.find? k = none ∧ d'.find? k = some .directory
  wellFormed : d'.WellFormed

/-- A disk grows by nothing. -/
theorem Grown.refl (hd : d.WellFormed) : Grown d d := ⟨fun _ => Or.inl rfl, hd⟩

/-- Growing goes on. -/
theorem Grown.trans {d'' : Disk} (h : Grown d d') (h' : Grown d' d'') : Grown d d'' where
  find? := by
    intro k
    rcases h.find? k with hk | ⟨hk, hk'⟩ <;> rcases h'.find? k with hx | ⟨hx, hx'⟩
    · exact Or.inl (hx.trans hk)
    · exact Or.inr ⟨hk ▸ hx, hx'⟩
    · exact Or.inr ⟨hk, hx.trans hk'⟩
    · rw [hk'] at hx
      cases hx
  wellFormed := h'.wellFormed

/-- Nothing that stands on the disk changes. -/
theorem Grown.find?_of_some (h : Grown d d') {k : Location} {e : Entry} (hk : d.find? k = some e) :
    d'.find? k = some e := by
  rcases h.find? k with hsame | ⟨hnone, -⟩
  · rw [hsame, hk]
  · rw [hnone] at hk
    cases hk

/-- Ways to directories are as before. -/
theorem Grown.reaches (h : Grown d d') {n m : Nat} {here there : Location} {ps : List String}
    (hreach : Reaches d n here ps m there) : Reaches d' n here ps m there :=
  hreach.mono (fun _ hk => h.find?_of_some hk) fun _ _ hk => h.find?_of_some hk

/-- A directory is made at a vacant place, and nothing else changes. -/
theorem makeDirectory_spec (hd : d.WellFormed) (hl : ∀ part ∈ l, '/' ∉ part.toList)
    (h : d.makeDirectory l = .ok d') :
    ∃ place slash, d.walk false [] l = .ok (.vacant place slash) ∧ d.find? place = none ∧
      (∀ k, d'.find? k = if k = place then some .directory else d.find? k) ∧ d'.WellFormed := by
  unfold makeDirectory at h
  cases hwalk : d.walk false [] l with
  | error fault =>
    rw [hwalk] at h
    cases h
  | ok spot =>
    have hsound := walk_sound hd hl hwalk
    rw [hwalk] at h
    cases spot with
    | entry place e => cases h
    | vacant place slash =>
      obtain ⟨hfree, parent, name, rfl, hparent, hname⟩ := hsound
      cases h
      exact ⟨_, slash, rfl, hfree, fun k => find?_put d _ k _ (by simp),
        hd.put hparent hname (Or.inl rfl) (fun _ ht => by cases ht) fun _ _ hs => by cases hs⟩

/-- A disk grows by a directory that is made. -/
theorem grown_of_makeDirectory (hd : d.WellFormed) (hl : ∀ part ∈ l, '/' ∉ part.toList)
    (h : d.makeDirectory l = .ok d') : Grown d d' := by
  obtain ⟨place, -, -, hfree, hfind, hd'⟩ := makeDirectory_spec hd hl h
  refine ⟨fun k => ?_, hd'⟩
  rw [hfind]
  by_cases hk : k = place
  · exact Or.inr ⟨hk ▸ hfree, if_pos hk⟩
  · exact Or.inl (if_neg hk)

/-- A disk grows by a directory that is made unless it is there. -/
theorem grown_ensureDirectory (hd : d.WellFormed) (hl : ∀ part ∈ l, '/' ∉ part.toList) :
    Grown d (d.ensureDirectory l).2 := by
  unfold ensureDirectory
  split
  · next hmake => exact grown_of_makeDirectory hd hl hmake
  · exact Grown.refl hd

/-- Creating the directories on a way makes nothing but directories, also when it fails. -/
theorem grown_makeDirectories (hd : d.WellFormed) :
    ∀ names : List String, (∀ part ∈ names, '/' ∉ part.toList) →
      Grown d (d.makeDirectories names).2 := by
  intro names
  induction names with
  | nil => exact fun _ => Grown.refl hd
  | cons name above ih =>
    intro hnames
    have hl : ∀ part ∈ (name :: above).reverse, '/' ∉ part.toList :=
      fun part hpart => hnames part (List.mem_reverse.1 hpart)
    have habove := ih fun part hpart => hnames part (List.mem_cons_of_mem _ hpart)
    unfold makeDirectories
    split
    · split
      · next d₁ hmade =>
        rw [hmade] at habove
        exact habove.trans (grown_ensureDirectory habove.wellFormed hl)
      · next d₁ hmade =>
        rw [hmade] at habove
        exact habove
    · exact grown_ensureDirectory hd hl

/-! ## Moving and discarding files -/

/-- A place for an entry: a name in a directory. -/
def IsPlace (d : Disk) (l : Location) : Prop :=
  ∃ parent name, l = parent ++ [name] ∧ d.find? parent = some .directory ∧ EntryName name

/-- A free place takes the entry from another one. -/
theorem relocate_spec (hd : d.WellFormed) {old new : Location} {e : Entry}
    (hold : d.find? old = some e) (he : e ≠ .directory) (hplace : d.IsPlace new)
    (hfree : d.find? new = none) :
    ∀ d', d' = ({ d with entries := d.entries.filter fun x => x.1 ≠ old } : Disk).put new e →
      (∀ k, d'.find? k = if k = new then some e else if k = old then none else d.find? k) ∧
      d'.WellFormed := by
  intro d' hd'
  obtain ⟨parent, name, rfl, hparent, hname⟩ := hplace
  have hleaf : d.find? old ≠ some .directory := by
    rw [hold]
    exact fun h => he (Option.some.inj h)
  let without : Disk := { d with entries := d.entries.filter fun x => x.1 ≠ old }
  have hentries : without.entries = (d.drop fun k => decide (k = old)).entries := by
    simp [without, drop]
  have hwithout : without.WellFormed := (hd.drop_leaf hleaf).ofEntries hentries (Nat.le_refl _)
  have hfind : ∀ k, without.find? k = if k = old then none else d.find? k := by
    intro k
    have hsame : without.find? k = (d.drop fun k => decide (k = old)).find? k := by
      rw [Disk.find?, Disk.find?, hentries]
    rw [hsame, find?_drop]
    by_cases hk : k = old
    · simp [hk, ne_nil_of_find? hold he]
    · simp [hk]
  have hparent_ne : parent ≠ old := by
    rintro rfl
    exact hleaf hparent
  subst hd'
  constructor
  · intro k
    rw [find?_put _ _ _ _ (by simp), hfind]
  · refine hwithout.put ?_ hname (Or.inr ?_) (fun target ht => ?_) fun stamp c hs => ?_
    · rw [hfind, if_neg hparent_ne]
      exact hparent
    · rw [hfind]
      split
      · simp
      · rw [hfree]
        simp
    · subst ht
      exact hd.target hold
    · subst hs
      refine ⟨hd.stamp_lt hold, fun k c' hk => ?_⟩
      rw [hfind] at hk
      split at hk
      · cases hk
      · next hne => exact absurd (hd.stamp_unique hk hold) hne

/-- A file or link may move to a free place or take the place of one: it stands there and not where
it was. -/
theorem moveFile_spec (hd : d.WellFormed) {source target old new : Location} {e : Entry}
    (hsource : d.walk false [] source = .ok (d.spotAt old)) (hold : d.find? old = some e)
    (he : e ≠ .directory) (htarget : d.walk false [] target = .ok (d.spotAt new))
    (hplace : d.IsPlace new) (hnew : d.find? new ≠ some .directory) (hne : old ≠ new) :
    ∃ d', d.moveFile source target = .ok d' ∧
      (∀ k, d'.find? k = if k = new then some e else if k = old then none else d.find? k) ∧
      d'.WellFormed := by
  have hlocate : d.locate false [] source = .ok (old, e) := by
    rw [locate, hsource, spotAt_of_find? hold]
  cases hfind : d.find? new with
  | none =>
    rw [spotAt_of_free hfind] at htarget
    refine ⟨({ d with entries := d.entries.filter fun x => x.1 ≠ old } : Disk).put new e, ?_,
      relocate_spec hd hold he hplace hfind _ rfl⟩
    unfold moveFile
    rw [hlocate, htarget]
    cases e <;> first | rfl | exact absurd rfl he
  | some occupant =>
    have hoccupant : occupant ≠ .directory := by
      rintro rfl
      exact hnew hfind
    rw [spotAt_of_find? hfind] at htarget
    let cleared : Disk := d.drop fun k => decide (k = new)
    have hcleared : ∀ k, cleared.find? k = if k = new then none else d.find? k := by
      intro k
      show (d.drop _).find? k = _
      rw [find?_drop]
      by_cases hk : k = new
      · simp [hk, ne_nil_of_find? hfind hoccupant]
      · simp [hk]
    have hplace' : cleared.IsPlace new := by
      obtain ⟨parent, name, hsplit, hparent, hname⟩ := hplace
      refine ⟨parent, name, hsplit, ?_, hname⟩
      have hchild : parent ≠ new := by
        rintro rfl
        exact hnew hparent
      rw [hcleared, if_neg hchild]
      exact hparent
    have hold' : cleared.find? old = some e := by
      rw [hcleared, if_neg hne]
      exact hold
    obtain ⟨hmoved, hwf⟩ := relocate_spec (hd.drop_leaf hnew) hold' he hplace'
      (by rw [hcleared, if_pos rfl]) _ rfl
    refine ⟨_, ?_, fun k => ?_, hwf⟩
    · unfold moveFile
      rw [hlocate, htarget]
      cases e <;> cases occupant <;> first | rfl | exact absurd rfl he | exact absurd rfl hoccupant
    · rw [hmoved, hcleared]
      by_cases hk : k = new <;> simp [hk]

/-- Nothing moves onto a directory. -/
theorem moveFile_onto_directory {source target old new : Location} {e : Entry}
    (hsource : d.walk false [] source = .ok (d.spotAt old)) (hold : d.find? old = some e)
    (he : e ≠ .directory) (htarget : d.walk false [] target = .ok (d.spotAt new))
    (hnew : d.find? new = some .directory) :
    d.moveFile source target = .error .isDirectory := by
  have hlocate : d.locate false [] source = .ok (old, e) := by
    rw [locate, hsource, spotAt_of_find? hold]
  rw [spotAt_of_find? hnew] at htarget
  unfold moveFile
  rw [hlocate, htarget]
  cases e <;> first | rfl | exact absurd rfl he

end Disk

end RootedStorage
