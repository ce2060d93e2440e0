import RootedStorage.Proofs.Disk.Straight

/-!
# Changes below a root

A change is confined to a root if it leaves every entry elsewhere, keeps the root a directory, and
puts no link below it.  Without links below the root, names below it lead nowhere else, so every
change of the disk at a location below the root is confined to it, and so is a run of such changes
(`Confined.trans`).
-/

namespace RootedStorage

namespace Disk

variable {d d' d'' : Disk} {root : Location}

/-- The disk changed below the root only, and there are no links below it. -/
structure Confined (root : Location) (d d' : Disk) : Prop extends d'.LinkFreeBelow root where
  wellFormed : d'.WellFormed
  outside : ∀ l, ¬ root <+: l → d'.find? l = d.find? l

theorem Confined.refl (h : d.LinkFreeBelow root) (hd : d.WellFormed) : Confined root d d :=
  ⟨h, hd, fun _ _ => rfl⟩

theorem Confined.trans (h : Confined root d d') (h' : Confined root d' d'') :
    Confined root d d'' where
  toLinkFreeBelow := h'.toLinkFreeBelow
  wellFormed := h'.wellFormed
  outside := fun l hl => (h'.outside l hl).trans (h.outside l hl)

/-- If the file with the stamp stands anywhere, it stands below the root. -/
def FileBelow (d : Disk) (root : Location) (stamp : Nat) : Prop :=
  ∀ l c, d.find? l = some (.file stamp c) → root <+: l

/-- A confined change brings no file out of the root. -/
theorem FileBelow.of_confined {stamp : Nat} (hbelow : d.FileBelow root stamp)
    (h : Confined root d d') : d'.FileBelow root stamp := by
  intro l c hfind
  by_contra hl
  rw [h.outside l hl] at hfind
  exact hl (hbelow l c hfind)

/-- A change is confined if it takes place strictly below the root and puts no link there. -/
theorem LinkFreeBelow.confined (h : d.LinkFreeBelow root) (hd' : d'.WellFormed)
    (hfind : ∀ k, d'.find? k = d.find? k ∨
      root <+: k ∧ k ≠ root ∧ ∀ target, d'.find? k ≠ some (.link target)) :
    Confined root d d' where
  isDirectory := by
    rcases hfind root with hsame | ⟨-, hne, -⟩
    · rw [hsame]
      exact h.isDirectory
    · exact absurd rfl hne
  no_link := by
    intro names target
    rcases hfind (root ++ names) with hsame | ⟨-, -, hlink⟩
    · rw [hsame]
      exact h.no_link names target
    · exact hlink target
  wellFormed := hd'
  outside := by
    intro l hl
    rcases hfind l with hsame | ⟨hbelow, -, -⟩
    · exact hsame
    · exact absurd hbelow hl

/-! ## Files -/

/-- A walk below the root ends where its names say. -/
theorem LinkFreeBelow.eq_of_walk (h : d.LinkFreeBelow root) (hd : d.WellFormed)
    {names : List String} (hnames : ∀ part ∈ names, Path.isName part = true) {follow : Bool}
    {place : Location} (hwalk : d.walk follow [] (root ++ names) = .ok (d.spotAt place)) :
    place = root ++ names :=
  spotAt_inj ((h.straight hd hnames).walk_eq hwalk)

theorem LinkFreeBelow.eq_of_written (h : d.LinkFreeBelow root) (hd : d.WellFormed)
    {names : List String} (hnames : ∀ part ∈ names, Path.isName part = true) {overwrite : Bool}
    {place : Location} {stamp : Nat} {data : Bytes}
    (hwritten : d.Written overwrite (root ++ names) place stamp data d') : place = root ++ names :=
  h.eq_of_walk hd hnames hwritten.walk

/-- What was written at a path below the root is confined to the root. -/
theorem Written.confined (h : d.LinkFreeBelow root) (hd : d.WellFormed) {names : List String}
    (hnames : ∀ part ∈ names, Path.isName part = true) {overwrite : Bool} {place : Location}
    {stamp : Nat} {data : Bytes}
    (hwritten : d.Written overwrite (root ++ names) place stamp data d') : Confined root d d' := by
  obtain rfl := h.eq_of_written hd hnames hwritten
  have hne : root ++ names ≠ root := by
    intro heq
    refine hwritten.find?_ne_directory hd ?_
    rw [heq]
    exact h.isDirectory
  refine h.confined hwritten.wellFormed fun k => ?_
  by_cases hk : k = root ++ names
  · subst hk
    refine Or.inr ⟨List.prefix_append root names, hne, fun target => ?_⟩
    rw [hwritten.find?_place]
    simp
  · exact Or.inl (by rw [hwritten.find?, if_neg hk])

/-- A file that was written at a path below the root stands there and nowhere else. -/
theorem Written.fileBelow (h : d.LinkFreeBelow root) (hd : d.WellFormed) {names : List String}
    (hnames : ∀ part ∈ names, Path.isName part = true) {overwrite : Bool} {place : Location}
    {stamp : Nat} {data : Bytes}
    (hwritten : d.Written overwrite (root ++ names) place stamp data d') :
    d'.FileBelow root stamp := by
  obtain rfl := h.eq_of_written hd hnames hwritten
  intro l c hfind
  obtain rfl := hwritten.wellFormed.stamp_unique hfind hwritten.find?_place
  exact List.prefix_append root names

/-- New content for a file is confined to the root if the file stands below it. -/
theorem LinkFreeBelow.confined_setContent (h : d.LinkFreeBelow root) (hd : d.WellFormed)
    {stamp : Nat} (hbelow : d.FileBelow root stamp) (new : Bytes) :
    Confined root d (d.setContent stamp new) := by
  refine h.confined (hd.setContent stamp new) fun k => ?_
  by_cases hk : ∃ c, d.find? k = some (.file stamp c)
  · obtain ⟨c, hfind⟩ := hk
    have hnew := hd.find?_setContent_eq hfind new k
    rw [if_pos rfl] at hnew
    refine Or.inr ⟨hbelow k c hfind, ?_, fun target => ?_⟩
    · rintro rfl
      rw [h.isDirectory] at hfind
      cases hfind
    · rw [hnew]
      simp
  · left
    rw [find?_setContent]
    cases hfind : d.find? k with
    | none => rfl
    | some e =>
      cases e with
      | file s c =>
        have hs : s ≠ stamp := by
          rintro rfl
          exact hk ⟨c, hfind⟩
        simp [Entry.withContent, hs]
      | directory => rfl
      | pipe => rfl
      | link target => rfl

/-! ## Removals -/

/-- A removal of what stands strictly below the root is confined to the root. -/
theorem LinkFreeBelow.confined_remove (h : d.LinkFreeBelow root) {names : List String}
    (hne : names ≠ []) (hfind : ∀ k, d'.find? k = if root ++ names <+: k ∧ k ≠ [] then none else d.find? k)
    (hd' : d'.WellFormed) : Confined root d d' := by
  refine h.confined hd' fun k => ?_
  by_cases hk : root ++ names <+: k ∧ k ≠ []
  · refine Or.inr ⟨(List.prefix_append root names).trans hk.1, ?_, fun target => ?_⟩
    · rintro rfl
      have hlength := hk.1.length_le
      rw [List.length_append] at hlength
      exact hne (List.eq_nil_of_length_eq_zero (by omega))
    · rw [hfind, if_pos hk]
      simp
  · exact Or.inl (by rw [hfind, if_neg hk])

/-! ## Directories -/

section
variable {names : List String} (hnames : ∀ part ∈ names, Path.isName part = true)
  (hslash : ∀ part ∈ root ++ names, '/' ∉ part.toList)
include hnames hslash

/-- A directory made on the way to a location below the root is made below the root, since the
directories above it are there. -/
theorem LinkFreeBelow.confined_makeDirectory (h : d.LinkFreeBelow root) (hd : d.WellFormed)
    {l : Location} (hl : l <+: root ++ names) (hmake : d.makeDirectory l = .ok d') :
    Confined root d d' := by
  obtain ⟨place, slash, hwalk, hfree, hfind, hd'⟩ :=
    makeDirectory_spec hd (fun part hpart => hslash part (hl.subset hpart)) hmake
  have hbelow := h.straight hd hnames
  have hway := hbelow.of_prefix hl
  obtain rfl := hway.eq_of_walk_vacant hwalk
  have hnot : d.find? place ≠ some .directory := by
    rw [hfree]
    simp
  have hroot : root <+: place := by
    rcases List.prefix_or_prefix_of_prefix hl (List.prefix_append root names) with habove | hbelow
    · exact absurd (hd.find?_of_prefix h.isDirectory habove) hnot
    · exact hbelow
  refine h.confined hd' fun k => ?_
  by_cases hk : k = place
  · subst hk
    refine Or.inr ⟨hroot, fun heq => hnot (heq ▸ h.isDirectory), fun target => ?_⟩
    rw [hfind, if_pos rfl]
    simp
  · exact Or.inl (by rw [hfind, if_neg hk])

theorem LinkFreeBelow.confined_ensureDirectory (h : d.LinkFreeBelow root) (hd : d.WellFormed)
    {l : Location} (hl : l <+: root ++ names) : Confined root d (d.ensureDirectory l).2 := by
  unfold ensureDirectory
  split
  · next hmake => exact h.confined_makeDirectory hnames hslash hd hl hmake
  · exact Confined.refl h hd

/-- Making the directories on the way is confined to the root, also when it fails halfway. -/
theorem LinkFreeBelow.confined_makeDirectories (h : d.LinkFreeBelow root) (hd : d.WellFormed)
    (way : List String) (hway : way.reverse <+: root ++ names) :
    Confined root d (d.makeDirectories way).2 := by
  induction way with
  | nil => exact Confined.refl h hd
  | cons name above ih =>
    have habove : above.reverse <+: root ++ names := by
      rw [List.reverse_cons] at hway
      exact (List.prefix_append _ _).trans hway
    have hmade := ih habove
    unfold makeDirectories
    split
    · split
      · next d₁ heq =>
        rw [heq] at hmade
        exact hmade.trans
          (hmade.toLinkFreeBelow.confined_ensureDirectory hnames hslash hmade.wellFormed hway)
      · next d₁ heq =>
        rw [heq] at hmade
        exact hmade
    · exact h.confined_ensureDirectory hnames hslash hd hway

end

end Disk

end RootedStorage
