import RootedStorage.Proofs.Disk.Change

/-!
# Ways without links

Where no link stands on the way, a location is where its names lead: a walk that succeeds ends
there, and an entry of the tree is found there if its path is short enough.  That is so for every
location below a root without links (`LinkFreeBelow`), in particular below one with directories and
files only (`PlainBelow`).
-/

namespace RootedStorage

namespace Disk

variable {d : Disk} {follow : Bool} {l root : Location}

/-- The location is made of names, and no link stands at it or on the way to it. -/
structure Straight (d : Disk) (l : Location) : Prop where
  isName : ∀ part ∈ l, Path.isName part = true
  no_link : ∀ k target, k <+: l → d.find? k ≠ some (.link target)

/-- A straight way is straight up to each of its stops. -/
theorem Straight.of_prefix {k : Location} (h : d.Straight l) (hk : k <+: l) : d.Straight k where
  isName := fun part hpart => h.isName part (hk.subset hpart)
  no_link := fun k' target hk' => h.no_link k' target (hk'.trans hk)

/-- Every name on the way to an entry of a well-formed disk is an entry's name. -/
theorem WellFormed.entryName_of_mem (hd : d.WellFormed) :
    ∀ {l : Location} {e : Entry}, d.find? l = some e → ∀ name ∈ l, EntryName name := by
  intro l
  induction l using List.reverseRecOn with
  | nil => intro e _ name hname; cases hname
  | append_singleton parent last ih =>
    intro e h name hname
    rcases List.mem_append.1 hname with hname | hname
    · exact ih (hd.parent h) name hname
    · obtain rfl := List.mem_singleton.1 hname
      exact hd.name h

/-- On the way to a directory stand directories. -/
theorem WellFormed.find?_of_prefix (hd : d.WellFormed) {k : Location}
    (h : d.find? l = some .directory) (hk : k <+: l) : d.find? k = some .directory := by
  obtain ⟨rest, rfl⟩ := hk
  by_cases hrest : rest = []
  · subst hrest
    simpa using h
  · exact hd.find?_of_append hrest h

/-- Names below a directory lead straight on if no link stands below it. -/
theorem WellFormed.straight (hd : d.WellFormed) (hroot : d.find? root = some .directory)
    (hbelow : ∀ k target, d.find? (root ++ k) ≠ some (.link target)) {names : List String}
    (hnames : ∀ part ∈ names, Path.isName part = true) : d.Straight (root ++ names) where
  isName := by
    intro part hpart
    rcases List.mem_append.1 hpart with hpart | hpart
    · exact (hd.entryName_of_mem hroot part hpart).isName
    · exact hnames part hpart
  no_link := by
    intro k target hk
    rcases List.prefix_or_prefix_of_prefix hk (List.prefix_append root names) with
      hk' | ⟨rest, rfl⟩
    · rw [hd.find?_of_prefix hroot hk']
      simp
    · exact hbelow rest target

/-- There are no links below the root. -/
structure LinkFreeBelow (d : Disk) (root : Location) : Prop where
  isDirectory : d.find? root = some .directory
  no_link : ∀ names target, d.find? (root ++ names) ≠ some (.link target)

/-- A disk with a single directory has no links below it. -/
theorem linkFreeBelow_single (name : String) : (single name).LinkFreeBelow [name] where
  isDirectory := by simp [find?_single]
  no_link := by
    intro names target
    rw [find?_single]
    split <;> simp

/-- Without links below the root every way there is straight. -/
theorem LinkFreeBelow.straight (h : d.LinkFreeBelow root) (hd : d.WellFormed) {names : List String}
    (hnames : ∀ part ∈ names, Path.isName part = true) : d.Straight (root ++ names) :=
  hd.straight h.isDirectory h.no_link hnames

/-- Without links below the root the way of an accepted path is straight. -/
theorem LinkFreeBelow.straight_of_segments? (h : d.LinkFreeBelow root) (hd : d.WellFormed)
    {path : String} {names : List String} (hnames : Path.segments? path = some names) :
    d.Straight (root ++ names) :=
  h.straight hd fun _ hpart => Path.isName_of_mem_segments? hnames hpart

/-- There are only directories and files below the root. -/
structure PlainBelow (d : Disk) (root : Location) : Prop where
  isDirectory : d.find? root = some .directory
  plain : ∀ names e, d.find? (root ++ names) = some e → e = .directory ∨ ∃ stamp c, e = .file stamp c

/-- Among directories and files there is no link. -/
theorem PlainBelow.no_link (h : d.PlainBelow root) (k : Location) (target : String) :
    d.find? (root ++ k) ≠ some (.link target) := by
  intro hlink
  rcases h.plain k _ hlink with hx | ⟨_, _, hx⟩
  · cases hx
  · cases hx

/-- Where only directories and files stand there are no links. -/
theorem PlainBelow.linkFree (h : d.PlainBelow root) : d.LinkFreeBelow root :=
  ⟨h.isDirectory, h.no_link⟩

/-- Among directories and files every way is straight. -/
theorem PlainBelow.straight (h : d.PlainBelow root) (hd : d.WellFormed) {names : List String}
    (hnames : ∀ part ∈ names, Path.isName part = true) : d.Straight (root ++ names) :=
  h.linkFree.straight hd hnames

/-- Among directories and files the way of an accepted path is straight. -/
theorem PlainBelow.straight_of_segments? (h : d.PlainBelow root) (hd : d.WellFormed) {path : String}
    {names : List String} (hnames : Path.segments? path = some names) : d.Straight (root ++ names) :=
  h.linkFree.straight_of_segments? hd hnames

/-- A walk on a straight way ends at its location. -/
theorem Straight.walk_eq (h : d.Straight l) {spot : Spot}
    (hwalk : d.walk follow [] l = .ok spot) : spot = d.spotAt l := by
  rcases List.eq_nil_or_concat' l with rfl | ⟨parent, name, rfl⟩
  · rw [walk_of_walkable (walkable_of_walk hwalk), walkWithin_nil] at hwalk
    cases hwalk
    exact (spotAt_of_find? (find?_nil d)).symm
  · have hname := h.isName name (by simp)
    obtain ⟨m, there, hreach, hshort, hlast⟩ := exists_reaches_of_walk hname hwalk
    have hparent := h.of_prefix (List.prefix_append parent [name])
    obtain ⟨-, hthere⟩ := hreach.eq_of_no_link hparent.isName hparent.no_link
    rw [List.nil_append] at hthere
    subst hthere
    rw [walkWithin_name_of_not_link hname hshort
      (fun target => h.no_link _ target (List.prefix_refl _)), walkWithin_name hname hshort] at hlast
    exact (Except.ok.inj hlast).symm

/-- A free place that a straight way leads to is its location. -/
theorem Straight.eq_of_walk_vacant (h : d.Straight l) {place : Location} {slash : Bool}
    (hwalk : d.walk follow [] l = .ok (.vacant place slash)) : place = l :=
  (find?_of_spotAt_vacant (h.walk_eq hwalk).symm).1

/-- A walk to a name in a directory ends there if no link stands there. -/
theorem Straight.walk_of_parent (hd : d.WellFormed) {parent : Location} {name : String}
    (h : d.Straight (parent ++ [name])) (hparent : d.find? parent = some .directory)
    (hshort : name.utf8ByteSize ≤ nameLimit) (hwalkable : Walkable (parent ++ [name])) :
    d.walk follow [] (parent ++ [name]) = .ok (d.spotAt (parent ++ [name])) := by
  have hname := h.isName name (by simp)
  exact walk_of_reaches_of_not_link (hd.reaches linkLimit hparent) hname hshort hwalkable
    fun target => h.no_link _ target (List.prefix_refl _)

/-- A straight way leads to the entry that stands at its end. -/
theorem Straight.walk_of_find? (hd : d.WellFormed) (h : d.Straight l) {e : Entry}
    (hfind : d.find? l = some e) (hwalkable : Walkable l) :
    d.walk follow [] l = .ok (.entry l e) := by
  rcases List.eq_nil_or_concat' l with rfl | ⟨parent, name, rfl⟩
  · rw [find?_nil] at hfind
    cases hfind
    rw [walk_of_walkable hwalkable, walkWithin_nil]
  · rw [h.walk_of_parent hd (hd.parent hfind) (hd.name hfind).short hwalkable,
      spotAt_of_find? hfind]

/-- What a straight way leads to is what stands at its location. -/
theorem Straight.lookup_eq_ok_iff (hd : d.WellFormed) (h : d.Straight l) {e : Entry} :
    d.lookup l = .ok e ↔ d.find? l = some e ∧ Walkable l := by
  constructor
  · intro hlookup
    obtain ⟨place, hwalk⟩ := lookup_eq_ok_iff_walk.1 hlookup
    have hspot := h.walk_eq hwalk
    cases hfind : d.find? l with
    | none =>
      rw [spotAt_of_free hfind] at hspot
      cases hspot
    | some x =>
      rw [spotAt_of_find? hfind] at hspot
      cases hspot
      exact ⟨rfl, walkable_of_walk hwalk⟩
  · rintro ⟨hfind, hwalkable⟩
    exact lookup_eq_ok_iff_walk.2 ⟨l, h.walk_of_find? hd hfind hwalkable⟩

end Disk

end RootedStorage
