import RootedStorage.Proofs.Disk.Directories

/-!
# Directories made on a way, and links that lead nowhere

A look-up goes through a link at the end of a path, and the creation of a directory does not.  Where
a link leads to nothing, the look-up therefore finds nothing and the creation finds the place
occupied.  Such a `Dangling` link on a way is the only thing that does this (`dangling_or_lookup`), and
where one stands no directory is made (`Dangling.makeDirectories_eq`).  Otherwise the directories that
are made are those that were missing on the way (`MadeOnly`).
-/

namespace RootedStorage

namespace Disk

variable {d d' d₁ : Disk} {l parent there : Location} {name : String}

/-! ## Faults of walks -/

/-- A walk from part to part is stopped by the parts or by what stands there. -/
theorem fault_of_advance {follow : Bool} {fault : DiskFault} {here : Location} {ps : List String}
    (h : d.advance follow here ps = .failed fault) :
    fault = .nameTooLong ∨ fault = .missing ∨ fault = .notDirectory := by
  fun_induction advance d follow here ps <;> simp_all

/-- No walk ends because something stands in its way already. -/
theorem walkWithin_ne_occupied {follow : Bool} (n : Nat) (here : Location) (ps : List String) :
    d.walkWithin follow n here ps ≠ .error .occupied := by
  induction n generalizing here ps with
  | zero =>
    rw [walkWithin_eq]
    split
    · simp
    · next hfailed => rcases fault_of_advance hfailed with rfl | rfl | rfl <;> simp
    · simp
  | succ n ih =>
    rw [walkWithin_eq]
    split
    · simp
    · next hfailed => rcases fault_of_advance hfailed with rfl | rfl | rfl <;> simp
    · dsimp only
      split
      · simp
      · exact ih _ _

/-- No walk ends because something stands in its way already, from wherever it starts. -/
theorem walk_ne_occupied {follow : Bool} {here : Location} {ps : List String} :
    d.walk follow here ps ≠ .error .occupied := by
  unfold walk
  split
  · simp
  · split
    · simp
    · exact walkWithin_ne_occupied _ _ _

/-- The creation of a directory finds the place occupied where an entry stands, and only there. -/
theorem makeDirectory_eq_occupied_iff :
    d.makeDirectory l = .error .occupied ↔
      ∃ place e, d.walk false [] l = .ok (.entry place e) := by
  unfold makeDirectory
  split
  · next fault hwalk =>
    have hne : fault ≠ .occupied := by
      rintro rfl
      exact walk_ne_occupied hwalk
    simp [hwalk, hne]
  · next hwalk => simp [hwalk]
  · next hwalk => simp [hwalk]

/-- Where something can be looked up, the place is occupied. -/
theorem makeDirectory_of_lookup {e : Entry} (hname : Path.isName name = true)
    (h : d.lookup (parent ++ [name]) = .ok e) :
    d.makeDirectory (parent ++ [name]) = .error .occupied := by
  obtain ⟨place, hwalk⟩ := lookup_eq_ok_iff_walk.1 h
  obtain ⟨m, there, hreach, hshort, hlast⟩ := exists_reaches_of_walk hname hwalk
  have hlook := walk_false_of_reaches hreach hname hshort (walkable_of_walk hwalk)
  rw [makeDirectory_eq_occupied_iff, hlook]
  cases hfind : d.find? (there ++ [name]) with
  | none =>
    rw [walkWithin_free hname hshort hfind, if_pos rfl] at hlast
    cases hlast
  | some x => exact ⟨_, x, congrArg Except.ok (spotAt_of_find? hfind)⟩

/-- Below what can be looked up no directory is missing on the way. -/
theorem makeDirectory_ne_missing_of_lookup {e : Entry} (hname : Path.isName name = true)
    (h : d.lookup parent = .ok e) : d.makeDirectory (parent ++ [name]) ≠ .error .missing := by
  obtain ⟨place, hwalk⟩ := lookup_eq_ok_iff_walk.1 h
  rw [walk_of_walkable (walkable_of_walk hwalk)] at hwalk
  rcases endsAt_of_walkWithin hwalk with ⟨-, m, hreach⟩ | ⟨-, hleaf⟩
  · exact hreach.makeDirectory_ne_missing hname
  · intro hmake
    have hmissing := makeDirectory_eq_missing hmake
    rw [walk_of_walkable (walkable_of_missing hmissing), hleaf false [name] (by simp)] at hmissing
    cases hmissing

/-- In an empty directory no name is taken. -/
theorem LeadsToEmpty.makeDirectory_ne_occupied (h : d.LeadsToEmpty parent)
    (hname : Path.isName name = true) : d.makeDirectory (parent ++ [name]) ≠ .error .occupied := by
  intro hmake
  obtain ⟨place, e, hwalk⟩ := makeDirectory_eq_occupied_iff.1 hmake
  obtain ⟨m, there, hreach, hempty⟩ := h
  have hwalkable := walkable_of_walk hwalk
  rcases Nat.lt_or_ge nameLimit name.utf8ByteSize with hlong | hshort
  · rw [walk_of_reaches hreach hwalkable, walkWithin_long hname hlong] at hwalk
    cases hwalk
  · rw [walk_false_of_reaches hreach hname hshort hwalkable, spotAt_of_free (hempty name)] at hwalk
    cases hwalk

/-- Names that a walk goes through lead to a directory. -/
theorem exists_locate_of_walk {p : Location} {follow : Bool} {spot : Spot} (hp : p <+: l)
    (hne : p ≠ l) (hnames : ∀ part ∈ l, Path.isName part = true)
    (h : d.walk follow [] l = .ok spot) : ∃ k, d.locate true [] p = .ok (k, .directory) := by
  obtain ⟨rest, rfl⟩ := hp
  have hwalkable := (walkable_of_walk h).of_append
  have hrest : rest ≠ [] := by
    rintro rfl
    simp at hne
  obtain ⟨m, there, hreach⟩ := exists_reaches_of_walk_append
    (fun part hpart => hnames part (List.mem_append_right p hpart)) hrest h
  exact ⟨there, locate_directory_iff.2 ⟨hwalkable, m, hreach⟩⟩

/-! ## Links that lead nowhere -/

/-- A link stands where the names lead, and it leads to nothing that could be looked up. -/
def Dangling (d : Disk) (p : Location) : Prop :=
  (∃ place target, d.walk false [] p = .ok (.entry place (.link target))) ∧
    ∀ e, d.lookup p ≠ .ok e

instance (d : Disk) (p : Location) : Decidable (d.Dangling p) :=
  decidable_of_iff
    ((match d.walk false [] p with
      | .ok (.entry _ (.link _)) => true
      | _ => false) = true ∧ (d.lookup p).isOk = false) <| by
    unfold Dangling
    refine and_congr ?_ ?_
    · split
      · next hwalk => simp [hwalk]
      · next hwalk => simpa using fun place target => hwalk place target
    · cases d.lookup p <;> simp [Except.isOk, Except.toBool]

/-- What occupies a place can be looked up, or it is a link that leads nowhere. -/
theorem dangling_or_lookup (hname : Path.isName name = true)
    (h : d.makeDirectory (parent ++ [name]) = .error .occupied) :
    d.Dangling (parent ++ [name]) ∨ ∃ e, d.lookup (parent ++ [name]) = .ok e := by
  obtain ⟨place, e, hwalk⟩ := makeDirectory_eq_occupied_iff.1 h
  obtain ⟨m, there, hreach, hshort, hlast⟩ := exists_reaches_of_walk hname hwalk
  have hwalkable := walkable_of_walk hwalk
  by_cases hlookup : ∃ e, d.lookup (parent ++ [name]) = .ok e
  · exact Or.inr hlookup
  refine Or.inl ⟨?_, fun e he => hlookup ⟨e, he⟩⟩
  by_cases hlink : ∃ target, d.find? (there ++ [name]) = some (.link target)
  · obtain ⟨target, hfind⟩ := hlink
    rw [walkWithin_name hname hshort, spotAt_of_find? hfind] at hlast
    cases hlast
    exact ⟨_, target, hwalk⟩
  · -- a walk that follows links ends at the same entry
    refine absurd ⟨e, lookup_eq_ok_iff_walk.2 ⟨place, ?_⟩⟩ hlookup
    rw [walk_of_reaches hreach hwalkable,
      walkWithin_name_of_not_link hname hshort fun target hfind => hlink ⟨target, hfind⟩, hlast]

namespace Dangling

variable {p : Location} (h : d.Dangling p) (hp : p <+: l)
  (hnames : ∀ part ∈ l, Path.isName part = true)
include h hp hnames

/-- No walk goes through a link that leads nowhere. -/
theorem eq_of_walk {follow : Bool} {spot : Spot} (hwalk : d.walk follow [] l = .ok spot) :
    p = l := by
  by_contra hne
  obtain ⟨k, hlocate⟩ := exists_locate_of_walk hp hne hnames hwalk
  exact h.2 _ (lookup_directory_iff.2 ⟨k, hlocate⟩)

/-- Nothing is found behind a link that leads nowhere. -/
theorem lookup_ne_ok (e : Entry) : d.lookup l ≠ .ok e := by
  intro hlookup
  obtain ⟨place, hwalk⟩ := lookup_eq_ok_iff_walk.1 hlookup
  obtain rfl := h.eq_of_walk hp hnames hwalk
  exact h.2 e hlookup

/-- No directory is made behind a link that leads nowhere. -/
theorem makeDirectory_ne_ok : d.makeDirectory l ≠ .ok d' := by
  intro hmake
  obtain ⟨place, target, hlink⟩ := h.1
  unfold makeDirectory at hmake
  split at hmake
  · cases hmake
  · next hwalk =>
    obtain rfl := h.eq_of_walk hp hnames hwalk
    rw [hlink] at hwalk
    cases hwalk
  · cases hmake

/-- Making a directory behind a link that leads nowhere fails and changes nothing. -/
theorem ensureDirectory_eq : ∃ fault, d.ensureDirectory l = (.error fault, d) := by
  cases hmake : d.makeDirectory l with
  | ok d' => exact absurd hmake (h.makeDirectory_ne_ok hp hnames)
  | error fault =>
    rcases ensureDirectory_of_error hmake with ⟨-, hdirectory⟩ | herror
    · exact absurd (isDirectory_iff.1 hdirectory) (h.lookup_ne_ok hp hnames .directory)
    · exact ⟨fault, herror⟩

end Dangling

/-- Where a link on the way leads nowhere, no directory is made. -/
theorem Dangling.makeDirectories_eq {p : Location} (h : d.Dangling p) (names : List String)
    (hp : p <+: names.reverse) (hnames : ∀ part ∈ names, Path.isName part = true) :
    ∃ fault, d.makeDirectories names = (.error fault, d) := by
  induction names with
  | nil =>
    obtain ⟨place, target, hlink⟩ := h.1
    rw [List.prefix_nil.1 hp, walk_of_walkable walkable_nil, walkWithin_nil] at hlink
    cases hlink
  | cons name above ih =>
    have hall : ∀ part ∈ (name :: above).reverse, Path.isName part = true :=
      fun part hpart => hnames part (List.mem_reverse.1 hpart)
    rw [List.reverse_cons] at hp hall
    by_cases hmissing : d.makeDirectory (above.reverse ++ [name]) = .error .missing
    · rw [makeDirectories_of_missing hmissing]
      rcases List.prefix_concat_iff.1 hp with rfl | hp
      · -- the link itself would occupy the place
        obtain ⟨place, target, hlink⟩ := h.1
        rw [makeDirectory_eq_occupied_iff.2 ⟨place, _, hlink⟩] at hmissing
        cases hmissing
      · obtain ⟨fault, hfault⟩ := ih hp fun part hpart => hnames part (List.mem_cons_of_mem _ hpart)
        rw [hfault]
        exact ⟨fault, rfl⟩
    · rw [makeDirectories_of_ne_missing hmissing]
      exact h.ensureDirectory_eq hp hall

/-! ## What is made -/

/-- What is new are directories, at the places of the names on the way that led to nothing. -/
def MadeOnly (d : Disk) (l : Location) (d' : Disk) : Prop :=
  ∀ k, d.find? k = none ∧ d'.find? k ≠ none ↔
    ∃ p, p <+: l ∧ (∀ e, d.lookup p ≠ .ok e) ∧ d'.locate true [] p = .ok (k, .directory)

/-- Where all is as before, nothing is made. -/
theorem madeOnly_self (d : Disk) (l : Location) : MadeOnly d l d := by
  intro k
  constructor
  · rintro ⟨hfree, hnew⟩
    exact absurd hfree hnew
  · rintro ⟨p, -, hmissing, hlocate⟩
    exact absurd (lookup_directory_iff.2 ⟨k, hlocate⟩) (hmissing _)

/-- The names lead to a directory, and nothing else was made on the way to it; it has nothing in it
if anything was made at all. -/
structure Made (d : Disk) (l : Location) (d' : Disk) : Prop where
  lookup : d'.lookup l = .ok .directory
  only : MadeOnly d l d'
  same_or_empty : d' = d ∨ d'.LeadsToEmpty l

/-- A directory is still located when the disk has grown. -/
theorem Grown.locate_directory (h : Grown d d') {k : Location}
    (hlocate : d.locate true [] l = .ok (k, .directory)) :
    d'.locate true [] l = .ok (k, .directory) := by
  obtain ⟨hwalkable, m, hreach⟩ := locate_directory_iff.1 hlocate
  exact locate_directory_iff.2 ⟨hwalkable, m, h.reaches hreach⟩

section
variable (hslash : ∀ part ∈ parent ++ [name], '/' ∉ part.toList)
  (hnames : ∀ part ∈ parent ++ [name], Path.isName part = true)
include hslash hnames

/-- A directory that is made is found, at a place where nothing was. -/
theorem exists_locate_of_makeDirectory (hd : d.WellFormed)
    (h : d.makeDirectory (parent ++ [name]) = .ok d') :
    ∃ place, d.find? place = none ∧
      d'.locate true [] (parent ++ [name]) = .ok (place, .directory) ∧
      ∀ k, d'.find? k = if k = place then some .directory else d.find? k := by
  obtain ⟨_, _, hwalk, -⟩ := makeDirectory_spec hd hslash h
  obtain ⟨m, there, -, hfree, hmade, hfind⟩ :=
    exists_reaches_of_makeDirectory hd hslash (hnames name (by simp)) h
  exact ⟨_, hfree, locate_directory_iff.2 ⟨walkable_of_walk hwalk, m, hmade⟩, hfind⟩

/-- One more directory on the way is made where nothing could be looked up before. -/
theorem MadeOnly.makeDirectory (h : MadeOnly d parent d₁) (hgrown : Grown d d₁)
    (hd₁ : d₁.WellFormed) (hmissing : ∀ e, d.lookup (parent ++ [name]) ≠ .ok e)
    (hmake : d₁.makeDirectory (parent ++ [name]) = .ok d') :
    MadeOnly d (parent ++ [name]) d' := by
  have hgrown' := grown_of_makeDirectory hd₁ hslash hmake
  obtain ⟨place, hfree, hlocate, hfind⟩ := exists_locate_of_makeDirectory hslash hnames hd₁ hmake
  intro k
  constructor
  · rintro ⟨hbefore, hnew⟩
    by_cases hk : k = place
    · subst hk
      exact ⟨_, List.prefix_refl _, hmissing, hlocate⟩
    · rw [hfind, if_neg hk] at hnew
      obtain ⟨p, hp, hnone, hplace⟩ := (h k).1 ⟨hbefore, hnew⟩
      exact ⟨p, hp.trans (List.prefix_append _ _), hnone, hgrown'.locate_directory hplace⟩
  · rintro ⟨p, hp, hnone, hplace⟩
    rcases List.prefix_concat_iff.1 hp with rfl | hp
    · obtain ⟨rfl, -⟩ := Prod.mk.inj (Except.ok.inj (hlocate.symm.trans hplace))
      refine ⟨?_, by simp [hfind]⟩
      cases hbefore : d.find? place with
      | none => rfl
      | some e =>
        rw [hgrown.find?_of_some hbefore] at hfree
        cases hfree
    · -- the names before the last led to the same directory when it was made
      obtain ⟨_, _, hwalk, -⟩ := makeDirectory_spec hd₁ hslash hmake
      obtain ⟨place', hplace'⟩ := exists_locate_of_walk (hp.trans (List.prefix_append _ _))
        (fun heq => absurd hp.length_le (by simp [heq])) hnames hwalk
      rw [hgrown'.locate_directory hplace'] at hplace
      obtain ⟨rfl, -⟩ := Prod.mk.inj (Except.ok.inj hplace)
      obtain ⟨hbefore, hthere⟩ := (h place').2 ⟨p, hp, hnone, hplace'⟩
      obtain ⟨e, he⟩ := Option.ne_none_iff_exists'.1 hthere
      refine ⟨hbefore, ?_⟩
      rw [hgrown'.find?_of_some he]
      simp

/-- The last directory of a path is made when those above it are. -/
theorem made_of_madeOnly (h : MadeOnly d parent d₁) (hgrown : Grown d d₁) (hd₁ : d₁.WellFormed)
    (hmissing : ∀ e, d.lookup (parent ++ [name]) ≠ .ok e)
    (hmake : d₁.makeDirectory (parent ++ [name]) = .ok d') : Made d (parent ++ [name]) d' where
  lookup := by
    obtain ⟨place, -, hlocate, -⟩ := exists_locate_of_makeDirectory hslash hnames hd₁ hmake
    exact lookup_directory_iff.2 ⟨place, hlocate⟩
  only := h.makeDirectory hslash hnames hgrown hd₁ hmissing hmake
  same_or_empty := Or.inr (leadsToEmpty_of_makeDirectory hd₁ hslash (hnames name (by simp)) hmake)

/-- One directory is made in one that is there. -/
theorem made_of_makeDirectory (hd : d.WellFormed)
    (h : d.makeDirectory (parent ++ [name]) = .ok d') : Made d (parent ++ [name]) d' := by
  refine made_of_madeOnly hslash hnames (madeOnly_self d parent) (Grown.refl hd) hd
    (fun e he => ?_) h
  rw [makeDirectory_of_lookup (hnames name (by simp)) he] at h
  cases h

end

section
variable (hd : d.WellFormed)
include hd

/-- The directories of a path are made one after the other. -/
theorem made_of_makeDirectories (names : List String)
    (hslash : ∀ part ∈ names, '/' ∉ part.toList) (hnames : ∀ part ∈ names, Path.isName part = true)
    (h : d.makeDirectories names = (.ok (), d')) : Made d names.reverse d' := by
  induction names generalizing d' with
  | nil =>
    cases h
    exact
      { lookup := lookup_directory_iff.2
          ⟨[], locate_directory_iff.2 ⟨walkable_nil, _, .done _ _⟩⟩
        only := madeOnly_self _ _
        same_or_empty := Or.inl rfl }
  | cons name above ih =>
    have hslash' : ∀ part ∈ above.reverse ++ [name], '/' ∉ part.toList := fun part hpart =>
      hslash part (by simpa [or_comm] using hpart)
    have hnames' : ∀ part ∈ above.reverse ++ [name], Path.isName part = true := fun part hpart =>
      hnames part (by simpa [or_comm] using hpart)
    rw [List.forall_mem_cons] at hslash hnames
    rw [List.reverse_cons]
    by_cases hmissing : d.makeDirectory (above.reverse ++ [name]) = .error .missing
    · rw [makeDirectories_of_missing hmissing] at h
      have hgrown := grown_makeDirectories hd above hslash.2
      rcases habove : d.makeDirectories above with ⟨fault | _, d₁⟩
      · rw [habove] at h
        cases h
      rw [habove] at h hgrown
      have hmade := ih hslash.2 hnames.2 habove
      -- what is made last is made in a directory that is empty
      have hempty : d₁.LeadsToEmpty above.reverse := by
        refine hmade.same_or_empty.resolve_left ?_
        rintro rfl
        exact makeDirectory_ne_missing_of_lookup hnames.1 hmade.lookup hmissing
      rcases ensureDirectory_ok_cases h with hmake | ⟨rfl, hdirectory⟩
      · refine made_of_madeOnly hslash' hnames' hmade.only hgrown hgrown.wellFormed
          (fun e he => ?_) hmake
        rw [makeDirectory_of_lookup hnames.1 he] at hmissing
        cases hmissing
      · exact absurd (makeDirectory_of_lookup hnames.1 (isDirectory_iff.1 hdirectory))
          (hempty.makeDirectory_ne_occupied hnames.1)
    · rw [makeDirectories_of_ne_missing hmissing] at h
      rcases ensureDirectory_ok_cases h with hmake | ⟨rfl, hdirectory⟩
      · exact made_of_makeDirectory hslash' hnames' hd hmake
      · exact ⟨isDirectory_iff.1 hdirectory, madeOnly_self _ _, Or.inl rfl⟩

/-- If the creation of the directories on a way finds a place occupied, a link there leads nowhere,
unless something can be looked up at the end of the way. -/
theorem dangling_or_lookup_of_makeDirectories (names : List String)
    (hslash : ∀ part ∈ names, '/' ∉ part.toList) (hnames : ∀ part ∈ names, Path.isName part = true)
    (h : d.makeDirectories names = (.error .occupied, d')) :
    (∃ p, p <+: names.reverse ∧ d.Dangling p) ∨ ∃ e, d.lookup names.reverse = .ok e := by
  induction names generalizing d' with
  | nil => cases h
  | cons name above ih =>
    rw [List.forall_mem_cons] at hslash hnames
    rw [List.reverse_cons]
    by_cases hmissing : d.makeDirectory (above.reverse ++ [name]) = .error .missing
    · rw [makeDirectories_of_missing hmissing] at h
      rcases habove : d.makeDirectories above with ⟨fault | _, d₁⟩
      · rw [habove] at h
        cases h
        rcases ih hslash.2 hnames.2 habove with ⟨p, hp, hdangling⟩ | ⟨e, he⟩
        · exact Or.inl ⟨p, hp.trans (List.prefix_append _ _), hdangling⟩
        · exact absurd hmissing (makeDirectory_ne_missing_of_lookup hnames.1 he)
      · rw [habove] at h
        have hmade := made_of_makeDirectories hd above hslash.2 hnames.2 habove
        have hoccupied := makeDirectory_of_ensureDirectory_error h
        rcases hmade.same_or_empty with rfl | hempty
        · rw [hmissing] at hoccupied
          cases hoccupied
        · exact absurd hoccupied (hempty.makeDirectory_ne_occupied hnames.1)
    · rw [makeDirectories_of_ne_missing hmissing] at h
      refine (dangling_or_lookup hnames.1 (makeDirectory_of_ensureDirectory_error h)).imp_left ?_
      exact fun hdangling => ⟨_, List.prefix_refl _, hdangling⟩

end

end Disk

end RootedStorage
