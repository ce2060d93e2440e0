import RootedStorage.Proofs.FileStorage.Effects

/-!
# What removing takes away

A path names an entry by its last segment, in the directory that the other segments lead to
(`FileStorage.Names`).  Links count on the way to that directory and not at the end: a link is named
itself.  Removing succeeds exactly on the paths that name an entry, a directory only if it is empty or
taken with all that is in it, and what goes is that entry with what stands below its location; nothing
is looked for behind the links that go.  There is one exception (`LosesWay`): a directory that the path
names through a link in it is emptied and left, since the path leads nowhere when its link is gone
(`removesNamed_iff`).
-/

namespace RootedStorage

namespace Disk

variable {d d' : Disk} {place : Location} {e : Entry}

/-- Exactly the entry at the place went, with all that stood below it. -/
structure Removed (d : Disk) (place : Location) (d' : Disk) : Prop where
  gone : ∀ k, place <+: k → d'.find? k = none
  kept : ∀ k, ¬ place <+: k → d'.find? k = d.find? k

/-- Nothing but the entry itself went if there was nothing in it. -/
theorem Removed.eq_place (h : d.Removed place d') (hd : d.WellFormed) (hempty : d.IsEmptyAt place)
    {k : Location} {x : Entry} (hk : d.find? k = some x) (hgone : d'.find? k = none) : k = place := by
  by_contra hne
  by_cases hbelow : place <+: k
  · rw [hd.find?_below hempty hbelow hne] at hk
    cases hk
  · rw [h.kept k hbelow, hk] at hgone
    cases hgone

end Disk

namespace FileStorage

variable {s : FileStorage} {d d' : Disk} {path : String} {place : Location} {e : Entry}

/-- The path names the entry at the place: its last segment names it in the directory that the others
lead to from the root on.  A path that is too long for the disk names nothing. -/
def Names (s : FileStorage) (path : String) (d : Disk) (place : Location) (e : Entry) : Prop :=
  ∃ above name links there, Path.segments? path = some (above ++ [name]) ∧
    Disk.Walkable (s.root ++ above ++ [name]) ∧
    Disk.Reaches d Disk.linkLimit [] (s.root ++ above) links there ∧
    place = there ++ [name] ∧ d.find? place = some e

/-- A removal at the path is exact.  It succeeds if and only if the path names an entry, a directory only
if it is empty or taken as a whole; what goes is that entry with all below it, and that is more than one
entry only for a directory that is taken as a whole. -/
structure RemovesNamed (s : FileStorage) (path : String) (recursive : Bool) (d : Disk) : Prop where
  succeeds_iff : (∃ d', s.remove path recursive d = (.ok (), d')) ↔
    ∃ place e, s.Names path d place e ∧ (e = .directory → recursive = true ∨ d.IsEmptyAt place)
  removed : ∀ d' place e, s.remove path recursive d = (.ok (), d') → s.Names path d place e →
    d.Removed place d'
  one : ∀ d' place e, s.remove path recursive d = (.ok (), d') → s.Names path d place e →
    recursive = false ∨ e ≠ .directory → ∀ k x, d.find? k = some x → d'.find? k = none → k = place

/-- The removal clears the directory at the place, and the path names it only through what stands in
it. -/
def LosesWay (s : FileStorage) (path : String) (recursive : Bool) (d : Disk) (place : Location) : Prop :=
  recursive = true ∧ s.Names path d place .directory ∧ ¬ s.Names path (d.clear place) place .directory

section
variable (hd : d.WellFormed)
include hd

/-- The entry that a path names is the one that a walk finds if it follows no link at the end. -/
theorem names_iff_locate : s.Names path d place e ↔ ∃ names, Path.segments? path = some names ∧
    names ≠ [] ∧ d.locate false [] (s.root ++ names) = .ok (place, e) := by
  constructor
  · rintro ⟨above, name, links, there, hpath, hwalkable, hreach, rfl, hfind⟩
    refine ⟨above ++ [name], hpath, by simp, ?_⟩
    have hname := hd.name hfind
    rw [← List.append_assoc, Disk.locate_eq_ok_iff,
      Disk.walk_false_of_reaches hreach hname.isName hname.short hwalkable,
      Disk.spotAt_of_find? hfind]
  · rintro ⟨names, hpath, hne, hlocate⟩
    obtain ⟨above, name, rfl⟩ := (List.eq_nil_or_concat' names).resolve_left hne
    rw [← List.append_assoc, Disk.locate_eq_ok_iff] at hlocate
    have hname := Path.isName_of_segments?_concat hpath
    obtain ⟨links, there, hreach, hshort, hlast⟩ := Disk.exists_reaches_of_walk hname hlocate
    rw [Disk.walkWithin_name hname hshort] at hlast
    obtain ⟨rfl, hfind⟩ := Disk.find?_of_spotAt (Except.ok.inj hlast)
    exact ⟨above, name, links, there, hpath, Disk.walkable_of_walk hlocate, hreach, rfl, hfind⟩

/-- A path names one entry. -/
theorem Names.unique {place' : Location} {e' : Entry} (h : s.Names path d place e)
    (h' : s.Names path d place' e') : place' = place ∧ e' = e := by
  obtain ⟨names, hpath, -, hlocate⟩ := (names_iff_locate hd).1 h
  obtain ⟨names', hpath', -, hlocate'⟩ := (names_iff_locate hd).1 h'
  obtain rfl := Option.some.inj (hpath.symm.trans hpath')
  exact Prod.mk.inj (Except.ok.inj (hlocate'.symm.trans hlocate))

/-- A path that names an entry leads to it by names, and is not the path of the root. -/
theorem Names.exists_walk (h : s.Names path d place e) : ∃ names, Path.segments? path = some names ∧
    Path.isRoot path ≠ true ∧ d.walk false [] (s.root ++ names) = .ok (.entry place e) ∧
    d.find? place = some e ∧ place ≠ [] := by
  obtain ⟨names, hpath, hne, hlocate⟩ := (names_iff_locate hd).1 h
  obtain ⟨above, name, links, there, -, -, -, rfl, hfind⟩ := h
  refine ⟨names, hpath, fun hisRoot => ?_, Disk.locate_eq_ok_iff.1 hlocate, hfind, by simp⟩
  rw [Path.isRoot_iff, hpath] at hisRoot
  exact hne (Option.some.inj hisRoot)

/-- Removing succeeds if the path names an entry that may go. -/
theorem exists_remove_of_names (h : s.Names path d place e) {recursive : Bool}
    (hallowed : e = .directory → recursive = true ∨ d.IsEmptyAt place) :
    ∃ d', s.remove path recursive d = (.ok (), d') := by
  obtain ⟨names, hpath, hroot, hwalk, hfind, -⟩ := h.exists_walk hd
  obtain ⟨d', hremove, -⟩ := Disk.removal_of_walk hd hwalk hfind hallowed
  refine ⟨d', ?_⟩
  unfold remove
  rw [if_neg hroot, location_eq hpath]
  dsimp only
  rw [hremove]
  rfl

/-- A successful removal has found an entry that may go where the path names it. -/
theorem exists_names_of_remove (hroot : d.find? s.root = some .directory) {recursive : Bool}
    (h : s.remove path recursive d = (.ok (), d')) :
    ∃ names place e, Path.segments? path = some names ∧ names ≠ [] ∧ s.Names path d place e ∧
      d.Removal recursive (s.root ++ names) place e d' := by
  rcases remove_cases hd hroot path recursive with
    ⟨err, herror⟩ | ⟨names, place, e, d'', hpath, hne, hremove, hremoval⟩
  · rw [herror] at h
    cases h
  · rw [hremove] at h
    cases h
    exact ⟨names, place, e, hpath, hne, (names_iff_locate hd).2
      ⟨names, hpath, hne, Disk.locate_eq_ok_iff.2 hremoval.walk⟩, hremoval⟩

/-- The way of a path to a directory is lost exactly if the way of its names is. -/
theorem losesWay_iff {names : List String} (hpath : Path.segments? path = some names)
    (hne : names ≠ []) (hnames : s.Names path d place e) {recursive : Bool} :
    s.LosesWay path recursive d place ↔ d.LosesWay recursive (s.root ++ names) place := by
  obtain ⟨-, -, -, -, hfind, -⟩ := hnames.exists_walk hd
  have hclear : s.Names path (d.clear place) place .directory ↔
      (d.clear place).locate false [] (s.root ++ names) = .ok (place, .directory) := by
    rw [names_iff_locate (Disk.cleared_clear hd place).wellFormed]
    refine ⟨fun ⟨names', hpath', _, hlocate⟩ => ?_, fun hlocate => ⟨names, hpath, hne, hlocate⟩⟩
    obtain rfl := Option.some.inj (hpath.symm.trans hpath')
    exact hlocate
  unfold LosesWay Disk.LosesWay
  rw [hclear]
  refine and_congr_right fun _ => and_congr_left fun _ => ⟨fun hdirectory => ?_, fun hdirectory => ?_⟩
  · obtain ⟨-, -, -, -, hfind', -⟩ := hdirectory.exists_walk hd
    exact hfind'
  · obtain rfl := Option.some.inj (hfind.symm.trans hdirectory)
    exact hnames

/-- What a successful removal leaves: nothing below the entry that the path names, all else as it was,
and of the entry itself a directory to which the way was lost. -/
theorem left_of_remove (hroot : d.find? s.root = some .directory) {recursive : Bool}
    (h : s.remove path recursive d = (.ok (), d')) (hnames : s.Names path d place e) :
    (∀ k, place <+: k → k ≠ place → d'.find? k = none) ∧
      (∀ k, ¬ place <+: k → d'.find? k = d.find? k) ∧
      (s.LosesWay path recursive d place → d'.find? place = some .directory) ∧
      (¬ s.LosesWay path recursive d place → d'.find? place = none) := by
  obtain ⟨names, place', e', hpath, hne, hnames', hremoval⟩ := exists_names_of_remove hd hroot h
  obtain ⟨rfl, rfl⟩ := hnames.unique hd hnames'
  obtain ⟨-, -, -, -, -, hplace⟩ := hnames.exists_walk hd
  rw [losesWay_iff hd hpath hne hnames]
  exact ⟨hremoval.below, hremoval.kept, hremoval.left, hremoval.gone hplace⟩

/-- Removing succeeds exactly if the path names an entry, a directory only if it is empty or taken as a
whole. -/
theorem exists_remove_iff (hroot : d.find? s.root = some .directory) {recursive : Bool} :
    (∃ d', s.remove path recursive d = (.ok (), d')) ↔
      ∃ place e, s.Names path d place e ∧ (e = .directory → recursive = true ∨ d.IsEmptyAt place) := by
  constructor
  · rintro ⟨d', h⟩
    obtain ⟨_, place, e, -, -, hnames, hremoval⟩ := exists_names_of_remove hd hroot h
    exact ⟨place, e, hnames, hremoval.allowed⟩
  · rintro ⟨place, e, hnames, hallowed⟩
    exact exists_remove_of_names hd hnames hallowed

/-- Only a directory that is taken as a whole takes more than one entry along. -/
theorem isEmptyAt_of_remove (hroot : d.find? s.root = some .directory) {recursive : Bool}
    (h : s.remove path recursive d = (.ok (), d')) (hnames : s.Names path d place e)
    (hone : recursive = false ∨ e ≠ .directory) : d.IsEmptyAt place := by
  obtain ⟨_, place', e', -, -, hnames', hremoval⟩ := exists_names_of_remove hd hroot h
  obtain ⟨rfl, rfl⟩ := hnames.unique hd hnames'
  by_cases he : e' = .directory
  · refine (hremoval.allowed he).resolve_left fun hrecursive => ?_
    rw [hone.resolve_right fun hne => hne he] at hrecursive
    cases hrecursive
  · exact hd.isEmptyAt_of_ne_directory hremoval.entry he

/-- A removal is exact if and only if the way to the directory that it takes as a whole is not lost:
if no path that names a directory through what stands in it is removed with all below it.  Where the way
is lost the removal succeeds as well, and takes all below the directory and nothing else, but leaves the
directory. -/
theorem removesNamed_iff (hroot : d.find? s.root = some .directory) (path : String)
    (recursive : Bool) :
    (s.RemovesNamed path recursive d ↔ ∀ place, ¬ s.LosesWay path recursive d place) ∧
    ((∃ d', s.remove path recursive d = (.ok (), d')) ↔
      ∃ place e, s.Names path d place e ∧ (e = .directory → recursive = true ∨ d.IsEmptyAt place)) ∧
    ∀ d', s.remove path recursive d = (.ok (), d') → ∀ place e, s.Names path d place e →
      (∀ k, place <+: k → k ≠ place → d'.find? k = none) ∧
      (∀ k, ¬ place <+: k → d'.find? k = d.find? k) ∧
      (s.LosesWay path recursive d place → d'.find? place = some .directory) ∧
      (¬ s.LosesWay path recursive d place → d'.find? place = none) := by
  refine ⟨⟨fun hexact place hlost => ?_, fun hway => ?_⟩, exists_remove_iff hd hroot,
    fun d' h place e hnames => left_of_remove hd hroot h hnames⟩
  · obtain ⟨d', h⟩ := exists_remove_of_names hd hlost.2.1 fun _ => Or.inl hlost.1
    obtain ⟨-, -, hleft, -⟩ := left_of_remove hd hroot h hlost.2.1
    have hgone := (hexact.removed d' place .directory h hlost.2.1).gone place (List.prefix_refl _)
    rw [hleft hlost] at hgone
    cases hgone
  · have hremoved : ∀ d' place e, s.remove path recursive d = (.ok (), d') →
        s.Names path d place e → d.Removed place d' := by
      intro d' place e h hnames
      obtain ⟨hbelow, hkept, -, hgone⟩ := left_of_remove hd hroot h hnames
      refine ⟨fun k hk => ?_, hkept⟩
      by_cases hplace : k = place
      · rw [hplace, hgone (hway place)]
      · exact hbelow k hk hplace
    refine ⟨exists_remove_iff hd hroot, hremoved, fun d' place e h hnames hone k x hk hgone => ?_⟩
    exact (hremoved d' place e h hnames).eq_place hd (isEmptyAt_of_remove hd hroot h hnames hone) hk hgone

end

/-- A directory in which a link to its parent stands is removed with the link and the file in it, and
nothing is looked for behind the link. -/
theorem removesNamed_iff_tree :
    (FileStorage.mk []).RemovesNamed "./r" true (Disk.linked [1] "..") ∧
    ∀ k, ((FileStorage.mk []).remove "./r" true (Disk.linked [1] "..")).2.find? k =
      if k = [] then some .directory else none := by
  have hd := Disk.wellFormed_linked [1] (show Disk.isPathText ".." = true by decide)
  have hroot : (Disk.linked [1] "..").find? [] = some .directory := Disk.find?_nil _
  have hnames : (FileStorage.mk []).Names "./r" (Disk.linked [1] "..") ["r"] .directory :=
    (names_iff_locate hd).2 ⟨["r"], by decide, by simp, by decide +kernel⟩
  have hclear : (FileStorage.mk []).Names "./r" ((Disk.linked [1] "..").clear ["r"]) ["r"] .directory :=
    (names_iff_locate (Disk.cleared_clear hd _).wellFormed).2
      ⟨["r"], by decide, by simp, by decide +kernel⟩
  have hway : ∀ place, ¬ (FileStorage.mk []).LosesWay "./r" true (Disk.linked [1] "..") place := by
    rintro place ⟨-, hnamed, hlost⟩
    obtain ⟨rfl, -⟩ := hnames.unique hd hnamed
    exact hlost hclear
  obtain ⟨hiff, hsucceeds, hleft⟩ := removesNamed_iff (s := FileStorage.mk []) hd hroot "./r" true
  obtain ⟨d', hremove⟩ := hsucceeds.2 ⟨_, _, hnames, fun _ => Or.inl rfl⟩
  obtain ⟨hbelow, hkept, -, hgone⟩ := hleft d' hremove _ _ hnames
  refine ⟨hiff.2 hway, fun k => ?_⟩
  rw [hremove]
  by_cases hk : ["r"] <+: k
  · rw [if_neg (by rintro rfl; simp at hk)]
    by_cases hplace : k = ["r"]
    · rw [hplace, hgone (hway _)]
    · exact hbelow k hk hplace
  · have htop : k ≠ ["r"] ∧ k ≠ ["r", "t"] ∧ k ≠ ["r", "l"] := by
      refine ⟨?_, ?_, ?_⟩ <;> (rintro rfl; exact hk ⟨_, rfl⟩)
    rw [hkept k hk, Disk.find?_linked, if_neg htop.2.2, if_neg htop.2.1, Disk.find?_single]
    simp [htop.1]

/-- A directory named through a link in it is left when all that stands in it is removed. -/
theorem not_removesNamed_through :
    ¬ (FileStorage.mk []).RemovesNamed "r/l/r" true (Disk.linked [1] "..") := by
  have hd := Disk.wellFormed_linked [1] (show Disk.isPathText ".." = true by decide)
  have hnames : (FileStorage.mk []).Names "r/l/r" (Disk.linked [1] "..") ["r"] .directory :=
    (names_iff_locate hd).2 ⟨["r", "l", "r"], by decide, by simp, by decide +kernel⟩
  have hok : ((FileStorage.mk []).remove "r/l/r" true (Disk.linked [1] "..")).1 = .ok () := by
    decide +kernel
  have hstays : ((FileStorage.mk []).remove "r/l/r" true (Disk.linked [1] "..")).2.find? ["r"] =
      some .directory := by decide +kernel
  intro hexact
  have hremoved := hexact.removed _ _ _ (Prod.ext hok rfl) hnames
  rw [hremoved.gone _ (List.prefix_refl _)] at hstays
  cases hstays

end FileStorage

end RootedStorage
