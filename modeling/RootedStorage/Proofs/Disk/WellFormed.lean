import Mathlib.Data.List.Induction
import Mathlib.Data.List.Basic
import Mathlib.Tactic.Common
import RootedStorage.Disk.Change
import RootedStorage.Proofs.Path

/-!
# Well-formed disks

A disk is a tree: what stands at a location stands in a directory, under a name that an entry can
have, and no two files share a stamp.  `Disk.WellFormed` says so, and every elementary change of
a disk keeps it.  `Disk.tree` is the tree without stamps: what can be seen of a disk by looking at
its entries.
-/

namespace RootedStorage

/-- A text that can be the name of an entry. -/
structure EntryName (name : String) : Prop where
  isName : Path.isName name = true
  no_slash : '/' ∉ name.toList
  isPathText : Disk.isPathText name = true
  short : name.utf8ByteSize ≤ Disk.nameLimit

instance (name : String) : Decidable (EntryName name) :=
  decidable_of_iff (Path.isName name = true ∧ '/' ∉ name.toList ∧ Disk.isPathText name = true ∧
      name.utf8ByteSize ≤ Disk.nameLimit)
    ⟨fun ⟨h₁, h₂, h₃, h₄⟩ => ⟨h₁, h₂, h₃, h₄⟩, fun ⟨h₁, h₂, h₃, h₄⟩ => ⟨h₁, h₂, h₃, h₄⟩⟩

/-- The entry without its stamp. -/
def Entry.unstamped : Entry → Entry
  | .file _ content => .file 0 content
  | e => e

namespace Disk

/-- The entry that stands at each location, stamps aside. -/
def tree (d : Disk) (l : Location) : Option Entry := (d.find? l).map Entry.unstamped

/-- Every entry but the root directory is kept once, under a location of its own. -/
structure Keyed (d : Disk) : Prop where
  nodup : (d.entries.map Prod.fst).Nodup
  ne_nil : ∀ x ∈ d.entries, x.1 ≠ []

/-- The entries of the disk form a tree of named entries, and its stamps tell its files apart. -/
structure WellFormed (d : Disk) : Prop extends d.Keyed where
  parent : ∀ {l : Location} {name : String} {e : Entry},
    d.find? (l ++ [name]) = some e → d.find? l = some .directory
  name : ∀ {l : Location} {name : String} {e : Entry},
    d.find? (l ++ [name]) = some e → EntryName name
  target : ∀ {l : Location} {target : String},
    d.find? l = some (.link target) → isPathText target = true
  stamp_unique : ∀ {k l : Location} {stamp : Nat} {a b : Bytes},
    d.find? k = some (.file stamp a) → d.find? l = some (.file stamp b) → k = l
  stamp_lt : ∀ {l : Location} {stamp : Nat} {content : Bytes},
    d.find? l = some (.file stamp content) → stamp < d.nextStamp

/-! ## Looking at entries -/

@[simp] theorem find?_nil (d : Disk) : d.find? [] = some .directory := by simp [find?]

/-- The entry that is found at a location is in the list. -/
theorem entryIn?_eq_some {entries : List (Location × Entry)} {l : Location} {e : Entry}
    (h : entryIn? l entries = some e) : (l, e) ∈ entries := by
  induction entries with
  | nil => cases h
  | cons x rest ih =>
    rw [entryIn?] at h
    split at h
    · next hx =>
      cases h
      rw [← hx]
      exact List.mem_cons_self
    · exact List.mem_cons_of_mem _ (ih h)

/-- An entry in a list without repeated locations is found at its location. -/
theorem entryIn?_of_mem {entries : List (Location × Entry)} {l : Location} {e : Entry}
    (hnodup : (entries.map Prod.fst).Nodup) (h : (l, e) ∈ entries) :
    entryIn? l entries = some e := by
  induction entries with
  | nil => cases h
  | cons x rest ih =>
    rw [List.map_cons, List.nodup_cons] at hnodup
    rcases List.mem_cons.1 h with rfl | h
    · simp [entryIn?]
    · have hne : x.1 ≠ l := by
        rintro rfl
        exact hnodup.1 (List.mem_map.2 ⟨_, h, rfl⟩)
      rw [entryIn?, if_neg hne]
      exact ih hnodup.2 h

/-- Each entry of a keyed disk is found at its location. -/
theorem find?_eq_some_of_mem {d : Disk} (hd : d.Keyed) {l : Location} {e : Entry}
    (h : (l, e) ∈ d.entries) : d.find? l = some e := by
  rw [find?, if_neg (hd.ne_nil _ h)]
  exact entryIn?_of_mem hd.nodup h

/-- What is found away from the root is an entry of the disk. -/
theorem mem_entries_of_find? {d : Disk} {l : Location} {e : Entry} (hl : l ≠ [])
    (h : d.find? l = some e) : (l, e) ∈ d.entries := by
  rw [find?, if_neg hl] at h
  exact entryIn?_eq_some h

/-- The names in a directory are picked from the entries, each from the one directly below it. -/
theorem exists_names_eq (d : Disk) (l : Location) :
    ∃ childName : Location × Entry → Option String, d.names l = d.entries.filterMap childName ∧
      ∀ x name, childName x = some name ↔ x.1 = l ++ [name] := by
  refine ⟨_, rfl, fun x name => ⟨fun hx => ?_, fun hx => ?_⟩⟩
  · split at hx
    · next last hlast =>
      split at hx
      · next hdrop =>
        obtain rfl := Option.some.inj hx
        obtain ⟨above, habove⟩ := List.getLast?_eq_some_iff.1 hlast
        rw [habove, List.dropLast_concat] at hdrop
        rw [habove, hdrop]
      · cases hx
    · cases hx
  · simp [hx]

/-- The names in a directory are the last names of the entries directly below it. -/
theorem mem_names_iff {d : Disk} (hd : d.Keyed) {l : Location} {name : String} :
    name ∈ d.names l ↔ ∃ e, d.find? (l ++ [name]) = some e := by
  obtain ⟨childName, hnames, hchild⟩ := exists_names_eq d l
  rw [hnames, List.mem_filterMap]
  constructor
  · rintro ⟨⟨k, e⟩, hmem, hx⟩
    obtain rfl := (hchild _ _).1 hx
    exact ⟨e, find?_eq_some_of_mem hd hmem⟩
  · rintro ⟨e, he⟩
    exact ⟨(l ++ [name], e), mem_entries_of_find? (by simp) he, (hchild _ _).2 rfl⟩

/-- No name stands twice in a directory. -/
theorem Keyed.nodup_names {d : Disk} (hd : d.Keyed) (l : Location) : (d.names l).Nodup := by
  obtain ⟨childName, hnames, hchild⟩ := exists_names_eq d l
  rw [hnames, List.Nodup, List.pairwise_filterMap]
  refine (List.pairwise_map.1 hd.nodup).imp ?_
  rintro x y hne name hx _ hy rfl
  exact hne (((hchild _ _).1 hx).trans ((hchild _ _).1 hy).symm)

/-- The content under the stamp of a file is the content of that file. -/
theorem WellFormed.content_eq {d : Disk} (hd : d.WellFormed) {l : Location} {stamp : Nat}
    {c : Bytes} (h : d.find? l = some (.file stamp c)) : d.content stamp = c := by
  have hmem : (l, Entry.file stamp c) ∈ d.entries :=
    mem_entries_of_find? (by rintro rfl; simp at h) h
  unfold content
  split
  · next c' hfound =>
    obtain ⟨⟨k, e⟩, hk, hx⟩ := List.exists_of_findSome?_eq_some hfound
    cases e <;> simp at hx
    next s cs =>
    obtain ⟨rfl, rfl⟩ := hx
    have hfind := find?_eq_some_of_mem hd.toKeyed hk
    obtain rfl := hd.stamp_unique hfind h
    rw [h] at hfind
    simpa using hfind.symm
  · next hnone =>
    have hx := List.findSome?_eq_none_iff.1 hnone _ hmem
    simp at hx

/-- Every entry of a well-formed disk stands in a directory. -/
theorem WellFormed.find?_dropLast {d : Disk} (hd : d.WellFormed) {l : Location} {e : Entry}
    (h : d.find? l = some e) : d.find? l.dropLast = some .directory := by
  rcases List.eq_nil_or_concat' l with rfl | ⟨parent, name, rfl⟩
  · simp
  · rw [List.dropLast_concat]
    exact hd.parent h

/-- What leads to an entry is a directory. -/
theorem WellFormed.find?_of_append {d : Disk} (hd : d.WellFormed) {l : Location} :
    ∀ {k : Location} {e : Entry}, k ≠ [] → d.find? (l ++ k) = some e →
      d.find? l = some .directory := by
  intro k
  induction k using List.reverseRecOn with
  | nil => intro e hk; exact absurd rfl hk
  | append_singleton k name ih =>
    intro e _ h
    rw [← List.append_assoc] at h
    have hparent := hd.parent h
    by_cases hk : k = []
    · subst hk
      simpa using hparent
    · exact ih hk hparent

/-- Nothing stands below an entry that is no directory. -/
theorem WellFormed.find?_append_eq_none {d : Disk} (hd : d.WellFormed) {l k : Location}
    (hl : d.find? l ≠ some .directory) (hk : k ≠ []) : d.find? (l ++ k) = none := by
  cases h : d.find? (l ++ k) with
  | none => rfl
  | some e => exact absurd (hd.find?_of_append hk h) hl

/-! ## Elementary changes -/

/-- A keyed disk stays keyed when an entry is put away from the root. -/
theorem Keyed.put {d : Disk} (hd : d.Keyed) {l : Location} (hl : l ≠ []) (e : Entry) :
    (d.put l e).Keyed where
  nodup := by
    unfold Disk.put
    rw [List.map_cons, List.nodup_cons]
    constructor
    · intro hmem
      obtain ⟨x, hx, hxl⟩ := List.mem_map.1 hmem
      have hne := (List.mem_filter.1 hx).2
      simp [hxl] at hne
    · exact hd.nodup.sublist (List.filter_sublist.map _)
  ne_nil := by
    intro x hx
    rcases List.mem_cons.1 hx with rfl | hx
    · exact hl
    · exact hd.ne_nil x (List.mem_filter.1 hx).1

/-- A keyed disk stays keyed when entries are dropped. -/
theorem Keyed.drop {d : Disk} (hd : d.Keyed) (gone : Location → Bool) : (d.drop gone).Keyed where
  nodup := hd.nodup.sublist (List.filter_sublist.map _)
  ne_nil := fun x hx => hd.ne_nil x (List.mem_filter.1 hx).1

/-- A keyed disk stays keyed when the content of a file changes. -/
theorem Keyed.setContent {d : Disk} (hd : d.Keyed) (stamp : Nat) (c : Bytes) :
    (d.setContent stamp c).Keyed where
  nodup := by
    unfold Disk.setContent
    rw [List.map_map]
    exact hd.nodup
  ne_nil := by
    intro x hx
    obtain ⟨y, hy, rfl⟩ := List.mem_map.1 hx
    exact hd.ne_nil y hy

/-- Only entries and the next stamp count. -/
theorem WellFormed.ofEntries {d d' : Disk} (hd : d.WellFormed) (hentries : d'.entries = d.entries)
    (hstamp : d.nextStamp ≤ d'.nextStamp) : d'.WellFormed := by
  have hfind : d'.find? = d.find? := by
    funext l
    simp only [find?, hentries]
  exact
    { nodup := hentries ▸ hd.nodup
      ne_nil := hentries ▸ hd.ne_nil
      parent := by rw [hfind]; exact hd.parent
      name := by rw [hfind]; exact hd.name
      target := by rw [hfind]; exact hd.target
      stamp_unique := by rw [hfind]; exact hd.stamp_unique
      stamp_lt := by rw [hfind]; exact fun h => Nat.lt_of_lt_of_le (hd.stamp_lt h) hstamp }

/-- An entry may be put in a directory under the name of an entry, if it takes the place of no
directory and shares its stamp with no other file. -/
theorem WellFormed.put {d : Disk} (hd : d.WellFormed) {parent : Location} {name : String}
    {e : Entry} (hparent : d.find? parent = some .directory) (hname : EntryName name)
    (hplace : e = .directory ∨ d.find? (parent ++ [name]) ≠ some .directory)
    (htarget : ∀ target, e = .link target → isPathText target = true)
    (hstamp : ∀ stamp c, e = .file stamp c → stamp < d.nextStamp ∧
      ∀ k c', d.find? k = some (.file stamp c') → k = parent ++ [name]) :
    (d.put (parent ++ [name]) e).WellFormed where
  toKeyed := hd.toKeyed.put (by simp) e
  parent := by
    intro l n x h
    rw [find?_put _ _ _ _ (by simp)] at h ⊢
    split at h
    · next heq =>
      obtain ⟨rfl, -⟩ := List.append_inj' heq rfl
      rw [if_neg (by simp)]
      exact hparent
    · have hl := hd.parent h
      split
      · next heq =>
        subst heq
        exact congrArg some (hplace.resolve_right (fun hne => hne hl))
      · exact hl
  name := by
    intro l n x h
    rw [find?_put _ _ _ _ (by simp)] at h
    split at h
    · next heq =>
      obtain ⟨-, hn⟩ := List.append_inj' heq rfl
      obtain rfl := List.singleton_inj.1 hn
      exact hname
    · exact hd.name h
  target := by
    intro l t h
    rw [find?_put _ _ _ _ (by simp)] at h
    split at h
    · exact htarget t (Option.some.inj h)
    · exact hd.target h
  stamp_unique := by
    intro k l stamp a b hk hl
    rw [find?_put _ _ _ _ (by simp)] at hk hl
    split at hk <;> split at hl
    · next hk' hl' => rw [hk', hl']
    · next hk' _ => rw [hk', (hstamp _ _ (Option.some.inj hk)).2 l b hl]
    · next _ hl' => rw [hl', (hstamp _ _ (Option.some.inj hl)).2 k a hk]
    · exact hd.stamp_unique hk hl
  stamp_lt := by
    intro l stamp c h
    rw [find?_put _ _ _ _ (by simp)] at h
    split at h
    · exact (hstamp _ _ (Option.some.inj h)).1
    · exact hd.stamp_lt h

/-- A new file may be put at a free place in a directory. -/
theorem WellFormed.putFile {d : Disk} (hd : d.WellFormed) {parent : Location} {name : String}
    (hparent : d.find? parent = some .directory) (hname : EntryName name)
    (hfree : d.find? (parent ++ [name]) = none) (c : Bytes) :
    (d.putFile (parent ++ [name]) c).WellFormed := by
  have hnext : ({ d with nextStamp := d.nextStamp + 1 } : Disk).WellFormed :=
    hd.ofEntries rfl (Nat.le_succ _)
  refine hnext.put (e := .file d.nextStamp c) hparent hname (Or.inr ?_) (fun _ h => by cases h) ?_
  · intro h
    rw [show d.find? (parent ++ [name]) = some .directory from h] at hfree
    cases hfree
  · rintro stamp c' h
    obtain ⟨rfl, -⟩ := Entry.file.inj h
    refine ⟨Nat.lt_succ_self _, fun k c'' hk => ?_⟩
    exact absurd (hd.stamp_lt hk) (Nat.lt_irrefl _)

/-- Entries may be taken away together with everything below them. -/
theorem WellFormed.drop {d : Disk} (hd : d.WellFormed) {gone : Location → Bool}
    (hgone : ∀ l name, gone l = true → (d.find? (l ++ [name])).isSome = true →
      gone (l ++ [name]) = true) : (d.drop gone).WellFormed := by
  have hsome : ∀ {l : Location} {e : Entry}, (d.drop gone).find? l = some e →
      d.find? l = some e := by
    intro l e h
    rw [find?_drop] at h
    split at h
    · cases h
    · exact h
  refine
    { toKeyed := hd.toKeyed.drop gone
      parent := ?_
      name := fun h => hd.name (hsome h)
      target := fun h => hd.target (hsome h)
      stamp_unique := fun hk hl => hd.stamp_unique (hsome hk) (hsome hl)
      stamp_lt := fun h => hd.stamp_lt (hsome h) }
  intro l n x h
  have hx := hsome h
  rw [find?_drop] at h ⊢
  have hstays : gone (l ++ [n]) = false := by
    cases hg : gone (l ++ [n]) with
    | false => rfl
    | true => simp [hg] at h
  have hl : gone l = false := by
    cases hg : gone l with
    | false => rfl
    | true => rw [hgone l n hg (by simp [hx])] at hstays; cases hstays
  simp [hl, hd.parent hx]

/-- An entry below which nothing stands may be taken away. -/
theorem WellFormed.drop_leaf {d : Disk} (hd : d.WellFormed) {l : Location}
    (hl : d.find? l ≠ some .directory) : (d.drop fun k => decide (k = l)).WellFormed := by
  refine hd.drop fun k name hk hsome => ?_
  obtain rfl : k = l := of_decide_eq_true hk
  obtain ⟨e, he⟩ := Option.isSome_iff_exists.1 hsome
  exact absurd (hd.parent he) hl

/-- Only a file becomes a file with other content. -/
theorem withContent_eq_file {e : Entry} {stamp s : Nat} {c a : Bytes}
    (h : e.withContent stamp c = .file s a) : ∃ b, e = .file s b := by
  cases e <;> simp [Entry.withContent] at h
  exact ⟨_, by rw [h.1]⟩

/-- New content shows in files only. -/
theorem withContent_eq_of_not_file {e x : Entry} {stamp : Nat} {c : Bytes}
    (h : e.withContent stamp c = x) (hx : ∀ s a, x ≠ .file s a) : e = x := by
  cases e <;> simp [Entry.withContent] at h
  · exact h
  · exact absurd h.symm (hx _ _)
  · exact h
  · exact h

/-- The content of a file may change. -/
theorem WellFormed.setContent {d : Disk} (hd : d.WellFormed) (stamp : Nat) (c : Bytes) :
    (d.setContent stamp c).WellFormed where
  toKeyed := hd.toKeyed.setContent stamp c
  parent := by
    intro l n x h
    rw [find?_setContent] at h ⊢
    obtain ⟨e, he, -⟩ := Option.map_eq_some_iff.1 h
    rw [hd.parent he]
    rfl
  name := by
    intro l n x h
    rw [find?_setContent] at h
    obtain ⟨e, he, -⟩ := Option.map_eq_some_iff.1 h
    exact hd.name he
  target := by
    intro l t h
    rw [find?_setContent] at h
    obtain ⟨e, he, hx⟩ := Option.map_eq_some_iff.1 h
    rw [withContent_eq_of_not_file hx (by simp)] at he
    exact hd.target he
  stamp_unique := by
    intro k l s a b hk hl
    rw [find?_setContent] at hk hl
    obtain ⟨e, he, hx⟩ := Option.map_eq_some_iff.1 hk
    obtain ⟨e', he', hx'⟩ := Option.map_eq_some_iff.1 hl
    obtain ⟨a', rfl⟩ := withContent_eq_file hx
    obtain ⟨b', rfl⟩ := withContent_eq_file hx'
    exact hd.stamp_unique he he'
  stamp_lt := by
    intro l s a h
    rw [find?_setContent] at h
    obtain ⟨e, he, hx⟩ := Option.map_eq_some_iff.1 h
    obtain ⟨a', rfl⟩ := withContent_eq_file hx
    exact hd.stamp_lt he

/-- The disk without entries. -/
theorem wellFormed_empty : ({} : Disk).WellFormed := by
  have hfind : ∀ {l : Location} {e : Entry}, ({} : Disk).find? l = some e →
      l = [] ∧ e = .directory := by
    intro l e h
    unfold find? at h
    split at h
    · next hl => exact ⟨hl, (Option.some.inj h).symm⟩
    · cases h
  refine
    { nodup := by simp
      ne_nil := by simp
      parent := fun h => absurd (hfind h).1 (by simp)
      name := fun h => absurd (hfind h).1 (by simp)
      target := fun h => by cases (hfind h).2
      stamp_unique := fun h => by cases (hfind h).2
      stamp_lt := fun h => by cases (hfind h).2 }

/-- The disk with one directory and nothing else. -/
def single (name : String) : Disk := ({} : Disk).put [name] .directory

/-- A disk with a single directory has nothing else than that and the root. -/
theorem find?_single (name : String) (l : Location) :
    (single name).find? l = if l = [] ∨ l = [name] then some .directory else none := by
  rw [single, find?_put _ _ _ _ (by simp)]
  by_cases hl : l = [] <;> by_cases hname : l = [name] <;> simp [hl, hname, find?, entryIn?]

/-- A disk with a single directory is well-formed. -/
theorem wellFormed_single {name : String} (h : EntryName name) : (single name).WellFormed := by
  have hroot : ({} : Disk).find? [] = some .directory := find?_nil _
  exact wellFormed_empty.put hroot h (Or.inl rfl) (fun _ ht => by cases ht)
    fun _ _ hs => by cases hs

/-- The disk with a directory `r`, in which a file `t` and a link `l` stand. -/
def linked (content : Bytes) (target : String) : Disk :=
  ((single "r").putFile ["r", "t"] content).put ["r", "l"] (.link target)

/-- A linked disk has a file and a link in its single directory. -/
theorem find?_linked (content : Bytes) (target : String) (l : Location) :
    (linked content target).find? l =
      if l = ["r", "l"] then some (.link target)
      else if l = ["r", "t"] then some (.file 0 content)
      else (single "r").find? l := by
  rw [linked, find?_put _ _ _ _ (by simp), find?_putFile _ _ _ _ (by simp)]
  rfl

/-- A linked disk is well-formed. -/
theorem wellFormed_linked (content : Bytes) {target : String} (h : isPathText target = true) :
    (linked content target).WellFormed := by
  have hsingle : (single "r").WellFormed := wellFormed_single (by decide)
  have hroot : (single "r").find? ["r"] = some .directory := by simp [find?_single]
  have hfile : ((single "r").putFile ["r", "t"] content).WellFormed :=
    hsingle.putFile hroot (by decide) (by simp [find?_single]) content
  have hfind := fun l => find?_putFile (single "r") ["r", "t"] l content (by simp)
  have hplace : ((single "r").putFile ["r", "t"] content).find? ["r", "l"] ≠ some .directory := by
    simp [hfind, find?_single]
  have hroot' : ((single "r").putFile ["r", "t"] content).find? ["r"] = some .directory := by
    simp [hfind, find?_single]
  refine hfile.put hroot' (show EntryName "l" by decide) (Or.inr hplace) ?_ fun _ _ hs => by cases hs
  intro t ht
  obtain rfl := Entry.link.inj ht
  exact h

end Disk

end RootedStorage
