import Mathlib.Data.List.Sort
import Mathlib.Data.String.Basic
import RootedStorage.Proofs.Disk.Alike
import RootedStorage.Proofs.FileStorage.ReadSide
import RootedStorage.Proofs.Session.Confinement
import RootedStorage.Proofs.Session.Failure

/-!
# Requests to separate places

An operation is local to a location if what it gives and how it changes the tree is decided by what
stands there, on the way to it and below it, and if it changes nothing elsewhere (`Local`).  Two
operations that are local to locations of which neither leads to the other do not see each other, so
they may be carried out in either order (`Local.commute`).

Where no link stands below the root, the operations of file storage are local to the location that
their path names, except for the creation of several directories, which makes those on the way.
-/

namespace RootedStorage

open Disk (Alike Confined)

/-- The disk is well-formed, and no link stands below the root. -/
structure Disk.Regular (root : Location) (d : Disk) : Prop extends d.LinkFreeBelow root where
  wellFormed : d.WellFormed

/-- Without links below the root the names of an accepted path lead straight to their place. -/
theorem Disk.Regular.straight {root : Location} {d : Disk} (h : d.Regular root) {path : String}
    {names : List String} (hnames : Path.segments? path = some names) : d.Straight (root ++ names) :=
  h.toLinkFreeBelow.straight_of_segments? h.wellFormed hnames

/-- A confined change leaves a regular disk. -/
theorem Disk.Confined.regular {root : Location} {d d' : Disk} (h : Confined root d d') :
    d'.Regular root :=
  ⟨h.toLinkFreeBelow, h.wellFormed⟩

/-- The effects have the same result, and either they leave both disks or they change both trees in
the same way. -/
def Effect.Matches {α : Type} (change : Location → Option Entry → Option Entry) (d d' : Disk)
    (x x' : Effect α) : Prop :=
  x'.1 = x.1 ∧ (x.2 = d ∧ x'.2 = d' ∨
    (∀ k, x.2.tree k = change k (d.tree k)) ∧ ∀ k, x'.2.tree k = change k (d'.tree k))

/-- What the operation does is decided by what the disk shows around the location, and it takes place
at the location or below it. -/
structure Local {α : Type} (root l : Location) (op : Disk → Effect α) : Prop where
  confined : ∀ d : Disk, d.Regular root → Confined root d (op d).2
  attributes : ∀ d, (op d).2.attributes = d.attributes
  matches_of_alike : ∃ change : Location → Option Entry → Option Entry,
    (∀ k x, ¬ l <+: k → change k x = x) ∧
    ∀ d d' : Disk, d.Regular root → d'.Regular root → Alike l d d' →
      (op d).Matches change d d' (op d')

namespace Local

variable {α β : Type} {root l p q : Location} {op f : Disk → Effect α} {g : Disk → Effect β}
  {d d' : Disk}

/-- Nothing changes elsewhere. -/
theorem tree_outside (h : Local root l op) (hd : d.Regular root) {k : Location} (hk : ¬ l <+: k) :
    (op d).2.tree k = d.tree k := by
  obtain ⟨change, houtside, hmatches⟩ := h.matches_of_alike
  obtain ⟨-, hsame | hchanged⟩ := hmatches d d hd hd ⟨rfl, fun _ _ => rfl⟩
  · rw [hsame.1]
  · rw [hchanged.1, houtside k _ hk]

/-- Alike disks are changed alike. -/
theorem tree_inside (h : Local root l op) (hd : d.Regular root) (hd' : d'.Regular root)
    (halike : Alike l d d') {k : Location} (hk : l <+: k) : (op d').2.tree k = (op d).2.tree k := by
  obtain ⟨change, -, hmatches⟩ := h.matches_of_alike
  have hsame := halike.tree k (Or.inr hk)
  obtain ⟨-, ⟨hleft, hleft'⟩ | ⟨hchanged, hchanged'⟩⟩ := hmatches d d' hd hd' halike
  · rw [hleft, hleft', hsame]
  · rw [hchanged, hchanged', hsame]

/-- What an operation gives does not depend on entries away from its place. -/
theorem result_eq (h : Local root l op) (hd : d.Regular root) (hd' : d'.Regular root)
    (halike : Alike l d d') : (op d').1 = (op d).1 := by
  obtain ⟨change, -, hmatches⟩ := h.matches_of_alike
  exact (hmatches d d' hd hd' halike).1

/-- An operation at a separate place leaves the disk alike. -/
theorem alike (h : Local root q g) (hd : d.Regular root) (hpq : ¬ p <+: q) (hqp : ¬ q <+: p) :
    Alike p d (g d).2 where
  attributes := h.attributes d
  tree := by
    intro k hk
    refine h.tree_outside hd fun hq => ?_
    rcases hk with hk | hk
    · exact hqp (hq.trans hk)
    · rcases List.prefix_or_prefix_of_prefix hk hq with hx | hx
      · exact hpq hx
      · exact hqp hx

/-- Operations at separate places may be carried out in either order. -/
theorem commute (hf : Local root p f) (hg : Local root q g) (hpq : ¬ p <+: q) (hqp : ¬ q <+: p)
    (hd : d.Regular root) :
    (f (g d).2).1 = (f d).1 ∧ (g (f d).2).1 = (g d).1 ∧
      (g (f d).2).2.tree = (f (g d).2).2.tree := by
  have hdf : (f d).2.Regular root := (hf.confined d hd).regular
  have hdg : (g d).2.Regular root := (hg.confined d hd).regular
  have halikef := hg.alike hd hpq hqp
  have halikeg := hf.alike hd hqp hpq
  refine ⟨hf.result_eq hd hdg halikef, hg.result_eq hd hdf halikeg, ?_⟩
  funext k
  by_cases hp : p <+: k
  · have hq : ¬ q <+: k := fun hq => (List.prefix_or_prefix_of_prefix hp hq).elim hpq hqp
    rw [hg.tree_outside hdf hq, hf.tree_inside hd hdg halikef hp]
  · rw [hf.tree_outside hdg hp]
    by_cases hq : q <+: k
    · exact hg.tree_inside hd hdf halikeg hq
    · rw [hg.tree_outside hdf hq, hf.tree_outside hd hp, hg.tree_outside hd hq]

/-- An operation whose answer is put in other words stays local. -/
theorem map (h : Local root l op) (answer : α → β) :
    Local root l fun d => ((op d).1.map answer, (op d).2) where
  confined := h.confined
  attributes := h.attributes
  matches_of_alike := by
    obtain ⟨change, houtside, hmatches⟩ := h.matches_of_alike
    refine ⟨change, houtside, fun d d' hd hd' halike => ?_⟩
    obtain ⟨hresult, htree⟩ := hmatches d d' hd hd' halike
    exact ⟨congrArg (Except.map answer) hresult, htree⟩

/-- An operation that only looks is local if it sees the same on alike disks. -/
theorem of_look {look : Disk → Outcome α}
    (h : ∀ d d' : Disk, d.Regular root → d'.Regular root → Alike l d d' → look d' = look d) :
    Local root l fun d => (look d, d) where
  confined := fun _ hd => Confined.refl hd.toLinkFreeBelow hd.wellFormed
  attributes := fun _ => rfl
  matches_of_alike :=
    ⟨fun _ x => x, fun _ _ _ => rfl,
      fun d d' hd hd' halike => ⟨h d d' hd hd' halike, Or.inl ⟨rfl, rfl⟩⟩⟩

end Local

/-! ## Looking -/

namespace Entry

/-- The stamp of a file is no part of its metadata. -/
@[simp] theorem stat_unstamped (e : Entry) (a : Attributes) : e.unstamped.stat a = e.stat a := by
  cases e <;> rfl

/-- The stamp of a file is no part of its type. -/
@[simp] theorem fileType?_unstamped (e : Entry) : e.unstamped.fileType? = e.fileType? := by
  cases e <;> rfl

end Entry

/-- Sorting forgets the order of the texts. -/
theorem mergeSort_eq_of_perm {a b : List String} (h : a.Perm b) :
    (a.mergeSort fun x y => decide (x ≤ y)) = b.mergeSort fun x y => decide (x ≤ y) := by
  have hsorted : (a.mergeSort fun x y => decide (x ≤ y)).Perm (b.mergeSort fun x y => decide (x ≤ y)) :=
    (List.mergeSort_perm a _).trans (h.trans (List.mergeSort_perm b _).symm)
  exact hsorted.eq_of_sortedLE List.sortedLE_mergeSort List.sortedLE_mergeSort

namespace FileStorage

variable {s : FileStorage} {path : String} {names : List String}

/-- The stamp of a file is no part of its content. -/
theorem contentOf_unstamped (path : String) (e : Entry) :
    contentOf path e.unstamped = contentOf path e := by
  cases e <;> rfl

section
variable (hnames : Path.segments? path = some names) {d d' : Disk} (hd : d.Regular s.root)
  (hd' : d'.Regular s.root) (h : Alike (s.root ++ names) d d')
include hnames hd hd' h

/-- On disks that are alike at a place, its path gives the same error or the same entry up to
stamps. -/
theorem entryAt_cases :
    (∃ e, s.entryAt path d = .error e ∧ s.entryAt path d' = .error e) ∨
      ∃ x x', s.entryAt path d = .ok x ∧ s.entryAt path d' = .ok x' ∧
        x'.unstamped = x.unstamped := by
  rw [entryAt_eq hnames, entryAt_eq hnames]
  rcases h.lookup_cases (hd.straight hnames) (hd'.straight hnames) with
    ⟨fault, hlookup, hlookup'⟩ | ⟨x, x', hlookup, hlookup', hx⟩
  · rw [hlookup, hlookup']
    exact Or.inl ⟨_, rfl, rfl⟩
  · rw [hlookup, hlookup']
    exact Or.inr ⟨x, x', rfl, rfl, hx⟩

/-- Disks that are alike at a place agree on whether something stands there. -/
theorem exists?_eq_of_alike : s.exists? path d' = s.exists? path d := by
  rw [exists?_eq hnames, exists?_eq hnames]
  rcases entryAt_cases hnames hd hd' h with ⟨e, hentry, hentry'⟩ | ⟨x, x', hentry, hentry', -⟩
  · rw [hentry, hentry']
  · rw [hentry, hentry']
    rfl

/-- Disks that are alike at a place give the same metadata there. -/
theorem stat_eq_of_alike : s.stat path d' = s.stat path d := by
  unfold FileStorage.stat
  rcases entryAt_cases hnames hd hd' h with ⟨e, hentry, hentry'⟩ | ⟨x, x', hentry, hentry', hx⟩
  · rw [hentry, hentry']
    rfl
  · rw [hentry, hentry', h.attributes]
    show Except.ok (x'.stat d.attributes) = Except.ok (x.stat d.attributes)
    rw [← Entry.stat_unstamped, hx, Entry.stat_unstamped]

/-- Disks that are alike at a place give the same size there. -/
theorem size_eq_of_alike : s.size path d' = s.size path d :=
  congrArg (Except.map FileStat.size) (stat_eq_of_alike hnames hd hd' h)

/-- Disks that are alike at a place have the same content there. -/
theorem readBytes_eq_of_alike : s.readBytes path d' = s.readBytes path d := by
  rw [readBytes_eq hd.wellFormed hd.isDirectory, readBytes_eq hd'.wellFormed hd'.isDirectory]
  rcases entryAt_cases hnames hd hd' h with ⟨e, hentry, hentry'⟩ | ⟨x, x', hentry, hentry', hx⟩
  · rw [hentry, hentry']
  · rw [hentry, hentry']
    show contentOf path x' = contentOf path x
    rw [← contentOf_unstamped, hx, contentOf_unstamped]

/-- Disks that are alike at a place have the same text there. -/
theorem readText_eq_of_alike : s.readText path d' = s.readText path d := by
  rw [readText_eq, readText_eq, readBytes_eq_of_alike hnames hd hd' h]

/-- Whether a child is listed depends on what the disk shows of it. -/
theorem isListed_eq_of_alike {name : String} (hname : Path.isName name = true) :
    isListed d' (s.root ++ names ++ [name]) = isListed d (s.root ++ names ++ [name]) := by
  have hparts : ∀ part ∈ names ++ [name], Path.isName part = true := by
    intro part hpart
    rcases List.mem_append.1 hpart with hpart | hpart
    · exact Path.isName_of_mem_segments? hnames hpart
    · rw [List.mem_singleton.1 hpart]
      exact hname
  have hchild := h.child name
  rw [List.append_assoc] at hchild ⊢
  unfold isListed
  rcases hchild.lookup_cases (hd.toLinkFreeBelow.straight hd.wellFormed hparts)
    (hd'.toLinkFreeBelow.straight hd'.wellFormed hparts) with
    ⟨fault, hlookup, hlookup'⟩ | ⟨x, x', hlookup, hlookup', hx⟩
  · rw [hlookup, hlookup']
  · rw [hlookup, hlookup']
    show x'.fileType?.isSome = x.fileType?.isSome
    rw [← Entry.fileType?_unstamped, hx, Entry.fileType?_unstamped]

/-- The same children are listed, in whatever order the disks keep them. -/
theorem children_perm :
    ((d'.names (s.root ++ names)).filter fun name => isListed d' (s.root ++ names ++ [name])).Perm
      ((d.names (s.root ++ names)).filter fun name => isListed d (s.root ++ names ++ [name])) := by
  have hnamed : ∀ name ∈ d.names (s.root ++ names),
      isListed d' (s.root ++ names ++ [name]) = isListed d (s.root ++ names ++ [name]) := by
    intro name hname
    obtain ⟨e, he⟩ := (Disk.mem_names_iff hd.wellFormed.toKeyed).1 hname
    exact isListed_eq_of_alike hnames hd hd' h (hd.wellFormed.name he).isName
  rw [← List.filter_congr hnamed]
  exact (h.names_perm hd.wellFormed.toKeyed hd'.wellFormed.toKeyed).filter _

/-- Disks that are alike at a place list the same children there. -/
theorem list_eq_of_alike : s.list path d' = s.list path d := by
  unfold list childNames Disk.lookup
  rw [Path.segments_eq_ok_iff.2 hnames]
  simp only [bind, Except.bind]
  rcases h.locate_cases (hd.straight hnames) (hd'.straight hnames) true with
    ⟨fault, hlocate, hlocate'⟩ | ⟨x, x', hlocate, hlocate', hx⟩
  · rw [hlocate, hlocate']
    rfl
  rw [hlocate, hlocate']
  rcases Entry.unstamped_eq_cases hx with rfl | ⟨stamp, stamp', c, rfl, rfl⟩
  · cases x' with
    | directory =>
      exact congrArg Except.ok (mergeSort_eq_of_perm ((children_perm hnames hd hd' h).map _))
    | file stamp c => rfl
    | pipe => rfl
    | link target => rfl
  · rfl

end

/-! ## Changing -/

/-- Writing leaves the attributes that the disk gives to its entries. -/
theorem attributes_writeBytes (path : String) (data : Bytes) (overwrite : Bool) (d : Disk) :
    (s.writeBytes path data overwrite d).2.attributes = d.attributes := by
  unfold writeBytes openWrite
  cases s.location path with
  | error e => rfl
  | ok l =>
    dsimp only
    cases hopen : d.openWrite overwrite l with
    | error fault => cases fault <;> rfl
    | ok opened =>
      obtain ⟨stamp, new⟩ := opened
      show new.attributes = d.attributes
      exact Disk.attributes_openWrite hopen

/-- Making a directory leaves the attributes that the disk gives to its entries. -/
theorem attributes_makeDirectory (path : String) (existsOk : Bool) (d : Disk) :
    (s.makeDirectory path false existsOk d).2.attributes = d.attributes := by
  unfold makeDirectory
  cases s.location path with
  | error e => rfl
  | ok l =>
    dsimp only
    cases d.lookup l with
    | ok e => rfl
    | error fault =>
      show (createOne l d).2.attributes = d.attributes
      unfold createOne
      cases hmake : d.makeDirectory l with
      | error fault => rfl
      | ok new => exact Disk.attributes_makeDirectory hmake

/-- Removing leaves the attributes that the disk gives to its entries. -/
theorem attributes_remove (path : String) (recursive : Bool) (d : Disk) :
    (s.remove path recursive d).2.attributes = d.attributes := by
  unfold remove
  split
  · rfl
  · cases s.location path with
    | error e => rfl
    | ok l =>
      exact Disk.attributes_remove recursive d l

section
variable (hnames : Path.segments? path = some names)
include hnames

section
variable {d new : Disk} (hd : d.Regular s.root)
include hd

/-- A file that was opened is written, at the location. -/
theorem tree_writeBytes {overwrite : Bool} {opened : Nat × Disk}
    (hopen : d.openWrite overwrite (s.root ++ names) = .ok opened) (data : Bytes) :
    (s.writeBytes path data overwrite d).1 = .ok () ∧
      ∀ k, (s.writeBytes path data overwrite d).2.tree k =
        if k = s.root ++ names then some (.file 0 data) else d.tree k := by
  rcases writeBytes_of_segments? hd.wellFormed hd.isDirectory hnames data overwrite with
    ⟨fault, e, hrefused, -⟩ | ⟨place, stamp, new, hwrite, hwritten⟩
  · rw [hopen] at hrefused
    cases hrefused
  · obtain rfl := hd.eq_of_written hd.wellFormed (fun _ => Path.isName_of_mem_segments? hnames) hwritten
    rw [hwrite]
    exact ⟨rfl, hwritten.tree_eq⟩

/-- A directory is made at the location. -/
theorem tree_of_makeDirectory (hmake : d.makeDirectory (s.root ++ names) = .ok new) (k : Location) :
    new.tree k = if k = s.root ++ names then some .directory else d.tree k := by
  obtain ⟨place, slash, hwalk, hfree, hfind, -⟩ := Disk.makeDirectory_spec hd.wellFormed
    (no_slash_of_segments? hd.wellFormed hd.isDirectory hnames) hmake
  obtain rfl := (hd.straight hnames).eq_of_walk_vacant hwalk
  rw [Disk.tree, hfind]
  split
  · rfl
  · rfl

/-- What stood at the location and below it is gone. -/
theorem tree_of_remove {recursive : Bool}
    (hremove : d.remove recursive (s.root ++ names) = (.ok (), new)) (k : Location) :
    new.tree k = if s.root ++ names <+: k ∧ k ≠ [] then none else d.tree k := by
  rcases Disk.remove_cases hd.wellFormed
    (no_slash_of_segments? hd.wellFormed hd.isDirectory hnames) recursive with
    ⟨fault, hrefused⟩ | ⟨place, e, d', hremoved, hremoval⟩
  · rw [hremove] at hrefused
    cases hrefused
  · obtain rfl := congrArg Prod.snd (hremove.symm.trans hremoved)
    rw [Disk.tree, hremoval.find?_of_straight hd.wellFormed (hd.straight hnames)]
    split
    · rfl
    · rfl

/-- A removal that is refused leaves the disk. -/
theorem eq_of_remove_error {recursive : Bool} {fault : DiskFault}
    (hremove : (d.remove recursive (s.root ++ names)).1 = .error fault) :
    d.remove recursive (s.root ++ names) = (.error fault, d) := by
  rcases Disk.remove_cases hd.wellFormed
    (no_slash_of_segments? hd.wellFormed hd.isDirectory hnames) recursive with
    ⟨fault', hrefused⟩ | ⟨place, e, d', hremoved, -⟩
  · rw [hrefused] at hremove ⊢
    cases hremove
    rfl
  · rw [hremoved] at hremove
    cases hremove

end

/-- Writing looks at and changes what is at its place only. -/
theorem local_writeBytes (data : Bytes) (overwrite : Bool) :
    Local s.root (s.root ++ names) (s.writeBytes path data overwrite) where
  confined := fun _ hd => confined_writeBytes hd.toLinkFreeBelow hd.wellFormed path data overwrite
  attributes := attributes_writeBytes path data overwrite
  matches_of_alike := by
    refine ⟨fun k x => if k = s.root ++ names then some (.file 0 data) else x, ?_, ?_⟩
    · intro k x hk
      refine if_neg ?_
      rintro rfl
      exact hk (List.prefix_refl _)
    intro d d' hd hd' h
    rcases h.openWrite_concur (hd.straight hnames) (hd'.straight hnames) overwrite with
      ⟨fault, hopen, hopen'⟩ | ⟨opened, opened', hopen, hopen'⟩
    · unfold writeBytes openWrite
      rw [location_eq hnames]
      dsimp only
      rw [hopen, hopen']
      cases fault <;> exact ⟨rfl, Or.inl ⟨rfl, rfl⟩⟩
    · obtain ⟨hok, htree⟩ := tree_writeBytes hnames hd hopen data
      obtain ⟨hok', htree'⟩ := tree_writeBytes hnames hd' hopen' data
      exact ⟨hok'.trans hok.symm, Or.inr ⟨htree, htree'⟩⟩

/-- Making one directory looks at and changes what is at its place only. -/
theorem local_makeDirectory (existsOk : Bool) :
    Local s.root (s.root ++ names) (s.makeDirectory path false existsOk) where
  confined := fun _ hd =>
    confined_makeDirectory hd.toLinkFreeBelow hd.wellFormed path false existsOk
  attributes := attributes_makeDirectory path existsOk
  matches_of_alike := by
    refine ⟨fun k x => if k = s.root ++ names then some .directory else x, ?_, ?_⟩
    · intro k x hk
      refine if_neg ?_
      rintro rfl
      exact hk (List.prefix_refl _)
    intro d d' hd hd' h
    have hstraight := hd.straight hnames
    have hstraight' := hd'.straight hnames
    unfold makeDirectory createOne
    rw [location_eq hnames]
    dsimp only
    rcases h.lookup_cases hstraight hstraight' with
      ⟨fault, hlookup, hlookup'⟩ | ⟨x, x', hlookup, hlookup', hx⟩
    · rw [hlookup, hlookup']
      rcases h.makeDirectory_concur hstraight hstraight' with
        ⟨fault, hmake, hmake'⟩ | ⟨new, new', hmake, hmake'⟩
      · rw [hmake, hmake']
        exact ⟨rfl, Or.inl ⟨rfl, rfl⟩⟩
      · rw [hmake, hmake']
        exact ⟨rfl, Or.inr ⟨tree_of_makeDirectory hnames hd hmake,
          tree_of_makeDirectory hnames hd' hmake'⟩⟩
    · rw [hlookup, hlookup']
      rcases Entry.unstamped_eq_cases hx with rfl | ⟨stamp, stamp', c, rfl, rfl⟩
      · exact ⟨rfl, Or.inl ⟨rfl, rfl⟩⟩
      · exact ⟨rfl, Or.inl ⟨rfl, rfl⟩⟩

/-- Removing looks at and changes what is at its place only. -/
theorem local_remove (recursive : Bool) :
    Local s.root (s.root ++ names) (s.remove path recursive) where
  confined := fun _ hd => confined_remove hd.toLinkFreeBelow hd.wellFormed path recursive
  attributes := attributes_remove path recursive
  matches_of_alike := by
    refine ⟨fun k x => if s.root ++ names <+: k ∧ k ≠ [] then none else x, ?_, ?_⟩
    · intro k x hk
      exact if_neg fun hx => hk hx.1
    intro d d' hd hd' h
    unfold remove
    split
    · exact ⟨rfl, Or.inl ⟨rfl, rfl⟩⟩
    rw [location_eq hnames]
    dsimp only
    rcases h.remove_concur (hd.straight hnames) (hd'.straight hnames) hd.wellFormed hd'.wellFormed
      recursive with ⟨fault, hremove, hremove'⟩ | ⟨_, _, hremove, hremove'⟩
    · rw [eq_of_remove_error hnames hd hremove, eq_of_remove_error hnames hd' hremove']
      exact ⟨rfl, Or.inl ⟨rfl, rfl⟩⟩
    · rw [hremove, hremove']
      exact ⟨rfl, Or.inr ⟨tree_of_remove hnames hd (Prod.ext hremove rfl),
        tree_of_remove hnames hd' (Prod.ext hremove' rfl)⟩⟩

end

end FileStorage

/-! ## Requests -/

/-- The request opens no stream and makes no more than one directory. -/
def FileRequest.IsSimple : FileRequest → Prop
  | .makeDirectory _ recursive _ => recursive = false
  | .openRead _ _ => False
  | .openTextRead _ _ => False
  | .openWrite _ _ _ => False
  | .openTextWrite _ _ _ => False
  | _ => True

namespace Session

variable {s : Session} {files : FileStorage}

/-- What the request does on a disk. -/
def onDisk (s : Session) (files : FileStorage) (request : FileRequest) (d : Disk) : Effect Answer :=
  let (result, s) := ({ s with disk := d } : Session).answerFile files request
  (result, s.disk)

/-- A simple request changes nothing but the disk. -/
theorem answerFile_of_isSimple {request : FileRequest} (h : request.IsSimple) (d : Disk) :
    ({ s with disk := d } : Session).answerFile files request =
      ((s.onDisk files request d).1, { s with disk := (s.onDisk files request d).2 }) := by
  cases request with
  | openRead path handle => exact h.elim
  | openTextRead path handle => exact h.elim
  | openWrite path handle overwrite => exact h.elim
  | openTextWrite path handle overwrite => exact h.elim
  | _ => rfl

/-- A simple request is local to the location that its path names. -/
theorem local_onDisk (s : Session) (files : FileStorage) {request : FileRequest}
    (h : request.IsSimple) {names : List String}
    (hnames : Path.segments? request.path = some names) :
    Local files.root (files.root ++ names) (s.onDisk files request) := by
  cases request with
  | «exists» path =>
    exact Local.of_look fun d d' hd hd' halike =>
      congrArg (Except.map Answer.flag) (FileStorage.exists?_eq_of_alike hnames hd hd' halike)
  | size path =>
    exact Local.of_look fun d d' hd hd' halike =>
      congrArg (Except.map Answer.size) (FileStorage.size_eq_of_alike hnames hd hd' halike)
  | stat path =>
    exact Local.of_look fun d d' hd hd' halike =>
      congrArg (Except.map Answer.stat) (FileStorage.stat_eq_of_alike hnames hd hd' halike)
  | list path =>
    exact Local.of_look fun d d' hd hd' halike =>
      congrArg (Except.map Answer.paths) (FileStorage.list_eq_of_alike hnames hd hd' halike)
  | makeDirectory path recursive existsOk =>
    obtain rfl : recursive = false := h
    exact (FileStorage.local_makeDirectory hnames existsOk).map _
  | remove path recursive => exact (FileStorage.local_remove hnames recursive).map _
  | readBytes path =>
    exact Local.of_look fun d d' hd hd' halike =>
      congrArg (Except.map Answer.bytes) (FileStorage.readBytes_eq_of_alike hnames hd hd' halike)
  | readText path =>
    exact Local.of_look fun d d' hd hd' halike =>
      congrArg (Except.map Answer.text) (FileStorage.readText_eq_of_alike hnames hd hd' halike)
  | writeBytes path data overwrite =>
    exact (FileStorage.local_writeBytes hnames data overwrite).map _
  | writeText path text overwrite =>
    exact (FileStorage.local_writeBytes hnames (Utf8.encode text) overwrite).map _
  | openRead path handle => exact h.elim
  | openTextRead path handle => exact h.elim
  | openWrite path handle overwrite => exact h.elim
  | openTextWrite path handle overwrite => exact h.elim

/-- Two requests to accepted paths of which neither leads to the other, other than those that open
streams or make several directories, give what they give in either order, and leave the same tree. -/
theorem answerFile_commute (hd : s.disk.WellFormed) (hroot : s.disk.LinkFreeBelow files.root)
    {a b : FileRequest} (ha : a.IsSimple) (hb : b.IsSimple) {p q : List String}
    (hp : Path.segments? a.path = some p) (hq : Path.segments? b.path = some q)
    (hpq : ¬ p <+: q) (hqp : ¬ q <+: p) :
    ((s.answerFile files b).2.answerFile files a).1 = (s.answerFile files a).1 ∧
      ((s.answerFile files a).2.answerFile files b).1 = (s.answerFile files b).1 ∧
      ((s.answerFile files a).2.answerFile files b).2.disk.tree =
        ((s.answerFile files b).2.answerFile files a).2.disk.tree := by
  have hla := s.local_onDisk files ha hp
  have hlb := s.local_onDisk files hb hq
  have hapart : ∀ {x y : List String}, ¬ x <+: y → ¬ files.root ++ x <+: files.root ++ y :=
    fun hxy h => hxy ((List.prefix_append_right_inj _).1 h)
  have hcommute := hla.commute hlb (hapart hpq) (hapart hqp) ⟨hroot, hd⟩
  have hsa : s.answerFile files a = _ := answerFile_of_isSimple ha s.disk
  have hsb : s.answerFile files b = _ := answerFile_of_isSimple hb s.disk
  rw [hsa, hsb, answerFile_of_isSimple ha, answerFile_of_isSimple hb]
  exact hcommute

/-- A file is made beside one that is removed. -/
theorem answerFile_commute_siblings :
    (((single "p" ["r"] ((Disk.single "r").putFile ["r", "t"] [7])).answerFile ⟨["r"]⟩
        (.writeText "./a" "x" false)).2.answerFile ⟨["r"]⟩ (.remove "t" false)).2.disk.tree =
      (((single "p" ["r"] ((Disk.single "r").putFile ["r", "t"] [7])).answerFile ⟨["r"]⟩
        (.remove "t" false)).2.answerFile ⟨["r"]⟩ (.writeText "./a" "x" false)).2.disk.tree := by
  have hsingle := Disk.linkFreeBelow_single "r"
  have hwf : (Disk.single "r").WellFormed := Disk.wellFormed_single (by decide)
  have hfind := fun k => Disk.find?_putFile (Disk.single "r") ["r", "t"] k [7] (by simp)
  have hd : ((Disk.single "r").putFile ["r", "t"] [7]).WellFormed :=
    hwf.putFile hsingle.isDirectory (show EntryName "t" by decide) (by simp [Disk.find?_single]) [7]
  have hroot : ((Disk.single "r").putFile ["r", "t"] [7]).LinkFreeBelow ["r"] := by
    refine ⟨by simp [hfind, Disk.find?_single], fun names target => ?_⟩
    rw [hfind]
    split
    · simp
    · exact hsingle.no_link names target
  have hwrite : Path.segments? (FileRequest.writeText "./a" "x" false).path = some ["a"] := by decide
  have hremove : Path.segments? (FileRequest.remove "t" false).path = some ["t"] := by decide
  have hsimple : (FileRequest.writeText "./a" "x" false).IsSimple := trivial
  have hsimple' : (FileRequest.remove "t" false).IsSimple := trivial
  obtain ⟨-, -, htree⟩ := answerFile_commute
    (s := single "p" ["r"] ((Disk.single "r").putFile ["r", "t"] [7])) hd hroot hsimple hsimple'
    hwrite hremove (by decide) (by decide)
  exact htree

end Session

end RootedStorage
