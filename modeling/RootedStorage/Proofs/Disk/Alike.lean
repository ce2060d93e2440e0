import RootedStorage.Proofs.Disk.Removal

/-!
# Disks that agree around a location

What the disk does at a location depends on what stands there, on the way to it and below it.  Two
disks that show the same there are `Alike` at the location, whatever they are elsewhere.  Where no
link stands on the way, walks on such disks fail for the same fault or end at the location, look-ups
find the same entry, and a change is refused for the same fault or carried out on both.
-/

namespace RootedStorage

/-- Both outcomes are the same error, or both are values. -/
def Concur {ε α β : Type} (x : Except ε α) (y : Except ε β) : Prop :=
  (∃ e, x = .error e ∧ y = .error e) ∨ ∃ a b, x = .ok a ∧ y = .ok b

namespace Concur

variable {ε α β : Type}

/-- Two failures by the same error concur. -/
theorem error (e : ε) : Concur (.error e : Except ε α) (.error e : Except ε β) :=
  Or.inl ⟨e, rfl, rfl⟩

/-- Two successes concur, whatever they give. -/
theorem ok (a : α) (b : β) : Concur (.ok a : Except ε α) (.ok b) := Or.inr ⟨a, b, rfl, rfl⟩

/-- Every result concurs with itself. -/
theorem refl (x : Except ε α) : Concur x x := by
  cases x with
  | error e => exact error e
  | ok a => exact ok a a

end Concur

/-- Entries that are the same, stamps aside, differ in the stamp of a file only. -/
theorem Entry.unstamped_eq_cases {e e' : Entry} (h : e'.unstamped = e.unstamped) :
    e' = e ∨ ∃ stamp stamp' c, e = .file stamp c ∧ e' = .file stamp' c := by
  cases e with
  | file stamp c =>
    cases e' with
    | file stamp' c' =>
      obtain ⟨-, rfl⟩ := Entry.file.inj h
      exact Or.inr ⟨stamp, stamp', c', rfl, rfl⟩
    | directory => cases h
    | pipe => cases h
    | link target => cases h
  | directory => cases e' <;> first | exact Or.inl rfl | cases h
  | pipe => cases e' <;> first | exact Or.inl rfl | cases h
  | link target => cases e' <;> first | exact Or.inl h | cases h

namespace Disk

variable {d d' : Disk} {follow : Bool} {n : Nat} {here l : Location}

/-- The disks show the same at the location, on the way to it and below it. -/
structure Alike (l : Location) (d d' : Disk) : Prop where
  attributes : d'.attributes = d.attributes
  tree : ∀ k, k <+: l ∨ l <+: k → d'.tree k = d.tree k

/-- Disks that are alike at a place are alike below it. -/
theorem Alike.child (h : Alike l d d') (name : String) : Alike (l ++ [name]) d d' where
  attributes := h.attributes
  tree := by
    intro k hk
    rcases hk with hk | hk
    · rcases List.prefix_concat_iff.1 hk with rfl | hk
      · exact h.tree _ (Or.inr (List.prefix_append l [name]))
      · exact h.tree k (Or.inl hk)
    · exact h.tree k (Or.inr ((List.prefix_append l [name]).trans hk))

/-- Something stands in the tree where something stands on the disk. -/
theorem isSome_tree (d : Disk) (k : Location) : (d.tree k).isSome = (d.find? k).isSome :=
  Option.isSome_map

/-- Where two trees are the same, the disks are, or there are files with the same content. -/
theorem find?_of_tree_eq {k : Location} (h : d'.tree k = d.tree k) :
    d'.find? k = d.find? k ∨
      ∃ stamp stamp' c, d.find? k = some (.file stamp c) ∧ d'.find? k = some (.file stamp' c) := by
  unfold tree at h
  cases hfind : d.find? k with
  | none =>
    rw [hfind] at h
    exact Or.inl (Option.map_eq_none_iff.1 h)
  | some e =>
    rw [hfind] at h
    obtain ⟨e', hfind', he⟩ := Option.map_eq_some_iff.1 h
    rcases Entry.unstamped_eq_cases he with rfl | ⟨stamp, stamp', c, rfl, rfl⟩
    · exact Or.inl hfind'
    · exact Or.inr ⟨stamp, stamp', c, rfl, hfind'⟩

/-! ## Walks -/

/-- Names that lead over no link lead on alike, or fail alike. -/
theorem walkWithin_concur {names : List String} (hnames : ∀ part ∈ names, Path.isName part = true)
    (hlinks : ∀ k target, k <+: names → d.find? (here ++ k) ≠ some (.link target))
    (htree : ∀ k, k <+: names → d'.tree (here ++ k) = d.tree (here ++ k)) :
    Concur (d.walkWithin follow n here names) (d'.walkWithin follow n here names) := by
  induction names generalizing here with
  | nil =>
    rw [walkWithin_nil, walkWithin_nil]
    exact Concur.ok _ _
  | cons part rest ih =>
    obtain ⟨hpart, hrest⟩ := List.forall_mem_cons.1 hnames
    rcases Nat.lt_or_ge nameLimit part.utf8ByteSize with hlong | hshort
    · rw [walkWithin_long hpart hlong, walkWithin_long hpart hlong]
      exact Concur.error _
    rcases find?_of_tree_eq (htree [part] (List.cons_prefix_cons.2 ⟨rfl, List.nil_prefix⟩)) with
      hsame | ⟨stamp, stamp', c, hfind, hfind'⟩
    · cases hfind : d.find? (here ++ [part]) with
      | none =>
        rw [walkWithin_free hpart hshort hfind, walkWithin_free hpart hshort (hsame.trans hfind)]
        exact Concur.refl _
      | some e =>
        by_cases hdirectory : e = .directory
        · subst hdirectory
          rw [walkWithin_down hpart hshort hfind, walkWithin_down hpart hshort (hsame.trans hfind)]
          refine ih hrest (fun k target hk => ?_) fun k hk => ?_
          · rw [List.append_assoc]
            exact hlinks (part :: k) target (List.cons_prefix_cons.2 ⟨rfl, hk⟩)
          · rw [List.append_assoc]
            exact htree (part :: k) (List.cons_prefix_cons.2 ⟨rfl, hk⟩)
        · have hlink : ∀ target, e ≠ .link target := by
            rintro target rfl
            exact hlinks [part] target (List.cons_prefix_cons.2 ⟨rfl, List.nil_prefix⟩) hfind
          rw [walkWithin_leaf hpart hshort hfind hdirectory hlink,
            walkWithin_leaf hpart hshort (hsame.trans hfind) hdirectory hlink]
          exact Concur.refl _
    · rw [walkWithin_leaf hpart hshort hfind (by simp) (by simp),
        walkWithin_leaf hpart hshort hfind' (by simp) (by simp)]
      split
      · exact Concur.ok _ _
      · exact Concur.error _

section
variable (h : Alike l d d') (hl : d.Straight l) (hl' : d'.Straight l)
include h hl hl'

/-- A walk fails for the same fault, or ends at the location, where nothing stands or the same entry,
stamps aside. -/
theorem Alike.walk_cases (follow : Bool) :
    (∃ fault, d.walk follow [] l = .error fault ∧ d'.walk follow [] l = .error fault) ∨
      d.walk follow [] l = .ok (.vacant l false) ∧ d'.walk follow [] l = .ok (.vacant l false) ∨
      ∃ e e', d.walk follow [] l = .ok (.entry l e) ∧ d'.walk follow [] l = .ok (.entry l e') ∧
        e'.unstamped = e.unstamped := by
  have hsame : Concur (d.walk follow [] l) (d'.walk follow [] l) := by
    unfold walk
    split
    · exact Concur.error _
    · split
      · exact Concur.error _
      · exact walkWithin_concur hl.isName hl.no_link fun k hk => h.tree k (Or.inl hk)
  refine hsame.imp_right ?_
  rintro ⟨spot, spot', hwalk, hwalk'⟩
  rw [hwalk, hwalk', hl.walk_eq hwalk, hl'.walk_eq hwalk']
  rcases find?_of_tree_eq (h.tree l (Or.inl (List.prefix_refl l))) with
    hfind' | ⟨stamp, stamp', c, hfind, hfind'⟩
  · cases hfind : d.find? l with
    | none =>
      rw [spotAt_of_free hfind, spotAt_of_free (hfind'.trans hfind)]
      exact Or.inl ⟨rfl, rfl⟩
    | some e =>
      rw [spotAt_of_find? hfind, spotAt_of_find? (hfind'.trans hfind)]
      exact Or.inr ⟨e, e, rfl, rfl, rfl⟩
  · rw [spotAt_of_find? hfind, spotAt_of_find? hfind']
    exact Or.inr ⟨_, _, rfl, rfl, rfl⟩

/-- What a path finds is the entry at the location, stamps aside. -/
theorem Alike.locate_cases (follow : Bool) :
    (∃ fault, d.locate follow [] l = .error fault ∧ d'.locate follow [] l = .error fault) ∨
      ∃ e e', d.locate follow [] l = .ok (l, e) ∧ d'.locate follow [] l = .ok (l, e') ∧
        e'.unstamped = e.unstamped := by
  unfold locate
  rcases h.walk_cases hl hl' follow with
    ⟨fault, hwalk, hwalk'⟩ | ⟨hwalk, hwalk'⟩ | ⟨e, e', hwalk, hwalk', he⟩
  · rw [hwalk, hwalk']
    exact Or.inl ⟨fault, rfl, rfl⟩
  · rw [hwalk, hwalk']
    exact Or.inl ⟨.missing, rfl, rfl⟩
  · rw [hwalk, hwalk']
    exact Or.inr ⟨e, e', rfl, rfl, he⟩

/-- On disks that are alike at a place, its lookup fails alike or finds the same entry up to stamps.
-/
theorem Alike.lookup_cases :
    (∃ fault, d.lookup l = .error fault ∧ d'.lookup l = .error fault) ∨
      ∃ e e', d.lookup l = .ok e ∧ d'.lookup l = .ok e' ∧ e'.unstamped = e.unstamped := by
  unfold lookup
  rcases h.locate_cases hl hl' true with ⟨fault, hlocate, hlocate'⟩ | ⟨e, e', hlocate, hlocate', he⟩
  · rw [hlocate, hlocate']
    exact Or.inl ⟨fault, rfl, rfl⟩
  · rw [hlocate, hlocate']
    exact Or.inr ⟨e, e', rfl, rfl, he⟩

/-! ## Changes -/

/-- A file is opened for writing on both disks or on none. -/
theorem Alike.openWrite_concur (overwrite : Bool) :
    Concur (d.openWrite overwrite l) (d'.openWrite overwrite l) := by
  unfold openWrite
  rcases h.walk_cases hl hl' overwrite with
    ⟨fault, hwalk, hwalk'⟩ | ⟨hwalk, hwalk'⟩ | ⟨e, e', hwalk, hwalk', he⟩
  · rw [hwalk, hwalk']
    exact Concur.error fault
  · rw [hwalk, hwalk']
    exact Concur.ok _ _
  rw [hwalk, hwalk']
  cases overwrite with
  | false => exact Concur.error DiskFault.occupied
  | true =>
    rcases Entry.unstamped_eq_cases he with rfl | ⟨stamp, stamp', c, rfl, rfl⟩
    · cases e' with
      | file stamp c => exact Concur.ok _ _
      | directory => exact Concur.error DiskFault.isDirectory
      | pipe => exact Concur.error DiskFault.unsupported
      | link target => exact Concur.error DiskFault.unsupported
    · exact Concur.ok _ _

/-- On disks that are alike at a place, making a directory there concurs. -/
theorem Alike.makeDirectory_concur : Concur (d.makeDirectory l) (d'.makeDirectory l) := by
  unfold makeDirectory
  rcases h.walk_cases hl hl' false with
    ⟨fault, hwalk, hwalk'⟩ | ⟨hwalk, hwalk'⟩ | ⟨e, e', hwalk, hwalk', -⟩
  · rw [hwalk, hwalk']
    exact Concur.error fault
  · rw [hwalk, hwalk']
    exact Concur.ok _ _
  · rw [hwalk, hwalk']
    exact Concur.error DiskFault.occupied

omit hl hl' in
/-- The same names stand in the directory, in whatever order. -/
theorem Alike.names_perm (hd : d.Keyed) (hd' : d'.Keyed) : (d'.names l).Perm (d.names l) := by
  rw [List.perm_ext_iff_of_nodup (hd'.nodup_names l) (hd.nodup_names l)]
  intro name
  have hsame := h.tree _ (Or.inr (List.prefix_append l [name]))
  rw [mem_names_iff hd, mem_names_iff hd', ← Option.isSome_iff_exists, ← Option.isSome_iff_exists,
    ← isSome_tree, ← isSome_tree, hsame]

omit hl hl' in
/-- A directory is empty on both disks or on none. -/
theorem Alike.isEmptyAt_iff (hd : d.Keyed) (hd' : d'.Keyed) : d'.IsEmptyAt l ↔ d.IsEmptyAt l := by
  rw [hd.isEmptyAt_iff, hd'.isEmptyAt_iff, ← List.isEmpty_iff, ← List.isEmpty_iff,
    (h.names_perm hd hd').isEmpty_eq]

/-- An entry is removed from both disks or from none. -/
theorem Alike.remove_concur (hd : d.WellFormed) (hd' : d'.WellFormed) (recursive : Bool) :
    Concur (d.remove recursive l).1 (d'.remove recursive l).1 := by
  rcases h.locate_cases hl hl' false with ⟨fault, hlocate, hlocate'⟩ | ⟨e, e', hlocate, hlocate', he⟩
  · rw [remove, remove, hlocate, hlocate']
    exact Concur.error fault
  have hwalk := locate_eq_ok_iff.1 hlocate
  have hwalk' := locate_eq_ok_iff.1 hlocate'
  obtain ⟨-, hfind⟩ := find?_of_spotAt (hl.walk_eq hwalk).symm
  obtain ⟨-, hfind'⟩ := find?_of_spotAt (hl'.walk_eq hwalk').symm
  have hempty := h.isEmptyAt_iff hd.toKeyed hd'.toKeyed
  have hdirectory : e' = .directory ↔ e = .directory := by
    rcases Entry.unstamped_eq_cases he with rfl | ⟨stamp, stamp', c, rfl, rfl⟩ <;> simp
  by_cases hallowed : e = .directory → recursive = true ∨ d.IsEmptyAt l
  · obtain ⟨new, hremove, -⟩ := removal_of_walk hd hwalk hfind hallowed
    obtain ⟨new', hremove', -⟩ := removal_of_walk hd' hwalk' hfind' fun he =>
      (hallowed (hdirectory.1 he)).imp_right hempty.2
    rw [hremove, hremove']
    exact Concur.ok () ()
  · obtain ⟨rfl, hrefused⟩ := Classical.not_imp.1 hallowed
    obtain ⟨hflat, hfull⟩ := not_or.1 hrefused
    obtain rfl := eq_false_of_ne_true hflat
    rw [hdirectory.2 rfl] at hlocate'
    rw [remove_of_not_isEmptyAt hd hlocate hfull,
      remove_of_not_isEmptyAt hd' hlocate' fun h => hfull (hempty.1 h)]
    exact Concur.error DiskFault.notEmpty

end

/-! ## Times and owner -/

/-- Opening a file to write leaves the attributes. -/
theorem attributes_openWrite {overwrite : Bool} {stamp : Nat}
    (h : d.openWrite overwrite l = .ok (stamp, d')) : d'.attributes = d.attributes := by
  unfold openWrite at h
  cases hwalk : d.walk overwrite [] l with
  | error fault =>
    rw [hwalk] at h
    cases h
  | ok spot =>
    rw [hwalk] at h
    repeat' split at h
    all_goals cases h
    all_goals rfl

/-- Making a directory leaves the attributes. -/
theorem attributes_makeDirectory (h : d.makeDirectory l = .ok d') : d'.attributes = d.attributes := by
  unfold makeDirectory at h
  split at h
  · cases h
  · cases h
    rfl
  · cases h

/-- Clearing a directory leaves the attributes. -/
theorem attributes_clearWithin (levels : Nat) (d : Disk) (l : Location) :
    (clearWithin levels d l).attributes = d.attributes := by
  induction levels generalizing d l with
  | zero => rfl
  | succ levels ih =>
    rw [clearWithin]
    induction d.names l generalizing d with
    | nil => rfl
    | cons name names ihnames =>
      rw [List.foldl_cons, ihnames]
      dsimp only [drop]
      split
      · exact ih d _
      · rfl

/-- Removing a directory leaves the attributes. -/
theorem attributes_removeDirectory (d : Disk) (l : Location) :
    (d.removeDirectory l).2.attributes = d.attributes := by
  unfold removeDirectory
  repeat' split
  all_goals rfl

/-- Removing leaves the attributes. -/
theorem attributes_remove (recursive : Bool) (d : Disk) (l : Location) :
    (d.remove recursive l).2.attributes = d.attributes := by
  unfold remove
  split
  · rfl
  · next at_ _ =>
    have hcleared := attributes_removeDirectory (d.clear at_) l
    rw [clear, attributes_clearWithin, ← clear] at hcleared
    split
    · split
      · next hmissing =>
        rw [hmissing] at hcleared
        exact hcleared
      · exact hcleared
    · exact attributes_removeDirectory d l
  · rfl

end Disk

end RootedStorage
