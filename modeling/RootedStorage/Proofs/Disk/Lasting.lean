import RootedStorage.Proofs.Disk.Alike
import RootedStorage.Proofs.Disk.Directories

/-!
# Ways that last

A walk reads the directories and the links on its way and looks at one entry at its end.  As long as a
change leaves the directories and the links (`Lasting`), every way leads where it led before: to the same
directory (`Lasting.locate_directory`), and to the file that stands now where a file or nothing stood
(`Lasting.locate_file`).  Writing a file is such a change.
-/

namespace RootedStorage

namespace Disk

variable {d d' d'' : Disk} {follow : Bool} {n : Nat} {here place : Location} {ps : List String}
  {stamp : Nat} {content : Bytes}

/-- The directories and the links of a disk stand on another one too. -/
structure Lasting (d d' : Disk) : Prop where
  directory : ∀ l, d.find? l = some .directory → d'.find? l = some .directory
  link : ∀ l target, d.find? l = some (.link target) → d'.find? l = some (.link target)

/-- What lasts through two changes lasts. -/
theorem Lasting.trans (h : d.Lasting d') (h' : d'.Lasting d'') : d.Lasting d'' where
  directory := fun l hl => h'.directory l (h.directory l hl)
  link := fun l target hl => h'.link l target (h.link l target hl)

/-- Writing a file takes no directory and no link away. -/
theorem Written.lasting {overwrite : Bool} {l : Location} {data : Bytes}
    (h : d.Written overwrite l place stamp data d') : d.Lasting d' where
  directory := fun _ hl => (h.find?_eq_of_not_file (by simp)).2 hl
  link := fun _ _ hl => (h.find?_eq_of_not_file (by simp)).2 hl

/-- Where two trees are the same, so are the directories and the links. -/
theorem find?_of_tree {l : Location} {e : Entry} (htree : d'.tree = d.tree)
    (he : ∀ stamp c, e ≠ .file stamp c) (h : d.find? l = some e) : d'.find? l = some e := by
  rcases find?_of_tree_eq (congrFun htree l) with hsame | ⟨stamp, stamp', c, hfile, -⟩
  · exact hsame.trans h
  · rw [hfile] at h
    exact absurd (Option.some.inj h).symm (he stamp c)

/-- In the same tree directories and links last. -/
theorem lasting_of_tree (htree : d'.tree = d.tree) : d.Lasting d' where
  directory := fun _ => find?_of_tree htree (by simp)
  link := fun _ _ => find?_of_tree htree (by simp)

/-- A file stands in the same trees with the same content. -/
theorem exists_file_of_tree {l : Location} (htree : d'.tree = d.tree)
    (h : d.find? l = some (.file stamp content)) :
    ∃ stamp', d'.find? l = some (.file stamp' content) := by
  rcases find?_of_tree_eq (congrFun htree l) with hsame | ⟨s, s', c, hfile, hfile'⟩
  · exact ⟨stamp, hsame.trans h⟩
  · rw [h] at hfile
    obtain ⟨-, rfl⟩ := Entry.file.inj (Option.some.inj hfile)
    exact ⟨s', hfile'⟩

/-! ## Directories -/

/-- A directory is located where it was before. -/
theorem Lasting.locate_directory (h : d.Lasting d') {there : Location}
    (hlocate : d.locate true here ps = .ok (there, .directory)) :
    d'.locate true here ps = .ok (there, .directory) := by
  obtain ⟨hwalkable, m, hreach⟩ := locate_directory_iff.1 hlocate
  exact locate_directory_iff.2 ⟨hwalkable, m, hreach.mono h.directory h.link⟩

/-! ## Files -/

/-- A file stands at the place, or nothing. -/
def HoldsFile (d : Disk) (place : Location) : Prop :=
  d.find? place = none ∨ ∃ stamp content, d.find? place = some (.file stamp content)

/-- A file is written where a file stands or nothing. -/
theorem Written.holdsFile {overwrite : Bool} {l : Location} {data : Bytes}
    (h : d.Written overwrite l place stamp data d') : d.HoldsFile place := by
  rcases h.before with hfree | ⟨-, held, hheld⟩
  · exact Or.inl hfree
  · exact Or.inr ⟨stamp, held, hheld⟩

/-- An entry at such a place is a file there. -/
theorem HoldsFile.eq_file (h : d.HoldsFile place) {l : Location} {e : Entry}
    (hspot : d.spotAt place = .entry l e) : l = place ∧ ∃ stamp content, e = .file stamp content := by
  obtain ⟨rfl, hfind⟩ := find?_of_spotAt hspot
  rcases h with hfree | ⟨stamp, content, hfile⟩
  · rw [hfree] at hfind
    cases hfind
  · exact ⟨rfl, stamp, content, Option.some.inj (hfind.symm.trans hfile)⟩

/-- A walk that ends where a file or nothing stands has come to the last of its parts there. -/
theorem HoldsFile.last_of_walkWithin (h : d.HoldsFile place) {part : String}
    (hpart : Path.isName part = true) (hshort : part.utf8ByteSize ≤ nameLimit)
    (hleaf : ∀ e, d.find? (here ++ [part]) = some e → e ≠ .directory ∧ ∀ target, e ≠ .link target)
    (hwalk : d.walkWithin follow n here (part :: ps) = .ok (d.spotAt place)) :
    ps = [] ∧ here ++ [part] = place := by
  cases hfind : d.find? (here ++ [part]) with
  | none =>
    rw [walkWithin_free hpart hshort hfind] at hwalk
    split at hwalk
    · next hlast => exact ⟨hlast, (find?_of_spotAt_vacant (Except.ok.inj hwalk).symm).1⟩
    · split at hwalk
      · cases (find?_of_spotAt_vacant (Except.ok.inj hwalk).symm).2.1
      · cases hwalk
  | some e =>
    obtain ⟨hdirectory, hlink⟩ := hleaf e hfind
    rw [walkWithin_leaf hpart hshort hfind hdirectory hlink] at hwalk
    split at hwalk
    · next hlast => exact ⟨hlast, (h.eq_file (Except.ok.inj hwalk).symm).1⟩
    · cases hwalk

/-- A walk that ended where a file or nothing stood ends at the file that stands there now. -/
theorem Lasting.walkWithin_file (h : d.Lasting d') (hplace : d.HoldsFile place)
    (hfile : d'.find? place = some (.file stamp content))
    (hwalk : d.walkWithin follow n here ps = .ok (d.spotAt place)) :
    d'.walkWithin true n here ps = .ok (.entry place (.file stamp content)) := by
  -- the links left come first: a link puts its target's parts before the others
  induction n using Nat.strongRecOn generalizing here ps with
  | ind n ihn =>
    induction ps generalizing here with
    | nil =>
      rw [walkWithin_nil] at hwalk
      obtain ⟨-, _, _, hdirectory⟩ := hplace.eq_file (Except.ok.inj hwalk).symm
      cases hdirectory
    | cons part ps ihps =>
      rcases part_cases part with hstay | rfl | ⟨hpart, hlong⟩ | ⟨hpart, hshort⟩
      · rw [walkWithin_stay hstay] at hwalk ⊢
        exact ihps hwalk
      · rw [walkWithin_up] at hwalk ⊢
        exact ihps hwalk
      · rw [walkWithin_long hpart hlong] at hwalk
        cases hwalk
      by_cases hdirectory : d.find? (here ++ [part]) = some .directory
      · rw [walkWithin_down hpart hshort hdirectory] at hwalk
        rw [walkWithin_down hpart hshort (h.directory _ hdirectory)]
        exact ihps hwalk
      by_cases hlink : ∃ target, d.find? (here ++ [part]) = some (.link target)
      · obtain ⟨target, hlink⟩ := hlink
        rcases walkWithin_link_ok hpart hshort hlink hwalk with ⟨-, hend⟩ | ⟨m, rfl, htarget, hgo⟩
        · obtain ⟨-, _, _, hfound⟩ := hplace.eq_file hend
          cases hfound
        · rw [walkWithin_link hpart hshort (h.link _ _ hlink) (Or.inr rfl)]
          dsimp only
          rw [if_neg htarget]
          exact ihn m (Nat.lt_succ_self m) hgo
      · have hleaf : ∀ e, d.find? (here ++ [part]) = some e →
            e ≠ .directory ∧ ∀ target, e ≠ .link target := by
          intro e he
          constructor
          · rintro rfl
            exact hdirectory he
          · rintro target rfl
            exact hlink ⟨target, he⟩
        obtain ⟨rfl, rfl⟩ := hplace.last_of_walkWithin hpart hshort hleaf hwalk
        rw [walkWithin_leaf hpart hshort hfile (by simp) (by simp), if_pos rfl]

/-- The parts that led where a file or nothing stood lead to the file that stands there now. -/
theorem Lasting.locate_file (h : d.Lasting d') (hplace : d.HoldsFile place)
    (hfile : d'.find? place = some (.file stamp content))
    (hwalk : d.walk follow here ps = .ok (d.spotAt place)) :
    d'.locate true here ps = .ok (place, .file stamp content) := by
  have hwalkable := walkable_of_walk hwalk
  rw [walk_of_walkable hwalkable] at hwalk
  rw [locate_eq_ok_iff, walk_of_walkable hwalkable]
  exact h.walkWithin_file hplace hfile hwalk

/-- What was written is found by the path that it was written to. -/
theorem Written.lookup {overwrite : Bool} {l : Location} {data : Bytes}
    (h : d.Written overwrite l place stamp data d') : d'.lookup l = .ok (.file stamp data) := by
  have hlocate := h.lasting.locate_file h.holdsFile h.find?_place h.walk
  exact lookup_eq_ok_iff_walk.2 ⟨place, locate_eq_ok_iff.1 hlocate⟩

end Disk

end RootedStorage
