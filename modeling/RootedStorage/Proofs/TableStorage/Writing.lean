import RootedStorage.Proofs.FileStorage.Effects
import RootedStorage.TableStorage

/-!
# What the writes of a table do

A write through file storage and one that creates a file below the root fail without a trace or
leave the content in one file.  A write that replaces a file goes by way of a temporary one beside
the target, in the directory that both their names are looked up in.  `Staged` is the state in which
it is open.  From there on the entry at the temporary name goes in every case: it becomes the
target, or it is discarded.  Below a root in which no symbolic link stands, the cases left are few
enough to list, and what every write keeps is read off the list.
-/

namespace RootedStorage

namespace TableStorage

/-! ## The temporary name -/

/-- The characters of a temporary name stand around those of the target's name. -/
theorem toList_temporaryName (name : String) :
    (temporaryName name).toList = '.' :: (name.toList ++ ".trove-tmp".toList) := by
  simp [temporaryName, String.toList_append]

/-- The temporary file lies in the directory of its target. -/
theorem temporarySibling_concat (parent : Location) (name : String) :
    temporarySibling (parent ++ [name]) = parent ++ [temporaryName name] := by
  simp [temporarySibling]

/-- A temporary name is eleven octets longer than the target's name. -/
theorem utf8ByteSize_temporaryName (name : String) :
    (temporaryName name).utf8ByteSize = name.utf8ByteSize + 11 := by
  have hfirst : ".".utf8ByteSize = 1 := by decide
  have hlast : ".trove-tmp".utf8ByteSize = 10 := by decide
  rw [temporaryName, String.utf8ByteSize_append, String.utf8ByteSize_append, hfirst, hlast]
  omega

/-- No file is its own temporary file. -/
theorem temporaryName_ne (name : String) : temporaryName name ≠ name := by
  intro h
  have hsize := utf8ByteSize_temporaryName name
  rw [h] at hsize
  omega

/-- A temporary name is neither empty nor a dot segment. -/
theorem isName_temporaryName (name : String) : Path.isName (temporaryName name) = true := by
  have hlong : ∀ s : String, s.utf8ByteSize < 11 → temporaryName name ≠ s := by
    rintro s hs rfl
    rw [utf8ByteSize_temporaryName] at hs
    omega
  exact Path.isName_iff.2 ⟨hlong _ (by decide), hlong _ (by decide), hlong _ (by decide)⟩

/-- A temporary name has a slash only if the target's name has one. -/
theorem slash_not_mem_temporaryName {name : String} (h : '/' ∉ name.toList) :
    '/' ∉ (temporaryName name).toList := by
  rw [toList_temporaryName]
  simp [h]

/-- A name whose temporary name can stand in a path can stand there itself. -/
theorem isPathText_of_temporaryName {name : String}
    (h : Disk.isPathText (temporaryName name) = true) : Disk.isPathText name = true := by
  unfold Disk.isPathText at h ⊢
  rw [toList_temporaryName] at h
  simp only [Bool.not_eq_true', List.contains_eq_mem, decide_eq_false_iff_not] at h ⊢
  exact fun hnul => h (List.mem_cons_of_mem _ (List.mem_append_left _ hnul))

section
open Disk

variable {d d' : Disk} {l parent there place : Location} {name path : String} {stamp : Nat}
  {data : Bytes}

/-! ## Discarding and creating -/

/-- Discarding takes away what stands at the end of the path, if it is no directory. -/
theorem find?_discard {e : Entry} (hwalk : d.walk false [] l = .ok (d.spotAt place))
    (hfind : d.find? place = some e) (he : e ≠ .directory) (k : Location) :
    (discard l d).find? k = if k = place then none else d.find? k := by
  have hlocate : d.locate false [] l = .ok (place, e) := by
    rw [locate, hwalk, spotAt_of_find? hfind]
  have hdrop : discard l d = d.drop fun x => decide (x = place) := by
    unfold discard
    rw [hlocate]
    cases e <;> first | rfl | exact absurd rfl he
  rw [hdrop, find?_drop]
  by_cases hk : k = place
  · simp [hk, ne_nil_of_find? hfind he]
  · simp [hk]

/-- Discarding a temporary file keeps the disk well-formed. -/
theorem wellFormed_discard (hd : d.WellFormed) (hl : ∀ part ∈ l, '/' ∉ part.toList) :
    (discard l d).WellFormed := by
  unfold discard locate
  cases hwalk : d.walk false [] l with
  | error fault => exact hd
  | ok spot =>
    have hsound := walk_sound hd hl hwalk
    cases spot with
    | vacant at_ slash => exact hd
    | entry at_ e =>
      have hfind : d.find? at_ = some e := hsound
      cases e with
      | directory => exact hd
      | file stamp c => exact hd.drop_leaf (by rw [hfind]; simp)
      | pipe => exact hd.drop_leaf (by rw [hfind]; simp)
      | link target => exact hd.drop_leaf (by rw [hfind]; simp)

/-- Creating a file fails without a trace or leaves the content in a new file. -/
theorem createEncoded_cases (hd : d.WellFormed) (hl : ∀ part ∈ parent ++ [name], '/' ∉ part.toList)
    (hname : Path.isName name = true) (path : String) (content : Outcome Bytes) :
    (∃ fault e, d.openWrite false (parent ++ [name]) = .error fault ∧
      createEncoded (parent ++ [name]) path content d = (.error e, d)) ∨
    (∃ e e' d', content = .error e ∧
      createEncoded (parent ++ [name]) path content d = (.error e', d') ∧
      ∀ k, d'.find? k = d.find? k) ∨
    ∃ data place stamp d', content = .ok data ∧
      createEncoded (parent ++ [name]) path content d = (.ok (), d') ∧
      d.Written false (parent ++ [name]) place stamp data d' := by
  unfold createEncoded
  cases hopen : d.openWrite false (parent ++ [name]) with
  | error fault => cases fault <;> exact Or.inl ⟨_, _, rfl, rfl⟩
  | ok opened =>
    obtain ⟨stamp, d'⟩ := opened
    obtain ⟨place, hwritten⟩ := written_of_openWrite hd hl hopen
    right
    cases content with
    | ok data => exact Or.inr ⟨data, place, stamp, _, rfl, rfl, hwritten.write path data⟩
    | error e =>
      refine Or.inl ⟨e, e, discard (parent ++ [name]) d', rfl, rfl, fun k => ?_⟩
      have hfree : d.find? place = none := hwritten.before.resolve_right (by simp)
      obtain ⟨m, there, hreach, hshort, hwalk⟩ := exists_reaches_of_walk hname hwritten.walk
      have hwalkable := walkable_of_walk hwritten.walk
      rw [walkWithin_name hname hshort] at hwalk
      have hplace : there ++ [name] = place := spotAt_inj (Except.ok.inj hwalk)
      have hwalk' := walk_false_of_reaches (hwritten.reaches hreach) hname hshort hwalkable
      rw [hplace] at hwalk'
      rw [find?_discard hwalk' hwritten.find?_place (by simp), hwritten.find?]
      by_cases hk : k = place
      · rw [if_pos hk, hk, hfree]
      · rw [if_neg hk, if_neg hk]

/-- Creating a file for a table keeps the disk well-formed, also if it fails halfway. -/
theorem wellFormed_createEncoded (hd : d.WellFormed) (hl : ∀ part ∈ l, '/' ∉ part.toList)
    (path : String) (content : Outcome Bytes) : (createEncoded l path content d).2.WellFormed := by
  unfold createEncoded
  cases hopen : d.openWrite false l with
  | error fault => cases fault <;> exact hd
  | ok opened =>
    obtain ⟨stamp, d'⟩ := opened
    obtain ⟨place, hwritten⟩ := written_of_openWrite hd hl hopen
    cases content with
    | ok data => exact (hwritten.write path data).wellFormed
    | error e => exact wellFormed_discard hwritten.wellFormed hl

/-! ## The open temporary file -/

/-- The temporary file of `parent ++ [name]` is open, in the directory `there`, and holds `data`.  Its
content stands at `place`, which is the temporary name there unless that is a link. -/
structure Staged (d : Disk) (parent : Location) (name : String) (there place : Location)
    (stamp : Nat) (data : Bytes) (d' : Disk) : Prop
    extends d.Written true (parent ++ [temporaryName name]) place stamp data d' where
  reaches_there : ∃ m, Reaches d linkLimit [] parent m there
  short : (temporaryName name).utf8ByteSize ≤ nameLimit
  walkable : Walkable (parent ++ [temporaryName name])

/-- The temporary file that was opened is staged and empty. -/
theorem staged_of_openWrite (hd : d.WellFormed)
    (hl : ∀ part ∈ parent ++ [temporaryName name], '/' ∉ part.toList)
    (h : d.openWrite true (parent ++ [temporaryName name]) = .ok (stamp, d')) :
    ∃ there place, Staged d parent name there place stamp [] d' := by
  obtain ⟨place, hwritten⟩ := written_of_openWrite hd hl h
  obtain ⟨m, there, hreach, hshort, -⟩ :=
    exists_reaches_of_walk (isName_temporaryName name) hwritten.walk
  exact ⟨there, place, hwritten, ⟨m, hreach⟩, hshort, walkable_of_walk hwritten.walk⟩

namespace Staged

/-- What is written to the temporary file is staged in it. -/
theorem write (h : Staged d parent name there place stamp [] d') (path : String) (data : Bytes) :
    Staged d parent name there place stamp data (Writer.write { path, stamp } data d').2 where
  toWritten := h.toWritten.write path data
  reaches_there := h.reaches_there
  short := h.short
  walkable := h.walkable

variable (h : Staged d parent name there place stamp data d')
include h

/-- The target can be looked up where the temporary file can. -/
theorem walkable_target : Walkable (parent ++ [name]) := by
  refine h.walkable.of_last_le (isPathText_of_temporaryName ?_) ?_
  · exact List.all_eq_true.1 h.walkable.1 _ (List.mem_append_right _ List.mem_cons_self)
  · rw [utf8ByteSize_temporaryName]
    omega

/-- A target whose temporary file could be opened has a name within the limit. -/
theorem short_target : name.utf8ByteSize ≤ nameLimit := by
  have hshort := h.short
  rw [utf8ByteSize_temporaryName] at hshort
  omega

/-- The temporary file lies in a directory that stood before. -/
theorem find?_there (hd : d.WellFormed) : d.find? there = some .directory := by
  obtain ⟨m, hreach⟩ := h.reaches_there
  exact hreach.find? hd (find?_nil d)

/-- On a disk with the same ways, the temporary name is looked up beside the target. -/
theorem walk_sibling_of {d'' : Disk}
    (hkeep : ∀ m, Reaches d linkLimit [] parent m there → Reaches d'' linkLimit [] parent m there) :
    d''.walk false [] (parent ++ [temporaryName name]) =
      .ok (d''.spotAt (there ++ [temporaryName name])) := by
  obtain ⟨m, hreach⟩ := h.reaches_there
  exact walk_false_of_reaches (hkeep m hreach) (isName_temporaryName name) h.short h.walkable

/-- As long as the way to the directory lasts, the target's path leads to the target's place. -/
theorem walk_target_of {d'' : Disk} (hname : Path.isName name = true)
    (hkeep : ∀ m, Reaches d linkLimit [] parent m there → Reaches d'' linkLimit [] parent m there) :
    d''.walk false [] (parent ++ [name]) = .ok (d''.spotAt (there ++ [name])) := by
  obtain ⟨m, hreach⟩ := h.reaches_there
  exact walk_false_of_reaches (hkeep m hreach) hname h.short_target h.walkable_target

/-- The temporary file's path still leads to its place. -/
theorem walk_sibling :
    d'.walk false [] (parent ++ [temporaryName name]) =
      .ok (d'.spotAt (there ++ [temporaryName name])) :=
  h.walk_sibling_of fun _ => h.reaches

/-- The target's path leads to the target's place in the same directory. -/
theorem walk_target (hname : Path.isName name = true) :
    d'.walk false [] (parent ++ [name]) = .ok (d'.spotAt (there ++ [name])) :=
  h.walk_target_of hname fun _ => h.reaches

/-- The content stands at the temporary name, or a link stands there. -/
theorem place_eq_or_link : place = there ++ [temporaryName name] ∨
    ∃ target, d.find? (there ++ [temporaryName name]) = some (.link target) := by
  by_cases hlink : ∃ target, d.find? (there ++ [temporaryName name]) = some (.link target)
  · exact Or.inr hlink
  · left
    obtain ⟨m, hreach⟩ := h.reaches_there
    have hname := isName_temporaryName name
    have hwalk := h.walk
    rw [walk_of_reaches_of_not_link hreach hname h.short h.walkable fun target ht =>
      hlink ⟨target, ht⟩] at hwalk
    exact (spotAt_inj (Except.ok.inj hwalk)).symm

/-- No directory stands at the temporary name, but something does. -/
theorem exists_sibling : ∃ e, e ≠ .directory ∧
    d'.find? (there ++ [temporaryName name]) = some e := by
  rcases h.place_eq_or_link with hplace | ⟨target, hlink⟩
  · exact ⟨_, by simp, hplace ▸ h.find?_place⟩
  · exact ⟨.link target, by simp, (h.find?_eq_of_not_file (by simp)).2 hlink⟩

/-- Discarding takes the entry at the temporary name away. -/
theorem find?_discard (k : Location) :
    (discard (parent ++ [temporaryName name]) d').find? k =
      if k = there ++ [temporaryName name] then none else d'.find? k := by
  obtain ⟨e, he, hfind⟩ := h.exists_sibling
  exact TableStorage.find?_discard h.walk_sibling hfind he k

/-- Moving puts the entry at the temporary name in the place of the target. -/
theorem exists_moveFile (hd : d.WellFormed) (hentry : EntryName name)
    (htarget : d.find? (there ++ [name]) ≠ some .directory) :
    ∃ e d'', d'.find? (there ++ [temporaryName name]) = some e ∧
      d'.moveFile (parent ++ [temporaryName name]) (parent ++ [name]) = .ok d'' ∧
      (∀ k, d''.find? k = if k = there ++ [name] then some e
        else if k = there ++ [temporaryName name] then none else d'.find? k) ∧
      d''.WellFormed := by
  obtain ⟨e, he, hfind⟩ := h.exists_sibling
  have hdirectory : d'.find? there = some .directory :=
    (h.find?_eq_of_not_file (by simp)).2 (h.find?_there hd)
  have hne : there ++ [temporaryName name] ≠ there ++ [name] := by
    simpa using temporaryName_ne name
  obtain ⟨d'', hmove, hmoved⟩ := moveFile_spec h.wellFormed h.walk_sibling hfind he
    (h.walk_target hentry.isName) ⟨there, name, rfl, hdirectory, hentry⟩
    (fun hx => htarget ((h.find?_eq_of_not_file (by simp)).1 hx)) hne
  exact ⟨e, d'', hfind, hmove, hmoved⟩

/-- A file is not moved onto a directory. -/
theorem moveFile_onto_directory (hname : Path.isName name = true)
    (htarget : d.find? (there ++ [name]) = some .directory) :
    d'.moveFile (parent ++ [temporaryName name]) (parent ++ [name]) = .error .isDirectory := by
  obtain ⟨e, he, hfind⟩ := h.exists_sibling
  exact Disk.moveFile_onto_directory h.walk_sibling hfind he (h.walk_target hname)
    ((h.find?_eq_of_not_file (by simp)).2 htarget)

end Staged

/-! ## The replacement -/

/-- What a replacement of `parent ++ [name]` can do: nothing, if the temporary file cannot be opened;
take the entry at the temporary name away; or put it in the place of the target. -/
inductive Replacement (d : Disk) (parent : Location) (name : String) (content : Outcome Bytes) :
    Effect Unit → Prop where
  | refused {fault : DiskFault} (e : StorageError) :
    d.openWrite true (parent ++ [temporaryName name]) = .error fault →
    Replacement d parent name content (.error e, d)
  | discarded {there place : Location} {stamp : Nat} {data : Bytes} {d' d'' : Disk}
    (e : StorageError) :
    Staged d parent name there place stamp data d' →
    (∃ e, content = .error e) ∨ d.find? (there ++ [name]) = some .directory →
    (∀ k, d''.find? k = if k = there ++ [temporaryName name] then none else d'.find? k) →
    Replacement d parent name content (.error e, d'')
  | moved {there place : Location} {stamp : Nat} {data : Bytes} {d' d'' : Disk} {e : Entry} :
    Staged d parent name there place stamp data d' → content = .ok data →
    d.find? (there ++ [name]) ≠ some .directory →
    d'.find? (there ++ [temporaryName name]) = some e →
    (∀ k, d''.find? k = if k = there ++ [name] then some e
      else if k = there ++ [temporaryName name] then none else d'.find? k) →
    Replacement d parent name content (.ok (), d'')

/-- A replacement does one of these things, and leaves a well-formed disk. -/
theorem replaceEncoded_spec (hd : d.WellFormed)
    (hl : ∀ part ∈ parent ++ [name], '/' ∉ part.toList) (hname : Path.isName name = true)
    (path : String) (content : Outcome Bytes) :
    Replacement d parent name content (replaceEncoded (parent ++ [name]) path content d) ∧
      (replaceEncoded (parent ++ [name]) path content d).2.WellFormed := by
  have hsibling : ∀ part ∈ parent ++ [temporaryName name], '/' ∉ part.toList := by
    intro part hpart
    rcases List.mem_append.1 hpart with hpart | hpart
    · exact hl part (List.mem_append_left _ hpart)
    · obtain rfl := List.mem_singleton.1 hpart
      exact slash_not_mem_temporaryName (hl name (by simp))
  unfold replaceEncoded
  rw [temporarySibling_concat]
  dsimp only
  cases hopen : d.openWrite true (parent ++ [temporaryName name]) with
  | error fault => cases fault <;> exact ⟨.refused _ hopen, hd⟩
  | ok opened =>
    obtain ⟨stamp, d'⟩ := opened
    obtain ⟨there, place, hstaged⟩ := staged_of_openWrite hd hsibling hopen
    cases content with
    | error e =>
      exact ⟨.discarded e hstaged (Or.inl ⟨e, rfl⟩) hstaged.find?_discard,
        wellFormed_discard hstaged.wellFormed hsibling⟩
    | ok data =>
      have hwritten := hstaged.write path data
      have hentry : EntryName name :=
        { isName := hname
          no_slash := hl name (by simp)
          isPathText := List.all_eq_true.1 hwritten.walkable_target.1 name (by simp)
          short := hwritten.short_target }
      dsimp only [FileStorage.opened]
      by_cases htarget : d.find? (there ++ [name]) = some .directory
      · rw [hwritten.moveFile_onto_directory hname htarget]
        exact ⟨.discarded _ hwritten (Or.inr htarget) hwritten.find?_discard,
          wellFormed_discard hwritten.wellFormed hsibling⟩
      · obtain ⟨e, d'', hfind, hmove, hmoved, hd''⟩ := hwritten.exists_moveFile hd hentry htarget
        rw [hmove]
        exact ⟨.moved hwritten rfl htarget hfind hmoved, hd''⟩

/-- Replacing a table is a replacement, whatever the content is. -/
theorem replacement_replaceEncoded (hd : d.WellFormed)
    (hl : ∀ part ∈ parent ++ [name], '/' ∉ part.toList) (hname : Path.isName name = true)
    (path : String) (content : Outcome Bytes) :
    Replacement d parent name content (replaceEncoded (parent ++ [name]) path content d) :=
  (replaceEncoded_spec hd hl hname path content).1

end

/-! ## Where no link stands -/

section
open Disk

variable {root : Location} {d d' : Disk} {path : String} {above : List String} {name : String}

/-- Where no link stands, the temporary file stands beside the target. -/
theorem Staged.eq_of_linkFree {there place : Location} {stamp : Nat} {data : Bytes}
    (h : Staged d (root ++ above) name there place stamp data d') (hd : d.WellFormed)
    (hroot : d.LinkFreeBelow root) (hnames : Path.segments? path = some (above ++ [name])) :
    there = root ++ above ∧ place = root ++ above ++ [temporaryName name] := by
  have hparent : d.Straight (root ++ above) := hroot.straight hd fun _ hpart =>
    Path.isName_of_mem_segments? hnames (List.mem_append_left _ hpart)
  obtain ⟨m, hreach⟩ := h.reaches_there
  obtain ⟨-, hthere⟩ := hreach.eq_of_no_link hparent.isName hparent.no_link
  rw [List.nil_append] at hthere
  refine ⟨hthere, ?_⟩
  rcases h.place_eq_or_link with hplace | ⟨target, hlink⟩
  · rw [hplace, hthere]
  · rw [hthere, List.append_assoc] at hlink
    exact absurd hlink (hroot.no_link _ target)

/-- Where no link stands, a replacement does nothing, takes away what stands at the temporary name, or
does so and leaves the content in the target. -/
theorem replaceEncoded_cases (hd : d.WellFormed) (hroot : d.LinkFreeBelow root)
    (hnames : Path.segments? path = some (above ++ [name])) (content : Outcome Bytes) :
    (∃ e, replaceEncoded (root ++ (above ++ [name])) path content d = (.error e, d)) ∨
    (∃ e d', replaceEncoded (root ++ (above ++ [name])) path content d = (.error e, d') ∧
      d'.WellFormed ∧
      ∀ k, d'.find? k = if k = root ++ (above ++ [temporaryName name]) then none else d.find? k) ∨
    ∃ data stamp d', content = .ok data ∧
      replaceEncoded (root ++ (above ++ [name])) path content d = (.ok (), d') ∧ d'.WellFormed ∧
      Walkable (root ++ (above ++ [name])) ∧
      ∀ k, d'.find? k = if k = root ++ (above ++ [name]) then some (.file stamp data)
        else if k = root ++ (above ++ [temporaryName name]) then none else d.find? k := by
  have hl := FileStorage.no_slash_of_segments? hd hroot.isDirectory hnames
  have hname := Path.isName_of_segments?_concat hnames
  simp only [← List.append_assoc] at hl ⊢
  obtain ⟨hreplaced, hd'⟩ := replaceEncoded_spec hd hl hname path content
  generalize replaceEncoded (root ++ above ++ [name]) path content d = result at hreplaced hd' ⊢
  cases hreplaced with
  | refused e hopen => exact Or.inl ⟨e, rfl⟩
  | discarded e hstaged _ hdiscard =>
    obtain ⟨rfl, rfl⟩ := hstaged.eq_of_linkFree hd hroot hnames
    refine Or.inr (Or.inl ⟨e, _, rfl, hd', fun k => ?_⟩)
    rw [hdiscard, hstaged.find?]
    by_cases hk : k = root ++ above ++ [temporaryName name]
    · rw [if_pos hk, if_pos hk]
    · rw [if_neg hk, if_neg hk, if_neg hk]
  | @moved _ _ stamp data d' d'' _ hstaged hcontent _ hsibling hmoved =>
    obtain ⟨rfl, rfl⟩ := hstaged.eq_of_linkFree hd hroot hnames
    -- what moves is the temporary file, which is no link
    rw [hstaged.find?_place] at hsibling
    obtain rfl := Option.some.inj hsibling
    refine Or.inr (Or.inr ⟨data, stamp, d'', hcontent, rfl, hd', hstaged.walkable_target, fun k => ?_⟩)
    rw [hmoved, hstaged.find?]
    by_cases hk : k = root ++ above ++ [temporaryName name]
    · rw [if_pos hk, if_pos hk]
    · rw [if_neg hk, if_neg hk, if_neg hk]

end

/-! ## Writing below a root -/

/-- No table is written over the root or at a path that is refused. -/
theorem exists_pushdownWrite_error {path : String}
    (h : ∀ names, Path.segments? path = some names → names = []) (root : Location)
    (content : Outcome Bytes) (overwrite : Bool) (d : Disk) :
    ∃ e, pushdownWrite root path content overwrite d = (.error e, d) := by
  unfold pushdownWrite
  by_cases hroot : Path.isRoot path = true
  · rw [if_pos hroot]
    exact ⟨_, rfl⟩
  · rw [if_neg hroot]
    cases hsegments : Path.segments path with
    | error e => exact ⟨e, rfl⟩
    | ok names =>
      have hnames := Path.segments_eq_ok_iff.1 hsegments
      obtain rfl := h names hnames
      exact absurd (Path.isRoot_iff.2 hnames) hroot

/-- Below the root a write replaces or creates the file that the path names. -/
theorem pushdownWrite_eq {path : String} {names : List String}
    (hnames : Path.segments? path = some names) (hne : names ≠ []) (root : Location)
    (content : Outcome Bytes) (overwrite : Bool) (d : Disk) :
    pushdownWrite root path content overwrite d =
      if overwrite then replaceEncoded (root ++ names) path content d
      else createEncoded (root ++ names) path content d := by
  have hroot : ¬ Path.isRoot path = true := by
    rw [Path.isRoot_iff, hnames, Option.some.injEq]
    exact hne
  unfold pushdownWrite
  rw [if_neg hroot, Path.segments_eq_ok_iff.2 hnames]

/-- A write below a root does nothing, or replaces or creates the file of its path. -/
theorem pushdownWrite_cases (root : Location) (path : String) (content : Outcome Bytes)
    (overwrite : Bool) (d : Disk) :
    (∃ e, pushdownWrite root path content overwrite d = (.error e, d)) ∨
    ∃ above name, Path.segments? path = some (above ++ [name]) ∧
      pushdownWrite root path content overwrite d =
        if overwrite then replaceEncoded (root ++ (above ++ [name])) path content d
        else createEncoded (root ++ (above ++ [name])) path content d := by
  by_cases hrefused : ∀ names, Path.segments? path = some names → names = []
  · exact Or.inl (exists_pushdownWrite_error hrefused root content overwrite d)
  · obtain ⟨names, hnames, hne⟩ : ∃ names, Path.segments? path = some names ∧ names ≠ [] := by
      simpa using hrefused
    obtain ⟨above, name, rfl⟩ := (List.eq_nil_or_concat' names).resolve_left hne
    exact Or.inr ⟨above, name, hnames, pushdownWrite_eq hnames hne root content overwrite d⟩

/-! ## Writing through file storage -/

/-- A write through file storage writes the content or does nothing. -/
theorem streamWrite_cases (t : TableStorage) (format : TableFormat) (path : String)
    (content : Outcome Bytes) (overwrite : Bool) (d : Disk) :
    (∃ e, t.streamWrite format path content overwrite d = (.error e, d)) ∨
    ∃ data, content = .ok data ∧
      t.streamWrite format path content overwrite d = t.files.writeBytes path data overwrite d := by
  unfold streamWrite
  cases content with
  | error e => exact Or.inl ⟨e, rfl⟩
  | ok data =>
    dsimp only
    split
    · exact Or.inr ⟨data, rfl, rfl⟩
    · split
      · next text hdecode =>
        rw [Utf8.eq_encode_of_decode? hdecode]
        exact Or.inr ⟨_, rfl, rfl⟩
      · exact Or.inl ⟨_, rfl⟩

/-- Content that suits the format is written as it is. -/
theorem streamWrite_ok (t : TableStorage) {format : TableFormat} {data : Bytes}
    (h : format.isBinary = true ∨ Utf8.isValid data = true) (path : String) (overwrite : Bool)
    (d : Disk) : t.streamWrite format path (.ok data) overwrite d =
      t.files.writeBytes path data overwrite d := by
  unfold streamWrite
  dsimp only
  split
  · rfl
  · next hbinary =>
    obtain ⟨text, hdecode⟩ := Option.isSome_iff_exists.1 (h.resolve_left hbinary)
    rw [hdecode, Utf8.eq_encode_of_decode? hdecode]
    rfl

end TableStorage

end RootedStorage
