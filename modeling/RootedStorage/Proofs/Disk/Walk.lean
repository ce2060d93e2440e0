import RootedStorage.Proofs.Disk.Reach

/-!
# Where walks end

A walk that succeeds ends at an entry that stands there, or at a free place in a directory under a
name that an entry can have (`walk_sound`).  A walk to `parent ++ [name]` looks at `name` in the
directory that `parent` leads to, or fails whatever the name is (`walk_child`).
-/

namespace RootedStorage

namespace Disk

variable {d d' : Disk} {follow : Bool} {n : Nat} {here : Location}

/-- The parts are texts of paths, and the path that they make is not too long. -/
def Walkable (ps : List String) : Prop :=
  ps.all isPathText = true ∧ ps.foldl (fun n part => n + part.utf8ByteSize + 1) 0 ≤ pathLimit

/-- Parts that fit the limits are walked from where the walk starts. -/
theorem walk_of_walkable {ps : List String} (h : Walkable ps) :
    d.walk follow here ps = d.walkWithin follow linkLimit here ps := by
  unfold walk
  rw [if_neg (by simp [h.1]), if_neg (Nat.not_lt.2 h.2)]

/-- Only parts that fit the limits lead anywhere. -/
theorem walkable_of_walk {ps : List String} {spot : Spot}
    (h : d.walk follow here ps = .ok spot) : Walkable ps := by
  unfold walk at h
  split at h
  · cases h
  · next htext =>
    split at h
    · cases h
    · next hlong => exact ⟨by simpa using htext, Nat.not_lt.1 hlong⟩

/-- Parts that do not fit the limits lead nowhere. -/
theorem walk_error_of_not_walkable {ps : List String} (h : ¬ Walkable ps) :
    ∃ fault, d.walk follow here ps = .error fault := by
  cases hwalk : d.walk follow here ps with
  | error fault => exact ⟨fault, rfl⟩
  | ok spot => exact absurd (walkable_of_walk hwalk) h

/-- No parts fit the limits. -/
theorem walkable_nil : Walkable [] := ⟨rfl, Nat.zero_le _⟩

/-- The size of a path only grows with its parts. -/
theorem le_foldl_size (ps : List String) (n : Nat) :
    n ≤ ps.foldl (fun n part => n + part.utf8ByteSize + 1) n := by
  induction ps generalizing n with
  | nil => exact Nat.le_refl n
  | cons part ps ih => exact Nat.le_trans (by dsimp only; omega) (ih _)

/-- What stands in front of parts that fit the limits fits them. -/
theorem Walkable.of_append {ps rest : List String} (h : Walkable (ps ++ rest)) : Walkable ps := by
  obtain ⟨htext, hlong⟩ := h
  rw [List.all_append, Bool.and_eq_true] at htext
  rw [List.foldl_append] at hlong
  exact ⟨htext.1, Nat.le_trans (le_foldl_size rest _) hlong⟩

/-- The last part may be replaced by a shorter text. -/
theorem Walkable.of_last_le {parent : List String} {a b : String}
    (h : Walkable (parent ++ [a])) (htext : isPathText b = true)
    (hsize : b.utf8ByteSize ≤ a.utf8ByteSize) : Walkable (parent ++ [b]) := by
  obtain ⟨hall, hlong⟩ := h
  rw [List.all_append, Bool.and_eq_true] at hall
  rw [List.foldl_append, List.foldl_cons, List.foldl_nil] at hlong
  refine ⟨?_, ?_⟩
  · rw [List.all_append, Bool.and_eq_true]
    exact ⟨hall.1, by simp [htext]⟩
  · rw [List.foldl_append, List.foldl_cons, List.foldl_nil]
    omega

/-- An entry is located exactly if the walk ends at it. -/
theorem locate_eq_ok_iff {ps : List String} {place : Location} {e : Entry} :
    d.locate follow here ps = .ok (place, e) ↔ d.walk follow here ps = .ok (.entry place e) := by
  unfold locate
  cases d.walk follow here ps with
  | error fault => simp
  | ok spot => cases spot <;> simp

/-- What is looked up stands where a walk through links ends. -/
theorem lookup_eq_ok_iff_walk {l : Location} {e : Entry} :
    d.lookup l = .ok e ↔ ∃ place, d.walk true [] l = .ok (.entry place e) := by
  simp only [← locate_eq_ok_iff]
  unfold lookup
  cases d.locate true [] l with
  | error fault => simp [Except.map]
  | ok found => simp [Except.map, Prod.ext_iff]

/-! ## What a walk finds -/

/-- The spot describes the disk. -/
def Spot.Sound (d : Disk) : Spot → Prop
  | .entry l e => d.find? l = some e
  | .vacant l _ => d.find? l = none ∧ ∃ parent name,
      l = parent ++ [name] ∧ d.find? parent = some .directory ∧ EntryName name

section
variable {part : String} {ps : List String} {spot : Spot} (hpart : EntryName part)
  (h : d.walkWithin follow n here (part :: ps) = .ok spot)
include hpart h

/-- The spot at a free place in a directory is sound. -/
theorem sound_of_free (hhere : d.find? here = some .directory)
    (hfind : d.find? (here ++ [part]) = none) : Spot.Sound d spot := by
  have hsound : ∀ slash, Spot.Sound d (.vacant (here ++ [part]) slash) :=
    fun _ => ⟨hfind, here, part, rfl, hhere, hpart⟩
  rw [walkWithin_free hpart.isName hpart.short hfind] at h
  split at h
  · cases h
    exact hsound false
  · split at h
    · cases h
      exact hsound true
    · cases h

/-- The spot at an entry without children is sound. -/
theorem sound_of_leaf {e : Entry} (hfind : d.find? (here ++ [part]) = some e)
    (hdirectory : e ≠ .directory) (hlink : ∀ target, e ≠ .link target) : Spot.Sound d spot := by
  rw [walkWithin_leaf hpart.isName hpart.short hfind hdirectory hlink] at h
  split at h
  · cases h
    exact hfind
  · cases h

end

/-- A link's target starts in a directory. -/
theorem find?_start {target : String} (hhere : d.find? here = some .directory) :
    d.find? (start here target) = some .directory := by
  unfold start
  split
  · exact find?_nil d
  · exact hhere

/-- A walk from a directory of a well-formed disk ends at a sound spot. -/
theorem walkWithin_sound (hd : d.WellFormed) {ps : List String} {spot : Spot}
    (hhere : d.find? here = some .directory)
    (hps : ∀ part ∈ ps, '/' ∉ part.toList ∧ isPathText part = true)
    (h : d.walkWithin follow n here ps = .ok spot) : Spot.Sound d spot := by
  -- a link makes the list of parts longer, but leaves fewer links to follow
  induction n using Nat.strongRecOn generalizing here ps with
  | ind n ihn =>
    induction ps generalizing here with
    | nil =>
      rw [walkWithin_nil] at h
      cases h
      exact hhere
    | cons part ps ihps =>
      obtain ⟨⟨hslash, htext⟩, hrest⟩ := List.forall_mem_cons.1 hps
      rcases part_cases part with hstay | rfl | ⟨hname, hlong⟩ | ⟨hname, hshort⟩
      · rw [walkWithin_stay hstay] at h
        exact ihps hhere hrest h
      · rw [walkWithin_up] at h
        exact ihps (hd.find?_dropLast hhere) hrest h
      · rw [walkWithin_long hname hlong] at h
        cases h
      have hpart : EntryName part := ⟨hname, hslash, htext, hshort⟩
      cases hfind : d.find? (here ++ [part]) with
      | none => exact sound_of_free hpart h hhere hfind
      | some e =>
        cases e with
        | directory =>
          rw [walkWithin_down hname hshort hfind] at h
          exact ihps hfind hrest h
        | file stamp c => exact sound_of_leaf hpart h hfind (by simp) (by simp)
        | pipe => exact sound_of_leaf hpart h hfind (by simp) (by simp)
        | link target =>
          rcases walkWithin_link_ok hname hshort hfind h with ⟨-, rfl⟩ | ⟨m, rfl, -, hwalk⟩
          · exact hfind
          · refine ihn m (Nat.lt_succ_self m) (find?_start hhere) (fun p hp => ?_) hwalk
            rcases List.mem_append.1 hp with hp | hp
            · exact ⟨slash_not_mem_parts hp, isPathText_of_mem_parts (hd.target hfind) hp⟩
            · exact hrest p hp

/-- A walk from a directory ends where it says. -/
theorem walk_sound_from (hd : d.WellFormed) {ps : List String} {spot : Spot}
    (hhere : d.find? here = some .directory) (hps : ∀ part ∈ ps, '/' ∉ part.toList)
    (h : d.walk follow here ps = .ok spot) : Spot.Sound d spot := by
  have hwalkable := walkable_of_walk h
  rw [walk_of_walkable hwalkable] at h
  refine walkWithin_sound hd hhere (fun part hpart => ⟨hps part hpart, ?_⟩) h
  exact List.all_eq_true.1 hwalkable.1 part hpart

/-- A walk from the root of a well-formed disk ends at a sound spot. -/
theorem walk_sound (hd : d.WellFormed) {ps : List String} {spot : Spot}
    (hps : ∀ part ∈ ps, '/' ∉ part.toList) (h : d.walk follow [] ps = .ok spot) :
    Spot.Sound d spot :=
  walk_sound_from hd (find?_nil d) hps h

/-- What a path text leads to stands where it is found. -/
theorem find?_of_locate_text (hd : d.WellFormed) (hhere : d.find? here = some .directory)
    {text : String} {place : Location} {e : Entry}
    (h : d.locate follow (start here text) (parts text) = .ok (place, e)) :
    d.find? place = some e :=
  walk_sound_from hd (find?_start hhere) (fun _ hpart => slash_not_mem_parts hpart)
    (locate_eq_ok_iff.1 h)

/-! ## Walks to a name -/

/-- A walk looks at the last name in the directory that the others lead to; where they lead to no
directory it fails. -/
theorem walk_child (d : Disk) (parent : List String) :
    (∃ m there, Reaches d linkLimit [] parent m there ∧
      ∀ (follow : Bool) (name : String), Walkable (parent ++ [name]) →
        d.walk follow [] (parent ++ [name]) = d.walkWithin follow m there [name]) ∨
    (∀ (follow : Bool) (name : String), Path.isName name = true →
      ∃ fault, d.walk follow [] (parent ++ [name]) = .error fault) := by
  refine (reaches_or_blocked d linkLimit [] parent).imp ?_ fun h follow name hname => ?_
  · rintro ⟨m, there, h⟩
    refine ⟨m, there, h, fun follow name hwalkable => ?_⟩
    rw [walk_of_walkable hwalkable, h.walkWithin_append (by simp)]
  · by_cases hwalkable : Walkable (parent ++ [name])
    · rw [walk_of_walkable hwalkable]
      exact h follow name [] hname
    · exact walk_error_of_not_walkable hwalkable

/-- A walk to a name that succeeds has found the directory of the name. -/
theorem exists_reaches_of_walk {parent : List String} {name : String} {spot : Spot}
    (hname : Path.isName name = true) (h : d.walk follow [] (parent ++ [name]) = .ok spot) :
    ∃ m there, Reaches d linkLimit [] parent m there ∧ name.utf8ByteSize ≤ nameLimit ∧
      d.walkWithin follow m there [name] = .ok spot := by
  rcases walk_child d parent with ⟨m, there, hreach, hwalk⟩ | hblocked
  · rw [hwalk follow name (walkable_of_walk h)] at h
    refine ⟨m, there, hreach, ?_, h⟩
    by_contra hlong
    rw [walkWithin_long hname (Nat.not_le.1 hlong)] at h
    cases h
  · obtain ⟨fault, herror⟩ := hblocked follow name hname
    rw [herror] at h
    cases h

/-- Names lead to a directory if a walk goes on from them to other names. -/
theorem exists_reaches_of_walk_append {ps names : List String} {spot : Spot}
    (hnames : ∀ part ∈ names, Path.isName part = true) (hne : names ≠ [])
    (h : d.walk follow [] (ps ++ names) = .ok spot) :
    ∃ m there, Reaches d linkLimit [] ps m there := by
  obtain ⟨name, rest, rfl⟩ := List.exists_cons_of_ne_nil hne
  refine (reaches_or_blocked d linkLimit [] ps).resolve_right fun hblocked => ?_
  obtain ⟨fault, herror⟩ := hblocked follow name rest (hnames name List.mem_cons_self)
  rw [walk_of_walkable (walkable_of_walk h), herror] at h
  cases h

/-- A walk goes on from the directory that its first parts reach. -/
theorem walk_of_reaches {parent : List String} {name : String} {m : Nat} {there : Location}
    (hreach : Reaches d linkLimit [] parent m there) (hwalkable : Walkable (parent ++ [name])) :
    d.walk follow [] (parent ++ [name]) = d.walkWithin follow m there [name] := by
  rw [walk_of_walkable hwalkable, hreach.walkWithin_append (by simp)]

/-- The place of a name in the directory that the names before it lead to. -/
theorem walk_false_of_reaches {parent : List String} {name : String} {m : Nat} {there : Location}
    (hreach : Reaches d linkLimit [] parent m there) (hname : Path.isName name = true)
    (hshort : name.utf8ByteSize ≤ nameLimit) (hwalkable : Walkable (parent ++ [name])) :
    d.walk false [] (parent ++ [name]) = .ok (d.spotAt (there ++ [name])) := by
  rw [walk_of_reaches hreach hwalkable, walkWithin_name hname hshort]

/-- Following links makes no difference where none stands. -/
theorem walk_of_reaches_of_not_link {parent : List String} {name : String} {m : Nat}
    {there : Location} (hreach : Reaches d linkLimit [] parent m there)
    (hname : Path.isName name = true) (hshort : name.utf8ByteSize ≤ nameLimit)
    (hwalkable : Walkable (parent ++ [name]))
    (hlink : ∀ target, d.find? (there ++ [name]) ≠ some (.link target)) :
    d.walk follow [] (parent ++ [name]) = .ok (d.spotAt (there ++ [name])) := by
  rw [walk_of_reaches hreach hwalkable, walkWithin_name_of_not_link hname hshort hlink,
    walkWithin_name hname hshort]

/-- A walk to the location of a directory ends there. -/
theorem WellFormed.walk_directory (hd : d.WellFormed) {l : Location}
    (h : d.find? l = some .directory) {spot : Spot} (hwalk : d.walk follow [] l = .ok spot) :
    spot = d.spotAt l := by
  rw [walk_of_walkable (walkable_of_walk hwalk)] at hwalk
  rw [spotAt_of_find? h]
  rcases List.eq_nil_or_concat' l with rfl | ⟨parent, name, rfl⟩
  · rw [walkWithin_nil] at hwalk
    exact (Except.ok.inj hwalk).symm
  · have hname := hd.name h
    rw [(hd.reaches linkLimit (hd.parent h)).walkWithin_append (by simp),
      walkWithin_down hname.isName hname.short h, walkWithin_nil] at hwalk
    exact (Except.ok.inj hwalk).symm

end Disk

end RootedStorage
