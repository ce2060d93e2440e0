import RootedStorage.Proofs.Disk.WellFormed

/-!
# Directories that a path leads to

A walk to `parent ++ [name]` first finds the directory that `parent` leads to, links included, and
then looks at the name there.  `Disk.Reaches` is the first half as a relation, one rule for each
kind of part, and `walk_child` splits every walk into the two halves.  The first half reads
directories and links only, so it is the same on every disk that keeps them (`Reaches.mono`).
-/

namespace RootedStorage

namespace Disk

variable {d d' : Disk} {follow : Bool} {n m : Nat} {here there : Location}

/-- What stands at a location, as the end of a walk. -/
def spotAt (d : Disk) (l : Location) : Spot :=
  match d.find? l with
  | none => .vacant l false
  | some e => .entry l e

/-- An entry's location is a spot with that entry. -/
theorem spotAt_of_find? {l : Location} {e : Entry} (h : d.find? l = some e) :
    d.spotAt l = .entry l e := by
  rw [spotAt, h]

/-- A free location is a vacant spot. -/
theorem spotAt_of_free {l : Location} (h : d.find? l = none) : d.spotAt l = .vacant l false := by
  rw [spotAt, h]

/-- A walk that ends at a location's entry has found what stands there. -/
theorem find?_of_spotAt {k l : Location} {e : Entry} (h : d.spotAt k = .entry l e) :
    l = k ∧ d.find? k = some e := by
  unfold spotAt at h
  split at h
  · cases h
  · next hfind =>
    obtain ⟨rfl, rfl⟩ := Spot.entry.inj h
    exact ⟨rfl, hfind⟩

/-- A walk that ends at a location's vacant spot has found nothing there. -/
theorem find?_of_spotAt_vacant {k l : Location} {slash : Bool} (h : d.spotAt k = .vacant l slash) :
    l = k ∧ slash = false ∧ d.find? k = none := by
  unfold spotAt at h
  split at h
  · next hfree =>
    obtain ⟨rfl, rfl⟩ := Spot.vacant.inj h
    exact ⟨rfl, rfl, hfree⟩
  · cases h

/-- Different locations are different spots. -/
theorem spotAt_inj {k l : Location} (h : d.spotAt k = d.spotAt l) : k = l := by
  unfold spotAt at h
  split at h <;> split at h <;> simp_all

/-! ## One part at a time -/

/-- The kinds of parts that a walk tells apart. -/
theorem part_cases (part : String) : isStay part = true ∨ part = ".." ∨
    Path.isName part = true ∧ nameLimit < part.utf8ByteSize ∨
    Path.isName part = true ∧ part.utf8ByteSize ≤ nameLimit := by
  cases hname : Path.isName part with
  | false =>
    rcases Path.isStay_or_eq_of_not_isName hname with hstay | hup
    · exact Or.inl hstay
    · exact Or.inr (Or.inl hup)
  | true =>
    rcases Nat.lt_or_ge nameLimit part.utf8ByteSize with hlong | hshort
    · exact Or.inr (Or.inr (Or.inl ⟨rfl, hlong⟩))
    · exact Or.inr (Or.inr (Or.inr ⟨rfl, hshort⟩))

/-- A walk advances to the first link and goes on from there with one link less. -/
theorem walkWithin_eq (ps : List String) :
    d.walkWithin follow n here ps =
      match d.advance follow here ps with
      | .arrived spot => .ok spot
      | .failed fault => .error fault
      | .link directory target rest =>
        match n with
        | 0 => .error .tooManyLinks
        | n + 1 =>
          if target = "" then .error .missing
          else d.walkWithin follow n (start directory target) (parts target ++ rest) := by
  have hwalk := walkWithin.eq_def d follow n here ps
  dsimp only at hwalk
  refine hwalk.trans ?_
  cases d.advance follow here ps <;> cases n <;> rfl

/-- A walk without parts ends where it stands. -/
theorem walkWithin_nil : d.walkWithin follow n here [] = .ok (.entry here .directory) := by
  rw [walkWithin_eq]
  rfl

/-- An empty part or a dot stays where the walk is. -/
theorem walkWithin_stay {part : String} {rest : List String} (h : isStay part = true) :
    d.walkWithin follow n here (part :: rest) = d.walkWithin follow n here rest := by
  have hadvance : d.advance follow here (part :: rest) = d.advance follow here rest := by
    simp only [advance, h, if_true]
  rw [walkWithin_eq, hadvance, ← walkWithin_eq]

/-- Two dots lead one directory up. -/
theorem walkWithin_up {rest : List String} :
    d.walkWithin follow n here (".." :: rest) = d.walkWithin follow n here.dropLast rest := by
  have hadvance : d.advance follow here (".." :: rest) = d.advance follow here.dropLast rest := by
    have hstay : isStay ".." = false := by decide
    simp only [advance, hstay, Bool.false_eq_true, if_false, if_true]
  rw [walkWithin_eq, hadvance, ← walkWithin_eq]

section
variable {part : String} {rest : List String} (hpart : Path.isName part = true)
include hpart

/-- A name beyond the limit ends every walk. -/
theorem walkWithin_long (hlong : nameLimit < part.utf8ByteSize) :
    d.walkWithin follow n here (part :: rest) = .error .nameTooLong := by
  have hadvance : d.advance follow here (part :: rest) = .failed .nameTooLong := by
    simp only [advance, Path.isStay_of_isName hpart, Path.ne_up_of_isName hpart, hlong,
      Bool.false_eq_true, if_false, if_true]
  rw [walkWithin_eq, hadvance]

variable (hshort : part.utf8ByteSize ≤ nameLimit)
include hshort

/-- The name of a directory leads into it. -/
theorem walkWithin_down (hfind : d.find? (here ++ [part]) = some .directory) :
    d.walkWithin follow n here (part :: rest) = d.walkWithin follow n (here ++ [part]) rest := by
  have hadvance : d.advance follow here (part :: rest) =
      d.advance follow (here ++ [part]) rest := by
    simp only [advance, Path.isStay_of_isName hpart, Path.ne_up_of_isName hpart,
      Nat.not_lt.2 hshort, Bool.false_eq_true, if_false, hfind]
  rw [walkWithin_eq, hadvance, ← walkWithin_eq]

/-- A link is replaced by the parts of its target, as long as links may be followed. -/
theorem walkWithin_link {target : String}
    (hfind : d.find? (here ++ [part]) = some (.link target))
    (hfollow : rest ≠ [] ∨ follow = true) :
    d.walkWithin follow n here (part :: rest) =
      match n with
      | 0 => .error .tooManyLinks
      | n + 1 =>
        if target = "" then .error .missing
        else d.walkWithin follow n (start here target) (parts target ++ rest) := by
  have hgo : (decide (rest = []) && !follow) = false := by
    rcases hfollow with h | h <;> simp [h]
  have hadvance : d.advance follow here (part :: rest) = .link here target rest := by
    simp only [advance, Path.isStay_of_isName hpart, Path.ne_up_of_isName hpart,
      Nat.not_lt.2 hshort, Bool.false_eq_true, if_false, hfind, hgo]
  rw [walkWithin_eq, hadvance]

/-- A walk that does not follow a link at the end stops at the link itself. -/
theorem walkWithin_last_link {target : String}
    (hfind : d.find? (here ++ [part]) = some (.link target)) :
    d.walkWithin false n here [part] = .ok (.entry (here ++ [part]) (.link target)) := by
  have hadvance : d.advance false here [part] =
      .arrived (.entry (here ++ [part]) (.link target)) := by
    simp [advance, Path.isStay_of_isName hpart, Path.ne_up_of_isName hpart,
      Nat.not_lt.2 hshort, hfind]
  rw [walkWithin_eq, hadvance]

/-- A walk to a link ends there or goes on with the link's target. -/
theorem walkWithin_link_ok {target : String} {spot : Spot}
    (hfind : d.find? (here ++ [part]) = some (.link target))
    (h : d.walkWithin follow n here (part :: rest) = .ok spot) :
    follow = false ∧ spot = .entry (here ++ [part]) (.link target) ∨
      ∃ m, n = m + 1 ∧ target ≠ "" ∧
        d.walkWithin follow m (start here target) (parts target ++ rest) = .ok spot := by
  by_cases hgo : rest ≠ [] ∨ follow = true
  · rw [walkWithin_link hpart hshort hfind hgo] at h
    cases n with
    | zero => cases h
    | succ n =>
      dsimp only at h
      split at h
      · cases h
      · next htarget => exact Or.inr ⟨n, rfl, htarget, h⟩
  · obtain ⟨rfl, rfl⟩ : rest = [] ∧ follow = false := by simpa using hgo
    rw [walkWithin_last_link hpart hshort hfind] at h
    exact Or.inl ⟨rfl, (Except.ok.inj h).symm⟩

/-- A free place is where a walk may end, but it does not lead on. -/
theorem walkWithin_free (hfind : d.find? (here ++ [part]) = none) :
    d.walkWithin follow n here (part :: rest) =
      if rest = [] then .ok (.vacant (here ++ [part]) false)
      else if rest.all (· = "") then .ok (.vacant (here ++ [part]) true)
      else .error .missing := by
  rw [walkWithin_eq]
  simp only [advance, Path.isStay_of_isName hpart, Path.ne_up_of_isName hpart,
    Nat.not_lt.2 hshort, Bool.false_eq_true, if_false, hfind]
  by_cases hrest : rest = []
  · simp only [hrest, if_true]
  · by_cases hall : rest.all (· = "") = true <;> simp [hrest, hall]

/-- An entry without children is where a walk may end, but it does not lead on. -/
theorem walkWithin_leaf {e : Entry} (hfind : d.find? (here ++ [part]) = some e)
    (hdirectory : e ≠ .directory) (hlink : ∀ target, e ≠ .link target) :
    d.walkWithin follow n here (part :: rest) =
      if rest = [] then .ok (.entry (here ++ [part]) e) else .error .notDirectory := by
  rw [walkWithin_eq]
  simp only [advance, Path.isStay_of_isName hpart, Path.ne_up_of_isName hpart,
    Nat.not_lt.2 hshort, Bool.false_eq_true, if_false, hfind]
  cases e with
  | directory => exact absurd rfl hdirectory
  | link target => exact absurd rfl (hlink target)
  | file stamp c => by_cases hrest : rest = [] <;> simp only [hrest, if_true, if_false]
  | pipe => by_cases hrest : rest = [] <;> simp only [hrest, if_true, if_false]

end

/-- A walk to a name in a directory finds what stands there, unless it follows a link. -/
theorem walkWithin_name_eq {name : String} (hname : Path.isName name = true)
    (hshort : name.utf8ByteSize ≤ nameLimit)
    (hlink : follow = false ∨ ∀ target, d.find? (here ++ [name]) ≠ some (.link target)) :
    d.walkWithin follow n here [name] = .ok (d.spotAt (here ++ [name])) := by
  unfold spotAt
  cases hfind : d.find? (here ++ [name]) with
  | none => rw [walkWithin_free hname hshort hfind, if_pos rfl]
  | some e =>
    cases e with
    | directory => rw [walkWithin_down hname hshort hfind, walkWithin_nil]
    | link target =>
      obtain rfl := hlink.resolve_right fun h => h target hfind
      exact walkWithin_last_link hname hshort hfind
    | file stamp c => rw [walkWithin_leaf hname hshort hfind (by simp) (by simp), if_pos rfl]
    | pipe => rw [walkWithin_leaf hname hshort hfind (by simp) (by simp), if_pos rfl]

/-- A walk to a name in a directory finds what stands there, if it follows no link. -/
theorem walkWithin_name {name : String} (hname : Path.isName name = true)
    (hshort : name.utf8ByteSize ≤ nameLimit) :
    d.walkWithin false n here [name] = .ok (d.spotAt (here ++ [name])) :=
  walkWithin_name_eq hname hshort (Or.inl rfl)

/-- Following links makes a difference only where a link stands. -/
theorem walkWithin_name_of_not_link {name : String} (hname : Path.isName name = true)
    (hshort : name.utf8ByteSize ≤ nameLimit)
    (hlink : ∀ target, d.find? (here ++ [name]) ≠ some (.link target)) :
    d.walkWithin follow n here [name] = d.walkWithin false n here [name] := by
  rw [walkWithin_name hname hshort, walkWithin_name_eq hname hshort (Or.inr hlink)]

/-! ## Directories that parts lead to -/

/-- From a directory, with `n` links to follow at most, the parts lead to a directory, with `m`
links left. -/
inductive Reaches (d : Disk) : Nat → Location → List String → Nat → Location → Prop where
  | done (n : Nat) (here : Location) : Reaches d n here [] n here
  | stay {n m : Nat} {here there : Location} {part : String} {rest : List String} :
    isStay part = true → Reaches d n here rest m there → Reaches d n here (part :: rest) m there
  | up {n m : Nat} {here there : Location} {rest : List String} :
    Reaches d n here.dropLast rest m there → Reaches d n here (".." :: rest) m there
  | down {n m : Nat} {here there : Location} {part : String} {rest : List String} :
    Path.isName part = true → part.utf8ByteSize ≤ nameLimit →
    d.find? (here ++ [part]) = some .directory →
    Reaches d n (here ++ [part]) rest m there → Reaches d n here (part :: rest) m there
  | link {n m : Nat} {here there : Location} {part target : String} {rest : List String} :
    Path.isName part = true → part.utf8ByteSize ≤ nameLimit →
    d.find? (here ++ [part]) = some (.link target) → target ≠ "" →
    Reaches d n (start here target) (parts target ++ rest) m there →
    Reaches d (n + 1) here (part :: rest) m there

/-- Every walk that goes on from the parts to a name fails. -/
def Blocked (d : Disk) (n : Nat) (here : Location) (ps : List String) : Prop :=
  ∀ (follow : Bool) (name : String) (rest : List String), Path.isName name = true →
    ∃ fault, d.walkWithin follow n here (ps ++ name :: rest) = .error fault

/-- A walk goes on from the directory that its first parts lead to. -/
theorem Reaches.walkWithin_append {ps rest : List String} (h : Reaches d n here ps m there)
    (hrest : rest ≠ []) :
    d.walkWithin follow n here (ps ++ rest) = d.walkWithin follow m there rest := by
  induction h with
  | done n here => rfl
  | stay hstay _ ih => rw [List.cons_append, walkWithin_stay hstay, ih]
  | up _ ih => rw [List.cons_append, walkWithin_up, ih]
  | down hpart hshort hfind _ ih =>
    rw [List.cons_append, walkWithin_down hpart hshort hfind, ih]
  | link hpart hshort hfind htarget _ ih =>
    rw [List.cons_append, walkWithin_link hpart hshort hfind
      (Or.inl (List.append_ne_nil_of_right_ne_nil _ hrest))]
    dsimp only
    rw [if_neg htarget, ← List.append_assoc, ih]

/-- A walk through links ends at the directory that the parts lead to. -/
theorem Reaches.walkWithin {ps : List String} (h : Reaches d n here ps m there) :
    d.walkWithin true n here ps = .ok (.entry there .directory) := by
  induction h with
  | done n here => exact walkWithin_nil
  | stay hstay _ ih => rw [walkWithin_stay hstay, ih]
  | up _ ih => rw [walkWithin_up, ih]
  | down hpart hshort hfind _ ih => rw [walkWithin_down hpart hshort hfind, ih]
  | link hpart hshort hfind htarget _ ih =>
    rw [walkWithin_link hpart hshort hfind (Or.inr rfl)]
    dsimp only
    rw [if_neg htarget, ih]

section
variable {part : String} {ps : List String} (hpart : Path.isName part = true)
  (hshort : part.utf8ByteSize ≤ nameLimit)
include hpart hshort

/-- Nothing lies behind a free place. -/
theorem blocked_of_free (hfind : d.find? (here ++ [part]) = none) :
    Blocked d n here (part :: ps) := by
  intro follow name rest hname
  have hempty : name ≠ "" := (Path.isName_iff.1 hname).1
  refine ⟨.missing, ?_⟩
  rw [List.cons_append, walkWithin_free hpart hshort hfind, if_neg (by simp),
    if_neg (by simp [hempty])]

/-- Nothing lies behind an entry without children. -/
theorem blocked_of_leaf {e : Entry} (hfind : d.find? (here ++ [part]) = some e)
    (hdirectory : e ≠ .directory) (hlink : ∀ target, e ≠ .link target) :
    Blocked d n here (part :: ps) := by
  intro follow name rest _
  refine ⟨.notDirectory, ?_⟩
  rw [List.cons_append, walkWithin_leaf hpart hshort hfind hdirectory hlink, if_neg (by simp)]

/-- Without any links left no walk goes through a link. -/
theorem blocked_of_last_link {target : String}
    (hfind : d.find? (here ++ [part]) = some (.link target)) :
    Blocked d 0 here (part :: ps) := by
  intro follow name rest _
  exact ⟨.tooManyLinks, walkWithin_link hpart hshort hfind (Or.inl (by simp))⟩

/-- A link is followed to what its target and the parts behind it lead to. -/
theorem reaches_or_blocked_of_link {target : String}
    (hfind : d.find? (here ++ [part]) = some (.link target))
    (h : (∃ m there, Reaches d n (start here target) (parts target ++ ps) m there) ∨
      Blocked d n (start here target) (parts target ++ ps)) :
    (∃ m there, Reaches d (n + 1) here (part :: ps) m there) ∨
      Blocked d (n + 1) here (part :: ps) := by
  have hstep : ∀ follow name rest, d.walkWithin follow (n + 1) here ((part :: ps) ++ name :: rest)
      = if target = "" then .error .missing
        else d.walkWithin follow n (start here target) (parts target ++ ps ++ name :: rest) := by
    intro follow name rest
    rw [List.cons_append, walkWithin_link hpart hshort hfind (Or.inl (by simp)),
      List.append_assoc]
  by_cases htarget : target = ""
  · right
    intro follow name rest _
    rw [hstep, if_pos htarget]
    exact ⟨_, rfl⟩
  · refine h.imp ?_ fun hblocked follow name rest hname => ?_
    · rintro ⟨m, there, hreach⟩
      exact ⟨m, there, .link hpart hshort hfind htarget hreach⟩
    · rw [hstep, if_neg htarget]
      exact hblocked follow name rest hname

end

/-- Parts that lead to no directory block every walk that goes on to a name. -/
theorem reaches_or_blocked (d : Disk) (n : Nat) (here : Location) (ps : List String) :
    (∃ m there, Reaches d n here ps m there) ∨ Blocked d n here ps := by
  -- the links left come first: a link puts its target's parts before the others
  induction n using Nat.strongRecOn generalizing here ps with
  | ind n ihn =>
    induction ps generalizing here with
    | nil => exact Or.inl ⟨n, here, .done n here⟩
    | cons part ps ihps =>
      rcases part_cases part with hstay | rfl | ⟨hpart, hlong⟩ | ⟨hpart, hshort⟩
      · refine (ihps here).imp ?_ fun h follow name rest hname => ?_
        · rintro ⟨m, there, h⟩
          exact ⟨m, there, .stay hstay h⟩
        · rw [List.cons_append, walkWithin_stay hstay]
          exact h follow name rest hname
      · refine (ihps here.dropLast).imp ?_ fun h follow name rest hname => ?_
        · rintro ⟨m, there, h⟩
          exact ⟨m, there, .up h⟩
        · rw [List.cons_append, walkWithin_up]
          exact h follow name rest hname
      · right
        intro follow name rest _
        exact ⟨_, walkWithin_long hpart hlong⟩
      cases hfind : d.find? (here ++ [part]) with
      | none => exact Or.inr (blocked_of_free hpart hshort hfind)
      | some e =>
        cases e with
        | directory =>
          refine (ihps (here ++ [part])).imp ?_ fun h follow name rest hname => ?_
          · rintro ⟨m, there, h⟩
            exact ⟨m, there, .down hpart hshort hfind h⟩
          · rw [List.cons_append, walkWithin_down hpart hshort hfind]
            exact h follow name rest hname
        | link target =>
          cases n with
          | zero => exact Or.inr (blocked_of_last_link hpart hshort hfind)
          | succ n =>
            exact reaches_or_blocked_of_link hpart hshort hfind
              (ihn n (Nat.lt_succ_self n) (start here target) (parts target ++ ps))
        | file stamp c =>
          exact Or.inr (blocked_of_leaf hpart hshort hfind (by simp) (by simp))
        | pipe => exact Or.inr (blocked_of_leaf hpart hshort hfind (by simp) (by simp))

/-- The way to a directory is the same on a disk that keeps directories and links. -/
theorem Reaches.mono {ps : List String}
    (hdirectory : ∀ l, d.find? l = some .directory → d'.find? l = some .directory)
    (hlink : ∀ l target, d.find? l = some (.link target) → d'.find? l = some (.link target))
    (h : Reaches d n here ps m there) : Reaches d' n here ps m there := by
  induction h with
  | done n here => exact .done n here
  | stay hstay _ ih => exact .stay hstay ih
  | up _ ih => exact .up ih
  | down hpart hshort hfind _ ih => exact .down hpart hshort (hdirectory _ hfind) ih
  | link hpart hshort hfind htarget _ ih =>
    exact .link hpart hshort (hlink _ _ hfind) htarget ih

/-- Ways follow one another. -/
theorem Reaches.trans {k : Nat} {further : Location} {ps qs : List String}
    (h : Reaches d n here ps m there) (h' : Reaches d m there qs k further) :
    Reaches d n here (ps ++ qs) k further := by
  induction h with
  | done n here => exact h'
  | stay hstay _ ih => exact .stay hstay (ih h')
  | up _ ih => exact .up (ih h')
  | down hpart hshort hfind _ ih => exact .down hpart hshort hfind (ih h')
  | link hpart hshort hfind htarget _ ih =>
    have hrest := ih h'
    rw [List.append_assoc] at hrest
    exact .link hpart hshort hfind htarget hrest

/-- What parts lead to is a directory. -/
theorem Reaches.find? {ps : List String} (hd : d.WellFormed)
    (h : Reaches d n here ps m there) (hhere : d.find? here = some .directory) :
    d.find? there = some .directory := by
  induction h with
  | done n here => exact hhere
  | stay _ _ ih => exact ih hhere
  | up _ ih => exact ih (hd.find?_dropLast hhere)
  | down _ _ hfind _ ih => exact ih hfind
  | link _ _ _ _ _ ih =>
    apply ih
    unfold start
    split
    · exact find?_nil d
    · exact hhere

/-- A directory is reached by its own location. -/
theorem WellFormed.reaches (hd : d.WellFormed) (n : Nat) :
    ∀ {l : Location}, d.find? l = some .directory → Reaches d n [] l n l := by
  intro l
  induction l using List.reverseRecOn with
  | nil => exact fun _ => .done n []
  | append_singleton parent name ih =>
    intro h
    have hname := hd.name h
    exact (ih (hd.parent h)).trans (.down hname.isName hname.short h (.done n _))

/-- Names lead straight on where no link stands on the way. -/
theorem Reaches.eq_of_no_link {ps : List String} (h : Reaches d n here ps m there)
    (hnames : ∀ part ∈ ps, Path.isName part = true)
    (hlinks : ∀ k target, k <+: ps → d.find? (here ++ k) ≠ some (.link target)) :
    m = n ∧ there = here ++ ps := by
  induction h with
  | done n here => simp
  | stay hstay _ _ =>
    rw [Path.isStay_of_isName (hnames _ List.mem_cons_self)] at hstay
    cases hstay
  | up _ _ => exact absurd rfl (Path.ne_up_of_isName (hnames _ List.mem_cons_self))
  | down _ _ _ _ ih =>
    next part rest _ _ _ _ =>
    have hrest := ih (fun p hp => hnames p (List.mem_cons_of_mem _ hp)) (by
      intro k target hk
      rw [List.append_assoc]
      exact hlinks (part :: k) target (List.cons_prefix_cons.2 ⟨rfl, hk⟩))
    rw [List.append_assoc] at hrest
    exact hrest
  | link _ _ hfind _ _ _ =>
    next part target rest _ _ _ _ _ =>
    exact absurd hfind (hlinks [part] target (List.cons_prefix_cons.2 ⟨rfl, List.nil_prefix⟩))

end Disk

end RootedStorage
