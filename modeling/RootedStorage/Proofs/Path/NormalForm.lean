import Mathlib.Tactic.Common
import RootedStorage.Proofs.Path

/-!
# The normal form of a storage path

A path text falls into components, and a root that is extended by a segment has one component more,
whether the root is relative, ends with slashes or holds dots (`components_push`).  So a storage path
adds its named parts to the components of the root, in order (`components_resolve`).  The named parts
with slashes between them are a storage path again, its normal form: `resolve`, `isRoot` and `toStorage`
all say the same of it (`normalized`).
-/

namespace RootedStorage.Path

/-- A storage path that is not refused: it does not begin with a slash, and none of its parts between
slashes is a double dot. -/
def Accepted (path : String) : Prop :=
  path.toList.head? ≠ some '/' ∧ "..".toList ∉ path.toList.splitOn '/'

/-- The parts of a path between slashes but the empty ones and the dots, in order. -/
def namedParts (path : String) : List String :=
  ((path.toList.splitOn '/').map String.ofList).filter fun part => part ≠ "" && part ≠ "."

/-- The named parts of a path with slashes between them. -/
def normalForm (path : String) : String := String.intercalate "/" (namedParts path)

/-! ## Acceptance -/

/-- A path is split at its slashes. -/
theorem split_eq_splitOn (path : String) :
    split path = (path.toList.splitOn '/').map String.ofList := by
  rw [split, pieces_eq_splitOn]

/-- A path has a part of two dots exactly if its characters do. -/
theorem up_mem_split_iff {path : String} :
    ".." ∈ split path ↔ "..".toList ∈ path.toList.splitOn '/' := by
  rw [split_eq_splitOn, List.mem_map]
  constructor
  · rintro ⟨piece, hpiece, hup⟩
    rwa [← hup, String.toList_ofList]
  · intro hpiece
    exact ⟨_, hpiece, String.ofList_toList⟩

/-- Where no part is a double dot, the parts that name an entry are the ones that are neither empty nor
a dot. -/
theorem filter_isName_split {path : String} (h : ".." ∉ split path) :
    (split path).filter isName = namedParts path := by
  rw [namedParts, ← split_eq_splitOn]
  refine List.filter_congr fun part hpart => ?_
  have hup : part ≠ ".." := fun heq => h (heq ▸ hpart)
  simp [isName, hup]

/-- A path has segments if it is accepted, and then these are its named parts. -/
theorem segments?_eq_some_iff {path : String} {names : List String} :
    segments? path = some names ↔ Accepted path ∧ namedParts path = names := by
  have hrefused : (isAbsolute path || (split path).contains "..") = true ↔ ¬ Accepted path := by
    rw [Accepted, ← up_mem_split_iff, Bool.or_eq_true, isAbsolute, decide_eq_true_iff,
      List.contains_iff_mem, not_and_or, not_not, not_not]
  unfold segments?
  split
  · next hbad =>
    constructor
    · intro hnone
      cases hnone
    · rintro ⟨haccepted, -⟩
      exact absurd haccepted (hrefused.1 hbad)
  · next hgood =>
    have haccepted : Accepted path := not_not.1 (mt hrefused.2 hgood)
    rw [filter_isName_split (mt up_mem_split_iff.1 haccepted.2), Option.some_inj,
      and_iff_right haccepted]

/-- An accepted path extends the root by its named parts, one after the other. -/
theorem resolve_of_accepted {path : String} (h : Accepted path) (root : String) :
    resolve root path = .ok ((namedParts path).foldl push root) := by
  rw [resolve, segments_eq_ok_iff.2 (segments?_eq_some_iff.2 ⟨h, rfl⟩)]
  rfl

/-- A path that is not accepted is not resolved. -/
theorem resolve_of_not_accepted {path : String} (h : ¬ Accepted path) (root : String) :
    resolve root path = .error (.access (.invalidPath path)) := by
  have hnone : segments? path = none := by
    refine Option.eq_none_iff_forall_ne_some.2 fun names hnames => ?_
    exact h (segments?_eq_some_iff.1 hnames).1
  rw [resolve, segments, hnone]
  rfl

/-- Only accepted paths are resolved. -/
theorem accepted_of_resolve {root path native : String} (h : resolve root path = .ok native) :
    Accepted path := by
  by_contra hrefused
  rw [resolve_of_not_accepted hrefused] at h
  cases h

/-! ## Components -/

/-- Every path has a part, if only an empty one. -/
theorem split_ne_nil (path : String) : split path ≠ [] := by
  rw [split_eq_splitOn, ne_eq, List.map_eq_nil_iff]
  exact List.splitOn_ne_nil _ _

/-- What is appended to a path does not make it absolute or relative. -/
theorem isAbsolute_append {base : String} (h : base ≠ "") (more : String) :
    isAbsolute (base ++ more) = isAbsolute base := by
  obtain ⟨c, rest, hbase⟩ := List.exists_cons_of_ne_nil (mt String.toList_eq_nil_iff.1 h)
  rw [isAbsolute, isAbsolute, String.toList_append, hbase]
  rfl

/-- A segment behind a slash is a part of its own. -/
theorem split_append_slash {segment : String} (hslash : '/' ∉ segment.toList) (base : String) :
    split (base ++ "/" ++ segment) = split base ++ [segment] := by
  have hlist : (base ++ "/" ++ segment).toList = base.toList ++ '/' :: segment.toList := by
    rw [String.toList_append, String.toList_append, List.append_assoc]
    rfl
  rw [split_eq_splitOn, split_eq_splitOn, hlist, List.splitOn_append_cons_self,
    List.splitOn_eq_singleton hslash, List.map_append, List.map_singleton, String.ofList_toList]

/-- One more part that names an entry is one more component.  An empty part in its place says nothing. -/
theorem components_eq_concat {base longer segment : String} {front : List String}
    (hfront : front ≠ []) (hbase : split base = front ∨ split base = front ++ [""])
    (hlonger : split longer = front ++ [segment]) (habsolute : isAbsolute longer = isAbsolute base)
    (hsegment : isName segment = true) : components longer = components base ++ [.name segment] := by
  have hhead : (split longer).head? = (split base).head? := by
    obtain ⟨first, more, rfl⟩ := List.exists_cons_of_ne_nil hfront
    rw [hlonger]
    rcases hbase with hbase | hbase
    · rw [hbase]
      rfl
    · rw [hbase]
      rfl
  have hup := ne_up_of_isName hsegment
  have hempty : isName "" = false := by decide
  unfold components
  dsimp only
  rw [habsolute, hhead, hlonger, List.filterMap_append, ← List.append_assoc]
  rcases hbase with hbase | hbase
  · simp [hbase, hup, hsegment]
  · simp [hbase, hup, hsegment, hempty]

/-- Extending a path by a segment adds a component, whether the path is empty, ends with slashes or holds
dots. -/
theorem components_push {segment : String} (hname : isName segment = true)
    (hslash : '/' ∉ segment.toList) (base : String) :
    components (push base segment) = components base ++ [.name segment] := by
  unfold push
  by_cases hempty : base = ""
  · -- the segment alone: an empty path has no components
    have hsplit : split segment = [segment] := by
      rw [split_eq_splitOn, List.splitOn_eq_singleton hslash, List.map_singleton,
        String.ofList_toList]
    have hrelative : isAbsolute segment = false := by
      rw [isAbsolute, decide_eq_false_iff_not]
      exact fun hhead => hslash (List.mem_of_head? hhead)
    obtain ⟨-, hdot, hup⟩ := isName_iff.1 hname
    have hcomponents : components segment = [.name segment] := by
      simp [components, hsplit, hrelative, hdot, hup, hname]
    rw [if_pos hempty, hcomponents, hempty]
    rfl
  · rw [if_neg hempty]
    by_cases hend : base.endsWith '/' = true
    · rw [if_pos hend]
      rw [String.endsWith_char_eq_getLast?, beq_iff_eq] at hend
      obtain ⟨front, hfront⟩ := List.getLast?_eq_some_iff.1 hend
      have hbase : base = String.ofList front ++ "/" := by
        rw [← String.toList_inj, hfront, String.toList_append, String.toList_ofList]
        rfl
      refine components_eq_concat (split_ne_nil (String.ofList front)) (.inr ?_) ?_
        (isAbsolute_append hempty segment) hname
      · have hsplit : split (String.ofList front ++ "/" ++ "") = split (String.ofList front) ++ [""] :=
          split_append_slash (by simp) (String.ofList front)
        rwa [String.append_empty, ← hbase] at hsplit
      · rw [hbase]
        exact split_append_slash hslash _
    · rw [if_neg hend]
      refine components_eq_concat (split_ne_nil base) (.inl rfl) (split_append_slash hslash base) ?_
        hname
      rw [String.append_assoc]
      exact isAbsolute_append hempty _

/-- Extending a path by segments adds them to its components, in order. -/
theorem components_foldl_push {names : List String} (hname : ∀ name ∈ names, isName name = true)
    (hslash : ∀ name ∈ names, '/' ∉ name.toList) (root : String) :
    components (names.foldl push root) = components root ++ names.map .name := by
  induction names generalizing root with
  | nil => rw [List.foldl_nil, List.map_nil, List.append_nil]
  | cons name names ih =>
    obtain ⟨hfirst, hrest⟩ := List.forall_mem_cons.1 hname
    obtain ⟨hfirst', hrest'⟩ := List.forall_mem_cons.1 hslash
    rw [List.foldl_cons, ih hrest hrest', components_push hfirst hfirst', List.map_cons,
      List.append_assoc, List.singleton_append]

/-- Behind its start a list is what follows there. -/
theorem afterStart?_append {α : Type} [DecidableEq α] (start rest : List α) :
    afterStart? start (start ++ rest) = some rest := by
  induction start with
  | nil => rfl
  | cons a start ih => rw [List.cons_append, afterStart?, if_pos rfl, ih]

/-! ## Paths below a root -/

section
variable {root path native : String}

/-- The segments of an accepted path are its named parts. -/
theorem segments?_of_accepted (h : Accepted path) : segments? path = some (namedParts path) :=
  segments?_eq_some_iff.2 ⟨h, rfl⟩

/-- A path is resolved by pushing its named parts onto the root. -/
theorem eq_of_resolve (h : resolve root path = .ok native) :
    native = (namedParts path).foldl push root := by
  rw [resolve_of_accepted (accepted_of_resolve h)] at h
  exact (Except.ok.inj h).symm

/-- An accepted path adds its named parts to the components of the root, in order. -/
theorem components_resolve (h : resolve root path = .ok native) :
    components native = components root ++ (namedParts path).map .name := by
  have hsegments := segments?_of_accepted (accepted_of_resolve h)
  rw [eq_of_resolve h]
  exact components_foldl_push (fun _ => isName_of_mem_segments? hsegments)
    (fun _ => slash_not_mem_of_mem_segments? hsegments) root

/-- The storage path of a path below the root is the normal form of what led there. -/
theorem toStorage_resolve (h : resolve root path = .ok native) :
    toStorage root native = .ok (normalForm path) := by
  rw [toStorage, components_resolve h, afterStart?_append]
  dsimp only
  rw [List.map_map, show Component.text ∘ Component.name = id from rfl, List.map_id, normalForm]

/-- The named parts of a normal form are the ones that it was put together from. -/
theorem segments?_normalForm (h : Accepted path) :
    segments? (normalForm path) = some (namedParts path) := by
  have hsegments := segments?_of_accepted h
  exact segments?_ofSegments (fun _ => isName_of_mem_segments? hsegments)
    fun _ => slash_not_mem_of_mem_segments? hsegments

/-- The normal form of an accepted path is accepted. -/
theorem accepted_normalForm (h : Accepted path) : Accepted (normalForm path) :=
  (segments?_eq_some_iff.1 (segments?_normalForm h)).1

/-- The normal form has the named parts of its path. -/
theorem namedParts_normalForm (h : Accepted path) : namedParts (normalForm path) = namedParts path :=
  (segments?_eq_some_iff.1 (segments?_normalForm h)).2

/-- Accepted paths have the same normal form if they have the same named parts. -/
theorem normalForm_inj {other : String} (h : Accepted path) (hother : Accepted other) :
    normalForm path = normalForm other ↔ namedParts path = namedParts other := by
  constructor
  · intro hsame
    rw [← namedParts_normalForm h, hsame, namedParts_normalForm hother]
  · intro hsame
    rw [normalForm, normalForm, hsame]

/-- Accepted paths lead to places with the same components exactly if they have the same normal form. -/
theorem components_eq_iff {other native' : String} (h : resolve root path = .ok native)
    (hother : resolve root other = .ok native') :
    components native = components native' ↔ normalForm path = normalForm other := by
  rw [components_resolve h, components_resolve hother, List.append_cancel_left_eq,
    List.map_inj_right fun _ _ => Component.name.inj,
    normalForm_inj (accepted_of_resolve h) (accepted_of_resolve hother)]

/-- Below one root, the text of a place is as good as its components. -/
theorem native_eq_iff {other native' : String} (h : resolve root path = .ok native)
    (hother : resolve root other = .ok native') :
    native = native' ↔ normalForm path = normalForm other := by
  constructor
  · intro hsame
    exact (components_eq_iff h hother).1 (congrArg components hsame)
  · intro hsame
    rw [eq_of_resolve h, eq_of_resolve hother,
      (normalForm_inj (accepted_of_resolve h) (accepted_of_resolve hother)).1 hsame]

/-- The paths that name the root are the ones without a named part. -/
theorem isRoot_iff_namedParts : isRoot path = true ↔ Accepted path ∧ namedParts path = [] := by
  rw [isRoot_iff, segments?_eq_some_iff]

/-- A path that names the root leads to the root as it is written. -/
theorem resolve_of_isRoot (h : isRoot path = true) (root : String) : resolve root path = .ok root := by
  obtain ⟨haccepted, hnone⟩ := isRoot_iff_namedParts.1 h
  rw [resolve_of_accepted haccepted, hnone]
  rfl

/-- A path that leads to a place with the components of the root names the root. -/
theorem isRoot_of_components (h : resolve root path = .ok native)
    (hsame : components native = components root) : isRoot path = true := by
  rw [components_resolve h, List.append_right_eq_self, List.map_eq_nil_iff] at hsame
  exact isRoot_iff_namedParts.2 ⟨accepted_of_resolve h, hsame⟩

end

/-- What the three functions on paths say of one storage path below a root.  Places have the same
components if their texts differ in slashes and dots only. -/
structure Normalized (root path : String) : Prop where
  resolves_iff : (∃ native, resolve root path = .ok native) ↔ Accepted path
  refused : ¬ Accepted path → resolve root path = .error (.access (.invalidPath path))
  components_eq : ∀ native, resolve root path = .ok native →
    components native = components root ++ (namedParts path).map .name
  isRoot_iff : isRoot path = true ↔ resolve root path = .ok root
  isRoot_iff_components : isRoot path = true ↔
    ∃ native, resolve root path = .ok native ∧ components native = components root
  toStorage_eq : ∀ native, resolve root path = .ok native →
    toStorage root native = .ok (normalForm path)
  normal : Accepted path → Accepted (normalForm path) ∧
    resolve root (normalForm path) = resolve root path ∧
      normalForm (normalForm path) = normalForm path
  same_iff : ∀ other native native', resolve root path = .ok native →
    resolve root other = .ok native' →
      (native = native' ↔ normalForm path = normalForm other) ∧
        (components native = components native' ↔ normalForm path = normalForm other)

/-- Below every root, every storage path is refused or has a normal form, and the three functions agree
on it. -/
theorem normalized (root path : String) : Normalized root path where
  resolves_iff := ⟨fun ⟨_, h⟩ => accepted_of_resolve h, fun h => ⟨_, resolve_of_accepted h root⟩⟩
  refused := fun h => resolve_of_not_accepted h root
  components_eq := fun _ => components_resolve
  isRoot_iff := ⟨fun h => resolve_of_isRoot h root, fun h => isRoot_of_components h rfl⟩
  isRoot_iff_components :=
    ⟨fun h => ⟨root, resolve_of_isRoot h root, rfl⟩, fun ⟨_, h, hsame⟩ => isRoot_of_components h hsame⟩
  toStorage_eq := fun _ => toStorage_resolve
  normal := by
    intro h
    refine ⟨accepted_normalForm h, ?_, ?_⟩
    · rw [resolve_of_accepted h, resolve_of_accepted (accepted_normalForm h), namedParts_normalForm h]
    · rw [normalForm, namedParts_normalForm h, normalForm]
  same_iff := fun _ _ _ h hother => ⟨native_eq_iff h hother, components_eq_iff h hother⟩

/-- A root that ends with slashes, and a path with empty parts, dots and a part of three dots. -/
example : resolve "./r//" "./a//.../b/." = .ok "./r//a/.../b" ∧
    normalForm "./a//.../b/." = "a/.../b" := by
  decide +kernel

end RootedStorage.Path
