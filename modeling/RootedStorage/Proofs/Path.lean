import RootedStorage.Disk.Walk

/-!
# Names in storage paths

The segments of an accepted storage path are names of entries: none of them is empty, a dot or a
double dot, and none holds a slash.  The same goes for the parts of a link's target that are names.
Names of that kind, put together with slashes, are the segments of the text (`Path.segments?_ofSegments`).
-/

namespace RootedStorage

namespace Path

/-- A part is a name if it is neither empty nor a dot segment. -/
theorem isName_iff {part : String} :
    isName part = true ↔ part ≠ "" ∧ part ≠ "." ∧ part ≠ ".." := by
  simp [isName, and_assoc]

/-- A part that is no name stays in the directory or goes up. -/
theorem isStay_or_eq_of_not_isName {part : String} (h : isName part = false) :
    Disk.isStay part = true ∨ part = ".." := by
  by_cases hup : part = ".."
  · exact Or.inr hup
  · left
    unfold Disk.isStay
    by_cases hempty : part = "" <;> by_cases hdot : part = "." <;>
      simp_all [isName]

/-- A name leads away from its directory. -/
theorem isStay_of_isName {part : String} (h : isName part = true) : Disk.isStay part = false := by
  obtain ⟨hempty, hdot, -⟩ := isName_iff.1 h
  simp [Disk.isStay, hempty, hdot]

/-- A name does not lead up. -/
theorem ne_up_of_isName {part : String} (h : isName part = true) : part ≠ ".." :=
  (isName_iff.1 h).2.2

/-! ## Slashes -/

/-- No piece between slashes has a slash. -/
theorem slash_not_mem_pieces (s : List Char) : ∀ piece ∈ pieces s, '/' ∉ piece := by
  induction s with
  | nil => simp [pieces]
  | cons c rest ih =>
    by_cases hc : c = '/'
    · intro piece hmem
      rw [pieces, if_pos hc] at hmem
      rcases List.mem_cons.1 hmem with rfl | hmem
      · simp
      · exact ih piece hmem
    · intro piece hmem
      rw [pieces, if_neg hc] at hmem
      split at hmem
      · obtain rfl := List.mem_singleton.1 hmem
        simpa using Ne.symm hc
      · next first more hpieces =>
        rcases List.mem_cons.1 hmem with rfl | hmem
        · have hfirst := ih first (by rw [hpieces]; exact List.mem_cons_self)
          simpa using ⟨Ne.symm hc, hfirst⟩
        · exact ih piece (by rw [hpieces]; exact List.mem_cons_of_mem _ hmem)

/-- No part of a path text between slashes holds a slash. -/
theorem slash_not_mem_split {path part : String} (h : part ∈ split path) :
    '/' ∉ part.toList := by
  obtain ⟨piece, hpiece, rfl⟩ := List.mem_map.1 h
  rw [String.toList_ofList]
  exact slash_not_mem_pieces _ piece hpiece

/-- Splitting a text takes no character from elsewhere. -/
theorem mem_of_mem_pieces {s : List Char} {piece : List Char} (h : piece ∈ pieces s) {c : Char}
    (hc : c ∈ piece) : c ∈ s := by
  induction s generalizing piece with
  | nil => simp_all [pieces]
  | cons a rest ih =>
    by_cases ha : a = '/'
    · rw [pieces, if_pos ha] at h
      rcases List.mem_cons.1 h with rfl | h
      · cases hc
      · exact List.mem_cons_of_mem _ (ih h hc)
    · rw [pieces, if_neg ha] at h
      split at h
      · obtain rfl := List.mem_singleton.1 h
        obtain rfl := List.mem_singleton.1 hc
        exact List.mem_cons_self
      · next first more hpieces =>
        rcases List.mem_cons.1 h with rfl | h
        · rcases List.mem_cons.1 hc with rfl | hc
          · exact List.mem_cons_self
          · exact List.mem_cons_of_mem _ (ih (by rw [hpieces]; exact List.mem_cons_self) hc)
        · exact List.mem_cons_of_mem _
            (ih (by rw [hpieces]; exact List.mem_cons_of_mem _ h) hc)

/-- The characters of a part are the path's. -/
theorem mem_of_mem_split {path part : String} (h : part ∈ split path) {c : Char}
    (hc : c ∈ part.toList) : c ∈ path.toList := by
  obtain ⟨piece, hpiece, rfl⟩ := List.mem_map.1 h
  rw [String.toList_ofList] at hc
  exact mem_of_mem_pieces hpiece hc

/-! ## Segments -/

/-- The segments of a path are given exactly if it has a normal form. -/
theorem segments_eq_ok_iff {path : String} {names : List String} :
    segments path = .ok names ↔ segments? path = some names := by
  unfold segments
  cases segments? path <;> simp

/-- A path names the root exactly if it has no segments. -/
theorem isRoot_iff {path : String} : isRoot path = true ↔ segments? path = some [] := by
  simp [isRoot]

/-- A segment is a part of the path and a name. -/
theorem mem_segments? {path : String} {names : List String} (h : segments? path = some names)
    {name : String} (hname : name ∈ names) : name ∈ split path ∧ isName name = true := by
  unfold segments? at h
  split at h
  · cases h
  · obtain rfl := Option.some.inj h
    exact List.mem_filter.1 hname

/-- The segments of an accepted path are names. -/
theorem isName_of_mem_segments? {path : String} {names : List String}
    (h : segments? path = some names) {name : String} (hname : name ∈ names) :
    isName name = true :=
  (mem_segments? h hname).2

/-- The last segment is a name. -/
theorem isName_of_segments?_concat {path name : String} {above : List String}
    (h : segments? path = some (above ++ [name])) : isName name = true :=
  isName_of_mem_segments? h (List.mem_append_right above List.mem_cons_self)

/-- The segments of an accepted path hold no slash. -/
theorem slash_not_mem_of_mem_segments? {path : String} {names : List String}
    (h : segments? path = some names) {name : String} (hname : name ∈ names) :
    '/' ∉ name.toList :=
  slash_not_mem_split (mem_segments? h hname).1

/-! ## Texts of segments -/

/-- The pieces between slashes are what splitting at slashes gives. -/
theorem pieces_eq_splitOn (s : List Char) : pieces s = s.splitOn '/' := by
  rw [List.splitOn_eq_splitOnP]
  induction s with
  | nil => rfl
  | cons c rest ih =>
    rw [pieces, ih, List.splitOnP_cons_eq_if_modifyHead]
    by_cases hc : c = '/'
    · simp [hc]
    · cases hrest : rest.splitOnP (· == '/') with
      | nil => exact absurd hrest (List.splitOnP_ne_nil _ _)
      | cons first more => simp [hc]

/-- The parts of a path text that begins with a slash begin with an empty one. -/
theorem head?_split_of_isAbsolute {path : String} (h : isAbsolute path = true) :
    (split path).head? = some "" := by
  obtain ⟨rest, hrest⟩ := List.head?_eq_some_iff.1 (of_decide_eq_true h)
  rw [split, hrest, pieces, if_pos rfl]
  rfl

section
variable {names : List String} (hname : ∀ name ∈ names, isName name = true)
  (hslash : ∀ name ∈ names, '/' ∉ name.toList)
include hslash

/-- The parts of a text of segments are the segments. -/
theorem split_ofSegments (hne : names ≠ []) : split (ofSegments names) = names := by
  rw [split, ofSegments, String.toList_intercalate, pieces_eq_splitOn]
  rw [show "/".toList = ['/'] from rfl, List.splitOn_intercalate '/' (by simpa using hslash) (by simpa)]
  simp

include hname

/-- A text of segments is accepted, and its segments are those. -/
theorem segments?_ofSegments : segments? (ofSegments names) = some names := by
  by_cases hne : names = []
  · subst hne
    decide
  · have hsplit := split_ofSegments hslash hne
    have habsolute : isAbsolute (ofSegments names) = false := by
      cases h : isAbsolute (ofSegments names) with
      | false => rfl
      | true =>
        have hempty := head?_split_of_isAbsolute h
        rw [hsplit] at hempty
        exact absurd rfl (isName_iff.1 (hname "" (List.mem_of_head? hempty))).1
    have hup : ".." ∉ names := fun h => ne_up_of_isName (hname _ h) rfl
    rw [segments?, hsplit, habsolute, if_neg (by simpa using hup), List.filter_eq_self.2 hname]

end

end Path

namespace Disk

/-- The parts of a link's target hold no slash. -/
theorem slash_not_mem_parts {target part : String} (h : part ∈ parts target) :
    '/' ∉ part.toList := by
  unfold parts at h
  dsimp only at h
  split at h
  · rcases List.mem_append.1 h with h | h
    · exact Path.slash_not_mem_split (List.mem_filter.1 h).1
    · obtain rfl := List.mem_singleton.1 h
      simp
  · exact Path.slash_not_mem_split (List.mem_filter.1 h).1

/-- The parts of a link's target are texts of paths if the target is one. -/
theorem isPathText_of_mem_parts {target part : String} (ht : isPathText target = true)
    (h : part ∈ parts target) : isPathText part = true := by
  unfold isPathText at ht ⊢
  simp only [Bool.not_eq_true', List.contains_eq_mem, decide_eq_false_iff_not] at ht ⊢
  unfold parts at h
  dsimp only at h
  intro hnul
  split at h
  · rcases List.mem_append.1 h with h | h
    · exact ht (Path.mem_of_mem_split (List.mem_filter.1 h).1 hnul)
    · obtain rfl := List.mem_singleton.1 h
      simp at hnul
  · exact ht (Path.mem_of_mem_split (List.mem_filter.1 h).1 hnul)

end Disk

end RootedStorage
