import Mathlib.Data.List.Induction
import Mathlib.Data.List.Nodup
import Mathlib.Data.List.Sort
import Mathlib.Data.String.Basic
import RootedStorage.Dictionary

/-!
# Keys of dictionaries

A key of a dictionary is one that has a value.  A dictionary that is made by putting entries into
the empty one has every key once (`Distinct.put`), and the value of a key is the last one that was
put (`get?_putAll`).
-/

namespace RootedStorage.Dictionary

variable {α : Type} {d : Dictionary α} {key : String}

/-- An empty dictionary has no value. -/
@[simp] theorem get?_empty (key : String) : (empty : Dictionary α).get? key = none := rfl

/-- A value is found exactly for the keys of the entries. -/
theorem exists_find?_iff {l : List (String × α)} :
    (∃ value, find? key l = some value) ↔ key ∈ l.map (·.1) := by
  induction l with
  | nil => simp [find?]
  | cons e l ih =>
    by_cases h : e.1 = key
    · simp [find?, h]
    · simp only [find?, h, if_false, ih, List.map_cons, List.mem_cons, Ne.symm h, false_or]

/-- The keys are those that have a value. -/
theorem mem_keys_iff : key ∈ d.keys ↔ ∃ value, d.get? key = some value :=
  exists_find?_iff.symm

/-- A dictionary contains the keys that have a value. -/
theorem contains_iff : d.contains key = true ↔ ∃ value, d.get? key = some value :=
  Option.isSome_iff_exists

/-- The sorted keys are those that have a value. -/
theorem mem_sortedKeys_iff : key ∈ d.sortedKeys ↔ ∃ value, d.get? key = some value :=
  List.mem_mergeSort.trans mem_keys_iff

/-- The sorted keys are in order. -/
theorem pairwise_le_sortedKeys : d.sortedKeys.Pairwise (· ≤ ·) :=
  List.sortedLE_mergeSort.pairwise

/-! ## Distinct keys -/

/-- Every key stands once. -/
def Distinct (d : Dictionary α) : Prop := d.keys.Nodup

/-- An empty dictionary repeats no key. -/
theorem distinct_empty : (empty : Dictionary α).Distinct := List.nodup_nil

/-- Putting a value adds its key at the end unless it is there. -/
theorem keys_put (d : Dictionary α) (key : String) (value : α) :
    (d.put key value).keys = if d.contains key then d.keys else d.keys ++ [key] := by
  unfold put
  split
  · simp only [keys, List.map_map]
    refine List.map_congr_left fun e _ => ?_
    by_cases h : e.1 = key <;> simp [h]
  · simp [keys]

/-- Putting a value repeats no key. -/
theorem Distinct.put (h : d.Distinct) (key : String) (value : α) : (d.put key value).Distinct := by
  unfold Distinct
  rw [keys_put]
  split
  · exact h
  · next hnew =>
    rw [contains_iff, ← mem_keys_iff] at hnew
    exact List.nodup_append.2 ⟨h, List.nodup_singleton key, by
      rintro k hk other hother rfl
      exact hnew (List.mem_singleton.1 hother ▸ hk)⟩

/-- Distinct keys are sorted strictly. -/
theorem Distinct.pairwise_lt_sortedKeys (h : d.Distinct) : d.sortedKeys.Pairwise (· < ·) := by
  have hnodup : d.sortedKeys.Nodup := (List.mergeSort_perm d.keys _).nodup_iff.2 h
  exact (pairwise_le_sortedKeys.and hnodup).imp fun hab => lt_of_le_of_ne hab.1 hab.2

/-! ## Putting entries one after the other -/

/-- Among entries that are put one after the other, the last one of a key gives its value. -/
theorem get?_putAll (l : List (String × α)) (d : Dictionary α) (key : String) :
    (l.foldl (fun d e => d.put e.1 e.2) d).get? key = (l.reverse.lookup key).or (d.get? key) := by
  induction l using List.reverseRecOn with
  | nil => simp
  | append_singleton l e ih =>
    rw [List.foldl_append, List.foldl_cons, List.foldl_nil, get?_put, ih, List.reverse_append,
      List.reverse_singleton, List.singleton_append, List.lookup_cons]
    by_cases h : key = e.1
    · simp [h]
    · simp [h, beq_false_of_ne h]

/-- Entries with distinct keys are a dictionary as they stand. -/
theorem ofList_eq {l : List (String × α)} (h : (l.map (·.1)).Nodup) : ofList l = ⟨l⟩ := by
  induction l using List.reverseRecOn with
  | nil => rfl
  | append_singleton l e ih =>
    rw [List.map_append, List.nodup_append] at h
    obtain ⟨hl, -, hnew⟩ := h
    have hcontains : (⟨l⟩ : Dictionary α).contains e.1 = false := by
      rw [← Bool.not_eq_true, contains_iff, ← mem_keys_iff]
      exact fun hmem => hnew e.1 hmem e.1 (by simp) rfl
    have hput : ofList (l ++ [e]) = (ofList l).put e.1 e.2 := List.foldl_append
    rw [hput, ih hl, put, if_neg (by simp [hcontains])]

/-! ## Entries in any order -/

/-- Among entries with distinct keys, those of a key are its value. -/
theorem Distinct.get?_eq_some_iff (h : d.Distinct) {value : α} :
    d.get? key = some value ↔ (key, value) ∈ d.entries := by
  obtain ⟨l⟩ := d
  unfold Distinct keys at h
  show find? key l = some value ↔ (key, value) ∈ l
  induction l with
  | nil => simp [find?]
  | cons e l ih =>
    obtain ⟨hnew, hl⟩ := List.nodup_cons.1 h
    rw [find?, List.mem_cons]
    split
    · next heq =>
      subst heq
      have hrest : (e.1, value) ∉ l := fun hmem => hnew (List.mem_map.2 ⟨_, hmem, rfl⟩)
      simp [hrest, Prod.ext_iff, eq_comm]
    · next hne =>
      have hhead : (key, value) ≠ e := fun heq => hne (congrArg Prod.fst heq).symm
      rw [ih hl]
      simp [hhead]

/-- The order of entries with distinct keys makes no difference. -/
theorem Distinct.get?_eq_of_perm {d' : Dictionary α} (h : d.Distinct)
    (hperm : d'.entries.Perm d.entries) (key : String) : d'.get? key = d.get? key := by
  have h' : d'.Distinct := (hperm.map _).nodup_iff.2 h
  refine Option.ext fun value => ?_
  rw [h'.get?_eq_some_iff, h.get?_eq_some_iff, hperm.mem_iff]

/-- Entries that are related one by one, key for key, give related values. -/
theorem get?_rel {β : Type} {R : α → β → Prop} {d' : Dictionary β}
    (h : List.Forall₂ (fun e e' => e.1 = e'.1 ∧ R e.2 e'.2) d.entries d'.entries) (key : String) :
    Option.Rel R (d.get? key) (d'.get? key) := by
  obtain ⟨l⟩ := d
  obtain ⟨l'⟩ := d'
  show Option.Rel R (find? key l) (find? key l')
  dsimp only at h
  induction h with
  | nil => exact .none
  | cons hhead _ ih =>
    obtain ⟨hkey, hvalue⟩ := hhead
    rw [find?, find?, hkey]
    split
    · exact .some hvalue
    · exact ih

end RootedStorage.Dictionary
