import Mathlib.Tactic.Common
import RootedStorage.Table.Portion

/-!
# Portions make up the whole

Portions of any size but zero hold all rows, in order and once each (`Portion.flatten_ofRows`), so
a table that is read in portions is the table (`Batch.concat_portions`).  Portions of size zero hold
no row at all.
-/

namespace RootedStorage

namespace Portion

variable {α : Type} {size : Nat}

/-- Whatever the portion that is being filled holds already, no row is lost and none is moved. -/
theorem flatten_fill (size room : Nat) (taken rows : List α) :
    (fill size room taken rows).flatten = taken.reverse ++ rows := by
  induction rows generalizing room taken with
  | nil => cases taken <;> simp [fill]
  | cons row rows ih =>
    rw [fill]
    split
    · rw [List.flatten_cons, ih]
      simp
    · rw [ih]
      simp

/-- The portions of rows are the rows, one after the other. -/
theorem flatten_ofRows (h : size ≠ 0) (rows : List α) : (ofRows size rows).flatten = rows := by
  rw [ofRows, if_neg h, flatten_fill]
  rfl

/-- Portions without rows are none. -/
@[simp] theorem ofRows_zero (rows : List α) : ofRows 0 rows = [] := rfl

end Portion

namespace Batch

variable {b : Batch} {fields : List Field}

/-- No portions are a table without rows. -/
@[simp] theorem concat_nil (fields : List Field) : concat fields [] = ofFields fields := by
  refine congrArg Batch.mk (List.ext_getElem (by simp) fun i _ _ => ?_)
  simp

/-- The table that has the rows of a second one below its own. -/
def append (a b : Batch) : Batch :=
  ⟨List.zipWith (fun c c' => ⟨c.field, c.cells ++ c'.cells⟩) a.columns b.columns⟩

/-- The first portion stands in front of the others. -/
theorem concat_cons (h : b.fields = fields) (parts : List Batch) :
    concat fields (b :: parts) = b.append (concat fields parts) := by
  subst h
  refine congrArg Batch.mk (List.ext_getElem (by simp [fields, concat]) fun i hi _ => ?_)
  have hi' : i < b.columns.length := by simpa [fields, concat] using hi
  simp [fields, concat, hi']

/-- No column is higher than its table. -/
theorem length_le_height {c : Column} (h : c ∈ b.columns) : c.cells.length ≤ b.height := by
  have hfold : ∀ columns : List Column, c ∈ columns →
      c.cells.length ≤ columns.foldr (fun c n => max c.cells.length n) 0 := by
    intro columns hmem
    induction columns with
    | nil => cases hmem
    | cons first columns ih =>
      rcases List.mem_cons.1 hmem with rfl | hmem
      · exact Nat.le_max_left ..
      · exact Nat.le_trans (ih hmem) (Nat.le_max_right ..)
  exact hfold b.columns h

/-- A table has no height exactly if no column has cells. -/
theorem height_eq_zero_iff : b.height = 0 ↔ ∀ c ∈ b.columns, c.cells = [] := by
  constructor
  · intro h c hc
    have hle := length_le_height hc
    exact List.eq_nil_of_length_eq_zero (by omega)
  · intro h
    have hfold : ∀ columns : List Column, (∀ c ∈ columns, c.cells = []) →
        columns.foldr (fun c n => max c.cells.length n) 0 = 0 := by
      intro columns hnil
      induction columns with
      | nil => rfl
      | cons first columns ih =>
        obtain ⟨hfirst, hrest⟩ := List.forall_mem_cons.1 hnil
        rw [List.foldr_cons, ih hrest, hfirst]
        rfl
    exact hfold b.columns h

/-- A table without rows has the fields that it was made of. -/
@[simp] theorem fields_ofFields (fields : List Field) : (ofFields fields).fields = fields := by
  simp [ofFields, Batch.fields, Function.comp_def]

/-- A table that was made of fields has no height. -/
@[simp] theorem height_ofFields (fields : List Field) : (ofFields fields).height = 0 := by
  rw [height_eq_zero_iff]
  intro c hc
  obtain ⟨f, -, rfl⟩ := List.mem_map.1 hc
  rfl

/-- A table is its fields without rows if it has no cells. -/
theorem ofFields_fields_eq_iff : ofFields b.fields = b ↔ b.height = 0 := by
  constructor
  · intro h
    rw [← h]
    exact height_ofFields _
  · intro h
    have hcells := height_eq_zero_iff.1 h
    refine congrArg Batch.mk (List.ext_getElem (by simp [fields]) fun i hi hi' => ?_)
    have hnil := hcells _ (List.getElem_mem hi')
    simp [fields, ← hnil]

/-- A list is what stands at its indices. -/
theorem filterMap_getElem?_range {α : Type} (l : List α) {n : Nat} (h : l.length ≤ n) :
    (List.range n).filterMap (l[·]?) = l := by
  induction l generalizing n with
  | nil => simp
  | cons a l ih =>
    obtain ⟨n, rfl⟩ : ∃ k, n = k + 1 := ⟨n - 1, by simp at h; omega⟩
    rw [List.range_succ_eq_map, List.filterMap_cons, List.filterMap_map]
    have hrest := ih (by simpa using h : l.length ≤ n)
    simpa [Function.comp_def] using hrest

/-- A table is put together again from its portions. -/
theorem concat_portions {size : Nat} (h : size ≠ 0) (b : Batch) :
    concat b.fields (b.portions size) = b := by
  refine congrArg Batch.mk (List.ext_getElem (by simp [fields]) fun i hi hi' => ?_)
  have hall := filterMap_getElem?_range b.columns[i].cells
    (length_le_height (List.getElem_mem hi'))
  have hcells : (b.portions size).flatMap (fun part => (part.columns[i]?.map (·.cells)).getD []) =
      b.columns[i].cells := by
    calc (b.portions size).flatMap (fun part => (part.columns[i]?.map (·.cells)).getD [])
        = (Portion.ofRows size (List.range b.height)).flatMap fun indices =>
            indices.filterMap (b.columns[i].cells[·]?) := by
          simp [portions, rowsAt, List.flatMap_map, hi']
      _ = (Portion.ofRows size (List.range b.height)).flatten.filterMap
            (b.columns[i].cells[·]?) := by
          rw [List.filterMap_flatten, List.flatMap_def]
      _ = b.columns[i].cells := by rw [Portion.flatten_ofRows h, hall]
  rw [List.getElem_mapIdx, hcells]
  simp [fields]

/-- A table has no portions without rows. -/
theorem portions_zero (b : Batch) : b.portions 0 = [] := rfl

end Batch

end RootedStorage
