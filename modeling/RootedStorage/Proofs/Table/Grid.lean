import Mathlib.Tactic.Common
import RootedStorage.Table.Batch

/-!
# Rows and columns

`Batch.rowsOf` turns columns of one length into rows.  The rows have one entry for each column, and
the entries at one index are the column of that index.
-/

namespace RootedStorage.Batch

variable {α β : Type} {count : Nat} {columns : List (List α)}

@[simp] theorem rowsOf_nil : rowsOf count ([] : List (List α)) = List.replicate count [] := rfl

theorem rowsOf_cons (column : List α) (columns : List (List α)) :
    rowsOf count (column :: columns) =
      (column.zip (rowsOf count columns)).map fun p => p.1 :: p.2 :=
  List.map_uncurry_zip_eq_zipWith.symm

theorem length_rowsOf (h : ∀ c ∈ columns, c.length = count) :
    (rowsOf count columns).length = count := by
  induction columns with
  | nil => simp
  | cons column columns ih =>
    obtain ⟨hcolumn, hcolumns⟩ := List.forall_mem_cons.1 h
    rw [rowsOf_cons, List.length_map, List.length_zip, ih hcolumns, hcolumn, Nat.min_self]

theorem length_of_mem_rowsOf {row : List α} (h : row ∈ rowsOf count columns) :
    row.length = columns.length := by
  induction columns generalizing row with
  | nil => rw [List.eq_of_mem_replicate h]; rfl
  | cons column columns ih =>
    rw [rowsOf_cons, List.mem_map] at h
    obtain ⟨p, hp, rfl⟩ := h
    rw [List.length_cons, List.length_cons, ih (List.of_mem_zip hp).2]

/-- Every entry of a row is an entry of a column. -/
theorem exists_column_of_mem_rowsOf {row : List α} (h : row ∈ rowsOf count columns) {x : α}
    (hx : x ∈ row) : ∃ column ∈ columns, x ∈ column := by
  induction columns generalizing row with
  | nil =>
    rw [List.eq_of_mem_replicate h] at hx
    cases hx
  | cons column columns ih =>
    rw [rowsOf_cons, List.mem_map] at h
    obtain ⟨p, hp, rfl⟩ := h
    obtain ⟨hfirst, hrest⟩ := List.of_mem_zip hp
    rcases List.mem_cons.1 hx with rfl | hx
    · exact ⟨column, List.mem_cons_self, hfirst⟩
    · obtain ⟨c, hc, hxc⟩ := ih hrest hx
      exact ⟨c, List.mem_cons_of_mem _ hc, hxc⟩

theorem map_rowsOf (f : α → β) :
    (rowsOf count columns).map (List.map f) = rowsOf count (columns.map (List.map f)) := by
  induction columns with
  | nil => simp
  | cons column columns ih =>
    rw [List.map_cons, rowsOf_cons, rowsOf_cons, ← ih, List.zip_map, List.map_map, List.map_map]
    rfl

/-- The entries of the rows at an index are the column of that index. -/
theorem map_getElem?_rowsOf (h : ∀ c ∈ columns, c.length = count) {i : Nat} {column : List α}
    (hi : columns[i]? = some column) :
    (rowsOf count columns).map (fun row => row[i]?) = column.map some := by
  induction columns generalizing i with
  | nil => cases hi
  | cons first columns ih =>
    obtain ⟨hfirst, hcolumns⟩ := List.forall_mem_cons.1 h
    have hlength := length_rowsOf hcolumns
    rw [rowsOf_cons, List.map_map]
    cases i with
    | zero =>
      obtain rfl := Option.some.inj hi
      calc (first.zip (rowsOf count columns)).map (fun p => some p.1)
          = ((first.zip (rowsOf count columns)).map Prod.fst).map some := (List.map_map ..).symm
        _ = first.map some := by rw [List.map_fst_zip (by omega)]
    | succ i =>
      calc (first.zip (rowsOf count columns)).map (fun p => p.2[i]?)
          = ((first.zip (rowsOf count columns)).map Prod.snd).map (fun row => row[i]?) := by
            rw [List.map_map]; rfl
        _ = (rowsOf count columns).map (fun row => row[i]?) := by
            rw [List.map_snd_zip (by omega)]
        _ = column.map some := ih hcolumns hi

end RootedStorage.Batch
