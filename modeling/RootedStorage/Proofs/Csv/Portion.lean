import RootedStorage.Csv.Codec
import RootedStorage.Proofs.Prelude
import RootedStorage.Proofs.Table.Portion

/-!
# Rows of a text in portions

Reading rows in portions and putting the tables together gives what reading all of them at once
gives, whatever the size of a portion (`readPortions_eq`): the records of two runs of rows are read
independently, and the columns of the second run go below those of the first (`readRows_append`).
-/

namespace RootedStorage.Csv

variable {plan : ReadPlan}

/-- Two traversals whose results are joined element by element. -/
theorem mapM_join {α β γ δ : Type} (f : α → Option β) (g : α → Option γ) (join : β → γ → δ)
    (l : List α) :
    (l.mapM fun x => (f x).bind fun u => (g x).map fun v => join u v) =
      (l.mapM f).bind fun us => (l.mapM g).map fun vs => List.zipWith join us vs := by
  induction l with
  | nil => simp
  | cons x l ih =>
    simp only [List.mapM_cons, ih, Option.bind_eq_bind]
    cases f x <;> cases g x <;> cases l.mapM f <;> cases l.mapM g <;> simp

/-- The texts of a record that is as wide as the plan. -/
def rowTexts (plan : ReadPlan) (row : Record) : Option (List String) :=
  if row.length = plan.width then recordTexts row else none

/-- The columns of rows of texts. -/
def readColumns (plan : ReadPlan) (texts : List (List String)) : Option (List Column) :=
  plan.columns.mapM fun column => (readColumn texts column.1.type column.2).map (⟨column.1, ·⟩)

theorem readRows_eq (plan : ReadPlan) (rows : List Record) :
    readRows plan rows =
      (rows.mapM (rowTexts plan)).bind fun texts => (readColumns plan texts).map Batch.mk :=
  rfl

theorem readColumn_append (a b : List (List String)) (type : ColumnType) (index : Nat) :
    readColumn (a ++ b) type index =
      (readColumn a type index).bind fun u => (readColumn b type index).map fun v => u ++ v := by
  simp only [readColumn, columnAt, List.map_append, List.mapM_append, Option.bind_eq_bind]
  exact congrArg (Option.bind _) (funext fun u => Option.map_eq_bind.symm)

theorem readColumns_append (a b : List (List String)) :
    readColumns plan (a ++ b) =
      (readColumns plan a).bind fun us => (readColumns plan b).map fun vs =>
        List.zipWith (fun c c' => ⟨c.field, c.cells ++ c'.cells⟩) us vs := by
  unfold readColumns
  rw [← mapM_join]
  refine congrArg (fun f => plan.columns.mapM f) (funext fun column => ?_)
  rw [readColumn_append]
  cases readColumn a column.1.type column.2 <;> cases readColumn b column.1.type column.2 <;> rfl

theorem readRows_append (a b : List Record) :
    readRows plan (a ++ b) =
      (readRows plan a).bind fun x => (readRows plan b).map fun y => x.append y := by
  simp only [readRows_eq, List.mapM_append, Option.bind_eq_bind]
  cases a.mapM (rowTexts plan) with
  | none => rfl
  | some s =>
    cases b.mapM (rowTexts plan) with
    | none => cases readColumns plan s <;> simp
    | some t =>
      simp only [Option.bind_some, Option.pure_def, readColumns_append]
      cases readColumns plan s <;> cases readColumns plan t <;> rfl

theorem readRows_nil (plan : ReadPlan) :
    readRows plan [] = some (.ofFields (plan.columns.map (·.1))) := by
  have hcolumns : readColumns plan [] = some (plan.columns.map fun column => ⟨column.1, []⟩) :=
    mapM_eq_pure_map fun column _ => by simp [readColumn, columnAt]
  simp [readRows_eq, hcolumns, Batch.ofFields]

/-- A table that is read has the fields of the plan. -/
theorem fields_of_readRows {rows : List Record} {b : Batch} (h : readRows plan rows = some b) :
    b.fields = plan.columns.map (·.1) := by
  rw [readRows_eq, Option.bind_eq_some_iff] at h
  obtain ⟨texts, -, h⟩ := h
  obtain ⟨columns, hcolumns, rfl⟩ := Option.map_eq_some_iff.1 h
  have hsame : List.Forall₂ (fun (f : Field) column => f = column) (plan.columns.map (·.1))
      (columns.map (·.field)) := by
    rw [List.forall₂_map_left_iff, List.forall₂_map_right_iff]
    refine (forall₂_of_mapM_eq_some hcolumns).imp fun column c hc => ?_
    obtain ⟨cells, -, rfl⟩ := Option.map_eq_some_iff.1 hc
    rfl
  rw [List.forall₂_eq_eq_eq] at hsame
  exact hsame.symm

/-- Portions are read one by one, or not at all if one of them cannot be read. -/
theorem concat_mapM_readRows (parts : List (List Record)) :
    (parts.mapM (readRows plan)).map (Batch.concat (plan.columns.map (·.1))) =
      readRows plan parts.flatten := by
  induction parts with
  | nil =>
    rw [List.flatten_nil, readRows_nil, List.mapM_nil]
    simp
  | cons part parts ih =>
    rw [List.flatten_cons, readRows_append, ← ih, List.mapM_cons]
    cases hpart : readRows plan part with
    | none => rfl
    | some x =>
      have hfields := fields_of_readRows hpart
      cases parts.mapM (readRows plan) with
      | none => rfl
      | some bs =>
        simp only [Option.bind_eq_bind, Option.bind_some, Option.pure_def, Option.map_some]
        rw [Batch.concat_cons hfields]

/-- In portions of any size but zero all rows are read. -/
theorem readPortions_eq {size : Nat} (h : size ≠ 0) (rows : List Record) :
    readPortions plan size rows = readRows plan rows := by
  rw [readPortions, concat_mapM_readRows, Portion.flatten_ofRows h]

/-- In portions of size zero no row is read. -/
theorem readPortions_zero (plan : ReadPlan) (rows : List Record) :
    readPortions plan 0 rows = some (.ofFields (plan.columns.map (·.1))) := by
  rw [readPortions, concat_mapM_readRows, Portion.ofRows_zero, List.flatten_nil, readRows_nil]

end RootedStorage.Csv
