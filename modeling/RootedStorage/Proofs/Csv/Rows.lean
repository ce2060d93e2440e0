import RootedStorage.Proofs.Csv.Portion
import RootedStorage.Proofs.Text.Utf8

/-!
# The rows of a text

What a table that is decoded has to do with the records of its text: every column is read from one
field of the records, from the first record behind the names to the last (`holdsRows_of_decode`).
The plan says which field that is (`spec_of_readPlan`).
-/

namespace RootedStorage.Csv

/-- The cell is what the field at an index of the record is read as. -/
def ReadFrom (type : ColumnType) (i : Nat) (record : Record) (cell : Cell) : Prop :=
  ∃ text, record[i]? = some (Utf8.encode text) ∧ parseCell type text = some cell

/-- The rows of the table are the records of the text, all of them and in their order.  With a first
record of names, a column is read from a field that has its name there, and without one from the
field at its own place. -/
def HoldsRows (bytes : Bytes) (options : Options) (b : Batch) : Prop :=
  ∀ j c, b.columns[j]? = some c → ∃ i,
    (options.header = true → ∀ names ∈ (records options.dialect bytes).head?,
      names[i]? = some (Utf8.encode c.field.name)) ∧
    (options.header = false → i = j) ∧
    List.Forall₂ (ReadFrom c.field.type i)
      (dataRecords options.header (records options.dialect bytes)) c.cells

/-! ## The plan -/

/-- A plan has a column of the text for every field: the one of the field's name, or the one at the
field's place if the columns have no names. -/
theorem spec_of_readPlan {inferred : List Field} {schema : TableSchema} {header : Bool}
    {plan : ReadPlan} (h : readPlan inferred schema header = .ok plan) :
    plan.width = inferred.length ∧ ∀ (j : Nat) column, plan.columns[j]? = some column →
      column.2 < inferred.length ∧
      (header = true → inferred[column.2]?.map (·.name) = some column.1.name) ∧
      (header = false → column.2 = j) := by
  unfold readPlan at h
  split at h
  · obtain rfl := Except.ok.inj h
    refine ⟨rfl, fun j column (hcolumn : inferred.zipIdx[j]? = _) => ?_⟩
    rw [List.getElem?_zipIdx, Option.map_eq_some_iff] at hcolumn
    obtain ⟨f, hf, rfl⟩ := hcolumn
    obtain ⟨hj, rfl⟩ := List.getElem?_eq_some_iff.1 hf
    simp [hj]
  split at h
  case isTrue hheader =>
    split at h
    · cases h
    · next hcount =>
      obtain rfl := Except.ok.inj h
      refine ⟨rfl, fun j column hcolumn => ?_⟩
      simp only [List.getElem?_mapIdx] at hcolumn
      rw [Option.map_eq_some_iff] at hcolumn
      obtain ⟨f, hf, rfl⟩ := hcolumn
      obtain ⟨hj, -⟩ := List.getElem?_eq_some_iff.1 hf
      refine ⟨?_, fun htrue => ?_, fun _ => rfl⟩
      · show j < inferred.length
        omega
      · simp [htrue] at hheader
  case isFalse hheader =>
    obtain ⟨columns, hcolumns, rfl⟩ := map_eq_ok_iff.1 h
    refine ⟨rfl, fun j column hcolumn => ?_⟩
    obtain ⟨name, -, hname⟩ := exists_of_mem_right (forall₂_of_mapM_eq_ok hcolumns) column
      (List.mem_of_getElem? hcolumn)
    split at hname
    · next i declared hindex _ =>
      obtain rfl := Except.ok.inj hname
      obtain ⟨hi, hsame, -⟩ := List.findIdx?_eq_some_iff_getElem.1 hindex
      refine ⟨hi, fun _ => ?_, fun hfalse => ?_⟩
      · simpa [hi] using hsame
      · simp [hfalse] at hheader
    · cases hname

/-- With a first record of names, the fields that a text has by itself are named by it. -/
theorem names_of_inferFields {options : Options} {all : List Record} {inferred : List Field}
    (h : inferFields options all = some inferred) (hheader : options.header = true) {i : Nat}
    {name : String} (hname : inferred[i]?.map (·.name) = some name) :
    (all.headD [])[i]? = some (Utf8.encode name) := by
  unfold inferFields at h
  simp only [hheader, if_true] at h
  obtain ⟨head, hhead, h⟩ := Option.bind_eq_some_iff.1 h
  split at h
  · obtain ⟨texts, -, h⟩ := Option.bind_eq_some_iff.1 h
    obtain rfl := Option.some.inj h
    have htext : head[i]? = some name := by
      rw [List.getElem?_mapIdx, Option.map_map] at hname
      simpa [hheader] using hname
    have hfields := forall₂_of_mapM_eq_some hhead
    obtain ⟨hi, rfl⟩ := List.getElem?_eq_some_iff.1 htext
    have hi' : i < (all.headD []).length := hfields.length_eq ▸ hi
    rw [List.getElem?_eq_getElem hi', Option.some_inj]
    exact Utf8.eq_encode_of_decode? (hfields.get hi' hi)
  · cases h

/-! ## The columns -/

/-- A column of texts is read cell by cell. -/
theorem readFrom_of_readColumn {plan : ReadPlan} {rows : List Record} {texts : List (List String)}
    (htexts : List.Forall₂ (fun row text => rowTexts plan row = some text) rows texts)
    {type : ColumnType} {i : Nat} (hi : i < plan.width) {cells : List Cell}
    (h : readColumn texts type i = some cells) :
    List.Forall₂ (ReadFrom type i) rows cells := by
  have hcells := forall₂_of_mapM_eq_some h
  rw [columnAt, List.forall₂_map_left_iff] at hcells
  induction htexts generalizing cells with
  | nil =>
    cases hcells
    exact .nil
  | cons hrow _ ih =>
    cases hcells with
    | cons hcell hcells =>
      refine .cons ?_ (ih (mapM_eq_pure (List.forall₂_map_left_iff.2 hcells)) hcells)
      unfold rowTexts at hrow
      split at hrow
      · next hwidth =>
        have hfields := forall₂_of_mapM_eq_some hrow
        have hi' := hwidth ▸ hi
        have hi'' := hfields.length_eq ▸ hi'
        rw [List.getElem?_eq_getElem hi''] at hcell
        refine ⟨_, ?_, hcell⟩
        rw [List.getElem?_eq_getElem hi', Option.some_inj]
        exact Utf8.eq_encode_of_decode? (hfields.get hi' hi'')
      · cases hrow

/-- Every column of rows that are read is the one that the plan has for its field. -/
theorem readFrom_of_readRows {plan : ReadPlan} {rows : List Record} {b : Batch}
    (h : readRows plan rows = some b) {j : Nat} {c : Column} (hc : b.columns[j]? = some c) :
    ∃ i, plan.columns[j]? = some (c.field, i) ∧
      (i < plan.width → List.Forall₂ (ReadFrom c.field.type i) rows c.cells) := by
  rw [readRows_eq, Option.bind_eq_some_iff] at h
  obtain ⟨texts, htexts, h⟩ := h
  obtain ⟨columns, hcolumns, rfl⟩ := Option.map_eq_some_iff.1 h
  have hread := forall₂_of_mapM_eq_some hcolumns
  obtain ⟨hj, hcj⟩ := List.getElem?_eq_some_iff.1 hc
  have hj' : j < plan.columns.length := hread.length_eq ▸ hj
  obtain ⟨cells, hcells, hcolumn⟩ := Option.map_eq_some_iff.1 (hread.get hj' hj)
  obtain rfl : ⟨plan.columns[j].1, cells⟩ = c := hcolumn.trans hcj
  refine ⟨plan.columns[j].2, List.getElem?_eq_getElem hj', fun hi => ?_⟩
  exact readFrom_of_readColumn (forall₂_of_mapM_eq_some htexts) hi hcells

/-! ## The table -/

/-- What is decoded from a text that is not empty: the portions of its records under its plan. -/
theorem plan_of_decodeWith {bytes : Bytes} {schema : TableSchema} {options : Options} {b : Batch}
    (h : decodeWith bytes schema options = .ok b) :
    ∃ inferred plan, inferFields options (records options.dialect bytes) = some inferred ∧
      readPlan inferred schema options.header = .ok plan ∧
      readPortions plan options.batchSize
        (dataRecords options.header (records options.dialect bytes)) = some b := by
  unfold decodeWith at h
  cases hinfer : inferFields options (records options.dialect bytes) with
  | none => simp [hinfer] at h
  | some inferred =>
    simp only [hinfer, bind_eq_ok_iff] at h
    obtain ⟨plan, hplan, h⟩ := h
    refine ⟨inferred, plan, rfl, hplan, ?_⟩
    split at h
    · cases h
    · split at h
      · next hrows =>
        obtain rfl := Except.ok.inj h
        exact hrows
      · cases h

/-- A table that is decoded, and not in portions of no row, has the rows of the text. -/
theorem holdsRows_of_decode {bytes : Bytes} {schema : TableSchema} {options : FormatOptions}
    {o : Options} (ho : Options.ofFormatOptions options = .ok o) (hbatch : o.batchSize ≠ 0)
    {b : Batch} (h : decode bytes schema options = .ok b) : HoldsRows bytes o b := by
  simp only [decode, ho, bind, Except.bind] at h
  split at h
  · next hempty =>
    obtain rfl := Except.ok.inj h
    obtain rfl := List.isEmpty_iff.1 hempty
    have hrecords : records o.dialect [] = [] := rfl
    intro j c hc
    refine ⟨j, fun _ names hnames => ?_, fun _ => rfl, ?_⟩
    · rw [hrecords] at hnames
      cases hnames
    · have hcells : c.cells = [] := by
        rw [Batch.ofFields, List.getElem?_map, Option.map_eq_some_iff] at hc
        obtain ⟨f, -, rfl⟩ := hc
        rfl
      rw [hcells, hrecords]
      cases o.header <;> exact .nil
  · obtain ⟨inferred, plan, hinfer, hplan, hrows⟩ := plan_of_decodeWith h
    rw [readPortions_eq hbatch] at hrows
    obtain ⟨hwidth, hspec⟩ := spec_of_readPlan hplan
    intro j c hc
    obtain ⟨i, hi, hfrom⟩ := readFrom_of_readRows hrows hc
    obtain ⟨hlt, hname, hplace⟩ := hspec j _ hi
    refine ⟨i, fun hheader names hnames => ?_, hplace, hfrom (hwidth ▸ hlt)⟩
    have hhead := names_of_inferFields hinfer hheader (hname hheader)
    rwa [List.headD_eq_head?_getD, Option.mem_def.1 hnames] at hhead

end RootedStorage.Csv
