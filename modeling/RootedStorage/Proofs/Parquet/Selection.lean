import RootedStorage.Parquet.Codec
import RootedStorage.Parquet.Tagged
import RootedStorage.Proofs.Prelude
import RootedStorage.Proofs.Table.Portion

/-!
# Selections of columns

A schema selects columns by name when a table is written, and another one when it is read.  The
reader takes the columns out of the container in the order of the container, each of them once, and
puts them in the order of the schema by a second search for their names.  `Batch.Picks` says what a
selection comes to, and `decode_encode_selected` that the two of them compose.
-/

namespace RootedStorage

/-- The names that the schema selects among all of them. -/
def TableSchema.selected (s : TableSchema) (all : List String) : List String :=
  if s.hasFields then s.names else all

/-- A schema has fields if its list of fields is not empty. -/
theorem TableSchema.hasFields_iff {s : TableSchema} : s.hasFields = true ↔ s.fields ≠ [] := by
  simp [hasFields]

/-- A schema without fields selects all columns. -/
theorem TableSchema.selected_of_no_fields {s : TableSchema} (h : s.hasFields = false)
    (all : List String) : s.selected all = all := by
  simp [selected, h]

/-- A schema with fields selects the columns that it names. -/
theorem TableSchema.selected_of_fields {s : TableSchema} (h : s.hasFields = true)
    (all : List String) : s.selected all = s.names := by
  simp [selected, h]

/-- The names that the schema selects are there if it selects all of them or has fields for some. -/
theorem TableSchema.selected_subset_iff {s : TableSchema} {all : List String} :
    (∀ name ∈ s.selected all, name ∈ all) ↔ s.fields = [] ∨ ∀ name ∈ s.names, name ∈ all := by
  cases h : s.hasFields with
  | false =>
    rw [s.selected_of_no_fields h]
    have hfields : s.fields = [] := by
      by_contra hne
      rw [TableSchema.hasFields_iff.2 hne] at h
      cases h
    simp [hfields]
  | true =>
    rw [s.selected_of_fields h]
    simp [TableSchema.hasFields_iff.1 h]

/-- From a table with columns a schema always selects some. -/
theorem TableSchema.selected_ne_nil {s : TableSchema} {all : List String} (h : all ≠ []) :
    s.selected all ≠ [] := by
  cases hfields : s.hasFields with
  | false => rwa [s.selected_of_no_fields hfields]
  | true =>
    rw [s.selected_of_fields hfields]
    simpa [names] using TableSchema.hasFields_iff.1 hfields

namespace Batch

variable {b b' : Batch} {name : String} {names : List String} {c : Column}

/-- The columns of `b'` are those of `b` with the given names, in the order of the names. -/
def Picks (b : Batch) (names : List String) (b' : Batch) : Prop :=
  List.Forall₂ (fun name c => b.column? name = some c) names b'.columns

/-! ## Columns by name -/

/-- The column that is found by a name has that name. -/
theorem name_of_column? (h : b.column? name = some c) : c.field.name = name := by
  have hc := List.find?_some h
  simpa using hc

/-- The column that is found by a name is one of the table's. -/
theorem mem_of_column? (h : b.column? name = some c) : c ∈ b.columns := List.mem_of_find?_eq_some h

/-- A column is found by a name if the table has one of that name. -/
theorem exists_column?_iff : (∃ c, b.column? name = some c) ↔ name ∈ b.names := by
  rw [← Option.isSome_iff_exists, column?, List.find?_isSome]
  simp [names]

/-- The first index of a name is the index of a column of that name. -/
theorem getElem_idxOf (h : name ∈ b.names) : ∃ hi : b.names.idxOf name < b.columns.length,
    b.columns[b.names.idxOf name].field.name = name := by
  have hi : b.names.idxOf name < b.names.length := List.idxOf_lt_length_iff.2 h
  have hi' : b.names.idxOf name < b.columns.length := by simpa [Batch.names] using hi
  have hmap : b.names[b.names.idxOf name] = b.columns[b.names.idxOf name].field.name :=
    List.getElem_map _
  exact ⟨hi', hmap.symm.trans (List.getElem_idxOf hi)⟩

/-- No column in front of the first index of a name has that name. -/
theorem ne_of_lt_idxOf {i : Nat} (hi : i < b.columns.length) (hlt : i < b.names.idxOf name) :
    b.columns[i].field.name ≠ name := by
  have hne := List.not_of_lt_findIdx hlt
  simpa [Batch.names] using hne

/-- The column of a name is the one where the name is first. -/
theorem column?_eq_getElem (h : name ∈ b.names) :
    ∃ hi : b.names.idxOf name < b.columns.length,
      b.column? name = some b.columns[b.names.idxOf name] := by
  obtain ⟨hi, hname⟩ := getElem_idxOf h
  refine ⟨hi, ?_⟩
  rw [column?, List.find?_eq_some_iff_getElem]
  refine ⟨by simpa using hname, _, hi, rfl, fun j hj => ?_⟩
  simpa using ne_of_lt_idxOf (by omega) hj

/-! ## Picking columns -/

/-- A table whose names differ is picked by all its names. -/
theorem picks_self (h : b.names.Nodup) : b.Picks b.names b := by
  refine List.forall₂_map_left_iff.2 (List.forall₂_same.2 fun c hc => ?_)
  obtain ⟨i, hi, rfl⟩ := List.getElem_of_mem hc
  exact find?_key (fun c : Column => c.field.name) h hi

/-- A table and names pick one table only. -/
theorem Picks.unique {b'' : Batch} (h : b.Picks names b') (h' : b.Picks names b'') : b' = b'' := by
  have hcolumns : b'.columns = b''.columns :=
    List.right_unique_forall₂' (fun _ _ _ hx hy => Option.some.inj (hx.symm.trans hy)) h h'
  obtain ⟨columns⟩ := b'
  exact congrArg Batch.mk hcolumns

/-- Picked columns have the names that were asked for. -/
theorem Picks.names_eq (h : b.Picks names b') : b'.names = names := by
  have hnames : List.Forall₂ Eq names b'.names :=
    List.forall₂_map_right_iff.2 (h.imp fun _ _ hc => (name_of_column? hc).symm)
  rw [List.forall₂_eq_eq_eq] at hnames
  exact hnames.symm

/-- Names pick a table exactly if each of them is a column's. -/
theorem exists_picks_iff : (∃ b', b.Picks names b') ↔ ∀ name ∈ names, name ∈ b.names := by
  simp only [← exists_column?_iff]
  rw [← exists_forall₂_iff]
  exact ⟨fun ⟨b', h⟩ => ⟨b'.columns, h⟩, fun ⟨columns, h⟩ => ⟨⟨columns⟩, h⟩⟩

/-- Picking looks at nothing but the columns of the names. -/
theorem Picks.of_column?_eq {b'' : Batch} (h : b.Picks names b')
    (heq : ∀ name ∈ names, b''.column? name = b.column? name) : b''.Picks names b' := by
  have hboth := (List.forall₂_and_left _ _).2 ⟨heq, h⟩
  exact hboth.imp fun _ _ hc => hc.1.trans hc.2

/-- A column of picked columns is the one that was picked. -/
theorem Picks.column?_eq (h : b.Picks names b') (hname : name ∈ names) :
    b'.column? name = b.column? name := by
  rw [← h.names_eq] at hname
  obtain ⟨c, hc⟩ := exists_column?_iff.2 hname
  obtain ⟨picked, -, hpicked⟩ := exists_of_mem_right h c (mem_of_column? hc)
  rw [hc, ← name_of_column? hc, name_of_column? hpicked, hpicked]

/-- What is picked from picked columns is picked from the columns that they come from. -/
theorem Picks.trans {b'' : Batch} {names' : List String} (h : b.Picks names b')
    (h' : b'.Picks names' b'') : b.Picks names' b'' := by
  refine h'.of_column?_eq fun name hname => (h.column?_eq ?_).symm
  rw [← h.names_eq]
  exact exists_picks_iff.1 ⟨b'', h'⟩ name hname

end Batch

/-! ## Projections -/

namespace TableSchema

variable {s : TableSchema} {b b' : Batch} {source : String}

/-- A schema without fields projects no column away. -/
theorem project_of_no_fields (h : s.hasFields = false) : s.project source b = .ok b := by
  simp [project, h]

/-- A schema with fields projects a table to the columns that it names. -/
theorem project_eq_ok_iff_of_fields (h : s.hasFields = true) :
    s.project source b = .ok b' ↔ b.Picks s.names b' := by
  rw [project, if_pos h, map_eq_ok_iff]
  constructor
  · rintro ⟨columns, hcolumns, rfl⟩
    refine (mapM_eq_ok_iff.1 hcolumns).imp fun name c hc => ?_
    cases hname : b.column? name with
    | some found =>
      rw [hname] at hc
      exact congrArg some (Except.ok.inj hc)
    | none =>
      rw [hname] at hc
      cases hc
  · intro hpicks
    refine ⟨b'.columns, mapM_eq_ok_iff.2 (hpicks.imp fun name c hname => ?_), rfl⟩
    rw [hname]

/-- A projection picks the columns that the schema selects. -/
theorem project_eq_ok_iff (hb : b.names.Nodup) :
    s.project source b = .ok b' ↔ b.Picks (s.selected b.names) b' := by
  cases h : s.hasFields with
  | false =>
    rw [project_of_no_fields h, selected_of_no_fields h]
    constructor
    · intro heq
      obtain rfl := Except.ok.inj heq
      exact Batch.picks_self hb
    · intro hpicks
      rw [(Batch.picks_self hb).unique hpicks]
  | true => rw [project_eq_ok_iff_of_fields h, selected_of_fields h]

end TableSchema

namespace Parquet

open Batch

variable {container : Container} {s : TableSchema} {b b' : Batch}

/-! ## Reading columns out of a container -/

/-- Columns are selected exactly if each field of the schema names one. -/
theorem exists_selectColumns_iff (h : s.hasFields = true) :
    (∃ b', selectColumns b s = .ok b') ↔ ∀ name ∈ s.names, name ∈ b.names := by
  unfold selectColumns
  rw [if_neg (by simp [h])]
  cases hfind : s.names.find? fun name => !b.names.contains name with
  | some name =>
    have hmem := List.mem_of_find?_eq_some hfind
    have hmissing := List.find?_some hfind
    simp only [reduceCtorEq, exists_false, false_iff]
    intro hall
    simp [hall name hmem] at hmissing
  | none =>
    have hall := List.find?_eq_none.1 hfind
    simpa using hall

/-- The reader may leave columns out, but not the first one of a name that it is asked for. -/
theorem column?_of_selectColumns (hfields : s.hasFields = true) (h : selectColumns b s = .ok b')
    {name : String} (hname : name ∈ s.names) : b'.column? name = b.column? name := by
  have hmem := (exists_selectColumns_iff hfields).1 ⟨b', h⟩ name hname
  obtain ⟨hi, hcolumn⟩ := column?_eq_getElem hmem
  obtain ⟨_, hfield⟩ := getElem_idxOf hmem
  unfold selectColumns at h
  rw [if_neg (by simp [hfields])] at h
  split at h
  · cases h
  · obtain rfl := Except.ok.inj h
    rw [hcolumn, column?, List.find?_map, List.find?_filter]
    -- the search for the name stops at the same index, where the column was kept
    have hfirst : b.columns.zipIdx.find? (fun a =>
        (s.names.map fun n => b.names.idxOf n).contains a.2 && decide (a.1.field.name = name)) =
          some (b.columns[b.names.idxOf name], b.names.idxOf name) := by
      rw [List.find?_eq_some_iff_getElem]
      have hkept : b.names.idxOf name ∈ s.names.map fun n => b.names.idxOf n :=
        List.mem_map_of_mem hname
      refine ⟨?_, b.names.idxOf name, by simpa using hi, by simp, fun j hj => ?_⟩
      · rw [List.contains_iff_mem.2 hkept, hfield]
        simp
      · have hne := ne_of_lt_idxOf (by omega) hj
        simp [hne]
    simp only [Bool.decide_and, Bool.decide_eq_true, Function.comp_apply]
    rw [hfirst, Option.map_some]

/-- Unless they are read in portions of no row, all rows of a table are read. -/
theorem decodedRows_eq {options : Options} (h : options.batchSize ≠ some 0) (b : Batch) :
    decodedRows options b = b := by
  have hsize : options.batchSize.getD defaultBatchSize ≠ 0 := by
    cases hread : options.batchSize with
    | none => decide
    | some n => exact fun hn => h (hread.trans (congrArg some hn))
  exact concat_portions hsize b

/-- A batch size of zero leaves the columns and no row. -/
theorem decodedRows_zero {options : Options} (h : options.batchSize = some 0) (b : Batch) :
    decodedRows options b = ofFields b.fields := by
  simp [decodedRows, h, portions_zero]

section
variable {content : Bytes} (hread : container.read? content = some b)
  {reading : FormatOptions} {r : Options} (hreading : Options.ofFormatOptions reading = .ok r)
include hread hreading

/-- A container is read by two searches: for the columns that the schema names, as they stand, and
for their names in the order of the schema. -/
theorem decode_eq :
    decode container content s reading =
      selectColumns b s >>= fun selected => s.project "table" (decodedRows r selected) := by
  unfold decode
  rw [hreading, hread]
  rfl

variable (hbatch : r.batchSize ≠ some 0)
include hbatch

/-- All columns are read if the schema has no fields. -/
theorem decode_of_no_fields (h : s.hasFields = false) :
    decode container content s reading = .ok b := by
  have hselect : selectColumns b s = .ok b := by simp [selectColumns, h]
  rw [decode_eq hread hreading, hselect]
  exact (TableSchema.project_of_no_fields h).trans (congrArg _ (decodedRows_eq hbatch b))

/-- The columns that the schema names are read, in the order of its fields. -/
theorem decode_eq_ok_iff_of_fields (h : s.hasFields = true) :
    decode container content s reading = .ok b' ↔ b.Picks s.names b' := by
  rw [decode_eq hread hreading, bind_eq_ok_iff]
  simp only [decodedRows_eq hbatch]
  constructor
  · rintro ⟨selected, hselect, hproject⟩
    refine ((TableSchema.project_eq_ok_iff_of_fields h).1 hproject).of_column?_eq ?_
    exact fun name hname => (column?_of_selectColumns h hselect hname).symm
  · intro hpicks
    obtain ⟨selected, hselect⟩ := (exists_selectColumns_iff h).2 (exists_picks_iff.1 ⟨b', hpicks⟩)
    refine ⟨selected, hselect, (TableSchema.project_eq_ok_iff_of_fields h).2 ?_⟩
    exact hpicks.of_column?_eq fun name hname => column?_of_selectColumns h hselect hname

end

section
variable {content : Bytes} (hread : container.read? content = some b)
  {reading : FormatOptions} {r : Options} (hreading : Options.ofFormatOptions reading = .ok r)
  (hbatch : r.batchSize ≠ some 0)
include hread hreading hbatch

/-- A container is read if it has the columns that the schema names. -/
theorem exists_decode_iff : (∃ back, decode container content s reading = .ok back) ↔
    ∀ name ∈ s.selected b.names, name ∈ b.names := by
  cases h : s.hasFields with
  | false =>
    rw [TableSchema.selected_of_no_fields h]
    exact iff_of_true ⟨b, decode_of_no_fields hread hreading hbatch h⟩ fun _ => id
  | true =>
    rw [TableSchema.selected_of_fields h, ← exists_picks_iff]
    simp only [decode_eq_ok_iff_of_fields hread hreading hbatch h]

/-- What is read of columns that were picked from a table are columns of the table. -/
theorem picks_of_decode_picked {base : Batch} {names : List String} (hpicks : base.Picks names b)
    (h : decode container content s reading = .ok b') : base.Picks (s.selected names) b' := by
  cases hfields : s.hasFields with
  | false =>
    rw [decode_of_no_fields hread hreading hbatch hfields] at h
    rw [TableSchema.selected_of_no_fields hfields, ← Except.ok.inj h]
    exact hpicks
  | true =>
    rw [TableSchema.selected_of_fields hfields]
    exact hpicks.trans ((decode_eq_ok_iff_of_fields hread hreading hbatch hfields).1 h)

end

/-! ## Writing and reading -/

/-- What is written are the columns that the schema selects, if the container holds them. -/
theorem encode_eq_ok_iff {writing : FormatOptions} {w : Options}
    (hwriting : Options.ofFormatOptions writing = .ok w) (hb : b.names.Nodup) {data : Bytes} :
    encode container s b writing = .ok data ↔ ∃ written,
      b.Picks (s.selected b.names) written ∧ container.Holds written ∧
        container.write w.compression written = data := by
  unfold encode
  rw [hwriting]
  simp [bind_eq_ok_iff, TableSchema.project_eq_ok_iff hb, Container.content_eq_ok_iff]

/-- A container that holds a table holds the columns that are picked from it. -/
theorem holds_of_picks {names : List String} (h : container.Holds b) (hpicks : b.Picks names b') :
    container.Holds b' := by
  intro c hc
  obtain ⟨name, -, hname⟩ := exists_of_mem_right hpicks c hc
  exact h c (mem_of_column? hname)

/-- Of a table whose types the container holds, content is written if the schema names columns of the
table.  What was written is read if the other schema names columns that were written; what is read are
the table's columns of these names, in the order of the second schema, or all that were written if it has
no fields.  Names may repeat in either. -/
theorem decode_encode_selected (container : Container) {W R : TableSchema} {b : Batch}
    (hcolumns : b.columns ≠ []) (hb : b.names.Nodup) {writing reading : FormatOptions} {w r : Options}
    (hwriting : Options.ofFormatOptions writing = .ok w)
    (hreading : Options.ofFormatOptions reading = .ok r) (hbatch : r.batchSize ≠ some 0) :
    (container.Holds b → ((∃ data, encode container W b writing = .ok data) ↔
      W.fields = [] ∨ ∀ name ∈ W.names, name ∈ b.names)) ∧
    ∀ data, encode container W b writing = .ok data →
      ((∃ back, decode container data R reading = .ok back) ↔
        R.fields = [] ∨ ∀ name ∈ R.names, name ∈ W.selected b.names) ∧
      ∀ back, decode container data R reading = .ok back →
        b.Picks (R.selected (W.selected b.names)) back := by
  simp only [encode_eq_ok_iff hwriting hb, ← TableSchema.selected_subset_iff]
  constructor
  · intro hholds
    rw [← exists_picks_iff]
    constructor
    · rintro ⟨-, written, hpicks, -, -⟩
      exact ⟨written, hpicks⟩
    · rintro ⟨written, hpicks⟩
      exact ⟨_, written, hpicks, holds_of_picks hholds hpicks, rfl⟩
  · rintro - ⟨written, hpicks, hheld, rfl⟩
    have hnames : written.names ≠ [] := by
      rw [hpicks.names_eq]
      exact TableSchema.selected_ne_nil (by simpa [names] using hcolumns)
    have hread := container.read?_write w.compression written (by simpa [names] using hnames) hheld
    refine ⟨?_, fun back h => picks_of_decode_picked hread hreading hbatch hpicks h⟩
    rw [← hpicks.names_eq]
    exact exists_decode_iff hread hreading hbatch

/-- Two columns written in the other order, and read with one of them repeated. -/
theorem decode_encode_selected_permuted : ∃ data back,
    encode .tagged ⟨[⟨"y", "string", true⟩, ⟨"x", "string", true⟩]⟩
      ⟨[⟨⟨"x", .integer .int8, false⟩, [.integer 1]⟩, ⟨⟨"y", .boolean, true⟩, [.null]⟩]⟩
      .empty = .ok data ∧
    decode .tagged data ⟨[⟨"x", "string", true⟩, ⟨"y", "string", true⟩, ⟨"x", "string", true⟩]⟩
      .empty = .ok back ∧
    back.columns = [⟨⟨"x", .integer .int8, false⟩, [.integer 1]⟩, ⟨⟨"y", .boolean, true⟩, [.null]⟩,
      ⟨⟨"x", .integer .int8, false⟩, [.integer 1]⟩] := by
  have hoptions : Options.ofFormatOptions .empty = .ok {} := rfl
  have hholds : Container.tagged.Holds
      ⟨[⟨⟨"x", .integer .int8, false⟩, [.integer 1]⟩, ⟨⟨"y", .boolean, true⟩, [.null]⟩]⟩ := by
    intro c hc
    rcases List.mem_pair.1 hc with rfl | rfl <;> rfl
  obtain ⟨hwrite, hread⟩ := decode_encode_selected .tagged
    (W := ⟨[⟨"y", "string", true⟩, ⟨"x", "string", true⟩]⟩)
    (R := ⟨[⟨"x", "string", true⟩, ⟨"y", "string", true⟩, ⟨"x", "string", true⟩]⟩)
    (b := ⟨[⟨⟨"x", .integer .int8, false⟩, [.integer 1]⟩, ⟨⟨"y", .boolean, true⟩, [.null]⟩]⟩)
    (by decide) (by decide) hoptions hoptions (by decide)
  obtain ⟨data, hdata⟩ := (hwrite hholds).2 (Or.inr (by decide))
  obtain ⟨hreads, hpicks⟩ := hread data hdata
  obtain ⟨back, hback⟩ := hreads.2 (Or.inr (by decide))
  refine ⟨data, back, hdata, hback, ?_⟩
  exact congrArg Batch.columns ((hpicks back hback).unique (.cons rfl (.cons rfl (.cons rfl .nil))))

end Parquet

end RootedStorage
