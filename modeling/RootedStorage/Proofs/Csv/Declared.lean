import RootedStorage.Proofs.Csv.Grid

/-!
# Tables of declared fields

With declared fields a text is read as its grid says: a field takes the column that has its name in the
first record, or the column at its own place if the columns have no names, and every text of that
column is a null if it is empty and otherwise what the field's type reads it as
(`decode_eq_ok_iff`).  Nothing else of the grid counts but the widths of its rows, so neither the types
that are inferred nor the texts of other columns can change a table (`exists_grid_decode_iff`).
-/

namespace RootedStorage

theorem TableSchema.field?_of_mem {schema : TableSchema} (h : schema.names.Nodup)
    {f : FieldDeclaration} (hf : f ∈ schema.fields) : schema.field? f.name = some f := by
  obtain ⟨i, hi, rfl⟩ := List.getElem_of_mem hf
  exact find?_key (fun f : FieldDeclaration => f.name) h hi

namespace Csv

/-! ## What declared fields are read from -/

/-- The column that a declared field is read from: the first one with its name, or the one at the
field's own place if the columns have no names. -/
def source? (header : Bool) (first : List String) (name : String) (place : Nat) : Option Nat :=
  if header then first.findIdx? (fun other => other = name) else some place

/-- The texts that a declared field is read from, from the first row to the last. -/
def textsUnder (header : Bool) (grid : List (List String)) (name : String) (place : Nat) :
    Option (List String) :=
  (source? header (grid.headD []) name place).map (columnAt (dataRows header grid))

/-- What a text is read as in a column of the given type: an empty one as a null. -/
def Reads (type : ColumnType) (text : String) (cell : Cell) : Prop :=
  text = "" ∧ cell = .null ∨ text ≠ "" ∧ parseCell type text = some cell

theorem reads_iff {type : ColumnType} {text : String} {cell : Cell} :
    Reads type text cell ↔ parseCell type text = some cell := by
  by_cases htext : text = ""
  · simp [Reads, htext, parseCell, eq_comm]
  · simp [Reads, htext]

theorem exists_reads_iff {type : ColumnType} {text : String} :
    (∃ cell, Reads type text cell) ↔ text = "" ∨ (parseCell type text).isSome = true := by
  by_cases htext : text = ""
  · simp [Reads, htext]
  · simp [Reads, htext, Option.isSome_iff_exists]

/-- The column of a declared field, given with its place in the schema. -/
structure DeclaredColumn (header : Bool) (grid : List (List String)) (f : FieldDeclaration × Nat)
    (c : Column) : Prop where
  field : c.field = ⟨f.1.name, f.1.type, true⟩
  cells : ∃ texts, textsUnder header grid f.1.name f.2 = some texts ∧
    List.Forall₂ (Reads f.1.type) texts c.cells

/-! ## The plan -/

/-- The column that a plan has for a declared name, if the text has it. -/
def namedColumn (inferred : List Field) (schema : TableSchema) (name : String) :
    Outcome (Field × Nat) :=
  match inferred.findIdx? (·.name = name), schema.field? name with
  | some i, some declared => .ok (⟨name, declared.type, true⟩, i)
  | _, _ => .error (.access (.missingColumn name "CSV data"))

/-- The column that a declared field takes, given with its place in the schema. -/
def Takes (header : Bool) (first : List String) (f : FieldDeclaration × Nat) (column : Field × Nat) :
    Prop :=
  source? header first f.1.name f.2 = some column.2 ∧ column.1 = ⟨f.1.name, f.1.type, true⟩

section
variable {schema : TableSchema} {header : Bool} {inferred : List Field} {first : List String}

theorem namedColumn_eq_ok_iff (hnodup : schema.names.Nodup)
    (hnames : inferred.map (·.name) = first) {f : FieldDeclaration × Nat}
    (hf : f ∈ schema.fields.zipIdx) {column : Field × Nat} :
    namedColumn inferred schema f.1.name = .ok column ↔ Takes true first f column := by
  have hindex : inferred.findIdx? (·.name = f.1.name) = source? true first f.1.name f.2 := by
    rw [source?, if_pos rfl, ← hnames, List.findIdx?_map]
    rfl
  rw [namedColumn, TableSchema.field?_of_mem hnodup (List.fst_mem_of_mem_zipIdx hf), hindex, Takes]
  cases source? true first f.1.name f.2 with
  | none => simp
  | some i =>
    obtain ⟨field, place⟩ := column
    simp [and_comm, eq_comm]

/-- A plan has a column for every declared field, if the text has one. -/
theorem readPlan_eq_ok_iff (hfields : schema.fields ≠ []) (hnodup : schema.names.Nodup)
    (hlength : inferred.length = first.length)
    (hnames : header = true → inferred.map (·.name) = first) {plan : ReadPlan} :
    readPlan inferred schema header = .ok plan ↔
      plan.width = first.length ∧ (header = false → schema.fields.length = first.length) ∧
        List.Forall₂ (Takes header first) schema.fields.zipIdx plan.columns := by
  have hsome : schema.hasFields = true := by simpa [TableSchema.hasFields] using hfields
  obtain ⟨width, columns⟩ := plan
  cases header with
  | false =>
    have hplaces : List.Forall₂ (Takes false first) schema.fields.zipIdx columns ↔
        schema.fields.mapIdx (fun i f => (⟨f.name, f.type, true⟩, i)) = columns := by
      rw [List.mapIdx_eq_zipIdx_map, ← List.forall₂_eq_eq_eq, List.forall₂_map_left_iff]
      refine forall₂_congr_of_mem fun f _ column => ?_
      obtain ⟨field, place⟩ := column
      simp [Takes, source?, and_comm, eq_comm]
    rw [hplaces]
    simp only [readPlan, hsome, Bool.not_true, Bool.not_false, Bool.false_eq_true, if_false,
      if_true, hlength]
    by_cases hcount : schema.fields.length = first.length
    · simp [hcount, eq_comm]
    · simp [hcount]
  | true =>
    have hplan : readPlan inferred schema true =
        ReadPlan.mk inferred.length <$> schema.names.mapM (namedColumn inferred schema) := by
      simp only [readPlan, hsome, Bool.not_true, Bool.false_eq_true, if_false]
      rfl
    have hcolumns : schema.names.mapM (namedColumn inferred schema) = .ok columns ↔
        List.Forall₂ (Takes true first) schema.fields.zipIdx columns := by
      rw [mapM_eq_ok_iff, TableSchema.names, List.forall₂_map_left_iff]
      conv_lhs => rw [← List.zipIdx_map_fst 0 schema.fields]
      rw [List.forall₂_map_left_iff]
      exact forall₂_congr_of_mem fun f hf column => namedColumn_eq_ok_iff hnodup (hnames rfl) hf
    rw [hplan, map_eq_ok_iff, ← hcolumns, hlength]
    constructor
    · rintro ⟨columns', h, hsame⟩
      obtain ⟨rfl, rfl⟩ := ReadPlan.mk.inj hsame
      exact ⟨rfl, by simp, h⟩
    · rintro ⟨rfl, -, h⟩
      exact ⟨columns, h, rfl⟩

end

/-! ## The table -/

/-- A column is read in a plan if all its texts are. -/
theorem readColumns_eq_some_iff {plan : ReadPlan} {rows : List (List String)}
    {columns : List Column} :
    readColumns plan rows = some columns ↔
      List.Forall₂ (fun column c => c.field = column.1 ∧
        List.Forall₂ (Reads column.1.type) (columnAt rows column.2) c.cells)
          plan.columns columns := by
  rw [readColumns, mapM_eq_some_iff]
  refine forall₂_congr_of_mem fun column _ c => ?_
  obtain ⟨field, cells⟩ := c
  have hcells : List.Forall₂ (Reads column.1.type) (columnAt rows column.2) cells ↔
      readColumn rows column.1.type column.2 = some cells := by
    rw [readColumn, mapM_eq_some_iff]
    exact forall₂_congr_of_mem fun _ _ _ => reads_iff
  rw [hcells, Option.map_eq_some_iff]
  constructor
  · rintro ⟨cells', h, hsame⟩
    obtain ⟨rfl, rfl⟩ := Column.mk.inj hsame
    exact ⟨rfl, h⟩
  · rintro ⟨rfl, h⟩
    exact ⟨cells, h, rfl⟩

section
variable {bytes : Bytes} {schema : TableSchema} {options : FormatOptions} {o : Options}
  {grid : List (List String)}

/-- A grid that has the columns of declared fields has a first row with something in it. -/
theorem first_ne_nil_of_declaredColumns {header : Bool} {columns : List Column}
    (hfields : schema.fields ≠ [])
    (hcount : header = false → schema.fields.length = (grid.headD []).length)
    (h : List.Forall₂ (DeclaredColumn header grid) schema.fields.zipIdx columns) :
    grid.headD [] ≠ [] := by
  intro hnil
  cases header with
  | false =>
    rw [hnil] at hcount
    exact hfields (List.eq_nil_of_length_eq_zero (hcount rfl))
  | true =>
    have hplaces : schema.fields.zipIdx ≠ [] := by simpa using hfields
    obtain ⟨f, hf⟩ := List.exists_mem_of_ne_nil _ hplaces
    obtain ⟨c, -, -, texts, htexts, -⟩ := exists_of_mem_left h f hf
    rw [textsUnder, hnil] at htexts
    cases htexts

/-- A text is decoded to the declared columns of its grid, and fails if the grid does not have them. -/
theorem decode_eq_ok_iff (hfields : schema.fields ≠ []) (hnodup : schema.names.Nodup)
    (ho : Options.ofFormatOptions options = .ok o) (hbatch : o.batchSize ≠ 0)
    (hbytes : bytes ≠ []) (hrecords : records o.dialect bytes = grid.map textRecord) {b : Batch} :
    decode bytes schema options = .ok b ↔
      Even grid ∧ (o.header = false → schema.fields.length = (grid.headD []).length) ∧
        List.Forall₂ (DeclaredColumn o.header grid) schema.fields.zipIdx b.columns := by
  -- the plan is the list between the declared fields and the columns of the table
  have hbetween : List.Forall₂ (DeclaredColumn o.header grid) schema.fields.zipIdx b.columns ↔
      ∃ columns, List.Forall₂ (Takes o.header (grid.headD [])) schema.fields.zipIdx columns ∧
        readColumns ⟨(grid.headD []).length, columns⟩ (dataRows o.header grid) =
          some b.columns := by
    simp only [readColumns_eq_some_iff]
    rw [forall₂_between_iff]
    refine forall₂_congr_of_mem fun f _ c => ?_
    constructor
    · rintro ⟨hfield, texts, htexts, hcells⟩
      obtain ⟨i, hi, rfl⟩ := Option.map_eq_some_iff.1 htexts
      exact ⟨(⟨f.1.name, f.1.type, true⟩, i), ⟨hi, rfl⟩, hfield, hcells⟩
    · rintro ⟨⟨field, i⟩, ⟨hi, rfl⟩, hfield, hcells⟩
      exact ⟨hfield, _, Option.map_eq_some_iff.2 ⟨i, hi, rfl⟩, hcells⟩
  rw [decode_eq_decodeWith ho hbytes]
  constructor
  · intro h
    obtain ⟨heven, inferred, plan, hinfer, hplan, hcolumns⟩ := grid_of_decodeWith hrecords hbatch h
    rw [readPlan_eq_ok_iff hfields hnodup (length_of_inferFields_grid hinfer)
      (names_of_inferFields_grid hinfer)] at hplan
    obtain ⟨hwidth, hcount, htakes⟩ := hplan
    obtain ⟨width, columns⟩ := plan
    obtain rfl := hwidth
    exact ⟨heven, hcount, hbetween.2 ⟨columns, htakes, hcolumns⟩⟩
  · rintro ⟨heven, hcount, hdeclared⟩
    have hfirst := first_ne_nil_of_declaredColumns hfields hcount hdeclared
    obtain ⟨columns, htakes, hcolumns⟩ := hbetween.1 hdeclared
    obtain ⟨inferred, hinfer⟩ := exists_inferFields_of_even o heven hfirst
    refine decodeWith_of_grid hrecords hbatch heven hfirst hinfer ?_ hcolumns
    rw [readPlan_eq_ok_iff hfields hnodup (length_of_inferFields_grid hinfer)
      (names_of_inferFields_grid hinfer)]
    exact ⟨rfl, hcount, htakes⟩

/-- The texts of a grid fit the declared fields: there is a column for every field, and its texts are
empty or can be read. -/
structure Readable (schema : TableSchema) (header : Bool) (grid : List (List String)) : Prop where
  even : Even grid
  count : header = false → schema.fields.length = (grid.headD []).length
  texts : ∀ f ∈ schema.fields.zipIdx, ∃ texts,
    textsUnder header grid f.1.name f.2 = some texts ∧
      ∀ text ∈ texts, text = "" ∨ (parseCell f.1.type text).isSome = true

theorem exists_declaredColumns_iff {header : Bool} :
    (∃ columns, List.Forall₂ (DeclaredColumn header grid) schema.fields.zipIdx columns) ↔
      ∀ f ∈ schema.fields.zipIdx, ∃ texts, textsUnder header grid f.1.name f.2 = some texts ∧
        ∀ text ∈ texts, text = "" ∨ (parseCell f.1.type text).isSome = true := by
  rw [exists_forall₂_iff]
  refine forall₂_congr fun f _ => ?_
  simp only [← exists_reads_iff, ← exists_forall₂_iff]
  constructor
  · rintro ⟨c, -, texts, htexts, hcells⟩
    exact ⟨texts, htexts, c.cells, hcells⟩
  · rintro ⟨texts, htexts, cells, hcells⟩
    exact ⟨⟨⟨f.1.name, f.1.type, true⟩, cells⟩, rfl, texts, htexts, hcells⟩

/-- Two grids have rows of the same widths and the same texts under the declared fields. -/
structure SameDeclared (schema : TableSchema) (header : Bool) (grid grid' : List (List String)) :
    Prop where
  widths : grid'.map List.length = grid.map List.length
  texts : ∀ f ∈ schema.fields.zipIdx,
    textsUnder header grid' f.1.name f.2 = textsUnder header grid f.1.name f.2

/-- Of a grid only the widths of its rows and the texts under the declared fields count. -/
theorem SameDeclared.columns_iff {grid' : List (List String)} {header : Bool}
    (h : SameDeclared schema header grid grid') {columns : List Column} :
    (Even grid' ∧ (header = false → schema.fields.length = (grid'.headD []).length) ∧
        List.Forall₂ (DeclaredColumn header grid') schema.fields.zipIdx columns) ↔
      Even grid ∧ (header = false → schema.fields.length = (grid.headD []).length) ∧
        List.Forall₂ (DeclaredColumn header grid) schema.fields.zipIdx columns := by
  have hhead : ∀ grid : List (List String),
      (grid.headD []).length = (grid.map List.length).headD 0 := by
    intro grid
    cases grid <;> rfl
  have hfirst : (grid'.headD []).length = (grid.headD []).length := by
    rw [hhead, hhead, h.widths]
  have heven : Even grid' ↔ Even grid := by
    unfold Even
    rw [hfirst, ← List.forall_mem_map (f := List.length) (P := fun n => n = (grid.headD []).length),
      h.widths, List.forall_mem_map]
  rw [heven, hfirst]
  refine and_congr_right fun _ => and_congr_right fun _ => forall₂_congr_of_mem fun f hf c => ?_
  constructor
  · rintro ⟨hfield, hcells⟩
    exact ⟨hfield, h.texts f hf ▸ hcells⟩
  · rintro ⟨hfield, hcells⟩
    exact ⟨hfield, (h.texts f hf).symm ▸ hcells⟩

/-- A text that is not empty is read by its grid of texts: it is decoded exactly if the grid is even and
its texts fit the declared fields, and then every column holds what its texts are read as, from the
first row to the last.  Another text under other options has the same table as soon as its grid has
the same widths and the same texts under the declared fields. -/
theorem exists_grid_decode_iff (hfields : schema.fields ≠ []) (hnodup : schema.names.Nodup)
    (ho : Options.ofFormatOptions options = .ok o) (hbatch : o.batchSize ≠ 0) {text : String}
    (htext : text ≠ "") :
    ∃ grid, records o.dialect (Utf8.encode text) = grid.map textRecord ∧
      ((∃ b, decode (Utf8.encode text) schema options = .ok b) ↔ Readable schema o.header grid) ∧
      ∀ b, decode (Utf8.encode text) schema options = .ok b →
        List.Forall₂ (DeclaredColumn o.header grid) schema.fields.zipIdx b.columns ∧
        ∀ (text' : String) (options' : FormatOptions) (o' : Options) (grid' : List (List String)),
          Options.ofFormatOptions options' = .ok o' → o'.batchSize ≠ 0 → o'.header = o.header →
          records o'.dialect (Utf8.encode text') = grid'.map textRecord →
          SameDeclared schema o.header grid grid' →
          decode (Utf8.encode text') schema options' = .ok b := by
  have hencode : ∀ {s : String}, s ≠ "" → Utf8.encode s ≠ [] := fun hs hnil =>
    hs (Utf8.encode_injective (hnil.trans (by decide)))
  obtain ⟨grid, hrecords⟩ := exists_grid ho text
  have hdecode := fun b => decode_eq_ok_iff hfields hnodup ho hbatch (hencode htext) hrecords (b := b)
  refine ⟨grid, hrecords, ?_, fun b hb => ?_⟩
  · constructor
    · rintro ⟨b, hb⟩
      obtain ⟨heven, hcount, hcolumns⟩ := (hdecode b).1 hb
      exact ⟨heven, hcount, exists_declaredColumns_iff.1 ⟨_, hcolumns⟩⟩
    · rintro ⟨heven, hcount, htexts⟩
      obtain ⟨columns, hcolumns⟩ := exists_declaredColumns_iff.2 htexts
      exact ⟨⟨columns⟩, (hdecode ⟨columns⟩).2 ⟨heven, hcount, hcolumns⟩⟩
  · have hgrid := (hdecode b).1 hb
    refine ⟨hgrid.2.2, fun text' options' o' grid' ho' hbatch' hheader hrecords' hsame => ?_⟩
    have htext' : text' ≠ "" := by
      rintro rfl
      obtain rfl : grid' = [] := List.map_eq_nil_iff.1 hrecords'.symm
      obtain rfl : grid = [] := List.map_eq_nil_iff.1 hsame.widths.symm
      exact first_ne_nil_of_declaredColumns hfields hgrid.2.1 hgrid.2.2 rfl
    rw [decode_eq_ok_iff hfields hnodup ho' hbatch' (hencode htext') hrecords', hheader,
      hsame.columns_iff]
    exact hgrid

/-- A repeated name, a text that no type would be guessed for, and an empty text. -/
theorem exists_grid_decode_iff_repeated :
    ∃ b, decode (Utf8.encode "c,n,n\nx,7,?\n,,\n") ⟨[⟨"n", "int8", true⟩]⟩ ⟨[("infer_rows", "0")]⟩ =
        .ok b ∧
      b.columns = [⟨⟨"n", .integer .int8, true⟩, [.integer 7, .null]⟩] := by
  have hoptions : Options.ofFormatOptions ⟨[("infer_rows", "0")]⟩ =
      .ok { inferRows := some 0 } := by
    decide
  obtain ⟨grid, hrecords, hsuccess, htable⟩ := exists_grid_decode_iff
    (show (⟨[⟨"n", "int8", true⟩]⟩ : TableSchema).fields ≠ [] by simp) (by decide) hoptions
    (by decide) (show "c,n,n\nx,7,?\n,,\n" ≠ "" by decide)
  obtain rfl : grid = [["c", "n", "n"], ["x", "7", "?"], ["", "", ""]] := by
    refine List.map_injective_iff.2 textRecord_injective (hrecords.symm.trans ?_)
    decide
  have hunder : textsUnder true [["c", "n", "n"], ["x", "7", "?"], ["", "", ""]] "n" 0 =
      some ["7", ""] := by
    decide
  obtain ⟨b, hb⟩ := hsuccess.2
    { even := by simp [Even]
      count := nofun
      texts := by
        intro f hf
        obtain rfl := List.mem_singleton.1 hf
        exact ⟨_, hunder, by decide⟩ }
  refine ⟨b, hb, ?_⟩
  obtain ⟨⟨field, cells⟩, rest, ⟨hfield, texts, htexts, hcells⟩, hrest, hcolumns⟩ :=
    List.forall₂_cons_left_iff.1 (htable b hb).1
  obtain rfl := List.forall₂_nil_left_iff.1 hrest
  obtain rfl := Option.some.inj (htexts.symm.trans hunder)
  have hread : ["7", ""].mapM (parseCell (.integer .int8)) = some cells :=
    mapM_eq_some_iff.2 (hcells.imp fun _ _ => reads_iff.1)
  obtain rfl : [.integer 7, .null] = cells :=
    Option.some.inj ((show _ = some [Cell.integer 7, .null] by decide).symm.trans hread)
  rw [hcolumns]
  exact congrArg (fun f => [Column.mk f _]) hfield

end

end Csv

end RootedStorage
