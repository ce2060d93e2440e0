import RootedStorage.Proofs.Csv.CellText
import RootedStorage.Proofs.Csv.Codec
import RootedStorage.Proofs.Table.Grid

/-!
# Reading back what was written

`decode` undoes `encode` for tables whose cells have a text that says everything.  Both directions
go through one grid of texts: the writer lays the cells out in rows, and the reader finds the column
of every declared field at its position.
-/

namespace RootedStorage

/-- The declared type name of an exact type stands for the type. -/
theorem ColumnType.ofDeclared_declaredName {t : ColumnType} (ht : t.IsExact) :
    ColumnType.ofDeclared t.declaredName = t := by
  cases ht with
  | boolean => decide
  | integer i => cases i <;> decide
  | text => decide

namespace Csv

variable {b : Batch}

/-- The texts of a table's cells, row by row. -/
def textGrid (b : Batch) : List (List String) :=
  Batch.rowsOf b.rows (b.columns.map fun c => c.cells.map exactText)

/-- A row of the grid has one text for each column. -/
theorem length_of_mem_textGrid {row : List String} (h : row ∈ textGrid b) :
    row.length = b.columns.length := by
  rw [Batch.length_of_mem_rowsOf h, List.length_map]

/-- A column has one text for each row. -/
theorem length_of_mem_texts (hb : b.WellFormed) :
    ∀ texts ∈ b.columns.map fun c => c.cells.map exactText, texts.length = b.rows := by
  intro texts htexts
  obtain ⟨c, hc, rfl⟩ := List.mem_map.1 htexts
  rw [List.length_map]
  exact (hb c hc).1

/-- The grid has as many rows as the table. -/
theorem length_textGrid (hb : b.WellFormed) : (textGrid b).length = b.rows :=
  Batch.length_rowsOf (length_of_mem_texts hb)

/-- The texts of a whole table: its names, if there is a header, and the grid. -/
def textRows (header : Bool) (b : Batch) : List (List String) :=
  (if header then [b.names] else []) ++ textGrid b

/-- A written row has one text for each column, the header too. -/
theorem length_of_mem_textRows {header : Bool} {row : List String} (h : row ∈ textRows header b) :
    row.length = b.columns.length := by
  rcases List.mem_append.1 h with h | h
  · cases header with
    | false => cases h
    | true =>
      obtain rfl := List.mem_singleton.1 h
      rw [Batch.names, List.length_map]
  · exact length_of_mem_textGrid h

/-- Nothing is written exactly if there is neither a header nor a row. -/
theorem textRows_eq_nil_iff {header : Bool} :
    textRows header b = [] ↔ header = false ∧ textGrid b = [] := by
  cases header <;> simp [textRows]

/-- What is written is a header or a row. -/
theorem header_or_textGrid_ne_nil {header : Bool} (h : textRows header b ≠ []) :
    header = true ∨ textGrid b ≠ [] := by
  by_contra hnone
  simp only [not_or, Bool.not_eq_true, ne_eq, not_not] at hnone
  exact h (textRows_eq_nil_iff.2 hnone)

/-! ## Writing -/

/-- The cells of an exact type are written as their exact texts. -/
theorem columnFields_of_isExact {c : Column} (ht : c.field.type.IsExact)
    (hc : ∀ x ∈ c.cells, x.Fits c.field.type) :
    columnFields c = some ((c.cells.map exactText).map Utf8.encode) := by
  rw [List.map_map]
  refine mapM_eq_pure_map fun x hx => ?_
  rw [cellText_of_isExact ht (hc x hx)]
  rfl

/-- The records of a table of exact types are those of its grid. -/
theorem rowRecords_of_isExact (hb : b.WellFormed) (ht : ∀ c ∈ b.columns, c.field.type.IsExact) :
    rowRecords b = some ((textGrid b).map textRecord) := by
  have hcolumns : b.columns.mapM columnFields =
      some (b.columns.map fun c => (c.cells.map exactText).map Utf8.encode) :=
    mapM_eq_pure_map fun c hc => columnFields_of_isExact (ht c hc) (hb c hc).2.1
  have hgrid : (textGrid b).map textRecord =
      Batch.rowsOf b.rows (b.columns.map fun c => (c.cells.map exactText).map Utf8.encode) := by
    rw [textGrid, show textRecord = List.map Utf8.encode from rfl, Batch.map_rowsOf, List.map_map]
    rfl
  rw [rowRecords, hcolumns, hgrid]
  rfl

/-- A table of exact types is written: the names, if there is a header, and the grid of texts. -/
theorem encode_of_isExact (hb : b.WellFormed) (ht : ∀ c ∈ b.columns, c.field.type.IsExact)
    {options : FormatOptions} {o : Options} (ho : Options.ofFormatOptions options = .ok o) :
    encode {} b options =
      .ok (((textRows o.header b).map textRecord).flatMap (writeRecord o.dialect)) := by
  have hwritable : b.columns.all (fun c => isWritable c.field.type) = true :=
    List.all_eq_true.2 fun c hc => isWritable_of_isExact (ht c hc)
  have hproject : ({} : TableSchema).project "table" b = .ok b := rfl
  simp only [encode, ho, hproject, bind, Except.bind, hwritable, Bool.not_true, Bool.false_eq_true,
    if_false, rowRecords_of_isExact hb ht, textRows, List.map_append]
  cases o.header <;> rfl

/-! ## Reading -/

/-- A column of the grid has the texts of the column's cells. -/
theorem columnAt_textGrid (hb : b.WellFormed) {i : Nat} (hi : i < b.columns.length) :
    columnAt (textGrid b) i = b.columns[i].cells.map exactText := by
  have htexts : (b.columns.map fun c => c.cells.map exactText)[i]? =
      some (b.columns[i].cells.map exactText) := by
    simp [hi]
  have hentries := Batch.map_getElem?_rowsOf (length_of_mem_texts hb) htexts
  have h := congrArg (List.map fun x : Option String => x.getD "") hentries
  rw [List.map_map, List.map_map] at h
  exact h.trans (List.map_id _)

/-- A column of the grid is read as the column's cells. -/
theorem readColumn_textGrid (hb : b.WellFormed) (ht : ∀ c ∈ b.columns, c.field.type.IsExact)
    {i : Nat} (hi : i < b.columns.length) :
    readColumn (textGrid b) b.columns[i].field.type i =
      some (b.columns[i].cells.map Cell.blankAsNull) := by
  have hmem : b.columns[i] ∈ b.columns := List.getElem_mem hi
  rw [readColumn, columnAt_textGrid hb hi]
  refine mapM_eq_pure ?_
  rw [List.forall₂_map_left_iff, List.forall₂_map_right_iff, List.forall₂_same]
  exact fun x hx => parseCell_exactText (ht _ hmem) ((hb _ hmem).2.1 x hx)

/-- The table of declared fields has the names, the types and the cells that it was given. -/
theorem columns_tableOf_map (cells : Column → List Cell)
    (htype : ∀ c ∈ b.columns, ColumnType.ofDeclared c.field.type.declaredName = c.field.type) :
    (tableOf (TableSchema.ofFields b.fields) (b.columns.map cells)).columns.map
        (fun c => (c.field.name, c.field.type, c.cells)) =
      b.columns.map fun c => (c.field.name, c.field.type, cells c) := by
  refine List.ext_getElem (by simp [tableOf, TableSchema.ofFields, Batch.fields]) fun i hi hi' => ?_
  have hindex : i < b.columns.length := by simpa using hi'
  have htypes := htype b.columns[i] (List.getElem_mem _)
  simp [tableOf, TableSchema.ofFields, Batch.fields, FieldDeclaration.type, htypes]

/-- Without rows nothing but the declared fields is read. -/
theorem columns_ofFields_map (cells : Column → List Cell) (hcells : ∀ c ∈ b.columns, cells c = [])
    (htype : ∀ c ∈ b.columns, ColumnType.ofDeclared c.field.type.declaredName = c.field.type) :
    (Batch.ofFields (TableSchema.ofFields b.fields).toFields).columns.map
        (fun c => (c.field.name, c.field.type, c.cells)) =
      b.columns.map fun c => (c.field.name, c.field.type, cells c) := by
  refine List.ext_getElem (by simp [Batch.ofFields, TableSchema.toFields, TableSchema.ofFields,
    Batch.fields]) fun i hi hi' => ?_
  have hindex : i < b.columns.length := by simpa using hi'
  have hmem : b.columns[i] ∈ b.columns := List.getElem_mem _
  simp [Batch.ofFields, TableSchema.toFields, TableSchema.ofFields, Batch.fields,
    FieldDeclaration.type, htype _ hmem, hcells _ hmem]

/-- The table that is read back: every column nullable, and empty texts as nulls. -/
theorem columns_tableOf (ht : ∀ c ∈ b.columns, c.field.type.IsExact) :
    (tableOf (TableSchema.ofFields b.fields)
      (b.columns.map fun c => c.cells.map Cell.blankAsNull)).columns.map
        (fun c => (c.field.name, c.field.type, c.cells)) =
      b.columns.map fun c => (c.field.name, c.field.type, c.cells.map Cell.blankAsNull) :=
  columns_tableOf_map _ fun c hc => ColumnType.ofDeclared_declaredName (ht c hc)

/-- A table without rows is what its schema alone stands for. -/
theorem columns_ofFields (hb : b.WellFormed) (ht : ∀ c ∈ b.columns, c.field.type.IsExact)
    (hrows : b.rows = 0) :
    (Batch.ofFields (TableSchema.ofFields b.fields).toFields).columns.map
        (fun c => (c.field.name, c.field.type, c.cells)) =
      b.columns.map fun c => (c.field.name, c.field.type, c.cells.map Cell.blankAsNull) := by
  refine columns_ofFields_map _ (fun c hc => ?_) fun c hc =>
    ColumnType.ofDeclared_declaredName (ht c hc)
  rw [List.eq_nil_of_length_eq_zero ((hb c hc).1.trans hrows), List.map_nil]

/-- A table whose columns have as many cells has as many rows. -/
theorem rows_eq_of_lengths {back : Batch} {cells : Column → List Cell}
    (hlength : ∀ c, (cells c).length = c.cells.length)
    (h : back.columns.map (fun c => (c.field.name, c.field.type, c.cells)) =
      b.columns.map fun c => (c.field.name, c.field.type, cells c)) : back.rows = b.rows := by
  have hlengths := congrArg (fun l => (l.head?.map (·.2.2.length)).getD 0) h
  simpa [List.head?_map, Option.map_map, Function.comp_def, Batch.rows, hlength] using hlengths

/-- A table whose columns come back has as many rows as before. -/
theorem rows_eq_of_columns {back : Batch}
    (h : back.columns.map (fun c => (c.field.name, c.field.type, c.cells)) =
      b.columns.map fun c => (c.field.name, c.field.type, c.cells.map Cell.blankAsNull)) :
    back.rows = b.rows :=
  rows_eq_of_lengths (fun _ => List.length_map ..) h

/-- The schema of a table names its columns. -/
theorem names_ofFields (b : Batch) : (TableSchema.ofFields b.fields).names = b.names := by
  simp [TableSchema.ofFields, TableSchema.names, Batch.fields, Batch.names]

/-- A text whose records are the names and a grid of readable texts is read as the table of the cells,
if it holds any record. -/
theorem decode_of_grid (hcolumns : b.columns ≠ []) (hnames : b.names.Nodup)
    {options : FormatOptions} {o : Options} (ho : Options.ofFormatOptions options = .ok o)
    (hbatch : o.batchSize ≠ 0) {bytes : Bytes} (hbytes : bytes ≠ []) {grid : List (List String)}
    (hsome : o.header = true ∨ grid ≠ [])
    (hrecords : records o.dialect bytes =
      ((if o.header then [b.names] else []) ++ grid).map textRecord)
    (hwidth : ∀ row ∈ grid, row.length = b.columns.length) (cells : Column → List Cell)
    (hcells : ∀ i (hi : i < b.columns.length),
      readColumn grid (ColumnType.ofDeclared b.columns[i].field.type.declaredName) i =
        some (cells b.columns[i])) :
    decode bytes (TableSchema.ofFields b.fields) options =
      .ok (tableOf (TableSchema.ofFields b.fields) (b.columns.map cells)) := by
  have hdeclared := names_ofFields b
  have hcount : (TableSchema.ofFields b.fields).fields.length = b.columns.length := by
    simp [TableSchema.ofFields, Batch.fields]
  have hpositive : b.columns.length ≠ 0 := by simpa using hcolumns
  have hnonempty : bytes.isEmpty = false := List.isEmpty_eq_false_iff.2 hbytes
  simp only [decode, ho, bind, Except.bind, hnonempty, Bool.false_eq_true, if_false]
  refine decodeWith_textRecords ?_ hsome hbatch ?_ ?_
    (fun row hrow => (hwidth row hrow).trans hcount.symm) ?_ ?_
  · rw [hrecords, hdeclared]
  · exact fun hnil => hpositive (by rw [← hcount, hnil, List.length_nil])
  · rw [hdeclared]
    exact hnames
  · rw [List.length_map, hcount]
  · intro i hi
    have hindex : i < b.columns.length := by omega
    have hcolumn := hcells i hindex
    simpa [TableSchema.ofFields, Batch.fields, FieldDeclaration.type, hindex] using hcolumn

/-- A text whose records are the names and the grid is read as the table, if it holds any record. -/
theorem decode_of_records (hb : b.WellFormed) (hcolumns : b.columns ≠ []) (hnames : b.names.Nodup)
    (ht : ∀ c ∈ b.columns, c.field.type.IsExact) {options : FormatOptions} {o : Options}
    (ho : Options.ofFormatOptions options = .ok o) (hbatch : o.batchSize ≠ 0) {bytes : Bytes}
    (hbytes : bytes ≠ []) (hrows : textRows o.header b ≠ [])
    (hrecords : records o.dialect bytes = (textRows o.header b).map textRecord) :
    decode bytes (TableSchema.ofFields b.fields) options =
      .ok (tableOf (TableSchema.ofFields b.fields)
        (b.columns.map fun c => c.cells.map Cell.blankAsNull)) := by
  refine decode_of_grid hcolumns hnames ho hbatch hbytes (header_or_textGrid_ne_nil hrows) hrecords
    (fun row => length_of_mem_textGrid) _ fun i hi => ?_
  rw [ColumnType.ofDeclared_declaredName (ht _ (List.getElem_mem hi))]
  exact readColumn_textGrid hb ht hi

/-- The records of a table with columns have fields. -/
theorem ne_nil_of_mem_textRows (hcolumns : b.columns ≠ []) {header : Bool} :
    ∀ record ∈ (textRows header b).map textRecord, record ≠ [] := by
  have hpositive : b.columns.length ≠ 0 := by simpa using hcolumns
  intro record hrecord
  obtain ⟨texts, htexts, rfl⟩ := List.mem_map.1 hrecord
  have hlength := length_of_mem_textRows htexts
  exact List.ne_nil_of_length_pos (by rw [length_textRecord]; omega)

/-- The written text is empty exactly if there is no row to write. -/
theorem write_textRows_eq_nil_iff {d : Dialect} {header : Bool} :
    ((textRows header b).map textRecord).flatMap (writeRecord d) = [] ↔ textRows header b = [] := by
  rw [writeRecords_eq_nil_iff, List.map_eq_nil_iff]

/-- The names and the grid are read back as the table, if the text holds any record. -/
theorem decode_textRows (hb : b.WellFormed) (hcolumns : b.columns ≠ []) (hnames : b.names.Nodup)
    (ht : ∀ c ∈ b.columns, c.field.type.IsExact) {options : FormatOptions} {o : Options}
    (ho : Options.ofFormatOptions options = .ok o) (hsound : o.dialect.Sound)
    (hbatch : o.batchSize ≠ 0) (hrows : textRows o.header b ≠ [])
    (hmark : ¬ byteOrderMark <+: ((textRows o.header b).map textRecord).flatMap
      (writeRecord o.dialect)) :
    decode (((textRows o.header b).map textRecord).flatMap (writeRecord o.dialect))
        (TableSchema.ofFields b.fields) options =
      .ok (tableOf (TableSchema.ofFields b.fields)
        (b.columns.map fun c => c.cells.map Cell.blankAsNull)) :=
  decode_of_records hb hcolumns hnames ht ho hbatch (mt write_textRows_eq_nil_iff.1 hrows) hrows
    (records_writeRecords hsound.apart (ne_nil_of_mem_textRows hcolumns)
      (fun _ _ field _ => hsound.legible field) hmark)

/-- A table of truth values, whole numbers and texts is read back from its text with the same names,
types and rows.  Only empty texts come back as nulls, and only a text that begins like a byte order
mark is excepted. -/
theorem decode_encode (hb : b.WellFormed) (hcolumns : b.columns ≠ []) (hnames : b.names.Nodup)
    (ht : ∀ c ∈ b.columns, c.field.type.IsExact) {writing reading : FormatOptions} {w r : Options}
    (hw : Options.ofFormatOptions writing = .ok w) (hr : Options.ofFormatOptions reading = .ok r)
    (hdialect : r.dialect = w.dialect) (hheader : r.header = w.header) (hsound : w.dialect.Sound)
    (hbatch : r.batchSize ≠ 0) :
    ∃ bytes, encode {} b writing = .ok bytes ∧ (¬ byteOrderMark <+: bytes →
      ∃ back, decode bytes (TableSchema.ofFields b.fields) reading = .ok back ∧
        back.rows = b.rows ∧
        back.columns.map (fun c => (c.field.name, c.field.type, c.cells)) =
          b.columns.map fun c => (c.field.name, c.field.type, c.cells.map Cell.blankAsNull)) := by
  refine ⟨_, encode_of_isExact hb ht hw, fun hmark => ?_⟩
  rw [← hdialect, ← hheader] at hmark ⊢
  -- An empty text is read before any record is looked for.
  by_cases hempty : textRows r.header b = []
  · have hrows : b.rows = 0 := by
      rw [← length_textGrid hb, (textRows_eq_nil_iff.1 hempty).2, List.length_nil]
    have hback := columns_ofFields hb ht hrows
    refine ⟨_, ?_, rows_eq_of_columns hback, hback⟩
    rw [hempty]
    simp [decode, hr, bind, Except.bind]
  · have hback := columns_tableOf ht
    exact ⟨_, decode_textRows hb hcolumns hnames ht hr (hdialect ▸ hsound) hbatch hempty hmark,
      rows_eq_of_columns hback, hback⟩

/-- A delimiter that occurs in numbers puts these in quotes; the empty text comes back as a null. -/
theorem decode_encode_digit_delimiter :
    ∃ back, decode [110, 49, 115, 10, 34, 49, 49, 34, 49, 34, 97, 34, 34, 49, 34, 10, 49, 10]
        ⟨[⟨"n", "int8", true⟩, ⟨"s", "string", true⟩]⟩ ⟨[("delimiter", "1")]⟩ = .ok back ∧
      back.rows = 2 ∧ back.columns.map (fun c => (c.field.name, c.field.type, c.cells)) =
        [("n", .integer .int8, [.integer 11, .null]),
          ("s", .text, [.text "a\"1", .null])] := by
  have hoptions : Options.ofFormatOptions ⟨[("delimiter", "1")]⟩ =
      .ok { dialect := { delimiter := 49 } } := by
    decide
  obtain ⟨bytes, hencode, hdecode⟩ := decode_encode
    (b := ⟨[⟨⟨"n", .integer .int8, true⟩, [.integer 11, .null]⟩,
      ⟨⟨"s", .text, true⟩, [.text "a\"1", .text ""]⟩]⟩)
    (by simp [Batch.WellFormed, Batch.rows, Cell.Fits]; decide) (by simp) (by decide)
    (by
      intro c hc
      rcases List.mem_pair.1 hc with rfl | rfl
      · exact .integer .int8
      · exact .text)
    hoptions hoptions rfl rfl ⟨rfl, by decide, by decide, by decide⟩ (by decide)
  have hbytes : bytes =
      [110, 49, 115, 10, 34, 49, 49, 34, 49, 34, 97, 34, 34, 49, 34, 10, 49, 10] := by
    refine Except.ok.inj (hencode.symm.trans ?_)
    decide
  subst hbytes
  exact hdecode (by decide)

end Csv

end RootedStorage
