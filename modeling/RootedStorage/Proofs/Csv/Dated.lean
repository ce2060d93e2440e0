import RootedStorage.Proofs.Csv.DateText
import RootedStorage.Proofs.Csv.RoundTrip
import RootedStorage.Proofs.Parquet.Selection

/-!
# Reading back dates and timestamps

A table is written as the table of its cells' texts is (`encode_asText`), and what is read of it is
decided cell by cell (`decode_encode_of_restores`).  The texts of days and of microseconds in the years
from 0 to 9999 are read as the same days and microseconds, so tables of these come back as they were
(`decode_encode_dated`), whatever delimiter and quote they are written with.
-/

namespace RootedStorage

/-- The types of days and of microseconds without a zone. -/
inductive ColumnType.IsDated : ColumnType → Prop where
  | date : IsDated .date32
  | timestamp : IsDated (.timestamp .microsecond none)

/-- The value lies in one of the years from 0 to 9999. -/
def ColumnType.InPlainYear : ColumnType → Int → Prop
  | .date32, days => (Date.ofDays days).Plain
  | .timestamp unit none, ticks => (Moment.ofTicks unit.perSecond ticks).date.Plain
  | _, _ => False

/-- A cell of a dated type is null, a day or a moment in microseconds. -/
theorem Cell.Fits.dated_cases {x : Cell} {t : ColumnType} (hx : x.Fits t) (ht : t.IsDated) :
    x = .null ∨ (∃ n, t = .date32 ∧ x = .integer n) ∨
      ∃ n, t = .timestamp .microsecond none ∧ x = .integer n ∧ IntegerType.int64.holds n = true := by
  cases ht with
  | date => cases x <;> simp_all [Cell.Fits]
  | timestamp => cases x <;> simp_all [Cell.Fits]

namespace Csv

variable {b : Batch}

/-! ## Tables of texts -/

/-- The text that the cell is written as; empty if there is none. -/
def shownText (type : ColumnType) (x : Cell) : String := (cellText type x).getD ""

/-- The column of the texts. -/
def asText (c : Column) : Column where
  field := { c.field with type := .text }
  cells := c.cells.map fun x => .text (shownText c.field.type x)

/-- The table of the texts. -/
def tableAsText (b : Batch) : Batch := ⟨b.columns.map asText⟩

/-- A table of texts has the rows of its table. -/
theorem rows_tableAsText (b : Batch) : (tableAsText b).rows = b.rows := by
  simp [Batch.rows, tableAsText, asText, List.head?_map, Option.map_map, Function.comp_def]

/-- A table of texts has the names of its table. -/
theorem names_tableAsText (b : Batch) : (tableAsText b).names = b.names := by
  simp [Batch.names, tableAsText, asText]

/-- A table of texts is well-formed. -/
theorem wellFormed_tableAsText (hb : b.WellFormed) : (tableAsText b).WellFormed := by
  intro c hc
  obtain ⟨c, hmem, rfl⟩ := List.mem_map.1 hc
  rw [rows_tableAsText]
  refine ⟨?_, ?_, ?_⟩
  · exact (List.length_map ..).trans (hb c hmem).1
  · intro x hx
    obtain ⟨y, -, rfl⟩ := List.mem_map.1 hx
    trivial
  · intro _ hnull
    obtain ⟨y, -, hy⟩ := List.mem_map.1 hnull
    cases hy

/-- All columns of a table of texts are exact. -/
theorem isExact_tableAsText (b : Batch) : ∀ c ∈ (tableAsText b).columns, c.field.type.IsExact := by
  intro c hc
  obtain ⟨c, -, rfl⟩ := List.mem_map.1 hc
  exact .text

/-- Every cell of the column is written as a text that is read as the cell again, and the declared
name of the type stands for the type. -/
structure Restores (c : Column) : Prop where
  isWritable : isWritable c.field.type = true
  declared : ColumnType.ofDeclared c.field.type.declaredName = c.field.type
  cell : ∀ x ∈ c.cells, ∃ s, cellText c.field.type x = some s ∧ parseCell c.field.type s = some x

/-- A cell that has a text is shown as that text. -/
theorem shownText_eq {type : ColumnType} {x : Cell} {s : String} (h : cellText type x = some s) :
    shownText type x = s := by
  rw [shownText, h, Option.getD_some]

/-- A column that is restored from its texts is written as those texts. -/
theorem columnFields_of_restores {c : Column} (h : Restores c) :
    columnFields c = some (((asText c).cells.map exactText).map Utf8.encode) := by
  have htexts : (asText c).cells.map exactText = c.cells.map (shownText c.field.type) :=
    List.map_map
  rw [htexts, List.map_map]
  refine mapM_eq_pure_map fun x hx => ?_
  obtain ⟨s, hs, -⟩ := h.cell x hx
  rw [hs, Function.comp_apply, shownText_eq hs]
  rfl

/-- A table of columns that are restored is written as its table of texts. -/
theorem rowRecords_asText (hb : b.WellFormed) (h : ∀ c ∈ b.columns, Restores c) :
    rowRecords b = rowRecords (tableAsText b) := by
  have hcells : b.columns.mapM columnFields =
      some (b.columns.map fun c => ((asText c).cells.map exactText).map Utf8.encode) :=
    mapM_eq_pure_map fun c hc => columnFields_of_restores (h c hc)
  have htexts : (tableAsText b).columns.mapM columnFields =
      some ((tableAsText b).columns.map fun c => (c.cells.map exactText).map Utf8.encode) :=
    mapM_eq_pure_map fun c hc => columnFields_of_isExact (isExact_tableAsText b c hc)
      (wellFormed_tableAsText hb c hc).2.1
  rw [rowRecords, rowRecords, hcells, htexts, rows_tableAsText, tableAsText, List.map_map]
  rfl

/-- A table is written as the table of its texts is. -/
theorem encode_asText (hb : b.WellFormed) (h : ∀ c ∈ b.columns, Restores c)
    (options : FormatOptions) : encode {} b options = encode {} (tableAsText b) options := by
  have hproject : ∀ table : Batch, ({} : TableSchema).project "table" table = .ok table :=
    fun _ => rfl
  have hwritable : b.columns.all (fun c => isWritable c.field.type) = true :=
    List.all_eq_true.2 fun c hc => (h c hc).isWritable
  have hwritable' : (tableAsText b).columns.all (fun c => isWritable c.field.type) = true :=
    List.all_eq_true.2 fun c hc => isWritable_of_isExact (isExact_tableAsText b c hc)
  simp only [encode, hproject, bind, Except.bind, hwritable, hwritable', rowRecords_asText hb h,
    names_tableAsText]

/-- A column of the texts is read as the cells that they were written for. -/
theorem readColumn_asText (hb : b.WellFormed) (h : ∀ c ∈ b.columns, Restores c) {i : Nat}
    (hi : i < b.columns.length) :
    readColumn (textGrid (tableAsText b)) b.columns[i].field.type i = some b.columns[i].cells := by
  have hi' : i < (tableAsText b).columns.length := by rwa [tableAsText, List.length_map]
  have hcolumn : (tableAsText b).columns[i].cells.map exactText =
      b.columns[i].cells.map (shownText b.columns[i].field.type) := by
    simp [tableAsText, asText, exactText, Function.comp_def]
  rw [readColumn, columnAt_textGrid (wellFormed_tableAsText hb) hi', hcolumn]
  refine mapM_eq_pure ?_
  rw [List.forall₂_map_left_iff, List.forall₂_same]
  intro x hx
  obtain ⟨s, hs, hback⟩ := (h _ (List.getElem_mem hi)).cell x hx
  rw [shownText_eq hs]
  exact hback

/-! ## The round trip -/

/-- A table whose cells are restored one by one is read back with the same names, types and rows.  Only
a text that begins like a byte order mark is excepted. -/
theorem decode_encode_of_restores (hb : b.WellFormed) (hcolumns : b.columns ≠ [])
    (hnames : b.names.Nodup) (h : ∀ c ∈ b.columns, Restores c) {options : FormatOptions} {o : Options}
    (ho : Options.ofFormatOptions options = .ok o) (hsound : o.dialect.Sound)
    (hbatch : o.batchSize ≠ 0) :
    ∃ bytes, encode {} b options = .ok bytes ∧ (¬ byteOrderMark <+: bytes →
      ∃ back, decode bytes (TableSchema.ofFields b.fields) options = .ok back ∧
        back.rows = b.rows ∧ back.columns.map (fun c => (c.field.name, c.field.type, c.cells)) =
          b.columns.map fun c => (c.field.name, c.field.type, c.cells)) := by
  have hwritten := encode_of_isExact (wellFormed_tableAsText hb) (isExact_tableAsText b) ho
  refine ⟨_, (encode_asText hb h options).trans hwritten, fun hmark => ?_⟩
  have hdeclared : ∀ c ∈ b.columns,
      ColumnType.ofDeclared c.field.type.declaredName = c.field.type := fun c hc => (h c hc).declared
  have hsome : (tableAsText b).columns ≠ [] := by simpa [tableAsText] using hcolumns
  -- An empty text is read before any record is looked for.
  by_cases hempty : textRows o.header (tableAsText b) = []
  · have hrows : b.rows = 0 := by
      rw [← rows_tableAsText, ← length_textGrid (wellFormed_tableAsText hb),
        (textRows_eq_nil_iff.1 hempty).2, List.length_nil]
    have hback := columns_ofFields_map Column.cells
      (fun c hc => List.eq_nil_of_length_eq_zero ((hb c hc).1.trans hrows)) hdeclared
    refine ⟨_, ?_, rows_eq_of_lengths (fun _ => rfl) hback, hback⟩
    rw [hempty]
    simp [decode, ho, bind, Except.bind]
  · have hrecords := records_writeRecords hsound.apart (ne_nil_of_mem_textRows hsome)
      (fun _ _ field _ => hsound.legible field) hmark
    have hback := columns_tableOf_map Column.cells hdeclared
    have hgrid := header_or_textGrid_ne_nil hempty
    have hwidth : ∀ row ∈ textGrid (tableAsText b), row.length = b.columns.length := by
      intro row hrow
      rw [length_of_mem_textGrid hrow, tableAsText, List.length_map]
    have hrows : textRows o.header (tableAsText b) =
        (if o.header then [b.names] else []) ++ textGrid (tableAsText b) := by
      rw [textRows, names_tableAsText]
    rw [hrows] at hrecords hempty ⊢
    refine ⟨_, ?_, rows_eq_of_lengths (fun _ => rfl) hback, hback⟩
    refine decode_of_grid hcolumns hnames ho hbatch ?_ hgrid hrecords hwidth Column.cells fun i hi => ?_
    · rwa [ne_eq, writeRecords_eq_nil_iff, List.map_eq_nil_iff]
    · rw [hdeclared _ (List.getElem_mem hi)]
      exact readColumn_asText hb h hi

/-! ## Dates and timestamps -/

/-- A day or a moment in a year of four digits is read back from its text, and so is a null. -/
theorem exists_text_of_isDated {t : ColumnType} (ht : t.IsDated) {x : Cell} (hx : x.Fits t)
    (hyear : ∀ n, x = .integer n → t.InPlainYear n) :
    ∃ s, cellText t x = some s ∧ parseCell t s = some x := by
  rcases hx.dated_cases ht with rfl | ⟨n, rfl, rfl⟩ | ⟨n, rfl, rfl, hholds⟩
  · exact ⟨"", rfl, rfl⟩
  · obtain ⟨s, htext, hne, hparse⟩ := CellText.parseDay_dateText (hyear n rfl)
    refine ⟨s, htext, ?_⟩
    rw [parseCell, if_neg hne]
    simp only [hparse, Option.map_some]
  · obtain ⟨s, htext, hne, hparse⟩ := CellText.parseTicks_timestampText (hyear n rfl) hholds
    refine ⟨s, htext, ?_⟩
    rw [parseCell, if_neg hne]
    simp only [hparse, Option.map_some]

/-- Dates and moments can be written. -/
theorem isWritable_of_isDated {t : ColumnType} (ht : t.IsDated) : isWritable t = true := by
  cases ht <;> rfl

/-- Dates and moments are declared by names of their own. -/
theorem ofDeclared_declaredName_of_isDated {t : ColumnType} (ht : t.IsDated) :
    ColumnType.ofDeclared t.declaredName = t := by
  cases ht <;> decide

/-- Columns that have the names of the table in their order select it as it is. -/
theorem project_ofFields_self (hcolumns : b.columns ≠ []) (hnames : b.names.Nodup) :
    (TableSchema.ofFields b.fields).project "table" b = .ok b := by
  have hfields : (TableSchema.ofFields b.fields).hasFields = true := by
    rw [TableSchema.hasFields_iff]
    simpa [TableSchema.ofFields, Batch.fields] using hcolumns
  rw [TableSchema.project_eq_ok_iff_of_fields hfields, names_ofFields]
  exact Batch.picks_self hnames

/-- A table of days and microseconds without a zone, in the years from 0 to 9999, is read back with the
same names, types, rows and cells, nulls among them, whether it is written under its own fields or under
none.  Only a text that begins like a byte order mark is excepted. -/
theorem decode_encode_dated (hb : b.WellFormed) (hcolumns : b.columns ≠ []) (hnames : b.names.Nodup)
    (ht : ∀ c ∈ b.columns, c.field.type.IsDated)
    (hyears : ∀ c ∈ b.columns, ∀ n, Cell.integer n ∈ c.cells → c.field.type.InPlainYear n)
    {options : FormatOptions} {o : Options} (ho : Options.ofFormatOptions options = .ok o)
    (hsound : o.dialect.Sound) (hbatch : o.batchSize ≠ 0) :
    ∃ bytes, encode {} b options = .ok bytes ∧
      encode (TableSchema.ofFields b.fields) b options = .ok bytes ∧ (¬ byteOrderMark <+: bytes →
        ∃ back, decode bytes (TableSchema.ofFields b.fields) options = .ok back ∧
          back.rows = b.rows ∧ back.columns.map (fun c => (c.field.name, c.field.type, c.cells)) =
            b.columns.map fun c => (c.field.name, c.field.type, c.cells)) := by
  have hrestores : ∀ c ∈ b.columns, Restores c := by
    intro c hc
    exact {
      isWritable := isWritable_of_isDated (ht c hc)
      declared := ofDeclared_declaredName_of_isDated (ht c hc)
      cell := by
        intro x hx
        refine exists_text_of_isDated (ht c hc) ((hb c hc).2.1 x hx) ?_
        rintro n rfl
        exact hyears c hc n hx }
  obtain ⟨bytes, hencode, hdecode⟩ :=
    decode_encode_of_restores hb hcolumns hnames hrestores ho hsound hbatch
  refine ⟨bytes, hencode, ?_, hdecode⟩
  rw [← hencode]
  simp only [encode, project_ofFields_self hcolumns hnames]
  rfl

/-- The last day and the last microsecond before 1970, beside a null and a time with a fraction.  With a
minus sign for a delimiter dates stand in quotes. -/
theorem decode_encode_dated_dash :
    ∃ back, decode (Utf8.encode ("d-t\n\"1969-12-31\"-\"1970-01-01T00:00:01.500\"\n" ++
          "-\"1969-12-31T23:59:59.999999\"\n"))
        ⟨[⟨"d", "date", true⟩, ⟨"t", "datetime", true⟩]⟩ ⟨[("delimiter", "-")]⟩ = .ok back ∧
      back.rows = 2 ∧ back.columns.map (fun c => (c.field.name, c.field.type, c.cells)) =
        [("d", .date32, [.integer (-1), .null]),
          ("t", .timestamp .microsecond none, [.integer 1500000, .integer (-1)])] := by
  have hoptions : Options.ofFormatOptions ⟨[("delimiter", "-")]⟩ =
      .ok { dialect := { delimiter := 45 } } := by
    decide
  obtain ⟨bytes, hencode, -, hdecode⟩ := decode_encode_dated
    (b := ⟨[⟨⟨"d", .date32, true⟩, [.integer (-1), .null]⟩,
      ⟨⟨"t", .timestamp .microsecond none, true⟩, [.integer 1500000, .integer (-1)]⟩]⟩)
    (by simp [Batch.WellFormed, Batch.rows, Cell.Fits]; decide) (by simp) (by decide)
    (by
      intro c hc
      rcases List.mem_pair.1 hc with rfl | rfl
      · exact .date
      · exact .timestamp)
    (by
      intro c hc n hn
      rcases List.mem_pair.1 hc with rfl | rfl
      · obtain rfl : n = -1 := by simpa using hn
        exact (Date.plain_ofDays_iff _).2 (by decide)
      · have hvalue : n = 1500000 ∨ n = -1 := by simpa using hn
        rcases hvalue with rfl | rfl
        · exact (Date.plain_ofDays_iff _).2 (by decide)
        · exact (Date.plain_ofDays_iff _).2 (by decide))
    hoptions ⟨rfl, by decide, by decide, by decide⟩ (by decide)
  have hbytes : bytes = Utf8.encode ("d-t\n\"1969-12-31\"-\"1970-01-01T00:00:01.500\"\n" ++
      "-\"1969-12-31T23:59:59.999999\"\n") := by
    refine Except.ok.inj (hencode.symm.trans ?_)
    decide +kernel
  subst hbytes
  exact hdecode (by decide +kernel)

end Csv

end RootedStorage
