import RootedStorage.Proofs.Csv.RoundTrip
import RootedStorage.Proofs.Csv.Splitting

/-!
# Escapes in written texts

The writer doubles the quotes of a field and writes its escapes as they are.  The reader takes a
doubled quote for one, but it also drops an escape in quotes and takes whatever comes next.  Written
records are therefore read back exactly if no escape stands in a field in quotes
(`records_writeRecords_iff`).  For the one direction the reader is followed field by field; for the
other, escapes are counted: the reader never holds more of them than it has read, and less as soon
as one of them escapes an octet (`Scan.Loses`).
-/

namespace RootedStorage.Csv

/-- An octet escapes, and it can be told apart from the delimiter, the quote and the ends of
records, as these can from each other. -/
structure Dialect.Escaping (d : Dialect) (e : UInt8) : Prop extends d.Apart where
  escape : d.escape = some e
  ne_delimiter : e ≠ d.delimiter
  ne_quote : e ≠ d.quote
  terminator : isTerminator e = false

variable {d : Dialect} {e : UInt8}

/-- With an escape a field is illegible exactly if it is quoted and holds the escape. -/
theorem Dialect.Escaping.not_legible_iff (hd : d.Escaping e) {field : FieldText} :
    ¬ d.Legible field ↔ needsQuotes d field = true ∧ e ∈ field := by
  simp [Dialect.Legible, hd.escape]

/-! ## Counting escapes -/

namespace Scan

variable {s s' : Scan} {b : UInt8}

/-- The octets that the reader holds. -/
def octets (s : Scan) : Bytes := s.field ++ s.record.flatten ++ s.records.flatten.flatten

/-- Ending a field loses no octet. -/
theorem count_endField (s : Scan) : (s.endField.octets).count e = s.octets.count e := by
  simp [octets, endField, List.count_append]

/-- Ending a record loses no octet. -/
theorem count_endRecord (s : Scan) : (s.endRecord.octets).count e = s.octets.count e := by
  have hreverse : (s.record.reverse.flatten).count e = (s.record.flatten).count e :=
    (s.record.reverse_perm.flatten).count_eq e
  simp [octets, endRecord, List.count_append, hreverse]
  omega

/-- The reader takes an octet at most once. -/
theorem Move.count_le (h : Move d s b s') :
    s'.octets.count e ≤ s.octets.count e + [b].count e := by
  cases h with
  | skip | openQuote | closeQuote | escape => exact Nat.le_add_right ..
  | take =>
    simp [octets, Scan.take, List.count_append, List.count_cons]
  | endField => exact Nat.le_trans (Nat.le_of_eq (count_endField s)) (Nat.le_add_right ..)
  | endRecord => exact Nat.le_trans (Nat.le_of_eq (count_endRecord s)) (Nat.le_add_right ..)

/-- A scan never gains octets beyond those that it is given. -/
theorem count_foldl_le (bytes : Bytes) (s : Scan) :
    (bytes.foldl (step d) s).octets.count e ≤ s.octets.count e + bytes.count e := by
  induction bytes generalizing s with
  | nil => exact Nat.le_refl _
  | cons b bytes ih =>
    have hstep := (move_step d s b).count_le (e := e)
    have hrest := ih (s.step d b)
    have hcount : (b :: bytes).count e = [b].count e + bytes.count e := by
      rw [← List.count_append, List.singleton_append]
    rw [List.foldl_cons]
    omega

/-- The records that are read have no octet that the reader does not hold. -/
theorem count_finish_le (s : Scan) : s.finish.flatten.flatten.count e ≤ s.octets.count e := by
  have hrecords : ∀ s : Scan, s.records.reverse.flatten.flatten.count e ≤ s.octets.count e := by
    intro s
    have hperm := ((s.records.reverse_perm.flatten).flatten).count_eq e
    rw [hperm, octets, List.count_append]
    exact Nat.le_add_left ..
  unfold finish
  split
  · exact hrecords s
  · exact Nat.le_trans (hrecords s.endRecord) (Nat.le_of_eq (count_endRecord s))

/-- The reader drops one of the given octets. -/
def Loses (d : Dialect) (e : UInt8) (s : Scan) (bytes : Bytes) : Prop :=
  (bytes.foldl (step d) s).octets.count e < s.octets.count e + bytes.count e

/-- Nothing is lost of nothing. -/
theorem not_loses_nil : ¬ Loses d e s [] := Nat.lt_irrefl _

/-- What is lost is not found again. -/
theorem Loses.append {bytes : Bytes} (h : Loses d e s bytes) (rest : Bytes) :
    Loses d e s (bytes ++ rest) := by
  unfold Loses at h ⊢
  have hrest := count_foldl_le (d := d) (e := e) rest (bytes.foldl (step d) s)
  rw [List.foldl_append, List.count_append]
  omega

/-- What is lost behind a prefix is lost of the whole. -/
theorem Loses.after (before : Bytes) {bytes : Bytes}
    (h : Loses d e (before.foldl (step d) s) bytes) :
    Loses d e s (before ++ bytes) := by
  unfold Loses at h ⊢
  have hbefore := count_foldl_le (d := d) (e := e) before s
  rw [List.foldl_append, List.count_append]
  omega

/-! ## Fields that cannot be read back -/

section
variable (hd : d.Escaping e)
include hd

/-- The first escape in quotes is dropped. -/
theorem loses_writeField (hs : s.AtStart) {field : FieldText} (h : ¬ d.Legible field) :
    Loses d e s (writeField d field) := by
  obtain ⟨hquotes, hmem⟩ := hd.not_legible_iff.1 h
  obtain ⟨front, back, rfl, hfront⟩ := List.eq_append_cons_of_mem hmem
  have hescape : ∀ b ∈ front, d.escape ≠ some b := by
    intro b hb heq
    rw [hd.escape, Option.some_inj] at heq
    exact hfront (heq ▸ hb)
  let doubled := fun b => if b = d.quote then [b, b] else [b]
  have hwritten : writeField d (front ++ e :: back) =
      (d.quote :: front.flatMap doubled) ++ ([e] ++ (back.flatMap doubled ++ [d.quote])) := by
    simp [writeField, hquotes, doubled, hd.ne_quote]
  rw [hwritten]
  refine Loses.after _ (Loses.append ?_ _)
  rw [List.foldl_cons, step_quote hd.toApart hs, foldl_doubled rfl hescape]
  simp [Loses, step, hd.ne_quote, hd.escape, octets]

/-- Joined fields lose an escape if one of them is illegible. -/
theorem loses_joinFields {record : Record} (hs : s.AtStart)
    (h : ∃ field ∈ record, ¬ d.Legible field) : Loses d e s (joinFields d record) := by
  induction record generalizing s with
  | nil =>
    obtain ⟨field, hfield, -⟩ := h
    cases hfield
  | cons field rest ih =>
    by_cases hlegible : d.Legible field
    · have hrest : ∃ f ∈ rest, ¬ d.Legible f := by
        obtain ⟨f, hf, hnot⟩ := h
        rcases List.mem_cons.1 hf with rfl | hf
        · exact absurd hlegible hnot
        · exact ⟨f, hf, hnot⟩
      obtain ⟨p, hfield, hp⟩ := foldl_writeField hd.toApart hs hlegible
      have hend : ({ s with position := p, field := field.reverse } : Scan).AtEnd := by
        rcases hp with ⟨rfl, -⟩ | rfl | rfl
        · exact hs.atEnd
        · simp [AtEnd]
        · simp [AtEnd]
      cases rest with
      | nil =>
        obtain ⟨f, hf, -⟩ := hrest
        cases hf
      | cons next rest =>
        refine Loses.after (writeField d field) (Loses.after [d.delimiter] ?_)
        rw [hfield, List.foldl_cons, List.foldl_nil, step_delimiter hd.toApart hend]
        exact ih (endField_atStart _) hrest
    · have hlost := loses_writeField hd hs hlegible
      cases rest with
      | nil => exact hlost
      | cons next rest => exact hlost.append _

/-- A written record loses an escape if one of its fields is illegible. -/
theorem loses_writeRecord {record : Record} (hs : s.AtStart)
    (h : ∃ field ∈ record, ¬ d.Legible field) : Loses d e s (writeRecord d record) := by
  have hline := loses_joinFields hd hs h
  have hsome : (joinFields d record).isEmpty = false := by
    rw [List.isEmpty_eq_false_iff]
    intro hnil
    rw [hnil] at hline
    exact not_loses_nil hline
  simp only [writeRecord, hsome, Bool.false_eq_true, if_false]
  exact hline.append _

/-- Written records lose an escape if any field is illegible. -/
theorem loses_writeRecords {rows : List Record} (hrows : ∀ r ∈ rows, r ≠ [])
    (h : ∃ r ∈ rows, ∃ field ∈ r, ¬ d.Legible field) (behind : List Record) :
    Loses d e { records := behind } (rows.flatMap (writeRecord d)) := by
  induction rows generalizing behind with
  | nil =>
    obtain ⟨r, hr, -⟩ := h
    cases hr
  | cons record rows ih =>
    obtain ⟨hrecord, hrows⟩ := List.forall_mem_cons.1 hrows
    have hstart : ({ records := behind } : Scan).AtStart := ⟨Or.inl rfl, rfl⟩
    rw [List.flatMap_cons]
    by_cases hfields : ∀ field ∈ record, d.Legible field
    · have hrest : ∃ r ∈ rows, ∃ field ∈ r, ¬ d.Legible field := by
        obtain ⟨r, hr, field, hfield, hnot⟩ := h
        rcases List.mem_cons.1 hr with rfl | hr
        · exact absurd (hfields field hfield) hnot
        · exact ⟨r, hr, field, hfield, hnot⟩
      refine Loses.after _ ?_
      rw [foldl_writeRecord hd.toApart hrecord hfields hstart]
      exact ih hrows hrest _
    · push Not at hfields
      exact (loses_writeRecord hd hstart hfields).append _

end

end Scan

/-! ## What is written -/

section
variable (hd : d.Escaping e)
include hd

/-- Doubling the quotes adds no escape. -/
theorem count_doubled (field : FieldText) :
    (field.flatMap fun b => if b = d.quote then [b, b] else [b]).count e = field.count e := by
  induction field with
  | nil => rfl
  | cons b field ih =>
    rw [List.flatMap_cons, List.count_append, ih]
    by_cases hb : b = d.quote
    · simp [hb, hd.ne_quote.symm]
    · simp [hb, List.count_cons, Nat.add_comm]

/-- Escapes are written as often as they are there. -/
theorem count_writeField (field : FieldText) : (writeField d field).count e = field.count e := by
  unfold writeField
  split
  · simp [List.count_append, count_doubled hd, hd.ne_quote.symm]
  · rfl

/-- Joining fields adds no escape and takes none away. -/
theorem count_joinFields (record : Record) :
    (joinFields d record).count e = record.flatten.count e := by
  induction record with
  | nil => rfl
  | cons field rest ih =>
    cases rest with
    | nil => simp [joinFields, count_writeField hd]
    | cons next rest =>
      have hline : joinFields d (field :: next :: rest) =
          writeField d field ++ d.delimiter :: joinFields d (next :: rest) := rfl
      rw [hline, List.count_append, List.count_cons_of_ne hd.ne_delimiter.symm, ih,
        count_writeField hd]
      simp only [List.flatten_cons, List.count_append]

/-- Writing a record adds no escape and takes none away. -/
theorem count_writeRecord (record : Record) :
    (writeRecord d record).count e = record.flatten.count e := by
  have hfeed : (10 : UInt8) ≠ e := by
    rintro rfl
    exact absurd hd.terminator (by decide)
  rw [← count_joinFields hd, writeRecord, List.count_append, List.count_singleton]
  split
  · next hnil =>
    simp [List.isEmpty_iff.1 hnil, hd.ne_quote.symm, hfeed]
  · simp [hfeed]

/-- Writing records adds no escape and takes none away. -/
theorem count_writeRecords (rows : List Record) :
    (rows.flatMap (writeRecord d)).count e = rows.flatten.flatten.count e := by
  induction rows with
  | nil => rfl
  | cons record rows ih =>
    rw [List.flatMap_cons, List.count_append, count_writeRecord hd, ih, List.flatten_cons,
      List.flatten_append, List.count_append]

/-- Written records are read back exactly if no escape stands in a field that needs quotes. -/
theorem records_writeRecords_iff {rows : List Record} (hrows : ∀ r ∈ rows, r ≠ [])
    (hmark : ¬ byteOrderMark <+: rows.flatMap (writeRecord d)) :
    records d (rows.flatMap (writeRecord d)) = rows ↔
      ∀ r ∈ rows, ∀ field ∈ r, d.Legible field := by
  refine ⟨fun hread => ?_, fun hlegible => records_writeRecords hd.toApart hrows hlegible hmark⟩
  by_contra hnot
  push Not at hnot
  have hlost : _ < _ := Scan.loses_writeRecords hd hrows hnot []
  have hfinish := Scan.count_finish_le (e := e)
    ((rows.flatMap (writeRecord d)).foldl (Scan.step d) {})
  rw [records, dropByteOrderMark_of_not_prefix hmark] at hread
  rw [hread] at hfinish
  rw [count_writeRecords hd] at hlost
  have hempty : ({} : Scan).octets.count e = 0 := rfl
  omega

end

/-! ## A whole table -/

variable {b : Batch}

/-- No escape stands in a text of the table that needs quotes: in a cell, or in a name if there is a
header. -/
def LegibleTable (o : Options) (b : Batch) : Prop :=
  ∀ texts ∈ textRows o.header b, ∀ text ∈ texts, o.dialect.Legible (Utf8.encode text)

instance (o : Options) (b : Batch) : Decidable (LegibleTable o b) :=
  decidable_of_iff
    (((textRows o.header b).all fun texts =>
      texts.all fun text => decide (o.dialect.Legible (Utf8.encode text))) = true)
    (by simp [LegibleTable])

/-- A table is legible exactly if every field of its written records is. -/
theorem legibleTable_iff {o : Options} :
    LegibleTable o b ↔
      ∀ r ∈ (textRows o.header b).map textRecord, ∀ field ∈ r, o.dialect.Legible field := by
  simp [LegibleTable, textRecord]

/-- With an escape, a table of truth values, whole numbers and texts is written, and its text has
the records that were written exactly if no escape stands in a text that needs quotes; then it is
read back with the same names, types and rows.  Empty texts come back as nulls, and a text that
begins like a byte order mark is excepted. -/
theorem decode_encode_escape (hb : b.WellFormed) (hcolumns : b.columns ≠ [])
    (hnames : b.names.Nodup) (ht : ∀ c ∈ b.columns, c.field.type.IsExact) {options : FormatOptions}
    {o : Options} (ho : Options.ofFormatOptions options = .ok o) (hd : o.dialect.Escaping e)
    (hbatch : o.batchSize ≠ 0) :
    ∃ bytes, encode {} b options = .ok bytes ∧ (¬ byteOrderMark <+: bytes →
      (records o.dialect bytes = (textRows o.header b).map textRecord ↔ LegibleTable o b) ∧
      (LegibleTable o b →
        ∃ back, decode bytes (TableSchema.ofFields b.fields) options = .ok back ∧
          back.rows = b.rows ∧
          back.columns.map (fun c => (c.field.name, c.field.type, c.cells)) =
            b.columns.map fun c => (c.field.name, c.field.type, c.cells.map Cell.blankAsNull))) := by
  refine ⟨_, encode_of_isExact hb ht ho, fun hmark => ?_⟩
  have hrecords := records_writeRecords_iff hd (ne_nil_of_mem_textRows hcolumns) hmark
  rw [← legibleTable_iff] at hrecords
  refine ⟨hrecords, fun hlegible => ?_⟩
  by_cases hempty : textRows o.header b = []
  · have hrows : b.rows = 0 := by
      rw [← length_textGrid hb, (textRows_eq_nil_iff.1 hempty).2, List.length_nil]
    have hback := columns_ofFields hb ht hrows
    refine ⟨_, ?_, rows_eq_of_columns hback, hback⟩
    rw [hempty]
    simp [decode, ho, bind, Except.bind]
  · have hback := columns_tableOf ht
    exact ⟨_, decode_of_records hb hcolumns hnames ht ho hbatch
      (mt write_textRows_eq_nil_iff.1 hempty) hempty (hrecords.2 hlegible),
      rows_eq_of_columns hback, hback⟩

/-- An escape in a text without quotes, and a quoted text without an escape. -/
theorem decode_encode_escape_bare :
    ∃ back, decode [115, 10, 97, 92, 98, 10, 34, 97, 44, 34, 34, 34, 10]
        ⟨[⟨"s", "string", true⟩]⟩ ⟨[("escape", "\\")]⟩ = .ok back ∧
      back.rows = 2 ∧ back.columns.map (fun c => (c.field.name, c.field.type, c.cells)) =
        [("s", .text, [.text "a\\b", .text "a,\""])] := by
  have hoptions : Options.ofFormatOptions ⟨[("escape", "\\")]⟩ =
      .ok { dialect := { escape := some 92 } } := by
    decide
  obtain ⟨bytes, hencode, hdecode⟩ := decode_encode_escape (e := 92)
    (b := ⟨[⟨⟨"s", .text, true⟩, [.text "a\\b", .text "a,\""]⟩]⟩)
    (by simp [Batch.WellFormed, Batch.rows, Cell.Fits]) (by simp) (by decide)
    (by
      intro c hc
      obtain rfl := List.mem_singleton.1 hc
      exact .text)
    hoptions ⟨⟨by decide, by decide, by decide⟩, rfl, by decide, by decide, by decide⟩ (by decide)
  have hbytes : bytes = [115, 10, 97, 92, 98, 10, 34, 97, 44, 34, 34, 34, 10] := by
    refine Except.ok.inj (hencode.symm.trans ?_)
    decide
  subst hbytes
  have hlegible : LegibleTable { dialect := { escape := some 92 } }
      ⟨[⟨⟨"s", .text, true⟩, [.text "a\\b", .text "a,\""]⟩]⟩ := by decide
  exact (hdecode (by decide)).2 hlegible

/-- An escape in a text with a delimiter: the text stands in quotes, and the escape is lost. -/
theorem not_decode_encode_escape_quoted :
    ¬ ∃ bytes,
      encode {} ⟨[⟨⟨"s", .text, true⟩, [.text "a\\,b"]⟩]⟩ ⟨[("escape", "\\")]⟩ = .ok bytes ∧
      (¬ byteOrderMark <+: bytes → ∃ back,
        decode bytes (TableSchema.ofFields [⟨"s", .text, true⟩]) ⟨[("escape", "\\")]⟩ = .ok back ∧
        back.columns.map (fun c => (c.field.name, c.field.type, c.cells)) =
          [("s", .text, [.text "a\\,b"])]) := by
  rintro ⟨bytes, hencode, hdecode⟩
  have hwritten : encode {} ⟨[⟨⟨"s", .text, true⟩, [.text "a\\,b"]⟩]⟩ ⟨[("escape", "\\")]⟩ =
      .ok [115, 10, 34, 97, 92, 44, 98, 34, 10] := rfl
  obtain rfl : _ = bytes := Except.ok.inj (hwritten.symm.trans hencode)
  obtain ⟨back, hback, hcolumns⟩ := hdecode (by decide)
  have hread : decode [115, 10, 34, 97, 92, 44, 98, 34, 10]
      (TableSchema.ofFields [⟨"s", .text, true⟩]) ⟨[("escape", "\\")]⟩ =
        .ok ⟨[⟨⟨"s", .text, true⟩, [.text "a,b"]⟩]⟩ := rfl
  obtain rfl : _ = back := Except.ok.inj (hread.symm.trans hback)
  exact absurd hcolumns (by decide)

end RootedStorage.Csv
