import Mathlib.Tactic.Common
import RootedStorage.Csv.Record

/-!
# Written records are read back

The reader undoes the writer field by field.  Behind a written field the reader has the field's
octets and stands where the next delimiter or terminator ends it (`Scan.AtEnd`).  This takes a
dialect whose delimiter, quote and ends of records can be told apart, and fields in which nothing
escapes where they stand in quotes (`Dialect.Legible`).
-/

namespace RootedStorage.Csv

/-- A dialect without escapes whose delimiter and quote can be told apart from each other and from
the ends of records. -/
structure Dialect.Sound (d : Dialect) : Prop where
  escape : d.escape = none
  delimiter_ne_quote : d.delimiter ≠ d.quote
  delimiter : isTerminator d.delimiter = false
  quote : isTerminator d.quote = false

/-- The delimiter, the quote and the ends of records can be told apart. -/
structure Dialect.Apart (d : Dialect) : Prop where
  delimiter_ne_quote : d.delimiter ≠ d.quote
  delimiter : isTerminator d.delimiter = false
  quote : isTerminator d.quote = false

/-- The octets of a sound dialect differ. -/
theorem Dialect.Sound.apart {d : Dialect} (h : d.Sound) : d.Apart :=
  ⟨h.delimiter_ne_quote, h.delimiter, h.quote⟩

/-- No octet of the field escapes the next one when the field is written in quotes. -/
def Dialect.Legible (d : Dialect) (field : FieldText) : Prop :=
  needsQuotes d field = true → ∀ b ∈ field, d.escape ≠ some b

instance (d : Dialect) (field : FieldText) : Decidable (d.Legible field) :=
  decidable_of_iff
    ((!needsQuotes d field || field.all fun b => decide (d.escape ≠ some b)) = true)
    (by cases h : needsQuotes d field <;> simp [Dialect.Legible, h])

/-- In a sound dialect every field is legible. -/
theorem Dialect.Sound.legible {d : Dialect} (h : d.Sound) (field : FieldText) : d.Legible field :=
  fun _ b _ => by simp [h.escape]

/-- The mark that may stand at the beginning of a text. -/
def byteOrderMark : Bytes := [0xEF, 0xBB, 0xBF]

/-- Content that does not begin with a byte order mark stays as it is. -/
theorem dropByteOrderMark_of_not_prefix {bytes : Bytes} (h : ¬ byteOrderMark <+: bytes) :
    dropByteOrderMark bytes = bytes := by
  unfold dropByteOrderMark
  split
  · exact absurd ⟨_, rfl⟩ h
  · rfl

/-! ## One field -/

namespace Scan

variable {d : Dialect} {s : Scan}

/-- The reader stands in front of a field. -/
structure AtStart (s : Scan) : Prop where
  position : s.position = .recordStart ∨ s.position = .fieldStart
  field : s.field = []

/-- The reader stands where a delimiter or a terminator ends the field. -/
def AtEnd (s : Scan) : Prop := s.position ≠ .quoted ∧ s.position ≠ .escaped

/-- At the start of a field the field may end too. -/
theorem AtStart.atEnd (h : s.AtStart) : s.AtEnd := by
  rcases h.position with hp | hp <;> simp [AtEnd, hp]

/-- Behind a field a field starts. -/
theorem endField_atStart (s : Scan) : s.endField.AtStart := ⟨Or.inr rfl, rfl⟩

/-- A delimiter ends the field. -/
theorem step_delimiter (hd : d.Apart) (hs : s.AtEnd) : s.step d d.delimiter = s.endField := by
  have hdelimiter := hd.delimiter
  have hquote := hd.delimiter_ne_quote
  unfold step
  split
  · simp [hdelimiter, stepFieldStart, hquote, stepBare]
  · simp [stepFieldStart, hquote, stepBare]
  · simp [stepBare]
  · exact absurd ‹_› hs.1
  · exact absurd ‹_› hs.2
  · simp [hquote, stepBare]

/-- A line feed ends the record that has begun. -/
theorem step_lineFeed (hd : d.Apart) (hs : s.AtEnd) (hstart : s.position ≠ .recordStart) :
    s.step d 10 = s.endRecord := by
  have hterminator : isTerminator 10 = true := rfl
  have hdelimiter : (10 : UInt8) ≠ d.delimiter :=
    fun h => by simp [h, hd.delimiter] at hterminator
  have hquote : (10 : UInt8) ≠ d.quote := fun h => by simp [h, hd.quote] at hterminator
  unfold step
  split
  · exact absurd ‹_› hstart
  · simp [stepFieldStart, hquote, stepBare, hdelimiter, hterminator]
  · simp [stepBare, hdelimiter, hterminator]
  · exact absurd ‹_› hs.1
  · exact absurd ‹_› hs.2
  · simp [hquote, stepBare, hdelimiter, hterminator]

/-- A quote in front of a field opens it. -/
theorem step_quote (hd : d.Apart) (hs : s.AtStart) :
    s.step d d.quote = { s with position := .quoted } := by
  rcases hs.position with hp | hp <;> simp [step, hp, hd.quote, stepFieldStart]

/-- The octets of a quoted field, its quotes doubled, are taken into the field. -/
theorem foldl_doubled (hs : s.position = .quoted) {field : FieldText}
    (hfield : ∀ b ∈ field, d.escape ≠ some b) :
    (field.flatMap fun b => if b = d.quote then [b, b] else [b]).foldl (Scan.step d) s =
      { s with field := field.reverse ++ s.field } := by
  induction field generalizing s with
  | nil => simp
  | cons b field ih =>
    obtain ⟨hescape, hfield⟩ := List.forall_mem_cons.1 hfield
    rw [List.flatMap_cons, List.foldl_append]
    have hb : (if b = d.quote then [b, b] else [b]).foldl (Scan.step d) s = s.take .quoted b := by
      split
      · rename_i hquote
        simp [step, hs, hquote, take]
      · rename_i hquote
        simp [step, hs, hquote, hescape]
    rw [hb, ih rfl hfield, List.reverse_cons, List.append_assoc]
    simp [take, hs]

/-- The octets of a field that needs no quotes are taken into the field. -/
theorem foldl_bare (hs : s.position = .bare) {field : FieldText}
    (h : needsQuotes d field = false) :
    field.foldl (Scan.step d) s = { s with field := field.reverse ++ s.field } := by
  induction field generalizing s with
  | nil => simp
  | cons b field ih =>
    simp only [needsQuotes, List.any_cons, Bool.or_eq_false_iff, decide_eq_false_iff_not] at h ih
    have hb : s.step d b = s.take .bare b := by simp [step, hs, stepBare, h.1.1.1, h.1.2]
    rw [List.foldl_cons, hb, ih rfl h.2, List.reverse_cons, List.append_assoc]
    simp [take, hs]

/-- The first octet of a field that needs no quotes. -/
theorem step_first (hs : s.AtStart) {b : UInt8} {field : FieldText}
    (h : needsQuotes d (b :: field) = false) : s.step d b = s.take .bare b := by
  simp only [needsQuotes, List.any_cons, Bool.or_eq_false_iff, decide_eq_false_iff_not] at h
  rcases hs.position with hp | hp <;>
    simp [step, hp, stepFieldStart, stepBare, h.1.1.1, h.1.1.2, h.1.2]

/-- A written field is taken in.  The reader is where the field can end, and it has left its start
unless nothing was written. -/
theorem foldl_writeField (hd : d.Apart) (hs : s.AtStart) {field : FieldText}
    (hlegible : d.Legible field) :
    ∃ p, (writeField d field).foldl (Scan.step d) s = { s with position := p, field := field.reverse } ∧
      (p = s.position ∧ writeField d field = [] ∨ p = .bare ∨ p = .quoteSeen) := by
  unfold writeField
  by_cases hquotes : needsQuotes d field = true
  · rw [if_pos hquotes]
    refine ⟨.quoteSeen, ?_, Or.inr (Or.inr rfl)⟩
    rw [List.cons_append, List.foldl_cons, step_quote hd hs, List.foldl_append,
      foldl_doubled rfl (hlegible hquotes)]
    simp [step, hs.field]
  · rw [if_neg hquotes]
    rw [Bool.not_eq_true] at hquotes
    cases field with
    | nil =>
      refine ⟨s.position, ?_, Or.inl ⟨rfl, rfl⟩⟩
      have hkeep : s = { s with field := [] } := by rw [← hs.field]
      exact hkeep
    | cons b field =>
      refine ⟨.bare, ?_, Or.inr (Or.inl rfl)⟩
      have hrest : needsQuotes d field = false := by
        simp only [needsQuotes, List.any_cons, Bool.or_eq_false_iff] at hquotes ⊢
        exact hquotes.2
      rw [List.foldl_cons, step_first hs hquotes, foldl_bare rfl hrest]
      simp [take, hs.field]

/-! ## One record -/

/-- The state behind a record. -/
def afterRecord (s : Scan) (record : Record) : Scan :=
  { records := (s.record.reverse ++ record) :: s.records }

/-- A line that does not end where it starts is one record. -/
theorem foldl_joinFields (hd : d.Apart) {record : Record} (hrecord : record ≠ [])
    (hlegible : ∀ field ∈ record, d.Legible field) (hs : s.AtStart)
    (hline : s.position = .recordStart → joinFields d record ≠ []) :
    (joinFields d record ++ [10]).foldl (Scan.step d) s = s.afterRecord record := by
  induction record generalizing s with
  | nil => exact absurd rfl hrecord
  | cons field rest ih =>
    obtain ⟨hfirst, hlegible⟩ := List.forall_mem_cons.1 hlegible
    obtain ⟨p, hfield, hp⟩ := foldl_writeField hd hs hfirst
    have hend : ({ s with position := p, field := field.reverse } : Scan).AtEnd := by
      rcases hp with ⟨rfl, -⟩ | rfl | rfl
      · exact hs.atEnd
      · simp [AtEnd]
      · simp [AtEnd]
    cases rest with
    | nil =>
      have hleft : p ≠ .recordStart := by
        rcases hp with ⟨rfl, hnil⟩ | rfl | rfl
        · exact fun hstart => hline hstart hnil
        · simp
        · simp
      rw [joinFields, List.foldl_append, hfield, List.foldl_cons, step_lineFeed hd hend hleft]
      simp [endRecord, afterRecord]
    | cons next rest =>
      rw [joinFields, List.append_assoc, List.foldl_append, hfield, List.cons_append,
        List.foldl_cons, step_delimiter hd hend,
        ih (List.cons_ne_nil next rest) hlegible (endField_atStart _) (by simp [endField])]
      · simp [endField, afterRecord]
      · simp

/-- A written record is read as that record. -/
theorem foldl_writeRecord (hd : d.Apart) {record : Record} (hrecord : record ≠ [])
    (hlegible : ∀ field ∈ record, d.Legible field) (hs : s.AtStart) :
    (writeRecord d record).foldl (Scan.step d) s = s.afterRecord record := by
  simp only [writeRecord]
  by_cases hline : joinFields d record = []
  · have hempty : record = [[]] := by
      match record, hrecord with
      | [field], _ =>
        by_cases hquotes : needsQuotes d field = true
        · simp [joinFields, writeField, hquotes] at hline
        · simpa [joinFields, writeField, hquotes] using hline
      | field :: next :: rest, _ => simp [joinFields] at hline
    subst hempty
    simp only [hline, List.isEmpty_nil, if_true, List.cons_append, List.nil_append, List.foldl_cons,
      List.foldl_nil]
    rw [step_quote hd hs]
    have hsecond : ({ s with position := .quoted } : Scan).step d d.quote =
        { s with position := .quoteSeen } := by
      simp [step]
    rw [hsecond, step_lineFeed hd (by simp [AtEnd]) (by simp)]
    simp [endRecord, afterRecord, hs.field]
  · rw [if_neg (by simpa using hline)]
    exact foldl_joinFields hd hrecord hlegible hs fun _ => hline

end Scan

/-! ## A whole text -/

/-- Written records are scanned back one after the other. -/
theorem Scan.foldl_writeRecords {d : Dialect} (hd : d.Apart) {rows : List Record}
    (hrows : ∀ r ∈ rows, r ≠ []) (hlegible : ∀ r ∈ rows, ∀ field ∈ r, d.Legible field)
    (behind : List Record) :
    (rows.flatMap (writeRecord d)).foldl (Scan.step d) { records := behind } =
      { records := rows.reverse ++ behind } := by
  induction rows generalizing behind with
  | nil => rfl
  | cons record rows ih =>
    obtain ⟨hrecord, hrows⟩ := List.forall_mem_cons.1 hrows
    obtain ⟨hfields, hlegible⟩ := List.forall_mem_cons.1 hlegible
    rw [List.flatMap_cons, List.foldl_append,
      foldl_writeRecord hd hrecord hfields ⟨Or.inl rfl, rfl⟩]
    simpa [afterRecord] using ih hrows hlegible (record :: behind)

/-- Written records are read back, unless the text begins like a byte order mark. -/
theorem records_writeRecords {d : Dialect} (hd : d.Apart) {rows : List Record}
    (hrows : ∀ r ∈ rows, r ≠ []) (hlegible : ∀ r ∈ rows, ∀ field ∈ r, d.Legible field)
    (hmark : ¬ byteOrderMark <+: rows.flatMap (writeRecord d)) :
    records d (rows.flatMap (writeRecord d)) = rows := by
  rw [records, dropByteOrderMark_of_not_prefix hmark, Scan.foldl_writeRecords hd hrows hlegible]
  simp [Scan.finish]

@[simp] theorem writeRecords_eq_nil_iff {d : Dialect} {rows : List Record} :
    rows.flatMap (writeRecord d) = [] ↔ rows = [] := by
  cases rows with
  | nil => simp
  | cons record rows => simp [writeRecord]

end RootedStorage.Csv
