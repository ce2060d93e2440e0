import RootedStorage.Csv.Codec
import RootedStorage.Proofs.Prelude
import RootedStorage.Proofs.Table.Grid
import RootedStorage.Proofs.Text.Utf8

/-!
# Written tables are text

What `encode` writes is UTF-8.  The octets that separate and quote fields are ASCII, so they stand
for characters of their own between and inside the fields.
-/

namespace RootedStorage

/-! ## The dialect -/

namespace OptionValue

/-- An octet that an option denotes is ASCII. -/
theorem lt_of_byte? {s : String} {b : UInt8} (h : byte? s = some b) : b.toNat < 128 := by
  unfold byte? at h
  split at h
  · next a hencode =>
    obtain rfl := Option.some.inj h
    exact Utf8.lt_of_isValid_singleton (hencode ▸ Utf8.isValid_encode _)
  · cases h

/-- An octet that is read from an option is ASCII. -/
theorem lt_of_readByte {options : FormatOptions} {format key : String} {b : UInt8}
    (h : readByte options format key = .ok (some b)) : b.toNat < 128 := by
  unfold readByte read at h
  split at h
  · cases h
  · next raw _ =>
    split at h
    · next value hvalue =>
      obtain rfl := Option.some.inj (Except.ok.inj h)
      exact lt_of_byte? hvalue
    · cases h

end OptionValue

namespace Csv

/-- The octets that separate and quote fields are ASCII. -/
structure Dialect.Ascii (d : Dialect) : Prop where
  delimiter : d.delimiter.toNat < 128
  quote : d.quote.toNat < 128

/-- A line terminator is ASCII. -/
theorem lt_of_isTerminator {b : UInt8} (h : isTerminator b = true) : b.toNat < 128 := by
  rw [isTerminator, Bool.or_eq_true, decide_eq_true_iff, decide_eq_true_iff] at h
  rcases h with rfl | rfl <;> decide

/-- A dialect that is read from options is ASCII. -/
theorem ascii_of_ofFormatOptions {options : FormatOptions} {o : Options}
    (h : Options.ofFormatOptions options = .ok o) : o.dialect.Ascii := by
  have hbyte : ∀ {key : String} {byte : Option UInt8} {other : UInt8},
      OptionValue.readByte options formatName key = .ok byte → other.toNat < 128 →
        (byte.getD other).toNat < 128 := by
    intro key byte other hread hother
    cases byte with
    | none => exact hother
    | some b => exact OptionValue.lt_of_readByte hread
  simp only [Options.ofFormatOptions, bind_eq_ok_iff] at h
  obtain ⟨delimiter, hdelimiter, header, -, quote, hquote, escape, -, batchSize, -, inferRows, -, ho⟩
    := h
  cases ho
  exact ⟨hbyte hdelimiter (by decide), hbyte hquote (by decide)⟩

/-! ## Fields and records -/

variable {d : Dialect} (hd : d.Ascii)
include hd

/-- A valid field is written as valid octets. -/
theorem isValid_writeField {field : FieldText} (h : Utf8.isValid field = true) :
    Utf8.isValid (writeField d field) = true := by
  unfold writeField
  split
  · have hquote := Utf8.isValid_singleton hd.quote
    have hdoubled : Utf8.isValid
        (field.flatMap fun b => if b = d.quote then [b, b] else [b]) = true := by
      refine Utf8.isValid_replace h (fun b hb => ?_) fun b hb => ?_
      · have hsingle := Utf8.isValid_singleton hb
        split
        · exact Utf8.isValid_append hsingle hsingle
        · exact hsingle
      · have hne : b ≠ d.quote := by
          rintro rfl
          exact absurd hd.quote (Nat.not_lt.2 hb)
        rw [if_neg hne]
    exact Utf8.isValid_append (Utf8.isValid_append hquote hdoubled) hquote
  · exact h

/-- Valid fields are joined to valid octets. -/
theorem isValid_joinFields {record : Record} (h : ∀ field ∈ record, Utf8.isValid field = true) :
    Utf8.isValid (joinFields d record) = true := by
  induction record with
  | nil => exact Utf8.isValid_nil
  | cons field rest ih =>
    obtain ⟨hfield, hrest⟩ := List.forall_mem_cons.1 h
    cases rest with
    | nil => exact isValid_writeField hd hfield
    | cons next rest =>
      exact Utf8.isValid_append (isValid_writeField hd hfield)
        (Utf8.isValid_append (Utf8.isValid_singleton hd.delimiter) (ih hrest))

/-- A record of valid fields is written as valid octets. -/
theorem isValid_writeRecord {record : Record} (h : ∀ field ∈ record, Utf8.isValid field = true) :
    Utf8.isValid (writeRecord d record) = true := by
  have hquote := Utf8.isValid_singleton hd.quote
  refine Utf8.isValid_append ?_ (Utf8.isValid_singleton (by decide))
  split
  · exact Utf8.isValid_append hquote hquote
  · exact isValid_joinFields hd h

omit hd

/-! ## Tables -/

/-- The fields of a column are valid. -/
theorem isValid_of_columnFields {c : Column} {fields : List FieldText}
    (h : columnFields c = some fields) : ∀ field ∈ fields, Utf8.isValid field = true := by
  intro field hfield
  obtain ⟨cell, -, hcell⟩ := exists_of_mem_mapM h field hfield
  obtain ⟨text, -, rfl⟩ := Option.map_eq_some_iff.1 hcell
  exact Utf8.isValid_encode text

/-- The fields of a table's records are valid. -/
theorem isValid_of_rowRecords {b : Batch} {rows : List Record} (h : rowRecords b = some rows) :
    ∀ row ∈ rows, ∀ field ∈ row, Utf8.isValid field = true := by
  intro row hrow field hfield
  obtain ⟨columns, hcolumns, rfl⟩ := Option.map_eq_some_iff.1 h
  obtain ⟨fields, hfields, hmem⟩ := Batch.exists_column_of_mem_rowsOf hrow hfield
  obtain ⟨c, -, hc⟩ := exists_of_mem_mapM hcolumns fields hfields
  exact isValid_of_columnFields hc field hmem

/-- What is written is text. -/
theorem isValid_of_encode {schema : TableSchema} {b : Batch} {options : FormatOptions}
    {bytes : Bytes} (h : encode schema b options = .ok bytes) : Utf8.isValid bytes = true := by
  simp only [encode, bind_eq_ok_iff] at h
  obtain ⟨o, ho, selected, -, hbytes⟩ := h
  split at hbytes
  · cases hbytes
  · split at hbytes
    · cases hbytes
    · next rows hrows =>
      cases hbytes
      refine Utf8.isValid_flatMap fun record hrecord =>
        isValid_writeRecord (ascii_of_ofFormatOptions ho) fun field hfield => ?_
      rcases List.mem_append.1 hrecord with hrecord | hrecord
      · split at hrecord
        · obtain rfl := List.mem_singleton.1 hrecord
          obtain ⟨name, -, rfl⟩ := List.mem_map.1 hfield
          exact Utf8.isValid_encode name
        · cases hrecord
      · exact isValid_of_rowRecords hrows record hrecord field hfield

end Csv

end RootedStorage
