import Mathlib.Data.Set.List
import RootedStorage.Proofs.Csv.Codec
import RootedStorage.Proofs.Csv.Rows
import RootedStorage.Proofs.Csv.Splitting

/-!
# The grid of a text

The records of a text are rows of texts (`exists_grid`): the octets that separate, quote and escape are
characters of their own, so the reader never takes a character apart.  A table is decoded from such a
grid exactly if its rows are of one width, there is a plan for its columns and every cell of a column in
the plan can be read (`grid_of_decodeWith`, `decodeWith_of_grid`).
-/

namespace RootedStorage

namespace Utf8

/-- The text without the mark that may stand at its very beginning. -/
def dropMark : List Char → List Char
  | '\uFEFF' :: rest => rest
  | chars => chars

/-- An octet that begins a character of three octets. -/
theorem length_of_utf8EncodeChar_mark {c : Char} {rest : Bytes}
    (h : String.utf8EncodeChar c = 0xEF :: rest) : rest.length = 2 := by
  unfold String.utf8EncodeChar at h
  dsimp only at h
  split at h
  · have hfirst := congrArg UInt8.toNat (List.cons.inj h).1
    have hmark : (0xEF : UInt8).toNat = 239 := rfl
    rw [UInt8.toNat_ofNat', hmark] at hfirst
    omega
  · split at h
    · have hfirst := congrArg UInt8.toNat (List.cons.inj h).1
      simp at hfirst
      omega
    · split at h
      · rw [← (List.cons.inj h).2]
        rfl
      · have hfirst := congrArg UInt8.toNat (List.cons.inj h).1
        simp at hfirst
        omega

/-- Only one character begins like the mark: the mark itself. -/
theorem eq_mark_of_append {c : Char} {rest behind : Bytes}
    (h : String.utf8EncodeChar c ++ rest = 0xEF :: 0xBB :: 0xBF :: behind) :
    c = '\uFEFF' ∧ rest = behind := by
  match hc : String.utf8EncodeChar c with
  | [] =>
    rcases utf8EncodeChar_cases c with ⟨b, -, hb⟩ | ⟨hlength, -⟩
    · rw [hb] at hc
      cases hc
    · simp [hc] at hlength
  | first :: tail =>
    rw [hc, List.cons_append] at h
    obtain ⟨rfl, htail⟩ := List.cons.inj h
    obtain ⟨a, b, rfl⟩ := List.length_eq_two.1 (length_of_utf8EncodeChar_mark hc)
    simp only [List.cons_append, List.nil_append, List.cons.injEq] at htail
    obtain ⟨rfl, rfl, rfl⟩ := htail
    refine ⟨?_, rfl⟩
    have hsame : encode (String.singleton c) = encode (String.singleton '\uFEFF') := by
      rw [encode_singleton, hc]
      decide
    simpa using congrArg String.toList (encode_injective hsame)

end Utf8

namespace Csv

/-- The octets of the mark are dropped with the mark, in front of nothing or of an octet of ASCII. -/
theorem dropByteOrderMark_append (chars : List Char) {behind : Bytes}
    (hbehind : ∀ b ∈ behind.head?, b.toNat < 128) :
    dropByteOrderMark (chars.flatMap String.utf8EncodeChar ++ behind) =
      (Utf8.dropMark chars).flatMap String.utf8EncodeChar ++ behind := by
  cases chars with
  | nil =>
    refine dropByteOrderMark_of_not_prefix ?_
    rintro ⟨rest, rfl⟩
    exact absurd (hbehind 0xEF rfl) (by decide)
  | cons c chars =>
    unfold Utf8.dropMark
    split
    · next hmark =>
      obtain ⟨rfl, rfl⟩ := List.cons.inj hmark
      have hencode : String.utf8EncodeChar '\uFEFF' = [0xEF, 0xBB, 0xBF] := by decide
      rw [List.flatMap_cons, hencode]
      rfl
    · next hmark =>
      refine dropByteOrderMark_of_not_prefix ?_
      rintro ⟨rest, h⟩
      rw [List.flatMap_cons, List.append_assoc] at h
      exact hmark chars (by rw [(Utf8.eq_mark_of_append h.symm).1])

/-- The byte order mark of encoded characters is their first character, if it is a mark. -/
theorem dropByteOrderMark_chars (chars : List Char) :
    dropByteOrderMark (chars.flatMap String.utf8EncodeChar) =
      (Utf8.dropMark chars).flatMap String.utf8EncodeChar := by
  have h := dropByteOrderMark_append chars (show ∀ b ∈ ([] : Bytes).head?, b.toNat < 128 by simp)
  simpa using h

/-! ## Fields of a text -/

namespace Scan

/-- Every field that the reader holds is a text. -/
structure Textual (s : Scan) : Prop where
  field : Utf8.isValid s.field.reverse = true
  fields : ∀ f ∈ s.fields, Utf8.isValid f = true

variable {d : Dialect} {s s' : Scan} {b : UInt8}

/-- An octet of ASCII is a text of its own, wherever the reader puts it. -/
theorem Textual.move (h : s.Textual) (hb : b.toNat < 128) (hmove : Move d s b s') :
    s'.Textual := by
  cases hmove with
  | skip | openQuote | closeQuote | escape => exact ⟨h.field, h.fields⟩
  | take position =>
    refine ⟨?_, h.fields⟩
    rw [Scan.take, List.reverse_cons]
    exact Utf8.isValid_append h.field (Utf8.isValid_singleton hb)
  | endField => exact ⟨Utf8.isValid_nil, List.forall_mem_cons.2 ⟨h.field, h.fields⟩⟩
  | endRecord =>
    refine ⟨Utf8.isValid_nil, fun f hf => ?_⟩
    rcases mem_fields_endRecord.1 hf with rfl | hf
    · exact h.field
    · exact h.fields f hf

section
variable (hascii : ∀ a, a = d.delimiter ∨ d.Guards a → a.toNat < 128)
include hascii

/-- The reader takes an octet beyond ASCII into the field. -/
theorem exists_take (hb : 128 ≤ b.toNat) : ∃ position, s.step d b = s.take position b := by
  have hterminator : isTerminator b ≠ true := fun h =>
    absurd (lt_of_isTerminator h) (Nat.not_lt.2 hb)
  have hmove := move_step d s b
  have hplain : ∀ a, a = d.delimiter ∨ d.Guards a → b ≠ a := by
    rintro a ha rfl
    exact absurd (hascii b ha) (Nat.not_lt.2 hb)
  generalize s.step d b = s' at hmove ⊢
  cases hmove with
  | take position => exact ⟨position, rfl⟩
  | skip _ h | endRecord h => exact absurd h hterminator
  | endField h => exact absurd h (hplain _ (Or.inl rfl))
  | openQuote _ h | closeQuote _ h => exact absurd h (hplain _ (Or.inr (Or.inl rfl)))
  | escape _ h => exact absurd rfl (hplain b (Or.inr (Or.inr h)))

/-- Octets beyond ASCII are taken into the field as they are. -/
theorem exists_foldl_take {bytes : Bytes} (hbytes : ∀ b ∈ bytes, 128 ≤ b.toNat) (s : Scan) :
    ∃ position, bytes.foldl (step d) s =
      { s with position, field := bytes.reverse ++ s.field } := by
  induction bytes generalizing s with
  | nil => exact ⟨s.position, rfl⟩
  | cons b bytes ih =>
    obtain ⟨hb, hbytes⟩ := List.forall_mem_cons.1 hbytes
    obtain ⟨first, hfirst⟩ := exists_take hascii (s := s) hb
    obtain ⟨position, hrest⟩ := ih hbytes (s.take first b)
    refine ⟨position, ?_⟩
    rw [List.foldl_cons, hfirst, hrest]
    simp [take]

/-- A character keeps the reader's fields texts. -/
theorem Textual.char (h : s.Textual) (c : Char) :
    ((String.utf8EncodeChar c).foldl (step d) s).Textual := by
  rcases Utf8.utf8EncodeChar_cases c with ⟨b, hb, hc⟩ | ⟨-, hhigh⟩
  · rw [hc]
    exact h.move hb (move_step d s b)
  · obtain ⟨position, hfold⟩ := exists_foldl_take hascii hhigh s
    rw [hfold]
    refine ⟨?_, h.fields⟩
    rw [List.reverse_append, List.reverse_reverse]
    exact Utf8.isValid_append h.field (Utf8.encode_singleton c ▸ Utf8.isValid_encode _)

/-- A scan stays textual over encoded characters. -/
theorem Textual.chars (h : s.Textual) (chars : List Char) :
    ((chars.flatMap String.utf8EncodeChar).foldl (step d) s).Textual := by
  induction chars generalizing s with
  | nil => exact h
  | cons c chars ih =>
    rw [List.flatMap_cons, List.foldl_append]
    exact ih (h.char hascii c)

end

/-- Every field of a textual scan is valid. -/
theorem Textual.isValid_of_mem_finish (h : s.Textual) {f : FieldText} (hf : f ∈ s.finish.flatten) :
    Utf8.isValid f = true := by
  by_cases hs : s.position = .recordStart
  · rw [finish, if_pos hs] at hf
    exact h.fields f (List.mem_append_right _ (by simpa using hf))
  · rcases (mem_finish_iff hs).1 hf with rfl | hf
    · exact h.field
    · exact h.fields f hf

end Scan

/-- Different rows of texts are different records. -/
theorem textRecord_injective : Function.Injective textRecord :=
  List.map_injective_iff.2 fun _ _ => Utf8.encode_injective

/-- The records of a text are rows of texts. -/
theorem exists_grid {options : FormatOptions} {o : Options}
    (ho : Options.ofFormatOptions options = .ok o) (text : String) :
    ∃ grid : List (List String), records o.dialect (Utf8.encode text) = grid.map textRecord := by
  have hascii : ∀ a, a = o.dialect.delimiter ∨ o.dialect.Guards a → a.toNat < 128 := by
    rintro a (rfl | ha)
    · exact (ascii_of_ofFormatOptions ho).delimiter
    · exact lt_of_guards ho ha
  have hstart : ({} : Scan).Textual := ⟨Utf8.isValid_nil, by simp [Scan.fields]⟩
  have hfields : ∀ f ∈ (records o.dialect (Utf8.encode text)).flatten, Utf8.isValid f = true := by
    intro f hf
    rw [records, Utf8.encode_eq_flatMap, dropByteOrderMark_chars] at hf
    exact (hstart.chars hascii _).isValid_of_mem_finish hf
  have hrecord : ∀ r ∈ records o.dialect (Utf8.encode text), r ∈ Set.range textRecord := by
    intro r hr
    have hrange : r ∈ Set.range (List.map Utf8.encode) := by
      rw [Set.range_list_map]
      intro f hf
      obtain ⟨s, rfl⟩ := Utf8.isValid_iff.1 (hfields f (List.mem_flatten.2 ⟨r, hr, hf⟩))
      exact ⟨s, rfl⟩
    exact hrange
  have hrange : records o.dialect (Utf8.encode text) ∈ Set.range (List.map textRecord) := by
    rw [Set.range_list_map]
    exact hrecord
  obtain ⟨grid, hgrid⟩ := hrange
  exact ⟨grid, hgrid.symm⟩

/-! ## Decoding a grid -/

/-- The rows of a grid that hold cells: all but the names. -/
def dataRows (header : Bool) (grid : List (List String)) : List (List String) :=
  if header then grid.drop 1 else grid

/-- The data records of a grid are the records of its data rows. -/
theorem dataRecords_map_textRecord (header : Bool) (grid : List (List String)) :
    dataRecords header (grid.map textRecord) = (dataRows header grid).map textRecord := by
  cases header with
  | false => rfl
  | true => exact List.map_drop.symm

/-- A data row is a row of the grid. -/
theorem mem_of_mem_dataRows {header : Bool} {grid : List (List String)} {row : List String}
    (h : row ∈ dataRows header grid) : row ∈ grid := by
  cases header with
  | false => exact h
  | true => exact List.mem_of_mem_drop h

/-- A row of a grid is the first one or one that holds cells. -/
theorem eq_head_or_mem_dataRows (header : Bool) {grid : List (List String)} {row : List String}
    (h : row ∈ grid) : row = grid.headD [] ∨ row ∈ dataRows header grid := by
  cases header with
  | false => exact Or.inr h
  | true =>
    cases grid with
    | nil => cases h
    | cons first rest => exact List.mem_cons.1 h

/-- The first record of a grid is the record of its first row. -/
theorem headD_map_textRecord (grid : List (List String)) :
    (grid.map textRecord).headD [] = textRecord (grid.headD []) := by
  cases grid <;> rfl

/-- A text has by itself as many fields as its first record. -/
theorem length_of_inferFields {options : Options} {all : List Record} {inferred : List Field}
    (h : inferFields options all = some inferred) : inferred.length = (all.headD []).length := by
  unfold inferFields at h
  dsimp only at h
  generalize sampled options (if options.header = true then all.drop 1 else all) = rows at h
  obtain ⟨head, hhead, h⟩ := Option.bind_eq_some_iff.1 h
  split at h
  · obtain ⟨texts, -, h⟩ := Option.bind_eq_some_iff.1 h
    obtain rfl := Option.some.inj h
    rw [List.length_mapIdx, (forall₂_of_mapM_eq_some hhead).length_eq]
  · cases h

section
variable {bytes : Bytes} {schema : TableSchema} {o : Options} {grid : List (List String)}

/-- There is one inferred field for each cell of the first row. -/
theorem length_of_inferFields_grid {inferred : List Field}
    (h : inferFields o (grid.map textRecord) = some inferred) :
    inferred.length = (grid.headD []).length := by
  rw [length_of_inferFields h, headD_map_textRecord, length_textRecord]

/-- With a header the inferred fields are named by the first row. -/
theorem names_of_inferFields_grid {inferred : List Field}
    (h : inferFields o (grid.map textRecord) = some inferred) (hheader : o.header = true) :
    inferred.map (·.name) = grid.headD [] := by
  have hlength := length_of_inferFields_grid h
  refine List.ext_getElem (by simpa using hlength) fun i hi hi' => ?_
  rw [List.length_map] at hi
  have hname := names_of_inferFields h hheader
    (show inferred[i]?.map (·.name) = some inferred[i].name by simp [hi])
  rw [headD_map_textRecord, textRecord, List.getElem?_map, List.getElem?_eq_getElem hi'] at hname
  rw [List.getElem_map]
  exact (Utf8.encode_injective (Option.some.inj hname)).symm

/-- Every row of a grid is as wide as the first. -/
def Even (grid : List (List String)) : Prop := ∀ row ∈ grid, row.length = (grid.headD []).length

/-- Fields are inferred from every even grid whose first row has cells. -/
theorem exists_inferFields_of_even (o : Options) (heven : Even grid) (hfirst : grid.headD [] ≠ []) :
    ∃ inferred, inferFields o (grid.map textRecord) = some inferred := by
  cases grid with
  | nil => exact absurd rfl hfirst
  | cons first rest =>
    have hrest : ∀ row ∈ rest, row.length = first.length := fun row hrow =>
      heven row (List.mem_cons_of_mem _ hrow)
    obtain ⟨inferred, hinfer, -⟩ := inferFields_textRecords o first hrest
    exact ⟨inferred, hinfer⟩

/-- A record gives its row of texts if it is as wide as planned. -/
theorem rowTexts_textRecord (plan : ReadPlan) (row : List String) :
    rowTexts plan (textRecord row) = if row.length = plan.width then some row else none := by
  rw [rowTexts, length_textRecord, recordTexts_textRecord]

/-- Rows of texts are read if they are as wide as the plan and all its columns are read. -/
theorem readRows_map_textRecord {plan : ReadPlan} {rows : List (List String)} {b : Batch} :
    readRows plan (rows.map textRecord) = some b ↔
      (∀ row ∈ rows, row.length = plan.width) ∧ readColumns plan rows = some b.columns := by
  rw [readRows_eq]
  constructor
  · intro h
    obtain ⟨texts, htexts, hcolumns⟩ := Option.bind_eq_some_iff.1 h
    obtain ⟨columns, hread, rfl⟩ := Option.map_eq_some_iff.1 hcolumns
    have hrows := forall₂_of_mapM_eq_some htexts
    simp only [List.forall₂_map_left_iff, rowTexts_textRecord, Option.ite_none_right_eq_some,
      Option.some_inj] at hrows
    obtain rfl : rows = texts := by
      rw [← List.forall₂_eq_eq_eq]
      exact hrows.imp fun _ _ => And.right
    rw [List.forall₂_same] at hrows
    exact ⟨fun row hrow => (hrows row hrow).1, hread⟩
  · rintro ⟨hwidth, hcolumns⟩
    have htexts : (rows.map textRecord).mapM (rowTexts plan) = some rows := by
      refine mapM_eq_pure ?_
      rw [List.forall₂_map_left_iff, List.forall₂_same]
      intro row hrow
      rw [rowTexts_textRecord, if_pos (hwidth row hrow)]
      rfl
    rw [htexts, Option.bind_some, hcolumns]
    rfl

/-- Content that is not empty is decoded with the options that were read. -/
theorem decode_eq_decodeWith {options : FormatOptions}
    (ho : Options.ofFormatOptions options = .ok o) (hbytes : bytes ≠ []) :
    decode bytes schema options = decodeWith bytes schema o := by
  have hnonempty : bytes.isEmpty = false := List.isEmpty_eq_false_iff.2 hbytes
  simp [decode, ho, bind, Except.bind, hnonempty]

/-- What is known of a grid from which a table was decoded. -/
theorem grid_of_decodeWith (hrecords : records o.dialect bytes = grid.map textRecord)
    (hbatch : o.batchSize ≠ 0) {b : Batch} (h : decodeWith bytes schema o = .ok b) :
    Even grid ∧ ∃ inferred plan, inferFields o (grid.map textRecord) = some inferred ∧
      readPlan inferred schema o.header = .ok plan ∧
      readColumns plan (dataRows o.header grid) = some b.columns := by
  obtain ⟨inferred, plan, hinfer, hplan, hrows⟩ := plan_of_decodeWith h
  rw [hrecords] at hinfer hrows
  rw [readPortions_eq hbatch, dataRecords_map_textRecord, readRows_map_textRecord] at hrows
  have hcount := length_of_inferFields_grid hinfer
  refine ⟨fun row hrow => ?_, inferred, plan, hinfer, hplan, hrows.2⟩
  rcases eq_head_or_mem_dataRows o.header hrow with rfl | hdata
  · rfl
  · rw [hrows.1 row hdata, (spec_of_readPlan hplan).1, hcount]

/-- The text of a grid whose rows are even and not empty is decoded if its plan can be followed. -/
theorem decodeWith_of_grid (hrecords : records o.dialect bytes = grid.map textRecord)
    (hbatch : o.batchSize ≠ 0) (heven : Even grid) (hfirst : grid.headD [] ≠ [])
    {inferred : List Field} {plan : ReadPlan} {columns : List Column}
    (hinfer : inferFields o (grid.map textRecord) = some inferred)
    (hplan : readPlan inferred schema o.header = .ok plan)
    (hcolumns : readColumns plan (dataRows o.header grid) = some columns) :
    decodeWith bytes schema o = .ok ⟨columns⟩ := by
  have hwidth : plan.width = (grid.headD []).length := by
    rw [(spec_of_readPlan hplan).1, length_of_inferFields_grid hinfer]
  have hpositive : plan.width ≠ 0 := by
    rw [hwidth]
    exact fun h => hfirst (List.eq_nil_of_length_eq_zero h)
  have hrows : readPortions plan o.batchSize ((dataRows o.header grid).map textRecord) =
      some ⟨columns⟩ := by
    rw [readPortions_eq hbatch, readRows_map_textRecord]
    refine ⟨fun row hrow => ?_, hcolumns⟩
    rw [hwidth]
    exact heven row (mem_of_mem_dataRows hrow)
  simp only [decodeWith, hrecords, hinfer, hplan, dataRecords_map_textRecord, hrows, bind,
    Except.bind, hpositive, decide_false, Bool.and_false, Bool.false_and, Bool.false_eq_true,
    if_false]

end

end Csv

end RootedStorage
