import RootedStorage.Proofs.Csv.Grid
import RootedStorage.Proofs.Csv.Guess
import RootedStorage.Proofs.Csv.RoundTrip

/-!
# Reading back without a schema

A table that was written is read back without a schema as far as its number of rows and columns,
except in two cases (`exists_decode_encode_iff`).  A single name or text that is nothing but a byte order
mark leaves an empty line in front, and so the first record is lost.  And texts may look like truth
values, numbers, dates or timestamps without being any: then the column is `Deceptive`, and the table
is not read at all.
-/

namespace RootedStorage.Csv

/-! ## A mark in front -/

/-- A text at the very beginning, as it is read: without a mark in front, unless it is quoted. -/
def unmarkedText (d : Dialect) (text : String) : String :=
  if needsQuotes d (Utf8.encode text) then text else String.ofList (Utf8.dropMark text.toList)

/-- The rows without the mark that may stand at the very beginning of their text. -/
def unmarked (d : Dialect) : List (List String) → List (List String)
  | (text :: rest) :: rows => (unmarkedText d text :: rest) :: rows
  | grid => grid

section
variable {d : Dialect}

/-- What is written behind the first field of a record. -/
def behindField (d : Dialect) : Record → Bytes
  | [] => [10]
  | rest => d.delimiter :: joinFields d rest ++ [10]

/-- What stands behind a bare field begins with an ASCII octet. -/
theorem head?_behindField (hd : d.Ascii) (rest : Record) (behind : Bytes) :
    ∀ b ∈ (behindField d rest ++ behind).head?, b.toNat < 128 := by
  unfold behindField
  split
  · simp
  · simpa using hd.delimiter

/-- A record whose first field is bare begins with that field as it is. -/
theorem writeRecord_of_bare {field : FieldText} {rest : Record}
    (hbare : needsQuotes d field = false) (hsome : field ≠ [] ∨ rest ≠ []) :
    writeRecord d (field :: rest) = field ++ behindField d rest := by
  have hfield : writeField d field = field := by
    rw [writeField, hbare]
    rfl
  cases rest with
  | nil =>
    have hline : field.isEmpty = false := by simpa using hsome
    simp [writeRecord, joinFields, hfield, hline, behindField]
  | cons next rest => simp [writeRecord, joinFields, hfield, behindField]

/-- Any other record begins with a quote. -/
theorem exists_writeRecord_of_quoted {field : FieldText} {rest : Record}
    (h : needsQuotes d field = true ∨ field = [] ∧ rest = []) :
    ∃ behind, writeRecord d (field :: rest) = d.quote :: behind := by
  rcases h with hquotes | ⟨rfl, rfl⟩
  · cases rest with
    | nil => exact ⟨_, by simp [writeRecord, joinFields, writeField, hquotes]; rfl⟩
    | cons next rest => exact ⟨_, by simp [writeRecord, joinFields, writeField, hquotes]; rfl⟩
  · exact ⟨[d.quote, 10], by simp [writeRecord, joinFields, writeField, needsQuotes]⟩

/-- A field that needs no quotes needs none without its byte order mark either. -/
theorem needsQuotes_dropMark {text : String} (h : needsQuotes d (Utf8.encode text) = false) :
    needsQuotes d (Utf8.encode (String.ofList (Utf8.dropMark text.toList))) = false := by
  have hsub : Utf8.dropMark text.toList ⊆ text.toList := by
    unfold Utf8.dropMark
    split
    · next hmark =>
      rw [hmark]
      exact List.subset_cons_self ..
    · exact List.Subset.refl _
  rw [needsQuotes, List.any_eq_false] at h ⊢
  intro b hb
  refine h b ?_
  rw [Utf8.encode_eq_flatMap, String.toList_ofList] at hb
  rw [Utf8.encode_eq_flatMap]
  obtain ⟨c, hc, hbc⟩ := List.mem_flatMap.1 hb
  exact List.mem_flatMap.2 ⟨c, hsub hc, hbc⟩

/-- Nothing is left without a mark only of nothing and of the mark itself. -/
theorem encode_dropMark_ne_nil {text : String} (hempty : text ≠ "") (hmark : text ≠ "\uFEFF") :
    Utf8.encode (String.ofList (Utf8.dropMark text.toList)) ≠ [] := by
  intro hnil
  have hdropped : Utf8.dropMark text.toList = [] := by
    have hdrop : String.ofList (Utf8.dropMark text.toList) = "" := Utf8.encode_injective hnil
    simpa using congrArg String.toList hdrop
  unfold Utf8.dropMark at hdropped
  split at hdropped
  · next htext =>
    rw [hdropped] at htext
    exact hmark (String.toList_inj.1 (htext.trans (by decide)))
  · exact hempty (String.toList_inj.1 hdropped)

/-- A record that begins with a quote is read as it is. -/
theorem unmarkedText_of_quoted {text : String}
    (h : needsQuotes d (Utf8.encode text) = true ∨ Utf8.encode text = []) :
    unmarkedText d text = text := by
  unfold unmarkedText
  rcases h with hquotes | hnil
  · rw [if_pos hquotes]
  · obtain rfl : text = "" := Utf8.encode_injective hnil
    exact ite_self _

/-- The first record of a text as it is read, unless it is a single mark. -/
theorem dropByteOrderMark_writeRecord (hd : d.Ascii) {text : String} {rest : List String}
    (hmark : text :: rest ≠ ["\uFEFF"]) (behind : Bytes) :
    dropByteOrderMark (writeRecord d (textRecord (text :: rest)) ++ behind) =
      writeRecord d (textRecord (unmarkedText d text :: rest)) ++ behind := by
  have hcons : ∀ text, textRecord (text :: rest) = Utf8.encode text :: textRecord rest := fun _ => rfl
  rw [hcons, hcons]
  by_cases hquoted : needsQuotes d (Utf8.encode text) = true ∨
      Utf8.encode text = [] ∧ textRecord rest = []
  · obtain ⟨more, hwritten⟩ := exists_writeRecord_of_quoted hquoted
    rw [unmarkedText_of_quoted (hquoted.imp_right And.left), hwritten]
    exact dropByteOrderMark_append [] (by simpa using hd.quote)
  · rw [not_or, Bool.not_eq_true, not_and_or] at hquoted
    obtain ⟨hbare, hsome⟩ := hquoted
    have hsome' : Utf8.encode (String.ofList (Utf8.dropMark text.toList)) ≠ [] ∨
        textRecord rest ≠ [] := by
      by_cases hrest : rest = []
      · subst hrest
        have hempty : text ≠ "" := by
          rintro rfl
          exact hsome.elim (fun h => h (by decide)) fun h => h rfl
        exact .inl (encode_dropMark_ne_nil hempty fun htext => hmark (by rw [htext]))
      · exact .inr (by simpa [textRecord] using hrest)
    have htext : unmarkedText d text = String.ofList (Utf8.dropMark text.toList) := by
      rw [unmarkedText, hbare]
      rfl
    rw [htext, writeRecord_of_bare hbare hsome,
      writeRecord_of_bare (needsQuotes_dropMark hbare) hsome', List.append_assoc,
      List.append_assoc, Utf8.encode_eq_flatMap, Utf8.encode_eq_flatMap, String.toList_ofList]
    exact dropByteOrderMark_append text.toList (head?_behindField hd (textRecord rest) behind)

/-- A mark needs no quotes. -/
theorem needsQuotes_mark (hd : d.Ascii) : needsQuotes d (Utf8.encode "\uFEFF") = false := by
  have hmark : Utf8.encode "\uFEFF" = [0xEF, 0xBB, 0xBF] := by decide
  have hoctets : ∀ b ∈ Utf8.encode "\uFEFF", 128 ≤ b.toNat := by simp [hmark]
  rw [needsQuotes, List.any_eq_false]
  intro b hb
  have hhigh := Nat.not_lt.2 (hoctets b hb)
  rw [Bool.or_eq_true, Bool.or_eq_true, decide_eq_true_iff, decide_eq_true_iff]
  rintro ((rfl | rfl) | hterminator)
  · exact hhigh hd.delimiter
  · exact hhigh hd.quote
  · exact hhigh (lt_of_isTerminator hterminator)

/-- Written rows are scanned back as they were. -/
theorem finish_writeRecords (hsound : d.Sound) {grid : List (List String)}
    (hrows : ∀ row ∈ grid, row ≠ []) :
    (((grid.map textRecord).flatMap (writeRecord d)).foldl (Scan.step d) {}).finish =
      grid.map textRecord := by
  have hrecords : ∀ r ∈ grid.map textRecord, r ≠ [] := by simpa [textRecord] using hrows
  rw [Scan.foldl_writeRecords hsound.apart hrecords fun _ _ field _ => hsound.legible field]
  simp [Scan.finish]

/-- Taking the byte order mark off empties no row. -/
theorem ne_nil_of_mem_unmarked {grid : List (List String)} (hrows : ∀ row ∈ grid, row ≠ []) :
    ∀ row ∈ unmarked d grid, row ≠ [] := by
  unfold unmarked
  split
  · exact List.forall_mem_cons.2 ⟨List.cons_ne_nil _ _, (List.forall_mem_cons.1 hrows).2⟩
  · exact hrows

/-- Written rows are read back without the mark in front of them. -/
theorem records_unmarked (hd : d.Ascii) (hsound : d.Sound) {grid : List (List String)}
    (hrows : ∀ row ∈ grid, row ≠ []) (hmark : grid.head? ≠ some ["\uFEFF"]) :
    records d ((grid.map textRecord).flatMap (writeRecord d)) =
      (unmarked d grid).map textRecord := by
  rw [← finish_writeRecords hsound (ne_nil_of_mem_unmarked hrows), records]
  cases grid with
  | nil => rfl
  | cons first rows =>
    obtain ⟨text, rest, rfl⟩ := List.exists_cons_of_ne_nil (hrows first List.mem_cons_self)
    have hfirst : text :: rest ≠ ["\uFEFF"] := fun h => hmark (by rw [h, List.head?_cons])
    rw [List.map_cons, List.flatMap_cons, dropByteOrderMark_writeRecord hd hfirst]
    rfl

/-- A single mark leaves an empty line, and its record is lost. -/
theorem records_of_mark (hd : d.Ascii) (hsound : d.Sound) {grid : List (List String)}
    (hrows : ∀ row ∈ grid, row ≠ []) :
    records d (((["\uFEFF"] :: grid).map textRecord).flatMap (writeRecord d)) =
      grid.map textRecord := by
  have hencode : Utf8.encode "\uFEFF" = [0xEF, 0xBB, 0xBF] := by decide
  have hline : writeRecord d (textRecord ["\uFEFF"]) = [0xEF, 0xBB, 0xBF, 10] := by
    show writeRecord d [Utf8.encode "\uFEFF"] = _
    rw [writeRecord_of_bare (needsQuotes_mark hd) (.inl (by simp [hencode])), hencode]
    rfl
  rw [← finish_writeRecords hsound hrows, List.map_cons, List.flatMap_cons, hline]
  rfl

end

/-! ## Reading under guessed types -/

section
variable {o : Options} {grid : List (List String)}

/-- The fields of a text by itself, if its rows are even and all of them are looked at. -/
def guessedFields (header : Bool) (grid : List (List String)) : List Field :=
  (grid.headD []).mapIdx fun i name =>
    { name := if header then name else "column_" ++ toString (i + 1)
      type := inferType (columnAt (dataRows header grid) i)
      nullable := true }

/-- Without a limit the fields are guessed from all rows. -/
theorem inferFields_eq (hinfer : o.inferRows = none) (heven : Even grid) :
    inferFields o (grid.map textRecord) = some (guessedFields o.header grid) := by
  have hrows : sampled o (if o.header then (grid.map textRecord).drop 1 else grid.map textRecord) =
      (dataRows o.header grid).map textRecord := by
    rw [sampled, hinfer]
    exact dataRecords_map_textRecord o.header grid
  have hwidth : ((dataRows o.header grid).map textRecord).all
      (·.length = (textRecord (grid.headD [])).length) = true := by
    simp only [List.all_map, List.all_eq_true, Function.comp_apply, decide_eq_true_eq,
      length_textRecord]
    exact fun row hrow => heven row (mem_of_mem_dataRows hrow)
  have htexts : ((dataRows o.header grid).map textRecord).mapM recordTexts =
      some (dataRows o.header grid) := by
    refine mapM_eq_pure ?_
    rw [List.forall₂_map_left_iff, List.forall₂_same]
    exact fun row _ => recordTexts_textRecord row
  simp only [inferFields, headD_map_textRecord, hrows, hwidth, htexts, recordTexts_textRecord,
    if_true, Option.bind_eq_bind, Option.bind_some]
  rfl

/-- The columns of a text without declared fields. -/
def guessedPlan (header : Bool) (grid : List (List String)) : ReadPlan :=
  ⟨(guessedFields header grid).length, (guessedFields header grid).zipIdx⟩

/-- There is one guessed field for each cell of the first row. -/
theorem length_guessedFields (header : Bool) (grid : List (List String)) :
    (guessedFields header grid).length = (grid.headD []).length :=
  List.length_mapIdx

/-- The type of a guessed field is inferred from the cells of its column. -/
theorem type_of_guessedFields {header : Bool} {i : Nat} {f : Field}
    (h : (guessedFields header grid)[i]? = some f) :
    f.type = inferType (columnAt (dataRows header grid) i) := by
  rw [guessedFields, List.getElem?_mapIdx, Option.map_eq_some_iff] at h
  obtain ⟨name, -, rfl⟩ := h
  rfl

/-- Columns of guessed types can be read unless one of them deceives. -/
theorem exists_readColumns_iff {header : Bool} :
    (∃ columns, readColumns (guessedPlan header grid) (dataRows header grid) = some columns) ↔
      ∀ i < (grid.headD []).length, ¬ Deceptive (columnAt (dataRows header grid) i) := by
  have hcolumns : (∃ columns,
      readColumns (guessedPlan header grid) (dataRows header grid) = some columns) ↔
        ∀ column ∈ (guessedFields header grid).zipIdx, ∃ cells,
          readColumn (dataRows header grid) column.1.type column.2 = some cells := by
    simp only [readColumns, mapM_eq_some_iff, exists_forall₂_iff, Option.map_eq_some_iff]
    refine forall₂_congr fun column _ => ?_
    exact ⟨fun ⟨_, cells, hcells, _⟩ => ⟨cells, hcells⟩, fun ⟨cells, hcells⟩ => ⟨_, cells, hcells, rfl⟩⟩
  rw [hcolumns, ← length_guessedFields header grid]
  simp only [← exists_cells_iff]
  constructor
  · intro h i hi
    have hfield := List.getElem?_eq_getElem hi
    have hread := h ((guessedFields header grid)[i], i) (List.mem_zipIdx_iff_getElem?.2 hfield)
    rw [type_of_guessedFields hfield] at hread
    exact hread
  · rintro h ⟨f, i⟩ hcolumn
    have hfield := List.mem_zipIdx_iff_getElem?.1 hcolumn
    have hread := h i (List.getElem?_eq_some_iff.1 hfield).1
    rw [← type_of_guessedFields hfield] at hread
    exact hread

/-- A table has a column for each in the plan, and a row for each that is read. -/
theorem size_of_readColumns {plan : ReadPlan} {rows : List (List String)} {columns : List Column}
    (h : readColumns plan rows = some columns) :
    columns.length = plan.columns.length ∧
      (columns ≠ [] → (Batch.mk columns).rows = rows.length) := by
  have hcolumns := forall₂_of_mapM_eq_some h
  refine ⟨hcolumns.length_eq.symm, fun hsome => ?_⟩
  obtain ⟨c, rest, rfl⟩ := List.exists_cons_of_ne_nil hsome
  obtain ⟨column, -, hcolumn⟩ := exists_of_mem_right hcolumns c List.mem_cons_self
  obtain ⟨cells, hcells, rfl⟩ := Option.map_eq_some_iff.1 hcolumn
  have hlength := (forall₂_of_mapM_eq_some hcells).length_eq
  rw [columnAt, List.length_map] at hlength
  exact hlength.symm

variable {bytes : Bytes} {options : FormatOptions}

/-- A text without declared fields is decoded to its columns under their guessed types. -/
theorem decode_undeclared_iff (ho : Options.ofFormatOptions options = .ok o)
    (hinfer : o.inferRows = none) (hbatch : o.batchSize ≠ 0) (hbytes : bytes ≠ [])
    (hrecords : records o.dialect bytes = grid.map textRecord) (heven : Even grid)
    (hfirst : grid.headD [] ≠ []) (back : Batch) :
    decode bytes {} options = .ok back ↔
      readColumns (guessedPlan o.header grid) (dataRows o.header grid) = some back.columns := by
  have hplan : readPlan (guessedFields o.header grid) {} o.header =
      .ok (guessedPlan o.header grid) := rfl
  rw [decode_eq_decodeWith ho hbytes]
  constructor
  · intro h
    obtain ⟨-, inferred, plan, hguess, hplan', hcolumns⟩ := grid_of_decodeWith hrecords hbatch h
    obtain rfl := Option.some.inj ((inferFields_eq hinfer heven).symm.trans hguess)
    obtain rfl := Except.ok.inj (hplan.symm.trans hplan')
    exact hcolumns
  · intro h
    exact decodeWith_of_grid hrecords hbatch heven hfirst (inferFields_eq hinfer heven) hplan h

end

/-! ## A table that was written -/

section
variable {d : Dialect} {grid : List (List String)}

/-- Taking the byte order mark off takes no row off. -/
theorem length_unmarked : (unmarked d grid).length = grid.length := by
  unfold unmarked
  split <;> rfl

/-- Taking the byte order mark off takes no cell off. -/
theorem length_of_mem_unmarked {n : Nat} (h : ∀ row ∈ grid, row.length = n) :
    ∀ row ∈ unmarked d grid, row.length = n := by
  unfold unmarked
  split
  · obtain ⟨hfirst, hrows⟩ := List.forall_mem_cons.1 h
    exact List.forall_mem_cons.2 ⟨hfirst, hrows⟩
  · exact h

/-- At most one text of a column has lost a mark. -/
theorem exists_of_mem_columnAt_unmarked {i : Nat} {text : String}
    (h : text ∈ columnAt (unmarked d grid) i) :
    ∃ original ∈ columnAt grid i, text = original ∨ text = unmarkedText d original := by
  unfold unmarked at h
  split at h
  · next first rest rows =>
    rcases List.mem_cons.1 h with rfl | hrows
    · refine ⟨_, List.mem_cons_self, ?_⟩
      cases i with
      | zero => exact .inr rfl
      | succ i => exact .inl rfl
    · exact ⟨text, List.mem_cons_of_mem _ hrows, .inl rfl⟩
  · exact ⟨text, h, .inl rfl⟩

/-- An ASCII text has no byte order mark to lose. -/
theorem unmarkedText_of_isAscii {text : String} (h : Text.IsAscii text.toList) :
    unmarkedText d text = text := by
  have hkeep : Utf8.dropMark text.toList = text.toList := by
    unfold Utf8.dropMark
    split
    · next hmark =>
      rw [hmark] at h
      exact absurd (Text.isAscii_cons.1 h).1 (by decide)
    · rfl
  unfold unmarkedText
  rw [hkeep, String.ofList_toList]
  exact ite_self _

end

section
variable {b : Batch} {o : Options}

/-- The rows of a table's cells as they are read back. -/
def rowsBack (o : Options) (b : Batch) : List (List String) :=
  dataRows o.header (unmarked o.dialect (textRows o.header b))

/-- A cell that comes back is a written one, with its byte order mark or without. -/
theorem mem_columnAt_rowsBack {i : Nat} {text : String} (h : text ∈ columnAt (rowsBack o b) i) :
    ∃ original ∈ columnAt (textGrid b) i, text = original ∨ text = unmarkedText o.dialect original := by
  unfold rowsBack textRows at h
  cases hheader : o.header with
  | false =>
    rw [hheader] at h
    exact exists_of_mem_columnAt_unmarked h
  | true =>
    rw [hheader] at h
    refine ⟨text, ?_, .inl rfl⟩
    cases hnames : b.names with
    | nil =>
      rw [hnames] at h
      exact h
    | cons name names =>
      rw [hnames] at h
      exact h

/-- As many rows come back as were written. -/
theorem length_rowsBack (hb : b.WellFormed) : (rowsBack o b).length = b.rows := by
  unfold rowsBack dataRows
  cases hheader : o.header with
  | false => simp [length_unmarked, textRows, length_textGrid hb]
  | true => simp [length_unmarked, textRows, length_textGrid hb]

/-- A column of truth values or whole numbers does not deceive. -/
theorem not_deceptive_of_isExact (hb : b.WellFormed) (ht : ∀ c ∈ b.columns, c.field.type.IsExact)
    {i : Nat} (hi : i < b.columns.length) (htext : b.columns[i].field.type ≠ .text) :
    ¬ Deceptive (columnAt (rowsBack o b) i) := by
  have hmem : b.columns[i] ∈ b.columns := List.getElem_mem hi
  rintro ⟨text, hin, hsome, hvalue⟩
  obtain ⟨original, horiginal, hsame⟩ := mem_columnAt_rowsBack hin
  rw [columnAt_textGrid hb hi] at horiginal
  obtain ⟨x, hx, rfl⟩ := List.mem_map.1 horiginal
  obtain ⟨hascii, hcalendar⟩ := exactText_plain (ht _ hmem) htext ((hb _ hmem).2.1 x hx)
  rw [unmarkedText_of_isAscii hascii, or_self] at hsame
  subst hsame
  exact hvalue (isValue_of_isAscii hin hsome hascii (hcalendar hsome))

section
variable (hb : b.WellFormed) (hcolumns : b.columns ≠ []) (hrows : b.rows ≠ 0)
include hb hrows

/-- A table with rows is written as one record at least. -/
theorem textRows_ne_nil : textRows o.header b ≠ [] := by
  intro hnil
  have hgrid := length_textGrid hb
  rw [(textRows_eq_nil_iff.1 hnil).2] at hgrid
  exact hrows hgrid.symm

include hcolumns
variable {options : FormatOptions} (ho : Options.ofFormatOptions options = .ok o)
  (hsound : o.dialect.Sound) (hbatch : o.batchSize ≠ 0)
include ho hsound hbatch

/-- A table whose text does not begin with a single mark is read back unless a column deceives. -/
theorem decode_textRows_iff (hinfer : o.inferRows = none)
    (hmark : (textRows o.header b).head? ≠ some ["\uFEFF"]) :
    (∃ back, decode (((textRows o.header b).map textRecord).flatMap (writeRecord o.dialect)) {}
        options = .ok back ∧ back.rows = b.rows ∧ back.columns.length = b.columns.length) ↔
      ∀ i < b.columns.length, ¬ Deceptive (columnAt (rowsBack o b) i) := by
  have hpositive : 0 < b.columns.length := List.length_pos_iff.2 hcolumns
  have hsome := textRows_ne_nil (o := o) hb hrows
  have hlength : ∀ row ∈ unmarked o.dialect (textRows o.header b), row.length = b.columns.length :=
    length_of_mem_unmarked fun row => length_of_mem_textRows
  have hwidth : ((unmarked o.dialect (textRows o.header b)).headD []).length =
      b.columns.length := by
    obtain ⟨first, rest, hcons⟩ := List.exists_cons_of_length_pos
      (l := unmarked o.dialect (textRows o.header b))
      (by rw [length_unmarked]; exact List.length_pos_iff.2 hsome)
    rw [hcons] at hlength ⊢
    exact hlength first List.mem_cons_self
  have hrecords := records_unmarked (ascii_of_ofFormatOptions ho) hsound
    (fun row hrow => List.ne_nil_of_length_pos (length_of_mem_textRows hrow ▸ hpositive)) hmark
  have hdecode := decode_undeclared_iff ho hinfer hbatch
    (mt write_textRows_eq_nil_iff.1 hsome) hrecords
    (fun row hrow => (hlength row hrow).trans hwidth.symm)
    (List.ne_nil_of_length_pos (hwidth ▸ hpositive))
  rw [rowsBack, ← hwidth, ← exists_readColumns_iff]
  constructor
  · rintro ⟨back, hback, -, -⟩
    exact ⟨back.columns, (hdecode back).1 hback⟩
  · rintro ⟨columns, hread⟩
    obtain ⟨hcount, hheight⟩ := size_of_readColumns hread
    rw [guessedPlan, List.length_zipIdx, length_guessedFields] at hcount
    refine ⟨⟨columns⟩, (hdecode ⟨columns⟩).2 hread, ?_, hcount⟩
    rw [hheight (List.ne_nil_of_length_pos (hcount.trans hwidth ▸ hpositive))]
    exact length_rowsBack hb

/-- A table whose text begins with a single mark comes back with a row less, if at all. -/
theorem rows_ne_of_mark (hmark : (textRows o.header b).head? = some ["\uFEFF"]) {back : Batch}
    (h : decode (((textRows o.header b).map textRecord).flatMap (writeRecord o.dialect)) {}
      options = .ok back) (hback : back.columns ≠ []) : back.rows ≠ b.rows := by
  have hpositive : 0 < b.columns.length := List.length_pos_iff.2 hcolumns
  rw [decode_eq_decodeWith ho (mt write_textRows_eq_nil_iff.1 (textRows_ne_nil hb hrows))] at h
  obtain ⟨rest, hcons⟩ := List.head?_eq_some_iff.1 hmark
  have hrest : ∀ row ∈ rest, row ≠ [] := fun row hrow => List.ne_nil_of_length_pos
    (length_of_mem_textRows (hcons ▸ List.mem_cons_of_mem _ hrow) ▸ hpositive)
  have hrecords := records_of_mark (ascii_of_ofFormatOptions ho) hsound hrest
  rw [← hcons] at hrecords
  obtain ⟨-, inferred, plan, -, -, hread⟩ := grid_of_decodeWith hrecords hbatch h
  rw [(size_of_readColumns hread).2 hback, ← length_textGrid hb]
  have hgrid := length_textGrid hb
  cases hheader : o.header with
  | false =>
    rw [hheader] at hcons
    have hsame : textGrid b = ["\uFEFF"] :: rest := hcons
    rw [hsame]
    simp [dataRows]
  | true =>
    rw [hheader] at hcons
    have hsame : textGrid b = rest := (List.cons.inj hcons).2
    rw [hsame] at hgrid ⊢
    simp [dataRows]
    omega

/-- A table of truth values, whole numbers and texts is written, and its text is read back without a
schema, with as many rows and columns, exactly if the text does not begin with a record that is a
single mark and no column of texts deceives. -/
theorem exists_decode_encode_iff (ht : ∀ c ∈ b.columns, c.field.type.IsExact)
    (hinfer : o.inferRows = none) :
    ∃ bytes, encode {} b options = .ok bytes ∧
      ((∃ back, decode bytes {} options = .ok back ∧ back.rows = b.rows ∧
          back.columns.length = b.columns.length) ↔
        (textRows o.header b).head? ≠ some ["\uFEFF"] ∧
          ∀ i c, b.columns[i]? = some c → c.field.type = .text →
            ¬ Deceptive (columnAt (rowsBack o b) i)) := by
  refine ⟨_, encode_of_isExact hb ht ho, ?_⟩
  by_cases hmark : (textRows o.header b).head? = some ["\uFEFF"]
  · refine iff_of_false ?_ fun h => h.1 hmark
    rintro ⟨back, hback, hsame, hcount⟩
    have hsome : back.columns ≠ [] := by
      rw [← List.length_pos_iff, hcount, List.length_pos_iff]
      exact hcolumns
    exact rows_ne_of_mark hb hcolumns hrows ho hsound hbatch hmark hback hsome hsame
  · rw [and_iff_right hmark,
      decode_textRows_iff hb hcolumns hrows ho hsound hbatch hinfer hmark]
    constructor
    · intro h i c hc _
      exact h i (List.getElem?_eq_some_iff.1 hc).1
    · intro h i hi
      by_cases htext : b.columns[i].field.type = .text
      · exact h i _ (List.getElem?_eq_getElem hi) htext
      · exact not_deceptive_of_isExact hb ht hi htext

end

end

/-- Texts that look like dates and are, beside a number beyond 64 bits with a sign. -/
theorem exists_decode_encode_iff_leap_day :
    ∃ back, decode (Utf8.encode "18446744073709551615,2020-02-29\n,2021-03-04T05:06:07Z\n") {}
        ⟨[("header", "false")]⟩ = .ok back ∧ back.rows = 2 ∧ back.columns.length = 2 := by
  have hoptions : Options.ofFormatOptions ⟨[("header", "false")]⟩ = .ok { header := false } := by
    decide
  obtain ⟨bytes, hencode, hread⟩ := exists_decode_encode_iff
    (b := ⟨[⟨⟨"n", .integer .uint64, true⟩, [.integer 18446744073709551615, .null]⟩,
      ⟨⟨"s", .text, false⟩, [.text "2020-02-29", .text "2021-03-04T05:06:07Z"]⟩]⟩)
    (by simp [Batch.WellFormed, Batch.rows, Cell.Fits]; decide) (by simp) (by decide) hoptions
    ⟨rfl, by decide, by decide, by decide⟩ (by decide)
    (by
      intro c hc
      rcases List.mem_pair.1 hc with rfl | rfl
      · exact .integer .uint64
      · exact .text)
    rfl
  have hbytes : bytes = Utf8.encode "18446744073709551615,2020-02-29\n,2021-03-04T05:06:07Z\n" := by
    refine Except.ok.inj (hencode.symm.trans ?_)
    decide +kernel
  subst hbytes
  refine hread.2 ⟨by decide +kernel, fun i c hc htext => ?_⟩
  cases i with
  | zero =>
    obtain rfl := Option.some.inj hc
    cases htext
  | succ i =>
    cases i with
    | zero => decide +kernel
    | succ i => cases hc

/-- A text in the form of a date, of a day that no calendar has. -/
theorem not_exists_decode_encode_impossible_day :
    ¬ ∀ (b : Batch) (options : FormatOptions) (o : Options), b.WellFormed → b.columns ≠ [] →
      b.rows ≠ 0 → (∀ c ∈ b.columns, c.field.type.IsExact) →
      Options.ofFormatOptions options = .ok o → o.dialect.Sound → o.inferRows = none →
      o.batchSize ≠ 0 → ∃ bytes, encode {} b options = .ok bytes ∧
        ∃ back, decode bytes {} options = .ok back ∧ back.rows = b.rows ∧
          back.columns.length = b.columns.length := by
  intro hall
  obtain ⟨bytes, hencode, back, hback, -⟩ := hall
    ⟨[⟨⟨"s", .text, true⟩, [.text "2021-02-30"]⟩]⟩ .empty {}
    (by simp [Batch.WellFormed, Batch.rows, Cell.Fits]) (by simp) (by decide)
    (by
      intro c hc
      obtain rfl := List.mem_singleton.1 hc
      exact .text)
    rfl ⟨rfl, by decide, by decide, by decide⟩ rfl (by decide)
  have hwritten : encode {} ⟨[⟨⟨"s", .text, true⟩, [.text "2021-02-30"]⟩]⟩ .empty =
      .ok (Utf8.encode "s\n2021-02-30\n") := by
    decide +kernel
  obtain rfl := Except.ok.inj (hwritten.symm.trans hencode)
  have hread : decode (Utf8.encode "s\n2021-02-30\n") {} .empty = .error (.access .decodeCsv) := by
    decide +kernel
  rw [hread] at hback
  cases hback

end RootedStorage.Csv
