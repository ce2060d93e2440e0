import RootedStorage.Proofs.Csv.Portion
import RootedStorage.Proofs.Csv.Record

/-!
# What the two directions of the CSV format do

The steps of `encode` and `decodeWith` on records whose fields are texts: such records are of one
width, their layout is found, and the declared fields choose the columns of the text by position.
-/

namespace RootedStorage.Csv

/-- A record of texts. -/
def textRecord (texts : List String) : Record := texts.map Utf8.encode

@[simp] theorem length_textRecord (texts : List String) : (textRecord texts).length = texts.length :=
  List.length_map ..

@[simp] theorem recordTexts_textRecord (texts : List String) :
    recordTexts (textRecord texts) = some texts := by
  refine mapM_eq_pure ?_
  rw [textRecord, List.forall₂_map_left_iff, List.forall₂_same]
  exact fun s _ => Utf8.decode?_encode s

/-! ## The layout -/

theorem sampled_map_textRecord (options : Options) (rows : List (List String)) :
    ∃ sample : List (List String), sampled options (rows.map textRecord) = sample.map textRecord ∧
      ∀ row ∈ sample, row ∈ rows := by
  unfold sampled
  split
  · exact ⟨rows, rfl, fun row h => h⟩
  · rename_i n _
    exact ⟨rows.take n, List.map_take.symm, fun row h => List.mem_of_mem_take h⟩

/-- Records of texts of one width have a layout of that width, named by the first record if there
is a header. -/
theorem inferFields_textRecords (options : Options) (first : List String)
    {rest : List (List String)} (hwidth : ∀ row ∈ rest, row.length = first.length) :
    ∃ inferred, inferFields options ((first :: rest).map textRecord) = some inferred ∧
      inferred.length = first.length ∧
      (options.header = true → inferred.map (·.name) = first) := by
  obtain ⟨sample, hsample, hmem⟩ := sampled_map_textRecord options
    (if options.header then rest else first :: rest)
  have hrows : sampled options (if options.header then ((first :: rest).map textRecord).drop 1
      else (first :: rest).map textRecord) = sample.map textRecord := by
    rw [← hsample]
    cases options.header <;> rfl
  have hall : ∀ row ∈ sample, row.length = first.length := by
    intro row hrow
    have h := hmem row hrow
    cases hheader : options.header
    · rw [hheader] at h
      rcases List.mem_cons.1 h with rfl | h
      · rfl
      · exact hwidth row h
    · rw [hheader] at h
      exact hwidth row h
  have htexts : (sample.map textRecord).mapM recordTexts = some sample := by
    refine mapM_eq_pure ?_
    rw [List.forall₂_map_left_iff, List.forall₂_same]
    exact fun row _ => recordTexts_textRecord row
  refine ⟨first.mapIdx fun i name =>
    { name := if options.header then name else "column_" ++ toString (i + 1)
      type := inferType (columnAt sample i)
      nullable := true }, ?_, by simp, ?_⟩
  · have hfirst : ((first :: rest).map textRecord).headD [] = textRecord first := rfl
    have hlengths : (sample.map textRecord).all (·.length = (textRecord first).length) = true := by
      simpa using hall
    simp only [inferFields, hfirst, hrows, hlengths, htexts, recordTexts_textRecord, if_true,
      Option.bind_eq_bind, Option.bind_some]
  · intro hheader
    refine List.ext_getElem (by simp) fun i _ _ => ?_
    simp [hheader]

/-! ## The plan -/

/-- The columns of a text that declared fields choose by their position. -/
def positions (schema : TableSchema) : List (Field × Nat) :=
  schema.fields.mapIdx fun i f => (⟨f.name, f.type, true⟩, i)

/-- Declared fields choose the columns by position when the text has no names, or the same names in
the same order. -/
theorem readPlan_eq_positions {inferred : List Field} {schema : TableSchema} {header : Bool}
    (hfields : schema.fields ≠ []) (hnodup : schema.names.Nodup)
    (hlength : inferred.length = schema.fields.length)
    (hnames : header = true → inferred.map (·.name) = schema.names) :
    readPlan inferred schema header = .ok ⟨schema.fields.length, positions schema⟩ := by
  have hsome : schema.hasFields = true := by simpa [TableSchema.hasFields] using hfields
  cases header with
  | false => simp [readPlan, hsome, hlength, positions]
  | true =>
    have hinferred := hnames rfl
    simp only [readPlan, hsome, hlength, Bool.not_true, Bool.false_eq_true, if_false]
    refine (congrArg (ReadPlan.mk schema.fields.length <$> ·)
      (mapM_eq_pure_of_getElem (k := positions schema) ?_ fun i hi _ => ?_)).trans rfl
    · simp [positions, TableSchema.names]
    · have hdeclared : i < schema.fields.length := by simpa [TableSchema.names] using hi
      have hname : schema.names[i] = schema.fields[i].name := by simp [TableSchema.names]
      have hi' : i < inferred.length := by omega
      have hsame : schema.names[i] = inferred[i].name := by simp [← hinferred]
      have hindex := findIdx?_key (fun f : Field => f.name) (hinferred ▸ hnodup)
        hi'
      have hfield := find?_key (fun f : FieldDeclaration => f.name) hnodup hdeclared
      rw [← hsame] at hindex
      rw [← hname] at hfield
      simp only [hindex, TableSchema.field?, hfield]
      simp [positions, hname]
      rfl

/-! ## The rows -/

/-- The table of declared fields with the given cells. -/
def tableOf (schema : TableSchema) (cells : List (List Cell)) : Batch :=
  ⟨List.zipWith (fun f x => ⟨⟨f.name, f.type, true⟩, x⟩) schema.fields cells⟩

/-- Rows of texts are read column by column. -/
theorem readRows_textRecords {schema : TableSchema} {grid : List (List String)}
    {cells : List (List Cell)} (hwidth : ∀ row ∈ grid, row.length = schema.fields.length)
    (hlength : cells.length = schema.fields.length)
    (hcells : ∀ i (hi : i < schema.fields.length),
      readColumn grid schema.fields[i].type i = cells[i]?) :
    readRows ⟨schema.fields.length, positions schema⟩ (grid.map textRecord) =
      some (tableOf schema cells) := by
  have htexts : (grid.map textRecord).mapM
      (fun row => if row.length = schema.fields.length then recordTexts row else none) =
        some grid := by
    refine mapM_eq_pure ?_
    rw [List.forall₂_map_left_iff, List.forall₂_same]
    intro row hrow
    rw [if_pos ((length_textRecord row).trans (hwidth row hrow)), recordTexts_textRecord]
    rfl
  have hcolumns : (positions schema).mapM (fun column =>
      (readColumn grid column.1.type column.2).map (Column.mk column.1 ·)) =
        some (tableOf schema cells).columns := by
    refine mapM_eq_pure_of_getElem (by simp [positions, tableOf, hlength]) fun i hi _ => ?_
    have hcolumn := hcells i (by simpa [positions] using hi)
    simp [positions, tableOf, hcolumn]
  simp only [readRows, htexts, hcolumns, Option.bind_eq_bind, Option.bind_some]
  rfl

/-- A text whose records are the declared names, if there is a header, and rows of readable cells
holds the table of these cells. -/
theorem decodeWith_textRecords {bytes : Bytes} {schema : TableSchema} {options : Options}
    {grid : List (List String)} {cells : List (List Cell)}
    (hrecords : records options.dialect bytes =
      ((if options.header then [schema.names] else []) ++ grid).map textRecord)
    (hsome : options.header = true ∨ grid ≠ []) (hbatch : options.batchSize ≠ 0)
    (hfields : schema.fields ≠ []) (hnodup : schema.names.Nodup)
    (hwidth : ∀ row ∈ grid, row.length = schema.fields.length)
    (hlength : cells.length = schema.fields.length)
    (hcells : ∀ i (hi : i < schema.fields.length),
      readColumn grid schema.fields[i].type i = cells[i]?) :
    decodeWith bytes schema options = .ok (tableOf schema cells) := by
  have hnames : schema.names.length = schema.fields.length := by simp [TableSchema.names]
  have hlayout : ∃ inferred, inferFields options (records options.dialect bytes) = some inferred ∧
      inferred.length = schema.fields.length ∧
      (options.header = true → inferred.map (·.name) = schema.names) := by
    rw [hrecords]
    cases hheader : options.header with
    | true =>
      obtain ⟨inferred, hinfer, hcount, hsame⟩ := inferFields_textRecords options
        schema.names fun row hrow => (hwidth row hrow).trans hnames.symm
      exact ⟨inferred, hinfer, hcount.trans hnames, fun _ => hsame hheader⟩
    | false =>
      obtain ⟨first, rest, rfl⟩ := List.exists_cons_of_ne_nil
        (hsome.resolve_left (by simp [hheader]))
      obtain ⟨hfirst, hrest⟩ := List.forall_mem_cons.1 hwidth
      obtain ⟨inferred, hinfer, hcount, -⟩ := inferFields_textRecords options
        first fun row hrow => (hrest row hrow).trans hfirst.symm
      exact ⟨inferred, hinfer, hcount.trans hfirst, fun h => by cases h⟩
  obtain ⟨inferred, hinfer, hcount, hsame⟩ := hlayout
  have hplan := readPlan_eq_positions hfields hnodup hcount hsame
  have hbody : dataRecords options.header (records options.dialect bytes) =
      grid.map textRecord := by
    rw [hrecords]
    cases options.header <;> rfl
  have hpositive : schema.fields.length ≠ 0 := by simpa using hfields
  have hrows := (readPortions_eq hbatch _).trans (readRows_textRecords hwidth hlength hcells)
  simp only [decodeWith, hinfer, hplan, hbody, bind, Except.bind, hpositive, if_false,
    decide_false, Bool.and_false, Bool.false_and, Bool.false_eq_true, hrows]

end RootedStorage.Csv
