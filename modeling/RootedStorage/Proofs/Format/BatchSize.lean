import RootedStorage.Format
import RootedStorage.Proofs.Csv.Rows
import RootedStorage.Proofs.Format.OptionValue
import RootedStorage.Proofs.Parquet.Selection

/-!
# How many rows are decoded at a time

Two decodes of one source that differ in nothing but the size of a portion give the same table,
with all rows of the source in their order.  Size zero is the exception: no row is decoded, and the
table has its fields only (`TableFormat.decode_eq_iff`).  Both formats follow the same two laws:
what is decoded in portions of no row has the fields of every other decode, and other sizes make no
difference (`TableFormat.sizes_of_decode`).
-/

namespace RootedStorage

/-! ## Options -/

/-- The options agree on everything but the size of a portion. -/
def SameButSize (options options' : FormatOptions) : Prop :=
  ∀ key, key ≠ "batch_size" → options.get? key = options'.get? key

/-- Being the same but for the size is symmetric. -/
theorem SameButSize.symm {options options' : FormatOptions} (h : SameButSize options options') :
    SameButSize options' options :=
  fun key hkey => (h key hkey).symm

namespace TableFormat

/-- The options of the format say that no row is decoded at a time. -/
def TakesNoRow (f : TableFormat) (options : FormatOptions) : Prop :=
  OptionValue.readSize options f.name "batch_size" = .ok (some 0)

/-- The table has all rows of the source, in their order: those of the records of a text, or those
that the columns of a container have. -/
inductive HoldsRows : TableFormat → TableSource → TableSchema → FormatOptions → Batch → Prop where
  | csv {bytes : Bytes} {schema : TableSchema} {options : FormatOptions} {o : Csv.Options}
    {b : Batch} : Csv.Options.ofFormatOptions options = .ok o → Csv.HoldsRows bytes o b →
      HoldsRows .csv (.content bytes) schema options b
  | columnar {container : Parquet.Container} {content : Bytes} {schema : TableSchema}
    {options : FormatOptions} {table b : Batch} :
    container.read? content = some table → (schema.fields = [] → b = table) →
      (schema.fields ≠ [] → table.Picks schema.names b) →
      HoldsRows (.columnar container) (.content content) schema options b

end TableFormat

variable {options options' : FormatOptions} {schema : TableSchema} {b b' : Batch}

/-! ## Texts -/

namespace Csv

variable {bytes : Bytes} {o o' : Options}

/-- No row is taken exactly if the batch size is zero. -/
theorem takesNoRow_iff (ho : Options.ofFormatOptions options = .ok o) :
    TableFormat.csv.TakesNoRow options ↔ o.batchSize = 0 := by
  simp only [Options.ofFormatOptions, bind_eq_ok_iff] at ho
  obtain ⟨_, -, _, -, _, -, _, -, size, hsize, _, -, ho⟩ := ho
  cases ho
  have hread : TableFormat.csv.TakesNoRow options ↔ size = some 0 := by
    unfold TableFormat.TakesNoRow
    rw [show TableFormat.csv.name = formatName from rfl, hsize, Except.ok.injEq]
  rw [hread]
  cases size with
  | none => simp
  | some n => simp

/-- Options that differ in the size only are read alike but for it. -/
theorem eq_of_sameButSize (h : SameButSize options options')
    (ho : Options.ofFormatOptions options = .ok o)
    (ho' : Options.ofFormatOptions options' = .ok o') :
    o' = { o with batchSize := o'.batchSize } := by
  simp only [Options.ofFormatOptions, bind_eq_ok_iff] at ho ho'
  obtain ⟨delimiter, hdelimiter, header, hheader, quote, hquote, escape, hescape, _, -, inferRows,
    hrows, ho⟩ := ho
  obtain ⟨delimiter', hdelimiter', header', hheader', quote', hquote', escape', hescape', _, -,
    inferRows', hrows', ho'⟩ := ho'
  rw [OptionValue.readByte_congr (h "delimiter" (by decide)), hdelimiter'] at hdelimiter
  rw [OptionValue.readBoolean_congr (h "header" (by decide)), hheader'] at hheader
  rw [OptionValue.readByte_congr (h "quote" (by decide)), hquote'] at hquote
  rw [OptionValue.readByte_congr (h "escape" (by decide)), hescape'] at hescape
  rw [OptionValue.readSize_congr (h "infer_rows" (by decide)), hrows'] at hrows
  cases hdelimiter
  cases hheader
  cases hquote
  cases hescape
  cases hrows
  cases ho
  cases ho'
  rfl

/-- Texts are decoded under one plan, whatever the size of a portion. -/
theorem portions_of_decode (hsame : SameButSize options options')
    (ho : Options.ofFormatOptions options = .ok o) (ho' : Options.ofFormatOptions options' = .ok o')
    (h : decode bytes schema options = .ok b) (h' : decode bytes schema options' = .ok b') :
    (b = .ofFields schema.toFields ∧ b' = .ofFields schema.toFields) ∨
    ∃ plan rows, readPortions plan o.batchSize rows = some b ∧
      readPortions plan o'.batchSize rows = some b' := by
  have hrest := eq_of_sameButSize hsame ho ho'
  simp only [decode, ho, ho', bind, Except.bind] at h h'
  cases hempty : bytes.isEmpty with
  | true =>
    rw [hempty] at h h'
    exact .inl ⟨(Except.ok.inj h).symm, (Except.ok.inj h').symm⟩
  | false =>
    rw [hempty] at h h'
    obtain ⟨inferred, plan, hinfer, hplan, hrows⟩ := plan_of_decodeWith h
    obtain ⟨inferred', plan', hinfer', hplan', hrows'⟩ := plan_of_decodeWith h'
    rw [hrest] at hinfer' hplan' hrows'
    obtain rfl : inferred = inferred' := Option.some.inj (hinfer.symm.trans hinfer')
    obtain rfl : plan = plan' := Except.ok.inj (hplan.symm.trans hplan')
    exact .inr ⟨plan, _, hrows, hrows'⟩

/-- A table that is read in portions has the planned fields. -/
theorem fields_of_readPortions {plan : ReadPlan} {size : Nat} {rows : List Record}
    (h : readPortions plan size rows = some b) : b.fields = plan.columns.map (·.1) := by
  by_cases hsize : size = 0
  · rw [hsize, readPortions_zero] at h
    obtain rfl := Option.some.inj h
    exact Batch.fields_ofFields _
  · rw [readPortions_eq hsize] at h
    exact fields_of_readRows h

/-- No row is taken, and the fields are those of every other decode, or the size is of no matter. -/
theorem sizes_of_decode (hsame : SameButSize options options')
    (ho : Options.ofFormatOptions options = .ok o) (ho' : Options.ofFormatOptions options' = .ok o')
    (h : decode bytes schema options = .ok b) (h' : decode bytes schema options' = .ok b') :
    (o.batchSize = 0 → b = .ofFields b'.fields) ∧
    (o.batchSize ≠ 0 → o'.batchSize ≠ 0 → b = b') := by
  rcases portions_of_decode hsame ho ho' h h' with ⟨rfl, rfl⟩ | ⟨plan, rows, hrows, hrows'⟩
  · exact ⟨fun _ => by rw [Batch.fields_ofFields], fun _ _ => rfl⟩
  · refine ⟨fun hsize => ?_, fun hsize hsize' => ?_⟩
    · rw [hsize, readPortions_zero] at hrows
      rw [fields_of_readPortions hrows']
      exact (Option.some.inj hrows).symm
    · rw [readPortions_eq hsize] at hrows
      rw [readPortions_eq hsize'] at hrows'
      exact Option.some.inj (hrows.symm.trans hrows')

end Csv

/-! ## Containers -/

namespace Parquet

open Batch

variable {container : Container} {content : Bytes} {o o' : Options}

/-- No row is taken exactly if the batch size is zero. -/
theorem takesNoRow_iff (ho : Options.ofFormatOptions options = .ok o) :
    (TableFormat.columnar container).TakesNoRow options ↔ o.batchSize = some 0 := by
  simp only [Options.ofFormatOptions, bind_eq_ok_iff] at ho
  obtain ⟨_, -, size, hsize, ho⟩ := ho
  cases ho
  unfold TableFormat.TakesNoRow
  rw [show (TableFormat.columnar container).name = formatName from rfl, hsize, Except.ok.injEq]

/-- The rows that are decoded have the fields of the table. -/
theorem fields_decodedRows (options : Options) (b : Batch) :
    (decodedRows options b).fields = b.fields := by
  by_cases h : options.batchSize = some 0
  · rw [decodedRows_zero h, fields_ofFields]
  · rw [decodedRows_eq h]

/-- A projection takes the fields of the columns along. -/
theorem project_ofFields {source : String} (h : schema.project source b = .ok b') :
    schema.project source (ofFields b.fields) = .ok (ofFields b'.fields) := by
  cases hfields : schema.hasFields with
  | false =>
    rw [TableSchema.project_of_no_fields hfields] at h ⊢
    rw [Except.ok.inj h]
  | true =>
    rw [TableSchema.project_eq_ok_iff_of_fields hfields] at h ⊢
    have hcolumns : ∀ t : Batch,
        (ofFields t.fields).columns = t.columns.map fun c => ⟨c.field, []⟩ :=
      fun t => List.map_map
    unfold Picks at h ⊢
    rw [hcolumns b', List.forall₂_map_right_iff]
    refine h.imp fun name c hc => ?_
    rw [column?, hcolumns b, List.find?_map]
    exact congrArg (Option.map _) hc

/-- Columns are taken out of a container before their rows are decoded in portions. -/
theorem selected_of_decode (ho : Options.ofFormatOptions options = .ok o)
    (h : decode container content schema options = .ok b) :
    ∃ table selected, container.read? content = some table ∧
      selectColumns table schema = .ok selected ∧
      schema.project "table" (decodedRows o selected) = .ok b := by
  cases hread : container.read? content with
  | none => simp [decode, ho, hread, bind, Except.bind] at h
  | some table =>
    rw [decode_eq hread ho, bind_eq_ok_iff] at h
    obtain ⟨selected, hselect, hproject⟩ := h
    exact ⟨table, selected, rfl, hselect, hproject⟩

/-- No row is taken, and the fields are those of every other decode, or the size is of no matter. -/
theorem sizes_of_decode (ho : Options.ofFormatOptions options = .ok o)
    (ho' : Options.ofFormatOptions options' = .ok o')
    (h : decode container content schema options = .ok b)
    (h' : decode container content schema options' = .ok b') :
    (o.batchSize = some 0 → b = .ofFields b'.fields) ∧
    (o.batchSize ≠ some 0 → o'.batchSize ≠ some 0 → b = b') := by
  obtain ⟨table, selected, hread, hselect, hproject⟩ := selected_of_decode ho h
  obtain ⟨table', selected', hread', hselect', hproject'⟩ := selected_of_decode ho' h'
  obtain rfl : table = table' := Option.some.inj (hread.symm.trans hread')
  obtain rfl : selected = selected' := Except.ok.inj (hselect.symm.trans hselect')
  refine ⟨fun hsize => ?_, fun hsize hsize' => ?_⟩
  · have hfields := project_ofFields hproject'
    rw [fields_decodedRows, ← decodedRows_zero hsize, hproject] at hfields
    exact Except.ok.inj hfields
  · rw [decodedRows_eq hsize] at hproject
    rw [decodedRows_eq hsize', hproject] at hproject'
    exact Except.ok.inj hproject'

/-- What is decoded from a container, and not in portions of no row, are its columns. -/
theorem picks_of_decode (ho : Options.ofFormatOptions options = .ok o)
    (hbatch : o.batchSize ≠ some 0) (h : decode container content schema options = .ok b) :
    ∃ table, container.read? content = some table ∧ (schema.fields = [] → b = table) ∧
      (schema.fields ≠ [] → table.Picks schema.names b) := by
  obtain ⟨table, -, hread, -, -⟩ := selected_of_decode ho h
  refine ⟨table, hread, fun hnil => ?_, fun hfields => ?_⟩
  · have hnone : schema.hasFields = false := by simp [TableSchema.hasFields, hnil]
    rw [decode_of_no_fields hread ho hbatch hnone] at h
    exact (Except.ok.inj h).symm
  · exact (decode_eq_ok_iff_of_fields hread ho hbatch
      (TableSchema.hasFields_iff.2 hfields)).1 h

end Parquet

/-! ## Both formats -/

namespace TableFormat

variable {container : Parquet.Container} {f : TableFormat} {source : TableSource}

/-- Nothing is decoded from what cannot be read. -/
theorem content_of_decode (hf : f = .csv ∨ f = .columnar container)
    (h : f.decode source schema options = .ok b) : ∃ content, source = .content content := by
  cases source with
  | content content => exact ⟨content, rfl⟩
  | unreadable =>
    rcases hf with rfl | rfl
    · obtain ⟨o, -, h⟩ := bind_eq_ok_iff.1 h
      cases h
    · obtain ⟨o, -, h⟩ := bind_eq_ok_iff.1 h
      cases h

/-- What is decoded in portions of no row has the fields of what is decoded otherwise, and no row;
sizes other than zero make no difference. -/
theorem sizes_of_decode (hf : f = .csv ∨ f = .columnar container) (hsame : SameButSize options options')
    (h : f.decode source schema options = .ok b) (h' : f.decode source schema options' = .ok b') :
    (f.TakesNoRow options → b = .ofFields b'.fields) ∧
    (¬ f.TakesNoRow options → ¬ f.TakesNoRow options' → b = b') := by
  obtain ⟨content, rfl⟩ := content_of_decode hf h
  rcases hf with rfl | rfl
  · obtain ⟨o, ho, -⟩ := bind_eq_ok_iff.1 h
    obtain ⟨o', ho', -⟩ := bind_eq_ok_iff.1 h'
    rw [Csv.takesNoRow_iff ho, Csv.takesNoRow_iff ho']
    exact Csv.sizes_of_decode hsame ho ho' h h'
  · obtain ⟨o, ho, -⟩ := bind_eq_ok_iff.1 h
    obtain ⟨o', ho', -⟩ := bind_eq_ok_iff.1 h'
    rw [Parquet.takesNoRow_iff ho, Parquet.takesNoRow_iff ho']
    exact Parquet.sizes_of_decode ho ho' h h'

/-- Unless no row is decoded at a time, all rows are decoded in their order. -/
theorem holdsRows_of_decode (hf : f = .csv ∨ f = .columnar container)
    (h : f.decode source schema options = .ok b) (hsome : ¬ f.TakesNoRow options) :
    f.HoldsRows source schema options b := by
  obtain ⟨content, rfl⟩ := content_of_decode hf h
  rcases hf with rfl | rfl
  · obtain ⟨o, ho, -⟩ := bind_eq_ok_iff.1 h
    rw [Csv.takesNoRow_iff ho] at hsome
    exact .csv ho (Csv.holdsRows_of_decode ho hsome h)
  · obtain ⟨o, ho, -⟩ := bind_eq_ok_iff.1 h
    rw [Parquet.takesNoRow_iff ho] at hsome
    obtain ⟨table, hread, hall, hpicks⟩ := Parquet.picks_of_decode ho hsome h
    exact .columnar hread hall hpicks

/-- Two decodes that differ in the size of a portion only give the same table exactly if both take
no row at a time, or neither does, or there is no cell to take; and unless no row is taken, a decode
gives all rows in the order of the source. -/
theorem decode_eq_iff (hf : f = .csv ∨ f = .columnar container) (hsame : SameButSize options options')
    (h : f.decode source schema options = .ok b) (h' : f.decode source schema options' = .ok b') :
    (b = b' ↔ (f.TakesNoRow options ↔ f.TakesNoRow options') ∨ b.height = 0 ∧ b'.height = 0) ∧
    (¬ f.TakesNoRow options → f.HoldsRows source schema options b) := by
  refine ⟨?_, holdsRows_of_decode hf h⟩
  obtain ⟨hnone, hsome⟩ := sizes_of_decode hf hsame h h'
  obtain ⟨hnone', -⟩ := sizes_of_decode hf hsame.symm h' h
  by_cases ht : f.TakesNoRow options
  · obtain rfl := hnone ht
    have hequal : Batch.ofFields b'.fields = b' ↔ b'.height = 0 := Batch.ofFields_fields_eq_iff
    by_cases ht' : f.TakesNoRow options'
    · refine iff_of_true ?_ (.inl (iff_of_true ht ht'))
      rw [hnone' ht', Batch.fields_ofFields, Batch.fields_ofFields]
    · simp [ht, ht', hequal]
  · by_cases ht' : f.TakesNoRow options'
    · obtain rfl := hnone' ht'
      have hequal : b = Batch.ofFields b.fields ↔ b.height = 0 :=
        eq_comm.trans Batch.ofFields_fields_eq_iff
      simp [ht, ht', hequal]
    · exact iff_of_true (hsome ht ht') (.inl (iff_of_false ht ht'))

/-- Three rows, two at a time or as many as there are. -/
theorem decode_eq_pairs :
    ∃ b,
      csv.decode (.content [110, 10, 49, 10, 50, 10, 51, 10]) {} ⟨[("batch_size", "2")]⟩ = .ok b ∧
      csv.decode (.content [110, 10, 49, 10, 50, 10, 51, 10]) {} .empty = .ok b ∧
      csv.HoldsRows (.content [110, 10, 49, 10, 50, 10, 51, 10]) {} ⟨[("batch_size", "2")]⟩ b := by
  have hsame : SameButSize ⟨[("batch_size", "2")]⟩ .empty := by
    intro key hkey
    simp [Dictionary.get?, Dictionary.find?, Dictionary.empty, Ne.symm hkey]
  have h : csv.decode (.content [110, 10, 49, 10, 50, 10, 51, 10]) {} ⟨[("batch_size", "2")]⟩ =
      .ok ⟨[⟨⟨"n", .integer .int64, true⟩, [.integer 1, .integer 2, .integer 3]⟩]⟩ := rfl
  have h' : csv.decode (.content [110, 10, 49, 10, 50, 10, 51, 10]) {} .empty =
      .ok ⟨[⟨⟨"n", .integer .int64, true⟩, [.integer 1, .integer 2, .integer 3]⟩]⟩ := rfl
  have hsome : ¬ csv.TakesNoRow ⟨[("batch_size", "2")]⟩ := by
    rw [Csv.takesNoRow_iff (o := { batchSize := 2 }) rfl]
    decide
  have hsome' : ¬ csv.TakesNoRow .empty := by
    rw [Csv.takesNoRow_iff (o := {}) rfl]
    decide
  have hformat : csv = .csv ∨ csv = .columnar .tagged := .inl rfl
  obtain ⟨heq, hrows⟩ := decode_eq_iff hformat hsame h h'
  have hequal := heq.2 (.inl (iff_of_false hsome hsome'))
  exact ⟨_, h, hequal ▸ h', hrows hsome⟩

/-- No row at a time: the row of the text is not read, though the size is accepted. -/
theorem decode_ne_no_row :
    ¬ ∀ source schema options options', SameButSize options options' → ∀ b b',
      csv.decode source schema options = .ok b → csv.decode source schema options' = .ok b' →
        b = b' := by
  intro hall
  have hsame : SameButSize ⟨[("batch_size", "0")]⟩ .empty := by
    intro key hkey
    simp [Dictionary.get?, Dictionary.find?, Dictionary.empty, Ne.symm hkey]
  have h : csv.decode (.content [105, 100, 10, 49, 10]) {} ⟨[("batch_size", "0")]⟩ =
      .ok ⟨[⟨⟨"id", .integer .int64, true⟩, []⟩]⟩ := rfl
  have h' : csv.decode (.content [105, 100, 10, 49, 10]) {} .empty =
      .ok ⟨[⟨⟨"id", .integer .int64, true⟩, [.integer 1]⟩]⟩ := rfl
  have heq := hall _ _ _ _ hsame _ _ h h'
  cases heq

end TableFormat

end RootedStorage
