import RootedStorage.Proofs.Csv.Encoding
import RootedStorage.Proofs.FileStorage.ReadSide
import RootedStorage.Proofs.Session.AllOrNothing

/-!
# A written table is one text on either route

Table storage refuses content of a text format that is not UTF-8 on the route through file storage,
and does not look at it on the route below the root.  The CSV format writes UTF-8 for every table, schema
and dictionary of options that it writes at all (`Csv.isValid_of_encode`).  So the check refuses nothing,
the two routes write the same octets, and the file that either of them leaves holds one text
(`TableStorage.writesText`).
-/

namespace RootedStorage

/-! ## Outcomes that refuse no text -/

/-- The outcome is not the error that encoded content is no text. -/
def RefusesNoText {α : Type} (result : Outcome α) : Prop :=
  ∀ name, result ≠ .error (.access (.encodedText name))

section
variable {α β : Type}

/-- A result is no refusal. -/
theorem refusesNoText_ok (a : α) : RefusesNoText (.ok a) := by
  intro name h
  cases h

/-- Any other error is no refusal of a text. -/
theorem refusesNoText_error {e : StorageError} (h : ∀ name, e ≠ .access (.encodedText name)) :
    RefusesNoText (.error e : Outcome α) := by
  intro name heq
  exact h name (Except.error.inj heq)

/-- What an error says does not depend on what was asked for. -/
theorem RefusesNoText.error {e : StorageError} (h : RefusesNoText (.error e : Outcome α)) :
    RefusesNoText (.error e : Outcome β) := by
  apply refusesNoText_error
  rintro name rfl
  exact h name rfl

/-- Steps that refuse no text do not refuse one together. -/
theorem RefusesNoText.bind {x : Outcome α} {f : α → Outcome β} (hx : RefusesNoText x)
    (hf : ∀ a, x = .ok a → RefusesNoText (f a)) : RefusesNoText (x >>= f) := by
  cases x with
  | error e => exact hx.error
  | ok a => exact hf a rfl

/-- A step that refuses no text refuses none for each element of a list. -/
theorem refusesNoText_mapM {f : α → Outcome β} (h : ∀ a, RefusesNoText (f a)) (l : List α) :
    RefusesNoText (l.mapM f) := by
  induction l with
  | nil => exact refusesNoText_ok _
  | cons a l ih =>
    rw [List.mapM_cons]
    exact (h a).bind fun _ _ => ih.bind fun _ _ => refusesNoText_ok _

end

/-! ## The codec -/

/-- Reading an option refuses no text of a table. -/
theorem OptionValue.refusesNoText_read {α : Type} (options : FormatOptions) (format key : String)
    (rule : OptionRule) (grammar : String → Option α) :
    RefusesNoText (read options format key rule grammar) := by
  unfold read
  split
  · exact refusesNoText_ok _
  · split
    · exact refusesNoText_ok _
    · exact refusesNoText_error (by simp)

/-- Reading a flag refuses no text of a table. -/
theorem OptionValue.refusesNoText_readBoolean (options : FormatOptions) (format key : String) :
    RefusesNoText (readBoolean options format key) := by
  unfold readBoolean
  split
  · exact refusesNoText_ok _
  · next raw _ =>
    dsimp only
    cases boolean? (String.ofList (Text.asciiLower (Text.trim raw.toList))) with
    | some value => exact refusesNoText_ok _
    | none => exact refusesNoText_error (by simp)

/-- Projecting a table refuses no text. -/
theorem TableSchema.refusesNoText_project (schema : TableSchema) (source : String) (b : Batch) :
    RefusesNoText (schema.project source b) := by
  unfold project
  split
  · rw [map_eq_pure_bind]
    refine (refusesNoText_mapM (fun name => ?_) schema.names).bind fun _ _ => refusesNoText_ok _
    cases b.column? name with
    | some c => exact refusesNoText_ok c
    | none => exact refusesNoText_error (by simp)
  · exact refusesNoText_ok _

namespace Csv

/-- Reading the options of the format refuses no text of a table. -/
theorem refusesNoText_ofFormatOptions (options : FormatOptions) :
    RefusesNoText (Options.ofFormatOptions options) :=
  (OptionValue.refusesNoText_read _ _ _ _ _).bind fun _ _ =>
    (OptionValue.refusesNoText_readBoolean _ _ _).bind fun _ _ =>
      (OptionValue.refusesNoText_read _ _ _ _ _).bind fun _ _ =>
        (OptionValue.refusesNoText_read _ _ _ _ _).bind fun _ _ =>
          (OptionValue.refusesNoText_read _ _ _ _ _).bind fun _ _ =>
            (OptionValue.refusesNoText_read _ _ _ _ _).bind fun _ _ => refusesNoText_ok _

/-- Encoding a table as CSV refuses no text, as its octets are always text. -/
theorem refusesNoText_encode (schema : TableSchema) (b : Batch) (options : FormatOptions) :
    RefusesNoText (encode schema b options) := by
  refine (refusesNoText_ofFormatOptions options).bind fun o _ =>
    (schema.refusesNoText_project _ b).bind fun selected _ => ?_
  split
  · exact refusesNoText_error (by simp)
  · split
    · exact refusesNoText_error (by simp)
    · exact refusesNoText_ok _

end Csv

/-! ## The two routes -/

/-- Splitting a path refuses no text of a table. -/
theorem Path.refusesNoText_segments (path : String) : RefusesNoText (segments path) := by
  unfold segments
  split
  · exact refusesNoText_ok _
  · exact refusesNoText_error (by simp)

/-- What opening a file answers is no refusal of a text. -/
theorem FileStorage.refusesNoText_opened (path : String) (d : Disk)
    (result : Except DiskFault (Nat × Disk)) : RefusesNoText (opened path d result).1 := by
  cases result with
  | ok new => exact refusesNoText_ok _
  | error fault => cases fault <;> exact refusesNoText_error (by simp [StorageError.ofFault])

/-- Opening a file to write refuses no text. -/
theorem FileStorage.refusesNoText_openWrite (s : FileStorage) (path : String) (overwrite : Bool)
    (d : Disk) : RefusesNoText (s.openWrite path overwrite d).1 := by
  have hsegments := Path.refusesNoText_segments path
  unfold openWrite location
  cases hpath : Path.segments path with
  | error e =>
    rw [hpath] at hsegments
    exact hsegments.error
  | ok names => exact refusesNoText_opened path d _

/-- Writing content refuses no text. -/
theorem FileStorage.refusesNoText_writeBytes (s : FileStorage) (path : String) (data : Bytes)
    (overwrite : Bool) (d : Disk) : RefusesNoText (s.writeBytes path data overwrite d).1 := by
  have hopen := s.refusesNoText_openWrite path overwrite d
  unfold writeBytes
  split
  · exact refusesNoText_ok _
  · next e d' hopened =>
    rw [hopened] at hopen
    exact hopen.error

namespace TableStorage

section
variable {content : Outcome Bytes} (h : RefusesNoText content)
include h

/-- Creating a file for content refuses no text that encoding the content does not refuse. -/
theorem refusesNoText_createEncoded (l : Location) (path : String) (d : Disk) :
    RefusesNoText (createEncoded l path content d).1 := by
  have hopen := FileStorage.refusesNoText_opened path d (d.openWrite false l)
  unfold createEncoded
  split
  · next e d' hopened =>
    rw [hopened] at hopen
    exact hopen.error
  · split
    · exact refusesNoText_ok _
    · exact h.error

/-- Replacing a file by content refuses no text that encoding the content does not refuse. -/
theorem refusesNoText_replaceEncoded (l : Location) (path : String) (d : Disk) :
    RefusesNoText (replaceEncoded l path content d).1 := by
  have hopen := FileStorage.refusesNoText_opened path d (d.openWrite true (temporarySibling l))
  unfold replaceEncoded
  dsimp only
  split
  · next e d' hopened =>
    rw [hopened] at hopen
    exact hopen.error
  · split
    · exact h.error
    · split
      · exact refusesNoText_ok _
      · exact refusesNoText_error (by simp)

/-- A write below a root refuses no text that encoding the content does not refuse. -/
theorem refusesNoText_pushdownWrite (root : Location) (path : String) (overwrite : Bool) (d : Disk) :
    RefusesNoText (pushdownWrite root path content overwrite d).1 := by
  have hsegments := Path.refusesNoText_segments path
  unfold pushdownWrite
  split
  · exact refusesNoText_error (by simp)
  · split
    · next e hpath =>
      rw [hpath] at hsegments
      exact hsegments.error
    · split
      · exact refusesNoText_replaceEncoded h _ path d
      · exact refusesNoText_createEncoded h _ path d

/-- The one check for text is passed by content that is text. -/
theorem refusesNoText_streamWrite (t : TableStorage) (format : TableFormat) (path : String)
    (hvalid : ∀ data, content = .ok data → Utf8.isValid data = true) (overwrite : Bool) (d : Disk) :
    RefusesNoText (t.streamWrite format path content overwrite d).1 := by
  cases content with
  | error e => exact h.error
  | ok data =>
    rw [streamWrite_ok t (Or.inr (hvalid data rfl))]
    exact t.files.refusesNoText_writeBytes path data overwrite d

end

/-! ## One text -/

/-- Writing the table in the CSV format writes text.  The check for text refuses nothing; the same text
is written through file storage and below a root; and below a root without links it is the text that is
read in the file afterwards. -/
structure WritesText (t : TableStorage) (schema : TableSchema) (b : Batch) (path format : String)
    (options : FormatOptions) (overwrite : Bool) (d : Disk) : Prop where
  isValid : ∀ data, Csv.encode schema b options = .ok data → Utf8.isValid data = true
  refusesNoText : RefusesNoText (t.writeTable schema b path format options overwrite d).1
  same : ∀ data, Csv.encode schema b options = .ok data → ∃ text, data = Utf8.encode text ∧
    t.writeTable schema b path format options overwrite d =
      match t.pushdownRoot with
      | none => t.files.writeText path text overwrite d
      | some root => pushdownWrite root path (.ok (Utf8.encode text)) overwrite d
  left : ∀ root, t.HasRoot root → d.WellFormed → d.LinkFreeBelow root →
    (t.writeTable schema b path format options overwrite d).1 = .ok () →
      ∃ text, Csv.encode schema b options = .ok (Utf8.encode text) ∧
        (FileStorage.mk root).readText path
          (t.writeTable schema b path format options overwrite d).2 = .ok text

/-- The text of a table, if it has one. -/
theorem exists_text_of_encode {schema : TableSchema} {b : Batch} {options : FormatOptions}
    {data : Bytes} (h : Csv.encode schema b options = .ok data) : ∃ text, data = Utf8.encode text :=
  Utf8.isValid_iff.1 (Csv.isValid_of_encode h)

/-- In whatever storage, a table is written in the CSV format as text. -/
theorem writesText {t : TableStorage} {format : String} (hformat : t.formats.get format = .ok .csv)
    (schema : TableSchema) (b : Batch) (path : String) (options : FormatOptions) (overwrite : Bool)
    (d : Disk) : WritesText t schema b path format options overwrite d := by
  have hvalid : ∀ data, Csv.encode schema b options = .ok data → Utf8.isValid data = true :=
    fun data => Csv.isValid_of_encode
  have hcodec := Csv.refusesNoText_encode schema b options
  have hwrite : t.writeTable schema b path format options overwrite d =
      match t.pushdownRoot with
      | none => t.streamWrite .csv path (Csv.encode schema b options) overwrite d
      | some root => pushdownWrite root path (Csv.encode schema b options) overwrite d := by
    unfold writeTable
    rw [hformat]
    cases t.pushdownRoot <;> rfl
  refine ⟨hvalid, ?_, fun data hdata => ?_, fun root hroot hd hlinks hok => ?_⟩
  · rw [hwrite]
    cases t.pushdownRoot with
    | none => exact refusesNoText_streamWrite hcodec t .csv path hvalid overwrite d
    | some root => exact refusesNoText_pushdownWrite hcodec root path overwrite d
  · obtain ⟨text, rfl⟩ := exists_text_of_encode hdata
    refine ⟨text, rfl, ?_⟩
    rw [hwrite, hdata]
    cases t.pushdownRoot with
    | none => exact streamWrite_ok t (Or.inr (Utf8.isValid_encode text)) path overwrite d
    | some root => rfl
  · obtain ⟨data, hdata, hread⟩ := (allOrNothing_of_linkFree hlinks hd hroot schema b path format
      options overwrite).all hok
    have hencode : Csv.encode schema b options = .ok data := by
      rw [encoded, hformat] at hdata
      exact hdata
    obtain ⟨text, rfl⟩ := exists_text_of_encode hencode
    refine ⟨text, hencode, ?_⟩
    rw [FileStorage.readText_eq, hread]
    exact FileStorage.decodeText_eq_ok_iff.2 rfl

/-- Characters of several octets stand between quotes and delimiters of the options. -/
theorem writesText_quoted :
    ∃ d : Disk, ((TableStorage.mk ⟨["r"]⟩ .builtin none).writeTable {}
      ⟨[⟨⟨"é", .text, true⟩, [.text "a'ß"]⟩, ⟨⟨"n", .integer .int8, true⟩, [.integer 7]⟩]⟩ "t" "csv"
      ⟨[("delimiter", "tab"), ("quote", "'")]⟩ false (Disk.single "r")) = (.ok (), d) ∧
        (FileStorage.mk ["r"]).readText "t" d = .ok "é\tn\n'a''ß'\t7\n" := by
  have hd : (Disk.single "r").WellFormed := Disk.wellFormed_single (by decide)
  have hformat : FormatRegistry.builtin.get "csv" = .ok .csv := rfl
  have hwritten := writesText (t := ⟨⟨["r"]⟩, .builtin, none⟩) hformat {}
    ⟨[⟨⟨"é", .text, true⟩, [.text "a'ß"]⟩, ⟨⟨"n", .integer .int8, true⟩, [.integer 7]⟩]⟩ "t"
    ⟨[("delimiter", "tab"), ("quote", "'")]⟩ false (Disk.single "r")
  obtain ⟨text, hencode, hread⟩ := hwritten.left ["r"] ⟨rfl, fun _ h => by cases h⟩ hd
    (Disk.linkFreeBelow_single "r") (by decide)
  obtain rfl : text = "é\tn\n'a''ß'\t7\n" := by
    apply Utf8.encode_injective
    exact Except.ok.inj (hencode.symm.trans (by decide))
  exact ⟨_, rfl, hread⟩

end TableStorage

end RootedStorage
