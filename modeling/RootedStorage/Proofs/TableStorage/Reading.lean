import RootedStorage.Proofs.Csv.Splitting
import RootedStorage.Proofs.FileStorage.ReadSide
import RootedStorage.TableStorage

/-!
# The two routes of a table read

A table is read through file storage or straight below the root.  Both routes look up the same entry,
and file storage then refuses what is no text if the format is text (`streamSource_eq`).  The codec
refuses it too, since it decodes every field, unless a quote stands inside a character:
`ReadsSplit` is the one way in which the routes differ.
-/

namespace RootedStorage

/-- Two reads give the same table or both give none. -/
def SameBatch (a b : Outcome Batch) : Prop := ∀ t, a = .ok t ↔ b = .ok t

theorem SameBatch.refl (a : Outcome Batch) : SameBatch a a := fun _ => Iff.rfl

theorem sameBatch_errors (e e' : StorageError) : SameBatch (.error e) (.error e') := by
  intro t
  constructor <;> intro h <;> cases h

/-- A read differs from one that fails if it gives a table. -/
theorem sameBatch_error_iff {a : Outcome Batch} {e : StorageError} :
    SameBatch a (.error e) ↔ ¬ ∃ t, a = .ok t := by
  constructor
  · rintro h ⟨t, ht⟩
    cases (h t).1 ht
  · intro h t
    exact ⟨fun ht => absurd ⟨t, ht⟩ h, fun ht => by cases ht⟩

/-! ## The sources -/

namespace TableStorage

/-- What file storage hands on of a source to a codec of the format. -/
def passed (f : TableFormat) (path : String) : TableSource → Outcome TableSource
  | .content bytes =>
    if f.isBinary || Utf8.isValid bytes then .ok (.content bytes)
    else .error (.access (.invalidText path))
  | .unreadable => .error (.access (.io path))

/-- Content that is decoded and encoded again is handed on as it was. -/
theorem passed_content (f : TableFormat) (path : String) (c : Bytes) :
    passed f path (.content c) =
      if f.isBinary then .ok (.content c)
      else (decodeText c path).map fun text => TableSource.content (Utf8.encode text) := by
  cases hbinary : f.isBinary with
  | true => simp [passed, hbinary]
  | false =>
    cases h : Utf8.decode? c with
    | none => simp [passed, hbinary, decodeText, Utf8.isValid, h, Except.map]
    | some text =>
      have hc := Utf8.eq_encode_of_decode? h
      simp [passed, hbinary, decodeText, Utf8.isValid, h, Except.map, ← hc]

section
variable {root : Location} {d : Disk}

theorem pushdownSource_eq (root : Location) (path : String) (d : Disk) :
    pushdownSource root path d = ((FileStorage.mk root).entryAt path d).map sourceOf := by
  unfold pushdownSource FileStorage.entryAt FileStorage.location
  cases Path.segments path with
  | error e => rfl
  | ok names =>
    show (FileStorage.asked path (d.lookup (root ++ names)) >>= fun e => .ok (sourceOf e)) =
      (FileStorage.asked path (d.lookup (root ++ names))).map sourceOf
    cases FileStorage.asked path (d.lookup (root ++ names)) with
    | error e => rfl
    | ok e => rfl

/-- The route through file storage finds the same source and checks it. -/
theorem streamSource_eq (hd : d.WellFormed) (hroot : d.find? root = some .directory)
    {t : TableStorage} (ht : t.files.root = root) (f : TableFormat) (path : String) :
    t.streamSource f path d =
      (t.files.entryAt path d).bind fun e => passed f path (sourceOf e) := by
  subst ht
  unfold streamSource
  rw [FileStorage.readText_eq, FileStorage.readBytes_eq hd hroot]
  cases t.files.entryAt path d with
  | error e => cases f.isBinary <;> rfl
  | ok e =>
    cases e with
    | directory => cases f.isBinary <;> rfl
    | file stamp c => exact (passed_content f path c).symm
    | pipe => exact (passed_content f path []).symm
    | link target => exact (passed_content f path []).symm

/-! ## The law -/

/-- The path leads to a file that is no text, since a quote or an escape stands inside a character,
and the format reads a table from it all the same. -/
def ReadsSplit (container : Parquet.Container) (root : Location) (schema : TableSchema)
    (path format : String) (options : FormatOptions) (d : Disk) : Prop :=
  (FormatRegistry.standard container).get format = .ok .csv ∧ ∃ stamp content o,
    (FileStorage.mk root).entryAt path d = .ok (.file stamp content) ∧
    Utf8.isValid content = false ∧ Csv.Options.ofFormatOptions options = .ok o ∧
    o.dialect.Splits content ∧ ∃ t, Csv.decode content schema options = .ok t

variable {container : Parquet.Container}

/-- No format reads what cannot be read. -/
theorem exists_decode_unreadable_error {f : TableFormat} {format : String}
    (hf : (FormatRegistry.standard container).get format = .ok f) (schema : TableSchema)
    (options : FormatOptions) : ∃ e, f.decode .unreadable schema options = .error e := by
  rcases FormatRegistry.eq_of_standard_get hf with rfl | rfl
  · cases ho : Csv.Options.ofFormatOptions options <;>
      simp [TableFormat.csv, ho, bind, Except.bind]
  · cases ho : Parquet.Options.ofFormatOptions options <;>
      simp [TableFormat.columnar, ho, bind, Except.bind]

/-- Tables as text are read from content that is no text only if a quote splits a character. -/
theorem splits_of_decode {content : Bytes} {schema : TableSchema} {options : FormatOptions}
    (hrows : options.get? "infer_rows" = none) (hcontent : Utf8.isValid content = false) {t : Batch}
    (h : Csv.decode content schema options = .ok t) :
    ∃ o, Csv.Options.ofFormatOptions options = .ok o ∧ o.dialect.Splits content := by
  obtain ⟨o, ho, -⟩ := bind_eq_ok_iff.1 h
  refine ⟨o, ho, ?_⟩
  by_contra hsplit
  have hinfer : o.inferRows = none := by
    simp only [Csv.Options.ofFormatOptions, bind_eq_ok_iff] at ho
    obtain ⟨_, -, _, -, _, -, _, -, _, -, inferRows, hread, heq⟩ := ho
    cases heq
    simp only [OptionValue.readSize, OptionValue.read, hrows] at hread
    exact (Except.ok.inj hread).symm
  rw [Csv.isValid_of_decode ho hinfer hsplit h] at hcontent
  cases hcontent

/-- The check makes a difference for content that is no text and yet gives a table. -/
theorem sameBatch_decode_iff {f : TableFormat} {format : String}
    (hf : (FormatRegistry.standard container).get format = .ok f) (path : String) (source : TableSource)
    (schema : TableSchema) (options : FormatOptions) :
    SameBatch (f.decode source schema options)
      ((passed f path source).bind fun source => f.decode source schema options) ↔
      ¬ (f = .csv ∧ ∃ content, source = .content content ∧ Utf8.isValid content = false ∧
        ∃ t, Csv.decode content schema options = .ok t) := by
  cases source with
  | unreadable =>
    obtain ⟨e, he⟩ := exists_decode_unreadable_error hf schema options
    rw [he]
    exact iff_of_true (sameBatch_errors e _) (by simp)
  | content content =>
    rcases FormatRegistry.eq_of_standard_get hf with rfl | rfl
    · cases hvalid : Utf8.isValid content with
      | true =>
        have hpassed : passed .csv path (.content content) = .ok (.content content) := by
          simp [passed, hvalid]
        rw [hpassed]
        exact iff_of_true (SameBatch.refl _) (by simp [hvalid])
      | false =>
        have hpassed : passed .csv path (.content content) =
            .error (.access (.invalidText path)) := by
          simp [passed, hvalid, TableFormat.csv]
        rw [hpassed]
        refine sameBatch_error_iff.trans (not_congr ?_)
        constructor
        · exact fun h => ⟨rfl, content, rfl, hvalid, h⟩
        · rintro ⟨-, content', hcontent, -, h⟩
          obtain rfl := TableSource.content.inj hcontent
          exact h
    · refine iff_of_true (SameBatch.refl _) ?_
      rintro ⟨hcsv, -⟩
      have hname : Parquet.formatName = Csv.formatName := congrArg TableFormat.name hcsv
      exact absurd hname (by decide)

/-- With any container for columnar files, a table is read below the root and through file storage with
the same result, if all rows decide the types, unless the content is no text because a quote or an
escape stands inside a character. -/
theorem sameBatch_readTable_iff (container : Parquet.Container) (hd : d.WellFormed)
    (hroot : d.find? root = some .directory)
    (schema : TableSchema) (path format : String) {options : FormatOptions}
    (hrows : options.get? "infer_rows" = none) :
    SameBatch
      ((TableStorage.mk ⟨root⟩ (.standard container) (some root)).readTable schema path format options
        d)
      ((TableStorage.mk ⟨root⟩ (.standard container) none).readTable schema path format options d) ↔
      ¬ ReadsSplit container root schema path format options d := by
  have hstream := fun f => streamSource_eq hd hroot (t := ⟨⟨root⟩, .standard container, none⟩) rfl f path
  unfold readTable ReadsSplit
  cases hformat : (FormatRegistry.standard container).get format with
  | error e =>
    refine iff_of_true (sameBatch_errors e e) ?_
    rintro ⟨hf, -⟩
    cases hf
  | ok f =>
    show SameBatch (pushdownSource root path d >>= fun source => f.decode source schema options)
      (streamSource ⟨⟨root⟩, .standard container, none⟩ f path d >>=
        fun source => f.decode source schema options) ↔ _
    rw [hstream, pushdownSource_eq]
    cases hentry : (FileStorage.mk root).entryAt path d with
    | error e =>
      refine iff_of_true (sameBatch_errors e e) ?_
      rintro ⟨-, stamp, content, o, hx, -⟩
      cases hx
    | ok e =>
      refine (sameBatch_decode_iff hformat path (sourceOf e) schema options).trans (not_congr ?_)
      constructor
      · rintro ⟨rfl, content, hsource, hvalid, t, ht⟩
        obtain ⟨o, ho, hsplit⟩ := splits_of_decode hrows hvalid ht
        cases e with
        | directory => cases hsource
        | file stamp c =>
          cases hsource
          exact ⟨rfl, stamp, _, o, rfl, hvalid, ho, hsplit, t, ht⟩
        | pipe =>
          cases hsource
          rw [Utf8.isValid_nil] at hvalid
          cases hvalid
        | link target =>
          cases hsource
          rw [Utf8.isValid_nil] at hvalid
          cases hvalid
      · rintro ⟨hf, stamp, content, o, hx, hvalid, -, -, ht⟩
        obtain rfl := Except.ok.inj hf
        obtain rfl := Except.ok.inj hx
        exact ⟨rfl, content, rfl, hvalid, ht⟩

end

/-- Content that is no text, with no quote in it, is refused on both routes. -/
theorem sameBatch_readTable_invalid :
    SameBatch
      ((TableStorage.mk ⟨["r"]⟩ .builtin (some ["r"])).readTable {} "t" "csv" .empty
        ((Disk.single "r").putFile ["r", "t"] [97, 10, 255, 10]))
      ((TableStorage.mk ⟨["r"]⟩ .builtin none).readTable {} "t" "csv" .empty
        ((Disk.single "r").putFile ["r", "t"] [97, 10, 255, 10])) := by
  have hsingle : (Disk.single "r").WellFormed := Disk.wellFormed_single (by decide)
  have hdirectory : (Disk.single "r").find? ["r"] = some .directory := by simp [Disk.find?_single]
  have hd : ((Disk.single "r").putFile ["r", "t"] [97, 10, 255, 10]).WellFormed :=
    hsingle.putFile hdirectory (by decide) (by simp [Disk.find?_single]) _
  have hroot : ((Disk.single "r").putFile ["r", "t"] [97, 10, 255, 10]).find? ["r"] =
      some .directory := by
    rw [Disk.find?_putFile _ _ _ _ (by simp)]
    simp [Disk.find?_single]
  refine (sameBatch_readTable_iff .tagged hd hroot {} "t" "csv" rfl).2 ?_
  rintro ⟨-, stamp, content, o, hentry, -, -, -, t, ht⟩
  have hfile : (FileStorage.mk ["r"]).entryAt "t"
      ((Disk.single "r").putFile ["r", "t"] [97, 10, 255, 10]) = .ok (.file 0 [97, 10, 255, 10]) := rfl
  rw [hfile] at hentry
  cases hentry
  have hdecode : Csv.decode [97, 10, 255, 10] {} .empty = .error (.access .inferLayout) := rfl
  rw [hdecode] at ht
  cases ht

/-- A closing quote between the two octets of a character: the codec puts them together again, and
file storage refuses them. -/
theorem not_sameBatch_readTable_split :
    ¬ SameBatch
      ((TableStorage.mk ⟨["r"]⟩ .builtin (some ["r"])).readTable {} "t" "csv" .empty
        ((Disk.single "r").putFile ["r", "t"] [97, 10, 34, 195, 34, 169, 10]))
      ((TableStorage.mk ⟨["r"]⟩ .builtin none).readTable {} "t" "csv" .empty
        ((Disk.single "r").putFile ["r", "t"] [97, 10, 34, 195, 34, 169, 10])) := by
  intro h
  have hdirect : (TableStorage.mk ⟨["r"]⟩ .builtin (some ["r"])).readTable {} "t" "csv" .empty
      ((Disk.single "r").putFile ["r", "t"] [97, 10, 34, 195, 34, 169, 10]) =
        .ok ⟨[⟨⟨"a", .text, true⟩, [.text "é"]⟩]⟩ := rfl
  have hstream : (TableStorage.mk ⟨["r"]⟩ .builtin none).readTable {} "t" "csv" .empty
      ((Disk.single "r").putFile ["r", "t"] [97, 10, 34, 195, 34, 169, 10]) =
        .error (.access (.invalidText "t")) := rfl
  have hsame := (h _).1 hdirect
  rw [hstream] at hsame
  cases hsame

end TableStorage

end RootedStorage
