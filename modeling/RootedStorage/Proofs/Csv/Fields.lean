import RootedStorage.Proofs.Format.BatchSize

/-!
# The fields of a table that is decoded under a schema

Names and number of the fields are the declared ones, whatever the text holds (`fields_of_decode`).
Two things besides the schema have a say in the rest.  A table from a text without content may have
nulls where the schema allows them, and any other table everywhere; and behind a first record of names
all fields of one name have the type of the first of them.  So two tables have the same fields, each
of its own declared type, exactly if neither of the two makes a difference
(`fields_eq_declared_iff`).
-/

namespace RootedStorage

namespace TableSchema

variable {schema : TableSchema}

/-- The type of the first declared field of a given name. -/
def firstType (schema : TableSchema) (name : String) : ColumnType :=
  ((schema.field? name).map (·.type)).getD .text

/-- Declared fields of one name have one type. -/
def OneTypeEach (schema : TableSchema) : Prop :=
  ∀ f ∈ schema.fields, ∀ g ∈ schema.fields, f.name = g.name → f.type = g.type

/-- The first declared field of a field's name. -/
theorem exists_field?_of_mem {f : FieldDeclaration} (hf : f ∈ schema.fields) :
    ∃ g ∈ schema.fields, g.name = f.name ∧ schema.field? f.name = some g := by
  have hsome : (schema.field? f.name).isSome := List.find?_isSome.2 ⟨f, hf, by simp⟩
  obtain ⟨g, hg⟩ := Option.isSome_iff_exists.1 hsome
  exact ⟨g, List.mem_of_find?_eq_some hg, by simpa using List.find?_some hg, hg⟩

theorem firstType_eq_iff :
    (∀ f ∈ schema.fields, schema.firstType f.name = f.type) ↔ schema.OneTypeEach := by
  constructor
  · intro h f hf g hg hname
    rw [← h f hf, ← h g hg, hname]
  · intro h f hf
    obtain ⟨g, hg, hname, hfirst⟩ := exists_field?_of_mem hf
    rw [firstType, hfirst]
    exact h g hg f hf hname

end TableSchema

namespace Csv

variable {schema : TableSchema} {bytes bytes' : Bytes} {options options' : FormatOptions}
  {o o' : Options} {b b' : Batch}

/-- The field that a declared one has in a table from a text, given whether names stand in front and
whether the text has content. -/
def decodedField (schema : TableSchema) (header content : Bool) (f : FieldDeclaration) : Field where
  name := f.name
  type := if header && content then schema.firstType f.name else f.type
  nullable := content || f.nullable

/-- A plan has the fields of the schema. -/
theorem fields_of_readPlan (hfields : schema.fields ≠ []) {inferred : List Field} {header : Bool}
    {plan : ReadPlan} (h : readPlan inferred schema header = .ok plan) :
    plan.columns.map (·.1) = schema.fields.map (decodedField schema header true) := by
  have hsome : schema.hasFields = true := by simpa [TableSchema.hasFields] using hfields
  cases header with
  | false =>
    simp only [readPlan, hsome, Bool.not_true, Bool.not_false, Bool.false_eq_true, if_false,
      if_true] at h
    split at h
    · cases h
    · obtain rfl := Except.ok.inj h
      refine List.ext_getElem (by simp) fun i _ _ => ?_
      simp [decodedField]
  | true =>
    simp only [readPlan, hsome, Bool.not_true, Bool.false_eq_true, if_false] at h
    obtain ⟨columns, hcolumns, rfl⟩ := map_eq_ok_iff.1 h
    have hread := forall₂_of_mapM_eq_ok hcolumns
    rw [TableSchema.names, List.forall₂_map_left_iff] at hread
    symm
    rw [← List.forall₂_eq_eq_eq, List.forall₂_map_left_iff, List.forall₂_map_right_iff]
    refine hread.imp fun f column hcolumn => ?_
    split at hcolumn
    · next i declared _ hdeclared =>
      obtain rfl := Except.ok.inj hcolumn
      simp [decodedField, TableSchema.firstType, hdeclared]
    · cases hcolumn

/-- A table that is decoded has the declared fields in their order. -/
theorem fields_of_decode (hfields : schema.fields ≠ [])
    (ho : Options.ofFormatOptions options = .ok o) (h : decode bytes schema options = .ok b) :
    b.fields = schema.fields.map (decodedField schema o.header !bytes.isEmpty) := by
  simp only [decode, ho, bind, Except.bind] at h
  cases hempty : bytes.isEmpty with
  | true =>
    rw [hempty] at h
    obtain rfl := Except.ok.inj h
    rw [Batch.fields_ofFields, TableSchema.toFields]
    simp [decodedField]
  | false =>
    rw [hempty] at h
    obtain ⟨inferred, plan, -, hplan, hrows⟩ := plan_of_decodeWith h
    exact (fields_of_readPortions hrows).trans (fields_of_readPlan hfields hplan)

section
variable (hfields : schema.fields ≠ []) (ho : Options.ofFormatOptions options = .ok o)
  (h : decode bytes schema options = .ok b)
include hfields ho h

theorem names_of_decode : b.fields.map (·.name) = schema.names := by
  rw [fields_of_decode hfields ho h, List.map_map]
  rfl

/-- A table has its own declared types unless a name in front stands for two of them. -/
theorem types_of_decode_iff :
    b.fields.map (·.type) = schema.fields.map (·.type) ↔
      (o.header = true ∧ bytes ≠ [] → schema.OneTypeEach) := by
  have hcontent : (o.header && !bytes.isEmpty) = true ↔ o.header = true ∧ bytes ≠ [] := by simp
  rw [fields_of_decode hfields ho h, List.map_map, List.map_inj_left, ← hcontent,
    ← TableSchema.firstType_eq_iff]
  by_cases hnames : (o.header && !bytes.isEmpty) = true
  · simp [decodedField, hnames]
  · simp [decodedField, hnames]

/-- Two tables with the same types have the same fields if both texts have content, or none of the two
has any, or nulls are allowed everywhere. -/
theorem fields_eq_iff (ho' : Options.ofFormatOptions options' = .ok o')
    (h' : decode bytes' schema options' = .ok b') :
    b.fields = b'.fields ↔ b.fields.map (·.type) = b'.fields.map (·.type) ∧
      ((bytes = [] ↔ bytes' = []) ∨ ∀ f ∈ schema.fields, f.nullable = true) := by
  have hnullable : ((bytes = [] ↔ bytes' = []) ∨ ∀ f ∈ schema.fields, f.nullable = true) ↔
      ∀ f ∈ schema.fields, (!bytes.isEmpty || f.nullable) = (!bytes'.isEmpty || f.nullable) := by
    rw [← List.isEmpty_iff, ← List.isEmpty_iff]
    cases bytes.isEmpty with
    | true => cases bytes'.isEmpty <;> simp
    | false => cases bytes'.isEmpty <;> simp
  rw [hnullable, fields_of_decode hfields ho h, fields_of_decode hfields ho' h', List.map_map,
    List.map_map, List.map_inj_left, List.map_inj_left, ← forall₂_and]
  refine forall₂_congr fun f _ => ?_
  simp [decodedField]

end

/-- Two tables that are decoded under one schema have the declared names.  They have the same fields,
each of its own declared type, exactly if both texts have content or none of the two has any or nulls
are allowed everywhere, and no name that stands in front of a text is declared with two types. -/
theorem fields_eq_declared_iff (hfields : schema.fields ≠ [])
    (ho : Options.ofFormatOptions options = .ok o) (h : decode bytes schema options = .ok b)
    (ho' : Options.ofFormatOptions options' = .ok o') (h' : decode bytes' schema options' = .ok b') :
    (b.fields.map (·.name) = schema.names ∧ b'.fields.map (·.name) = schema.names) ∧
    (b.fields = b'.fields ∧ b.fields.map (·.type) = schema.fields.map (·.type) ↔
      ((bytes = [] ↔ bytes' = []) ∨ ∀ f ∈ schema.fields, f.nullable = true) ∧
      (o.header = true ∧ bytes ≠ [] ∨ o'.header = true ∧ bytes' ≠ [] → schema.OneTypeEach)) := by
  refine ⟨⟨names_of_decode hfields ho h, names_of_decode hfields ho' h'⟩, ?_⟩
  have htypes := types_of_decode_iff hfields ho h
  have htypes' := types_of_decode_iff hfields ho' h'
  rw [fields_eq_iff hfields ho h ho' h', or_imp, ← htypes, ← htypes']
  constructor
  · rintro ⟨⟨hsame, hnullable⟩, hown⟩
    exact ⟨hnullable, hown, hsame ▸ hown⟩
  · rintro ⟨hnullable, hown, hown'⟩
    exact ⟨⟨hown.trans hown'.symm, hnullable⟩, hown⟩

/-- A text with its columns in another order than the declared one, and an empty text. -/
theorem fields_eq_declared_iff_reordered :
    ∃ b b', decode (Utf8.encode "a,b\nx,1\n") ⟨[⟨"b", "int8", true⟩, ⟨"a", "text", true⟩]⟩ .empty =
        .ok b ∧
      decode [] ⟨[⟨"b", "int8", true⟩, ⟨"a", "text", true⟩]⟩ ⟨[("header", "false")]⟩ = .ok b' ∧
      b.fields = b'.fields ∧ b.fields.map (·.type) = [.integer .int8, .text] := by
  have h : decode (Utf8.encode "a,b\nx,1\n") ⟨[⟨"b", "int8", true⟩, ⟨"a", "text", true⟩]⟩ .empty =
      .ok ⟨[⟨⟨"b", .integer .int8, true⟩, [.integer 1]⟩, ⟨⟨"a", .text, true⟩, [.text "x"]⟩]⟩ := by
    decide +kernel
  have h' : decode [] ⟨[⟨"b", "int8", true⟩, ⟨"a", "text", true⟩]⟩ ⟨[("header", "false")]⟩ =
      .ok ⟨[⟨⟨"b", .integer .int8, true⟩, []⟩, ⟨⟨"a", .text, true⟩, []⟩]⟩ := by
    decide +kernel
  have honce : (⟨[⟨"b", "int8", true⟩, ⟨"a", "text", true⟩]⟩ : TableSchema).OneTypeEach := by
    unfold TableSchema.OneTypeEach
    decide +kernel
  have ho : Options.ofFormatOptions .empty = .ok {} := rfl
  have ho' : Options.ofFormatOptions ⟨[("header", "false")]⟩ = .ok { header := false } := rfl
  have hfields := (fields_eq_declared_iff (by simp) ho h ho' h').2.2
    ⟨.inr (by simp), fun _ => honce⟩
  exact ⟨_, _, h, h', hfields.1, rfl⟩

/-- A name that is declared twice, and a text without content. -/
theorem not_fields_eq_declared_twice :
    ¬ ∀ (schema : TableSchema) (bytes bytes' : Bytes) (options options' : FormatOptions)
        (b b' : Batch), schema.fields ≠ [] →
      decode bytes schema options = .ok b → decode bytes' schema options' = .ok b' →
      b.fields = b'.fields ∧ b.fields.map (·.type) = schema.fields.map (·.type) := by
  intro hall
  have h : decode (Utf8.encode "a\n1\n") ⟨[⟨"a", "int64", false⟩, ⟨"a", "string", true⟩]⟩ .empty =
      .ok ⟨[⟨⟨"a", .integer .int64, true⟩, [.integer 1]⟩,
        ⟨⟨"a", .integer .int64, true⟩, [.integer 1]⟩]⟩ := by
    decide +kernel
  have h' : decode [] ⟨[⟨"a", "int64", false⟩, ⟨"a", "string", true⟩]⟩ .empty =
      .ok ⟨[⟨⟨"a", .integer .int64, false⟩, []⟩, ⟨⟨"a", .text, true⟩, []⟩]⟩ := by
    decide +kernel
  have hsame := (hall _ _ _ _ _ _ _ (by simp) h h').1
  cases hsame

end Csv

end RootedStorage
