import RootedStorage.Csv.Codec
import RootedStorage.Parquet.Codec
import RootedStorage.Parquet.Tagged

/-!
# Table formats

A table format turns tables into content and content into tables.  A registry finds formats by
their names, in either case.
-/

namespace RootedStorage

/-- Where a codec reads from: content, or an entry that can be opened but not read. -/
inductive TableSource where
  | content (bytes : Bytes)
  | unreadable
  deriving DecidableEq, Repr

/-- A table format.  Content of a format that is not binary is text. -/
structure TableFormat where
  name : String
  isBinary : Bool
  decode : TableSource → TableSchema → FormatOptions → Outcome Batch
  encode : TableSchema → Batch → FormatOptions → Outcome Bytes

namespace TableFormat

/-- Tables as text. -/
def csv : TableFormat where
  name := Csv.formatName
  isBinary := false
  decode
    | .content bytes, schema, options => Csv.decode bytes schema options
    | .unreadable, _, options => do
      let _ ← Csv.Options.ofFormatOptions options
      .error (.access .inferLayout)
  encode := Csv.encode

/-- Tables in columnar files, in the bytes of a container. -/
def columnar (container : Parquet.Container) : TableFormat where
  name := Parquet.formatName
  isBinary := true
  decode
    | .content bytes, schema, options => Parquet.decode container bytes schema options
    | .unreadable, _, options => do
      let _ ← Parquet.Options.ofFormatOptions options
      .error (.access .openParquet)
  encode := Parquet.encode container

/-- Tables in columnar files, in the container of the program. -/
def parquet : TableFormat := columnar .tagged

end TableFormat

/-- Formats by their names in lower case. -/
structure FormatRegistry where
  formats : Dictionary TableFormat := .empty

namespace FormatRegistry

/-- Adds a format, in the place of one whose name differs in case only. -/
def register (r : FormatRegistry) (format : TableFormat) : FormatRegistry :=
  ⟨r.formats.put (Text.lowercase format.name) format⟩

/-- The formats of this library, with a container for the columnar one. -/
def standard (container : Parquet.Container) : FormatRegistry :=
  (FormatRegistry.register {} TableFormat.csv).register (TableFormat.columnar container)

/-- The registry of the formats of the program. -/
def builtin : FormatRegistry := standard .tagged

/-- The format of a given name. -/
def get (r : FormatRegistry) (name : String) : Outcome TableFormat :=
  match r.formats.get? (Text.lowercase name) with
  | some format => .ok format
  | none => .error (.config (.formatUnavailable name))

/-- The library has two formats. -/
theorem eq_of_standard_get {container : Parquet.Container} {name : String} {f : TableFormat}
    (h : (standard container).get name = .ok f) : f = .csv ∨ f = .columnar container := by
  have hempty : ∀ key, (Dictionary.empty : Dictionary TableFormat).get? key = none := fun _ => rfl
  unfold FormatRegistry.get standard FormatRegistry.register at h
  rw [Dictionary.get?_put, Dictionary.get?_put, hempty] at h
  split at h
  · next hf =>
    cases h
    split at hf
    · exact Or.inr (Option.some.inj hf).symm
    · split at hf
      · exact Or.inl (Option.some.inj hf).symm
      · cases hf
  · cases h

/-- Whether there is a format of a given name. -/
def contains (r : FormatRegistry) (name : String) : Bool :=
  r.formats.contains (Text.lowercase name)

/-- The names of the formats, sorted. -/
def names (r : FormatRegistry) : List String := r.formats.sortedKeys

end FormatRegistry

end RootedStorage
