import RootedStorage.Format.OptionValue

/-!
# Options of the Parquet format

How the content is compressed and how many rows are decoded at a time.
-/

namespace RootedStorage.Parquet

/-- How the content of a file is compressed. -/
inductive Compression where
  | uncompressed
  | snappy
  | lz4
  | zstd
  deriving DecidableEq, Repr

/-- The options of the format. -/
structure Options where
  compression : Compression := .lz4
  batchSize : Option Nat := none
  deriving DecidableEq, Repr

/-- The format's name. -/
def formatName : String := "parquet"

namespace Compression

/-- The compression's name. -/
def name : Compression → String
  | uncompressed => "UNCOMPRESSED"
  | snappy => "SNAPPY"
  | lz4 => "LZ4"
  | zstd => "ZSTD"

/-- The compression that a lower-case option value stands for. -/
def ofOption? (value : String) : Option Compression :=
  if value = "uncompressed" || value = "none" then some uncompressed
  else if value = "snappy" then some snappy
  else if value = "lz4" then some lz4
  else if value = "zstd" then some zstd
  else none

end Compression

/-- The compression that a dictionary of options gives. -/
def readCompression (options : FormatOptions) : Outcome Compression :=
  match options.get? "compression" with
  | none => .ok .lz4
  | some raw =>
    let value := String.ofList (Text.asciiLower raw.toList)
    match Compression.ofOption? value with
    | some c => .ok c
    | none => .error (.config (.invalidOption value formatName "compression" .value))

/-- The options that a dictionary gives.  Other keys have no influence. -/
def Options.ofFormatOptions (options : FormatOptions) : Outcome Options := do
  let compression ← readCompression options
  let batchSize ← OptionValue.readSize options formatName "batch_size"
  return { compression, batchSize }

end RootedStorage.Parquet
