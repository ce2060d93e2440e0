import RootedStorage.Format.OptionValue

/-!
# Options of the CSV format

The octets that give a text its table structure, whether the first record names the columns, how
many rows are decoded at a time and how many are looked at for the columns' types.
-/

namespace RootedStorage.Csv

/-- The octets that separate and quote fields. -/
structure Dialect where
  delimiter : UInt8 := 44
  quote : UInt8 := 34
  escape : Option UInt8 := none
  deriving DecidableEq, Repr

/-- The options of the format. -/
structure Options where
  dialect : Dialect := {}
  header : Bool := true
  batchSize : Nat := 8192
  inferRows : Option Nat := none
  deriving DecidableEq, Repr

/-- The format's name. -/
def formatName : String := "csv"

/-- The options that a dictionary gives.  Other keys have no influence. -/
def Options.ofFormatOptions (options : FormatOptions) : Outcome Options := do
  let defaults : Options := {}
  let delimiter ← OptionValue.readByte options formatName "delimiter"
  let header ← OptionValue.readBoolean options formatName "header"
  let quote ← OptionValue.readByte options formatName "quote"
  let escape ← OptionValue.readByte options formatName "escape"
  let batchSize ← OptionValue.readSize options formatName "batch_size"
  let inferRows ← OptionValue.readSize options formatName "infer_rows"
  return {
    dialect := {
      delimiter := delimiter.getD defaults.dialect.delimiter
      quote := quote.getD defaults.dialect.quote
      escape }
    header := header.getD defaults.header
    batchSize := batchSize.getD defaults.batchSize
    inferRows }

end RootedStorage.Csv
