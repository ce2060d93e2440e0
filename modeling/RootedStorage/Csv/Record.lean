import RootedStorage.Csv.Options

/-!
# Records of a CSV text

A text is a sequence of records, and a record a non-empty sequence of fields.  `records` splits a
text with one pass of a state machine, octet by octet; `writeRecord` writes a record with quotes
around the fields that need them.

A record ends at a carriage return or a line feed, and the ends of empty lines say nothing.  A field
that begins with a quote goes on to the next quote that is neither doubled nor escaped; what follows
up to the next delimiter belongs to the field too.
-/

namespace RootedStorage.Csv

/-- One field, as octets. -/
abbrev FieldText := Bytes

/-- One record, as fields. -/
abbrev Record := List FieldText

/-- Where the reader stands. -/
inductive Position where
  | recordStart
  | fieldStart
  | bare
  | quoted
  | escaped
  | quoteSeen
  deriving DecidableEq, Repr

/-- The reader between two octets: its position, the field and the record that it is in, both in
reverse order, and the records behind it, the last one first. -/
structure Scan where
  position : Position := .recordStart
  field : FieldText := []
  record : Record := []
  records : List Record := []
  deriving DecidableEq, Repr

/-- Whether an octet ends a record. -/
def isTerminator (b : UInt8) : Bool := b = 13 || b = 10

namespace Scan

/-- Takes an octet into the field. -/
def take (s : Scan) (position : Position) (b : UInt8) : Scan :=
  { s with position, field := b :: s.field }

/-- Ends the field. -/
def endField (s : Scan) : Scan :=
  { s with position := .fieldStart, field := [], record := s.field.reverse :: s.record }

/-- Ends the field and the record. -/
def endRecord (s : Scan) : Scan :=
  { position := .recordStart
    field := []
    record := []
    records := (s.field.reverse :: s.record).reverse :: s.records }

/-- An octet outside quotes. -/
def stepBare (d : Dialect) (s : Scan) (b : UInt8) : Scan :=
  if b = d.delimiter then s.endField
  else if isTerminator b then s.endRecord
  else s.take .bare b

/-- The first octet of a field. -/
def stepFieldStart (d : Dialect) (s : Scan) (b : UInt8) : Scan :=
  if b = d.quote then { s with position := .quoted } else s.stepBare d b

/-- One octet. -/
def step (d : Dialect) (s : Scan) (b : UInt8) : Scan :=
  match s.position with
  | .recordStart => if isTerminator b then s else s.stepFieldStart d b
  | .fieldStart => s.stepFieldStart d b
  | .bare => s.stepBare d b
  | .quoted =>
    if b = d.quote then { s with position := .quoteSeen }
    else if d.escape = some b then { s with position := .escaped }
    else s.take .quoted b
  | .escaped => s.take .quoted b
  | .quoteSeen => if b = d.quote then s.take .quoted b else s.stepBare d b

/-- The records when no octet is left. -/
def finish (s : Scan) : List Record :=
  (if s.position = .recordStart then s else s.endRecord).records.reverse

end Scan

/-- The text without the mark that may stand at its very beginning. -/
def dropByteOrderMark : Bytes → Bytes
  | 0xEF :: 0xBB :: 0xBF :: rest => rest
  | bytes => bytes

/-- The records of a text. -/
def records (d : Dialect) (bytes : Bytes) : List Record :=
  ((dropByteOrderMark bytes).foldl (Scan.step d) {}).finish

/-! ## Writing -/

/-- Whether a field has to stand in quotes. -/
def needsQuotes (d : Dialect) (field : FieldText) : Bool :=
  field.any fun b => b = d.delimiter || b = d.quote || isTerminator b

/-- A field as it is written: in quotes if need be, with its own quotes doubled. -/
def writeField (d : Dialect) (field : FieldText) : Bytes :=
  if needsQuotes d field then
    d.quote :: field.flatMap (fun b => if b = d.quote then [b, b] else [b]) ++ [d.quote]
  else field

/-- The fields with delimiters between them. -/
def joinFields (d : Dialect) : Record → Bytes
  | [] => []
  | [field] => writeField d field
  | field :: rest => writeField d field ++ d.delimiter :: joinFields d rest

/-- A record as it is written.  One that would leave its line empty is written as two quotes. -/
def writeRecord (d : Dialect) (record : Record) : Bytes :=
  let line := joinFields d record
  (if line.isEmpty then [d.quote, d.quote] else line) ++ [10]

end RootedStorage.Csv
