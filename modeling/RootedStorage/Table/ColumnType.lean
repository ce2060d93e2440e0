/-!
# Column types

The types that a column of a table can have, their names, and the ranges of the whole numbers
that they hold.
-/

namespace RootedStorage

/-- The unit that a timestamp counts. -/
inductive TimeUnit where
  | second
  | millisecond
  | microsecond
  | nanosecond
  deriving DecidableEq, Repr, Inhabited

/-- Whole numbers of a fixed width, with or without a sign. -/
inductive IntegerType where
  | int8
  | int16
  | int32
  | int64
  | uint8
  | uint16
  | uint32
  | uint64
  deriving DecidableEq, Repr, Inhabited

/-- Binary floating point numbers of one of the two common widths. -/
inductive FloatType where
  | float32
  | float64
  deriving DecidableEq, Repr, Inhabited

/-- The type of a column.  Types that no codec handles cell by cell are kept by their name. -/
inductive ColumnType where
  | null
  | boolean
  | integer (type : IntegerType)
  | float (type : FloatType)
  | text
  | largeText
  | date32
  | date64
  | timestamp (unit : TimeUnit) (zone : Option String)
  | other (name : String)
  deriving DecidableEq, Repr, Inhabited

namespace TimeUnit

/-- How many of the unit make a second. -/
def perSecond : TimeUnit → Nat
  | second => 1
  | millisecond => 1000
  | microsecond => 1000000
  | nanosecond => 1000000000

/-- The unit's name. -/
def name : TimeUnit → String
  | second => "Second"
  | millisecond => "Millisecond"
  | microsecond => "Microsecond"
  | nanosecond => "Nanosecond"

/-- The units from the coarsest to the finest. -/
def all : List TimeUnit := [second, millisecond, microsecond, nanosecond]

end TimeUnit

namespace IntegerType

/-- Every width, with and without a sign. -/
def all : List IntegerType := [int8, int16, int32, int64, uint8, uint16, uint32, uint64]

/-- The number of bits. -/
def bits : IntegerType → Nat
  | int8 | uint8 => 8
  | int16 | uint16 => 16
  | int32 | uint32 => 32
  | int64 | uint64 => 64

/-- Whether the type holds negative numbers. -/
def isSigned : IntegerType → Bool
  | int8 | int16 | int32 | int64 => true
  | uint8 | uint16 | uint32 | uint64 => false

/-- The least number that the type holds. -/
def least (t : IntegerType) : Int := if t.isSigned then -(Nat.pow 2 (t.bits - 1) : Nat) else 0

/-- The greatest number that the type holds. -/
def greatest (t : IntegerType) : Int :=
  if t.isSigned then (Nat.pow 2 (t.bits - 1) : Nat) - 1 else (Nat.pow 2 t.bits : Nat) - 1

/-- Whether the type holds `n`. -/
def holds (t : IntegerType) (n : Int) : Bool := t.least ≤ n && n ≤ t.greatest

/-- The type's name. -/
def name : IntegerType → String
  | int8 => "Int8"
  | int16 => "Int16"
  | int32 => "Int32"
  | int64 => "Int64"
  | uint8 => "UInt8"
  | uint16 => "UInt16"
  | uint32 => "UInt32"
  | uint64 => "UInt64"

end IntegerType

namespace ColumnType

/-- The type's name; a timestamp names its unit and its zone. -/
def name : ColumnType → String
  | null => "Null"
  | boolean => "Boolean"
  | integer t => t.name
  | float .float32 => "Float32"
  | float .float64 => "Float64"
  | text => "Utf8"
  | largeText => "LargeUtf8"
  | date32 => "Date32"
  | date64 => "Date64"
  | timestamp u none => "Timestamp(" ++ u.name ++ ", None)"
  | timestamp u (some zone) => "Timestamp(" ++ u.name ++ ", Some(\"" ++ zone ++ "\"))"
  | other name => name

/-- The types whose name holds no zone. -/
def zoneless : List ColumnType :=
  [null, boolean, float .float32, float .float64, text, largeText, date32, date64]
    ++ IntegerType.all.map integer ++ TimeUnit.all.map (timestamp · none)

/-- The text between `first` and `last` around it, if it stands between them. -/
def between? (first last text : String) : Option String :=
  if text.startsWith first && text.endsWith last && first.length + last.length ≤ text.length then
    some (String.ofList ((text.toList.drop first.length).take
      (text.length - first.length - last.length)))
  else none

/-- The type of a given name. -/
def ofName (name : String) : ColumnType :=
  match zoneless.find? (·.name = name) with
  | some t => t
  | none =>
    match TimeUnit.all.findSome? fun u =>
        (between? ("Timestamp(" ++ u.name ++ ", Some(\"") "\"))" name).map fun zone =>
          timestamp u (some zone) with
    | some t => t
    | none => other name

end ColumnType

end RootedStorage
