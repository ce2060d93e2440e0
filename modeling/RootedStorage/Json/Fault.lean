import RootedStorage.Number.Notation
import RootedStorage.Text.Quoted

/-!
# Faults of JSON texts

What can be wrong with a JSON text that is read as a value of a known shape, where it is wrong,
and how that is said.
-/

namespace RootedStorage.Json

/-- A value that stands where another kind of value is expected. -/
inductive Found where
  | null
  | boolean (value : Bool)
  | integer (value : Int)
  | float (bits : Nat)
  | string (value : String)
  | sequence
  | map
  deriving DecidableEq, Repr

/-- What is wrong with a text: first the faults of its form, then those of its content. -/
inductive Fault where
  | endOfText (inside : String)
  | expected (what : String)
  | invalidEscape
  | invalidNumber
  | numberOutOfRange
  | controlCharacter
  | keyNotString
  | loneSurrogate
  | shortHexEscape
  | trailingComma
  | trailingCharacters
  | invalidType (found : Found) (wanted : String)
  | invalidValue (found : Found) (wanted : String)
  | invalidLength (length : Nat) (wanted : String)
  | unknownVariant (name : String) (known : List String)
  | missingField (name : String)
  | duplicateField (name : String)
  | custom (message : String)
  deriving DecidableEq, Repr

/-- A fault and its place: lines count from one, columns are octets since the last line end. -/
structure Error where
  fault : Fault
  line : Nat
  column : Nat
  deriving DecidableEq, Repr

/-- Numbers in messages. -/
def floatNotation : FloatNotation where
  wholeDigits := 16
  leadingZeros := 5
  exponentPlus := true
  exponentDigits := 2
  nan := "NaN"
  infinity := "inf"

/-- A name between back quotes. -/
def backQuoted (name : String) : String := "\x60" ++ name ++ "\x60"

/-- The found value in words. -/
def Found.describe : Found → String
  | null => "null"
  | boolean b => "boolean " ++ backQuoted (if b then "true" else "false")
  | integer n => "integer " ++ backQuoted (toString n)
  | float bits => "floating point " ++ backQuoted (floatNotation.write .binary64 bits)
  | string s => "string " ++ Text.quoted s
  | sequence => "sequence"
  | map => "map"

/-- The names that a value may have, in words. -/
def oneOf : List String → String
  | [] => ""
  | [a] => backQuoted a
  | [a, b] => backQuoted a ++ " or " ++ backQuoted b
  | names => "one of " ++ String.intercalate ", " (names.map backQuoted)

/-- The fault in words. -/
def Fault.message : Fault → String
  | endOfText inside => "EOF while parsing " ++ inside
  | expected what => "expected " ++ what
  | invalidEscape => "invalid escape"
  | invalidNumber => "invalid number"
  | numberOutOfRange => "number out of range"
  | controlCharacter => "control character (\\u0000-\\u001F) found while parsing a string"
  | keyNotString => "key must be a string"
  | loneSurrogate => "lone leading surrogate in hex escape"
  | shortHexEscape => "unexpected end of hex escape"
  | trailingComma => "trailing comma"
  | trailingCharacters => "trailing characters"
  | invalidType found wanted => "invalid type: " ++ found.describe ++ ", expected " ++ wanted
  | invalidValue found wanted => "invalid value: " ++ found.describe ++ ", expected " ++ wanted
  | invalidLength length wanted =>
    "invalid length " ++ toString length ++ ", expected " ++ wanted
  | unknownVariant name known =>
    "unknown variant " ++ backQuoted name ++ ", expected " ++ oneOf known
  | missingField name => "missing field " ++ backQuoted name
  | duplicateField name => "duplicate field " ++ backQuoted name
  | custom message => message

/-- The fault in words with its place. -/
def Error.message (e : Error) : String :=
  e.fault.message ++ " at line " ++ toString e.line ++ " column " ++ toString e.column

end RootedStorage.Json
