import RootedStorage.Dictionary
import RootedStorage.Error
import RootedStorage.Text.Blank
import RootedStorage.Text.Lowercase
import RootedStorage.Text.Utf8

/-!
# Values of format options

Options of a table format are texts.  Three grammars read them: whole numbers of 64 bits, single
octets and truth values.  An option that is absent has no value; one that its grammar refuses is an
error that names the format and the key.
-/

namespace RootedStorage

/-- The options given to a table format. -/
abbrev FormatOptions := Dictionary String

namespace OptionValue

/-- The number that a run of decimal digits stands for. -/
def digitsValue (ds : List Char) : Nat := Nat.ofDigitChars 10 ds 0

/-- A whole number below 2 ^ 64: digits of ASCII, with or without a plus sign. -/
def size? (s : List Char) : Option Nat :=
  let ds := match s with
    | '+' :: rest => rest
    | _ => s
  if ds ≠ [] && ds.all Char.isDigit && digitsValue ds < Nat.pow 2 64 then some (digitsValue ds)
  else none

/-- A single octet; a tab may also be spelled. -/
def byte? (s : String) : Option UInt8 :=
  match Utf8.encode (if s = "\\t" || s = "tab" then "\t" else s) with
  | [b] => some b
  | _ => none

/-- A truth value in lower case. -/
def boolean? (s : String) : Option Bool :=
  if s = "true" || s = "yes" || s = "1" then some true
  else if s = "false" || s = "no" || s = "0" then some false
  else none

/-- The value of a key under a grammar, or the error that shows the refused text. -/
def read {α : Type} (options : FormatOptions) (format key : String) (rule : OptionRule)
    (grammar : String → Option α) : Outcome (Option α) :=
  match options.get? key with
  | none => .ok none
  | some raw =>
    match grammar raw with
    | some value => .ok (some value)
    | none => .error (.config (.invalidOption raw format key rule))

/-- A whole number, between white space. -/
def readSize (options : FormatOptions) (format key : String) : Outcome (Option Nat) :=
  read options format key .value fun raw => size? (Text.trim raw.toList)

/-- A single octet. -/
def readByte (options : FormatOptions) (format key : String) : Outcome (Option UInt8) :=
  read options format key .singleCharacter byte?

/-- A truth value, between white space and in either case.  The error shows the text as it was
compared. -/
def readBoolean (options : FormatOptions) (format key : String) : Outcome (Option Bool) :=
  match options.get? key with
  | none => .ok none
  | some raw =>
    let value := String.ofList (Text.asciiLower (Text.trim raw.toList))
    match boolean? value with
    | some b => .ok (some b)
    | none => .error (.config (.invalidOption value format key .boolean))

end OptionValue

end RootedStorage
