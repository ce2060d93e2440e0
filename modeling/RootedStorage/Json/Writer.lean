import RootedStorage.Number.Notation

/-!
# Writing JSON texts

Strings with their escapes, and lists and objects from written parts.
-/

namespace RootedStorage.Json

/-- One character of a string. -/
def writeChar (c : Char) : List Char :=
  if c = '"' then ['\\', '"']
  else if c = '\\' then ['\\', '\\']
  else if c = '\n' then ['\\', 'n']
  else if c = '\r' then ['\\', 'r']
  else if c = '\t' then ['\\', 't']
  else if c = Char.ofNat 8 then ['\\', 'b']
  else if c = Char.ofNat 12 then ['\\', 'f']
  else if c.toNat < 32 then
    "\\u00".toList ++ FloatNotation.zeros (2 - (Nat.toDigits 16 c.toNat).length)
      ++ Nat.toDigits 16 c.toNat
  else [c]

/-- A string. -/
def writeString (s : String) : String :=
  String.ofList ('"' :: s.toList.flatMap writeChar ++ ['"'])

/-- A list of written elements. -/
def writeList (elements : List String) : String :=
  "[" ++ String.intercalate "," elements ++ "]"

/-- An object of written members. -/
def writeObject (members : List (String × String)) : String :=
  "\x7b" ++ String.intercalate "," (members.map fun m => writeString m.1 ++ ":" ++ m.2) ++ "\x7d"

/-- A truth value. -/
def writeBoolean (b : Bool) : String := if b then "true" else "false"

/-- A value or null. -/
def writeOption {α : Type} (write : α → String) : Option α → String
  | none => "null"
  | some a => write a

end RootedStorage.Json
