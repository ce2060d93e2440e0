import RootedStorage.Error
import RootedStorage.Text.Lowercase

/-!
# Text encodings

The encodings that text streams can have.
-/

namespace RootedStorage

/-- The encoding of a text stream. -/
inductive TextEncoding where
  | utf8
  deriving DecidableEq, Repr, Inhabited

namespace TextEncoding

/-- The encoding's name. -/
def name : TextEncoding → String
  | utf8 => "utf-8"

/-- The encoding of a given name, in either case. -/
def ofName (name : String) : Outcome TextEncoding :=
  let lowered := String.ofList (Text.asciiLower name.toList)
  if lowered = "utf-8" || lowered = "utf8" then .ok utf8
  else .error (.config (.encodingUnavailable lowered))

end TextEncoding

end RootedStorage
