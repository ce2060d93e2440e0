import RootedStorage.Json.Fault

/-!
# Errors of storage operations

An error is one of seven kinds.  Errors of access and of configuration carry their cause; the
wording of every error is in `StorageError.message`.
-/

namespace RootedStorage

/-- Why content could not be reached, read or written. -/
inductive AccessFailure where
  | invalidPath (path : String)
  | io (path : String)
  | invalidText (path : String)
  | missingParent (path : String)
  | missingParentDirectory (path : String)
  | removeRoot
  | tableOverRoot
  | replaceFailed (path : String)
  | inferLayout
  | decodeCsv
  | encodeCsv
  | openParquet
  | createParquet
  | writeParquet
  | columnCount (found declared : Nat)
  | missingColumn (name source : String)
  | encodedText (format : String)
  deriving DecidableEq, Repr

/-- Why an option of a table format is refused. -/
inductive OptionRule where
  | value
  | singleCharacter
  | boolean
  deriving DecidableEq, Repr

/-- Why a configuration cannot be used. -/
inductive ConfigFailure where
  | encodingUnavailable (name : String)
  | formatUnavailable (name : String)
  | typeUnavailable (type key : String)
  | missingOption (key type : String)
  | invalidOption (value format key : String) (rule : OptionRule)
  | unresolvedRoot (path reason : String)
  | rootNotDirectory (path : String)
  | invalidDocument (error : Json.Error)
  | unreadableDocument (path reason : String)
  deriving DecidableEq, Repr

/-- An error of a storage operation. -/
inductive StorageError where
  | notFound (path : String)
  | alreadyExists (path : String)
  | access (cause : AccessFailure)
  | config (cause : ConfigFailure)
  | unsupported (what : String)
  | keyNotFound (key : String)
  | internal (what : String)
  deriving DecidableEq, Repr

/-- The failure in words. -/
def AccessFailure.message : AccessFailure → String
  | invalidPath path =>
    "Invalid storage path [" ++ path ++ "]: must be relative and stay inside the storage root"
  | io path => "I/O failure on " ++ path
  | invalidText path => "Content of " ++ path ++ " is not valid UTF-8"
  | missingParent path => "Cannot create " ++ path ++ ": parent directory does not exist"
  | missingParentDirectory path =>
    "Cannot create directory " ++ path ++ ": parent directory does not exist"
  | removeRoot => "Cannot remove the storage root"
  | tableOverRoot => "Cannot write a table over the storage root"
  | replaceFailed path => "Failed to replace " ++ path
  | inferLayout => "Failed to infer CSV layout"
  | decodeCsv => "Failed to decode CSV data"
  | encodeCsv => "Failed to encode CSV data"
  | openParquet => "Failed to open Parquet reader"
  | createParquet => "Failed to create Parquet writer"
  | writeParquet => "Failed to write Parquet batch"
  | columnCount found declared =>
    "CSV data has " ++ toString found ++ " columns but the schema declares " ++ toString declared
      ++ " fields"
  | missingColumn name source => "Column [" ++ name ++ "] is not present in the " ++ source
  | encodedText format => "Encoded " ++ format ++ " content is not valid UTF-8"

/-- What the rule asks for, after the refused value. -/
def OptionRule.message : OptionRule → String
  | value => ""
  | singleCharacter => ": expected a single character"
  | boolean => ": expected a boolean"

/-- The failure in words. -/
def ConfigFailure.message : ConfigFailure → String
  | encodingUnavailable name => "Text encoding [" ++ name ++ "] is not available"
  | formatUnavailable name => "Requested storage format [" ++ name ++ "] is not available"
  | typeUnavailable type key =>
    "Storage type [" ++ type ++ "] for storage [" ++ key ++ "] is not available"
  | missingOption key type =>
    "Missing required option [" ++ key ++ "] for storage type [" ++ type ++ "]"
  | invalidOption value format key rule =>
    "Invalid value [" ++ value ++ "] for " ++ format ++ " option [" ++ key ++ "]" ++ rule.message
  | unresolvedRoot path reason =>
    "Storage root " ++ path ++ " cannot be resolved: " ++ reason
  | rootNotDirectory path => "Storage root " ++ path ++ " is not a directory"
  | invalidDocument error => "Invalid system configuration: " ++ error.message
  | unreadableDocument path reason =>
    "Cannot read system configuration " ++ path ++ ": " ++ reason

/-- The error in words. -/
def StorageError.message : StorageError → String
  | notFound path => "Not found: " ++ path
  | alreadyExists path => "Already exists: " ++ path
  | access cause => "Storage access error: " ++ cause.message
  | config cause => "Storage configuration error: " ++ cause.message
  | unsupported what => "Unsupported: " ++ what
  | keyNotFound key => "Storage key not found: " ++ key
  | internal what => "Internal error: " ++ what

/-- The outcome of a storage operation. -/
abbrev Outcome (α : Type) := Except StorageError α

end RootedStorage
