import RootedStorage.Dictionary

/-!
# Command-line arguments

Arguments are flags, options with values, and positional arguments.  A flag or an option has a long
name, a short one, or both; short flags may be written together, and a value may be attached to its
option or follow as the next argument.  After two dashes everything is positional.
-/

namespace RootedStorage.CommandLine

/-- What a named argument does. -/
inductive Kind where
  /-- May stand once and has no value. -/
  | flag
  /-- May stand once and has a value; an empty one may be refused. -/
  | value (mayBeEmpty : Bool)
  /-- May stand any number of times, each time with a value. -/
  | values
  /-- Ends the reading of arguments at once. -/
  | stop
  deriving DecidableEq, Repr

/-- A named argument. -/
structure Named where
  id : String
  long : Option String
  short : Option Char
  kind : Kind
  deriving Repr

/-- Arguments that have been read. -/
structure Given where
  named : List (String × String) := []
  positional : List String := []
  deriving Repr, Inhabited

/-- How the reading of arguments ends. -/
inductive Reading where
  | complete (given : Given)
  /-- A subcommand and the arguments behind it. -/
  | subcommand (given : Given) (name : String) (rest : List String)
  /-- An argument that ends the reading. -/
  | stopped (id : String)
  | invalid
  deriving Repr

namespace Given

/-- Whether a named argument is given. -/
def has (g : Given) (id : String) : Bool := g.named.any (·.1 = id)

/-- The first value of a named argument. -/
def value? (g : Given) (id : String) : Option String :=
  (g.named.find? (·.1 = id)).map (·.2)

/-- All values of a named argument, in their order. -/
def values (g : Given) (id : String) : List String :=
  (g.named.filter (·.1 = id)).map (·.2)

/-- Adds a named argument, if its kind allows it. -/
def add (g : Given) (n : Named) (value : String) : Option Given :=
  let allowed := match n.kind with
    | .values => true
    | .value mayBeEmpty => !g.has n.id && (mayBeEmpty || value ≠ "")
    | _ => !g.has n.id
  if allowed then some { g with named := g.named ++ [(n.id, value)] } else none

end Given

/-- What a group of short names leaves to do. -/
inductive Shorts where
  | done (given : Given)
  /-- The value of an option has to follow. -/
  | needs (given : Given) (option : Named)
  | stopped (id : String)
  | invalid

/-- Reads short names that are written together. -/
def readShorts (named : List Named) (g : Given) : List Char → Shorts
  | [] => .done g
  | c :: rest =>
    match named.find? (·.short = some c) with
    | none => .invalid
    | some n =>
      match n.kind with
      | .stop => .stopped n.id
      | .flag =>
        match g.add n "" with
        | some g => readShorts named g rest
        | none => .invalid
      | _ =>
        match rest with
        | [] => .needs g n
        | '=' :: value => attached n value
        | value => attached n value
where
  /-- A value attached to an option. -/
  attached (n : Named) (value : List Char) : Shorts :=
    match g.add n (String.ofList value) with
    | some g => .done g
    | none => .invalid

/-- Reads a long name with the value that may be attached to it. -/
def readLong (named : List Named) (g : Given) (text : List Char) : Shorts :=
  let name := String.ofList (text.takeWhile (· ≠ '='))
  let value := (text.dropWhile (· ≠ '=')).drop 1
  let hasValue := text.contains '='
  match named.find? (·.long = some name) with
  | none => .invalid
  | some n =>
    match n.kind, hasValue with
    | .stop, false => .stopped n.id
    | .flag, false =>
      match g.add n "" with
      | some g => .done g
      | none => .invalid
    | .stop, true | .flag, true => .invalid
    | _, false => .needs g n
    | _, true =>
      match g.add n (String.ofList value) with
      | some g => .done g
      | none => .invalid

/-- Whether an argument is a name or a group of short names. -/
def isNamed (argument : String) : Bool :=
  match argument.toList with
  | ['-'] => false
  | '-' :: _ => true
  | _ => false

/-- Reads an argument that is a name or a group of short names. -/
def readNamed (named : List Named) (g : Given) (argument : String) : Shorts :=
  match argument.toList with
  | '-' :: '-' :: name => readLong named g name
  | '-' :: names => readShorts named g names
  | _ => .invalid

/-- Reads arguments.  `subcommands` are the names that end the reading where a positional argument
could stand; at most `limit` positional arguments may be given. -/
def read (named : List Named) (subcommands : List String) (limit : Nat) :
    Given → List String → Reading
  | g, [] => .complete g
  | g, argument :: rest =>
    if subcommands.contains argument then .subcommand g argument rest
    else if argument = "--" then positional g rest
    else if isNamed argument then
      match readNamed named g argument, rest with
      | .done g, rest => read named subcommands limit g rest
      | .stopped id, _ => .stopped id
      | .invalid, _ => .invalid
      | .needs _ _, [] => .invalid
      | .needs g n, value :: rest =>
        if isNamed value then .invalid
        else
          match g.add n value with
          | some g => read named subcommands limit g rest
          | none => .invalid
    else if g.positional.length < limit then
      read named subcommands limit { g with positional := g.positional ++ [argument] } rest
    else .invalid
where
  /-- Takes all arguments as positional ones. -/
  positional (g : Given) (rest : List String) : Reading :=
    if g.positional.length + rest.length ≤ limit then
      .complete { g with positional := g.positional ++ rest }
    else .invalid

end RootedStorage.CommandLine
