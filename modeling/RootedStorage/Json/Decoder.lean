import RootedStorage.Dictionary
import RootedStorage.Json.Reader

/-!
# Reading JSON values of a known shape

Decoders for texts, numbers, truth values, lists, dictionaries and records.  A record is read from
an object, whose members may stand in any order, or from a list of its fields in their order.
-/

namespace RootedStorage.Json

variable {α β σ : Type}

/-! ## Scalars -/

/-- A string, which `wanted` names. -/
def stringAs (wanted : String) (s : Bytes) : Step String :=
  match skip s with
  | [] => failNext .endOfValue []
  | b :: rest =>
    (if b = 34 then stringBody rest else unexpected wanted (b :: rest)).placed

/-- A string. -/
def string (s : Bytes) : Step String := stringAs "a string" s

/-- A truth value. -/
def boolean (s : Bytes) : Step Bool :=
  match skip s with
  | [] => failNext .endOfValue []
  | b :: rest =>
    (if b = octet 't' then (word "rue".toList rest).map fun _ => true
    else if b = octet 'f' then (word "alse".toList rest).map fun _ => false
    else unexpected "a boolean" (b :: rest)).placed

/-- A whole number below `limit`, which `wanted` names. -/
def natural (limit : Nat) (wanted : String) (s : Bytes) : Step Nat :=
  let check (n : Number) (rest : Bytes) : Step Nat :=
    match n with
    | .whole (.ofNat n) =>
      if n < limit then .value n rest else failLater (.invalidValue (.integer n) wanted) rest
    | .whole n => failLater (.invalidValue (.integer n) wanted) rest
    | .float bits => failLater (.invalidType (.float bits) wanted) rest
  match skip s with
  | [] => failNext .endOfValue []
  | b :: rest =>
    (if b = 45 then (numberBody true rest).andThen check
    else if isDigit b then (numberBody false (b :: rest)).andThen check
    else unexpected wanted (b :: rest)).placed

/-- A value or null. -/
def optional (read : Reader α) (s : Bytes) : Step (Option α) :=
  match skip s with
  | 110 :: rest => (word "ull".toList rest).map fun _ => none
  | rest => (read rest).map some

/-! ## Ends of lists and objects -/

/-- The end of an object. -/
def endObject (s : Bytes) : Step Unit :=
  match skip s with
  | [] => failNext .endOfObject []
  | b :: rest =>
    if b = 125 then .value () rest
    else if b = 44 then failNext .trailingComma (b :: rest)
    else failNext .trailingCharacters (b :: rest)

/-- The end of a list. -/
def endList (s : Bytes) : Step Unit :=
  match skip s with
  | [] => failNext .endOfList []
  | b :: rest =>
    if b = 93 then .value () rest
    else if b = 44 then
      match skip rest with
      | 93 :: rest => failNext .trailingComma (93 :: rest)
      | rest => failNext .trailingCharacters rest
    else failNext .trailingCharacters (b :: rest)

/-- Reads an end, also after a fault: a fault without a place gets the place behind it. -/
def closing (close : Reader Unit) : Step α → Step α
  | .value a rest => (close rest).map fun _ => a
  | .failure fault place rest =>
    match close rest with
    | .value _ rest => .failure fault place rest
    | .failure _ _ rest => .failure fault place rest

/-! ## Objects -/

/-- Whether another member follows; its key begins at the quote. -/
def nextKey (first : Bool) (s : Bytes) : Step Bool :=
  match skip s with
  | [] => failNext .endOfObject []
  | b :: rest =>
    if b = 125 then .value false (b :: rest)
    else if first then
      if b = 34 then .value true (b :: rest) else failNext .keyNotString (b :: rest)
    else if b = 44 then
      match skip rest with
      | [] => failNext .endOfValue []
      | b :: rest =>
        if b = 34 then .value true (b :: rest)
        else if b = 125 then failNext .trailingComma (b :: rest)
        else failNext .keyNotString (b :: rest)
    else failNext (.expected "\x60,\x60 or \x60\x7d\x60") (b :: rest)

/-- The colon after a key. -/
def colon (s : Bytes) : Step Unit :=
  match skip s with
  | [] => failNext .endOfObject []
  | b :: rest => if b = 58 then .value () rest else failNext (.expected "\x60:\x60") (b :: rest)

/-- A value after a colon. -/
def memberValue (read : Reader α) (s : Bytes) : Step α := (colon s).andThen fun _ => read

/-- The members of an object after its brace.  The fuel bounds their number. -/
def members (member : σ → String → Reader σ) : Nat → Bool → σ → Reader σ
  | 0, _, _, s => failHere .endOfObject s
  | fuel + 1, first, state, s =>
    (nextKey first s).andThen fun more rest =>
      if !more then .value state rest
      else (stringBody (rest.drop 1)).andThen fun key rest =>
        (member state key rest).andThen fun state rest => members member fuel false state rest

/-- All members of an object after its brace. -/
def allMembers (member : σ → String → Reader σ) (state : σ) (s : Bytes) : Step σ :=
  members member (s.length + 1) true state s

/-- A dictionary. -/
def dictionary (read : Reader α) (s : Bytes) : Step (Dictionary α) :=
  match skip s with
  | [] => failNext .endOfValue []
  | b :: rest =>
    (if b = 123 then
      closing endObject <| allMembers
        (fun (d : Dictionary α) key s => (memberValue read s).map fun value => d.put key value)
        .empty rest
    else unexpected "a map" (b :: rest)).placed

/-! ## Lists -/

/-- Whether another element follows. -/
def nextElement (first : Bool) (s : Bytes) : Step Bool :=
  match skip s with
  | [] => failNext .endOfList []
  | b :: rest =>
    if b = 93 then .value false (b :: rest)
    else if first then .value true (b :: rest)
    else if b = 44 then
      match skip rest with
      | [] => failNext .endOfValue []
      | b :: rest =>
        if b = 93 then failNext .trailingComma (b :: rest) else .value true (b :: rest)
    else failNext (.expected "\x60,\x60 or \x60]\x60") (b :: rest)

/-- The elements of a list after its bracket, the last one first.  The fuel bounds their number. -/
def elements (read : Reader α) : Nat → Bool → List α → Reader (List α)
  | 0, _, _, s => failHere .endOfList s
  | fuel + 1, first, before, s =>
    (nextElement first s).andThen fun more rest =>
      if !more then .value before rest
      else (read rest).andThen fun a rest => elements read fuel false (a :: before) rest

/-- A list. -/
def list (read : Reader α) (s : Bytes) : Step (List α) :=
  match skip s with
  | [] => failNext .endOfValue []
  | b :: rest =>
    (if b = 91 then
      (closing endList (elements read (rest.length + 1) true [] rest)).map List.reverse
    else unexpected "a sequence" (b :: rest)).placed

/-! ## Records -/

/-- A record read from an object or from a list. -/
def record (wanted : String) (ofObject ofList : Reader α) (s : Bytes) : Step α :=
  match skip s with
  | [] => failNext .endOfValue []
  | b :: rest =>
    (if b = 91 then closing endList (ofList rest)
    else if b = 123 then closing endObject (ofObject rest)
    else unexpected wanted (b :: rest)).placed

/-- A member that may stand once. -/
def once (name : String) (present : Option α) (read : Reader α) (set : α → σ) (s : Bytes) :
    Step σ :=
  if present.isSome then failLater (.duplicateField name) s
  else (memberValue read s).map set

/-- A member that is passed over. -/
def ignored (state : σ) (s : Bytes) : Step σ := (memberValue skipValue s).map fun _ => state

/-- A member that has to stand. -/
def required (name : String) (value : Option α) (s : Bytes) : Step α :=
  match value with
  | some a => .value a s
  | none => failLater (.missingField name) s

/-- The field with the given index of a record that is read from a list: the next element, or the
default, or the fault that the list is too short. -/
def fieldAt (index : Nat) (wanted : String) (default : Option α) (read : Reader α) (s : Bytes) :
    Step α :=
  (nextElement (index = 0) s).andThen fun more rest =>
    if more then read rest
    else
      match default with
      | some a => .value a rest
      | none => failLater (.invalidLength index wanted) rest

/-! ## Whole texts -/

/-- The line and the column of the place at which the given number of octets is left. -/
def position (text : Bytes) (left : Nat) : Nat × Nat :=
  let before := text.take (text.length - left)
  (1 + before.count 10, (before.reverse.takeWhile (· ≠ 10)).length)

/-- The value of a text with nothing behind it. -/
def decode (read : Reader α) (text : String) : Except Error α :=
  let bytes := Utf8.encode text
  let step := (read bytes).andThen fun a rest =>
    match skip rest with
    | [] => .value a []
    | rest => failNext .trailingCharacters rest
  match step with
  | .value a _ => .ok a
  | .failure fault place rest =>
    let (line, column) := position bytes (place.getD rest.length)
    .error ⟨fault, line, column⟩

end RootedStorage.Json
