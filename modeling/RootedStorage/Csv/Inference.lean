import RootedStorage.Csv.Record
import RootedStorage.Table.Batch
import RootedStorage.Text.DecimalDigit

/-!
# Column types of a CSV text

The type of a column is inferred from the shapes of its cells.  An empty cell has no shape.  Cells
of one shape give its type, whole and decimal numbers together decimal numbers, dates and timestamps
together the finest of them, and every other mixture text.
-/

namespace RootedStorage.Csv

/-- What a cell looks like. -/
inductive Shape where
  | boolean
  | whole
  | decimal
  | date
  | timestamp (unit : TimeUnit)
  | text
  deriving DecidableEq, Repr

namespace Shape

/-- A run of digits at the start and what follows it. -/
def digits (s : List Char) : List Char × List Char :=
  (s.takeWhile Text.isDecimalDigit, s.dropWhile Text.isDecimalDigit)

/-- Whether `word` in lower case is spelled by `s` in any case; the long s counts as an s. -/
def spells (word s : List Char) : Bool :=
  s.map (fun c => if c = 'ſ' then 's' else c.toLower) = word

/-- What follows a minus sign that may stand at the start. -/
def dropMinus : List Char → List Char
  | '-' :: rest => rest
  | s => s

/-- A whole number: a minus sign or none, and digits. -/
def isWhole (s : List Char) : Bool :=
  let (ds, rest) := digits (dropMinus s)
  !ds.isEmpty && rest.isEmpty

/-- An exponent: its mark, a sign or none, and digits. -/
def isExponent : List Char → Bool
  | c :: rest =>
    (c = 'e' || c = 'E') &&
      let unsigned := match rest with
        | '-' :: r => r
        | '+' :: r => r
        | r => r
      let (ds, rest) := digits unsigned
      !ds.isEmpty && rest.isEmpty
  | [] => false

/-- A decimal number: digits with a point or an exponent or both, after a minus sign or none. -/
def isDecimal (s : List Char) : Bool :=
  let (before, rest) := digits (dropMinus s)
  match rest with
  | '.' :: rest =>
    let (after, rest) := digits rest
    (!before.isEmpty || !after.isEmpty) && (rest.isEmpty || isExponent rest)
  | rest => !before.isEmpty && isExponent rest

/-- Matches a pattern at the start, in which a zero stands for any digit and a `T` for a `T` or a
blank, and gives what follows. -/
def afterPattern : List Char → List Char → Option (List Char)
  | [], s => some s
  | _ :: _, [] => none
  | p :: ps, c :: s =>
    if (if p = '0' then Text.isDecimalDigit c else if p = 'T' then c = 'T' || c = ' ' else p = c)
    then afterPattern ps s else none

/-- The rest of a timestamp: nothing, or an octet that is no digit and then one line. -/
def isTail (s : List Char) : Bool :=
  match s with
  | [] => true
  | c :: rest => !Text.isDecimalDigit c && rest.all (· ≠ '\n')

/-- The shape of what follows the full second of a timestamp. -/
def ofFraction (s : List Char) : Option TimeUnit :=
  match s with
  | '.' :: rest =>
    let (ds, tail) := digits rest
    if isTail tail && !ds.isEmpty then
      if ds.length ≤ 3 then some .millisecond
      else if ds.length ≤ 6 then some .microsecond
      else if ds.length ≤ 9 then some .nanosecond
      else none
    else none
  | rest => if isTail rest then some .second else none

/-- Whether a whole number lies outside 64 bits with a sign, or has digits beyond ASCII. -/
def isTooLarge (s : List Char) : Bool :=
  let ds := dropMinus s
  let value : Int := OptionValue.digitsValue ds
  !ds.all Char.isDigit
    || !IntegerType.int64.holds (if s.head? = some '-' then -value else value)

/-- The shape of a cell that is not empty. -/
def ofText (text : String) : Shape :=
  let s := text.toList
  if s.head? = some '"' then .text
  else if spells "true".toList s || spells "false".toList s then .boolean
  else if isWhole s then
    if 19 ≤ text.utf8ByteSize && isTooLarge s then .text else .whole
  else if isDecimal s then .decimal
  else
    match afterPattern "0000-00-00".toList s with
    | none => .text
    | some [] => .date
    | some rest =>
      match (afterPattern "T00:00:00".toList rest).bind ofFraction with
      | some unit => .timestamp unit
      | none => .text

/-- The unit of a timestamp, or none for a date; `none` for every other shape. -/
def calendar? : Shape → Option (Option TimeUnit)
  | date => some none
  | timestamp unit => some (some unit)
  | _ => none

/-- How fine a unit is; a date is coarser than every unit. -/
def fineness : Option TimeUnit → Nat
  | none => 0
  | some .second => 1
  | some .millisecond => 2
  | some .microsecond => 3
  | some .nanosecond => 4

/-- The finer of two. -/
def finer (a b : Option TimeUnit) : Option TimeUnit := if fineness a < fineness b then b else a

/-- The type of a column whose cells have the given shapes. -/
def combine (shapes : List Shape) : ColumnType :=
  if shapes.isEmpty then .null
  else if shapes.all (· = .boolean) then .boolean
  else if shapes.all (· = .whole) then .integer .int64
  else if shapes.all fun s => s = .whole || s = .decimal then .float .float64
  else
    match shapes.mapM calendar? with
    | some units =>
      match units.foldl finer none with
      | none => .date32
      | some unit => .timestamp unit none
    | none => .text

end Shape

/-- The type of a column of cells. -/
def inferType (cells : List String) : ColumnType :=
  Shape.combine ((cells.filter (· ≠ "")).map Shape.ofText)

/-- The texts of a record's fields, if they are all UTF-8. -/
def recordTexts (r : Record) : Option (List String) := r.mapM Utf8.decode?

/-- The cells at an index, from the first row to the last. -/
def columnAt (rows : List (List String)) (index : Nat) : List String :=
  rows.map fun row => (row[index]?).getD ""

/-- The records that the types are inferred from: all of them, or as many as the options say. -/
def sampled (options : Options) (rows : List Record) : List Record :=
  match options.inferRows with
  | none => rows
  | some n => rows.take n

/-- The fields that a text has by itself.  Names come from the first record or count the columns;
every record that is looked at must be UTF-8 and as long as the first. -/
def inferFields (options : Options) (all : List Record) : Option (List Field) := do
  let first := all.headD []
  let head ← recordTexts first
  let rows := sampled options (if options.header then all.drop 1 else all)
  if rows.all (·.length = first.length) then
    let texts ← rows.mapM recordTexts
    some <| head.mapIdx fun i name =>
      { name := if options.header then name else "column_" ++ toString (i + 1)
        type := inferType (columnAt texts i)
        nullable := true }
  else none

end RootedStorage.Csv
