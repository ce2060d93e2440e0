import RootedStorage.Calendar.Moment
import RootedStorage.Csv.Inference
import RootedStorage.Number.BinaryFormat
import RootedStorage.Text.Blank

/-!
# Reading the cells of a CSV text

Each type has a grammar for its cells.  An empty cell is null in a column of any type; a cell that
its column's grammar refuses has no value.
-/

namespace RootedStorage.Csv

namespace CellText

/-- The number that a run of ASCII digits stands for. -/
def number (ds : List Char) : Nat := OptionValue.digitsValue ds

/-- Whether the characters are digits of ASCII, at least one. -/
def isNumber (ds : List Char) : Bool := !ds.isEmpty && ds.all Char.isDigit

/-- A whole number of the given type: a sign or none, and digits. -/
def parseInteger (t : IntegerType) (s : List Char) : Option Int :=
  let (negative, ds) := match s with
    | '-' :: rest => (true, rest)
    | '+' :: rest => (false, rest)
    | _ => (false, s)
  let value : Int := if negative then -(number ds : Int) else number ds
  if isNumber ds && t.holds value then some value else none

/-- A truth value in any case. -/
def parseBoolean (s : List Char) : Option Bool :=
  let word := Text.asciiLower s
  if word = "true".toList then some true
  else if word = "false".toList then some false
  else none

/-- The exponent of a decimal number: none, or its mark, a sign or none, and digits. -/
def parseExponent : List Char → Option Int
  | [] => some 0
  | c :: rest =>
    if c = 'e' || c = 'E' then
      let (negative, ds) := match rest with
        | '-' :: ds => (true, ds)
        | '+' :: ds => (false, ds)
        | ds => (false, ds)
      if isNumber ds then some (if negative then -(number ds : Int) else number ds) else none
    else none

/-- The bits of a floating point number: a sign or none, then a decimal number or the name of
infinity or of what is no number. -/
def parseFloat (f : BinaryFormat) (s : List Char) : Option Nat :=
  let (negative, s) := match s with
    | '-' :: rest => (true, rest)
    | '+' :: rest => (false, rest)
    | _ => (false, s)
  let word := Text.asciiLower s
  if word = "nan".toList then some (f.withSign negative f.nanBits)
  else if word = "inf".toList || word = "infinity".toList then
    some (f.withSign negative f.infinityBits)
  else
    let before := s.takeWhile Char.isDigit
    let (after, rest) := match s.dropWhile Char.isDigit with
      | '.' :: rest => (rest.takeWhile Char.isDigit, rest.dropWhile Char.isDigit)
      | rest => ([], rest)
    if before.isEmpty && after.isEmpty then none
    else (parseExponent rest).map fun e =>
      f.ofScientific negative (number (before ++ after)) (e - after.length)

/-! ## Dates and timestamps -/

/-- The date of year, month and day, if the calendar has it. -/
def date? (year month day : List Char) : Option Date :=
  let d : Date := ⟨number year, number month, number day⟩
  if d.Valid then some d else none

/-- The time of day of hour, minute and second; the second may be a leap second. -/
def clock? (hour minute second fraction : List Char) : Option ClockTime :=
  let t : ClockTime :=
    ⟨number hour, number minute, number second,
      number (fraction.take 9) * Nat.pow 10 (9 - min fraction.length 9)⟩
  if t.hour < 24 && t.minute < 60 && t.second ≤ 60 then some t else none

/-- The time of day at the start of a text, and what follows it. -/
def clockPart (s : List Char) : Option (ClockTime × List Char) :=
  match s with
  | h₁ :: h₂ :: ':' :: m₁ :: m₂ :: ':' :: s₁ :: s₂ :: rest =>
    if isNumber [h₁, h₂, m₁, m₂, s₁, s₂] then
      match rest with
      | '.' :: rest =>
        let fraction := rest.takeWhile Char.isDigit
        if fraction.isEmpty then none
        else (clock? [h₁, h₂] [m₁, m₂] [s₁, s₂] fraction).map (·, rest.dropWhile Char.isDigit)
      | rest => (clock? [h₁, h₂] [m₁, m₂] [s₁, s₂] []).map (·, rest)
    else none
  | h₁ :: h₂ :: m₁ :: m₂ :: s₁ :: s₂ :: rest =>
    if isNumber [h₁, h₂, m₁, m₂, s₁, s₂] && !(rest.take 2).any Char.isDigit then
      (clock? [h₁, h₂] [m₁, m₂] [s₁, s₂] []).map (·, rest)
    else none
  | _ => none

/-- Seconds to the east that an offset of hours and minutes stands for, less than a day. -/
def offset? (s : List Char) : Option Int :=
  let seconds? (sign : Char) (h m : List Char) : Option Int :=
    let seconds := number h * 3600 + number m * 60
    if isNumber (h ++ m) && seconds < 86400 then
      if sign = '+' then some seconds else if sign = '-' then some (-(seconds : Int)) else none
    else none
  match s with
  | [sign, h₁, h₂, ':', m₁, m₂] => seconds? sign [h₁, h₂] [m₁, m₂]
  | [sign, h₁, h₂, m₁, m₂] => seconds? sign [h₁, h₂] [m₁, m₂]
  | [sign, h₁, h₂] => seconds? sign [h₁, h₂] ['0', '0']
  | _ => none

/-- What a timestamp ends with: nothing or a `Z` for universal time, or an offset. -/
def zone? (s : List Char) : Option Int :=
  match s with
  | [] => some 0
  | ['Z'] | ['z'] => some 0
  | s => offset? (Text.trimStart s)

/-- A date, or a date and a time of day, in universal time unless an offset follows. -/
def parseMoment (s : List Char) : Option Moment :=
  match s with
  | y₁ :: y₂ :: y₃ :: y₄ :: '-' :: m₁ :: m₂ :: '-' :: d₁ :: d₂ :: rest => do
    if !isNumber [y₁, y₂, y₃, y₄, m₁, m₂, d₁, d₂] then none
    let date ← date? [y₁, y₂, y₃, y₄] [m₁, m₂] [d₁, d₂]
    match rest with
    | [] => some (Moment.ofDateTime date ⟨0, 0, 0, 0⟩)
    | separator :: rest =>
      if !(separator = 'T' || separator = 't' || separator = ' ') then none
      let (clock, rest) ← clockPart rest
      let offset ← zone? rest
      some ((Moment.ofDateTime date clock).shift (-offset))
  | _ => none

/-- Whether at most the given number of characters follow, none of them a digit. -/
def endsWithin (count : Nat) (s : List Char) : Bool :=
  s.length ≤ count && !s.any Char.isDigit

/-- A date of at most ten octets: eight digits, or year, month and day with one or two digits for
the last two.  Characters after the day that are no digits are passed over. -/
def parseShortDate (s : List Char) : Option Date :=
  match s with
  | y₁ :: y₂ :: y₃ :: y₄ :: '-' :: rest =>
    if !isNumber [y₁, y₂, y₃, y₄] then none
    else
      match rest with
      | m₁ :: m₂ :: '-' :: d₁ :: d₂ :: [] =>
        if isNumber [m₁, m₂, d₁, d₂] then date? [y₁, y₂, y₃, y₄] [m₁, m₂] [d₁, d₂]
        else if isNumber [m₁, m₂, d₁] then date? [y₁, y₂, y₃, y₄] [m₁, m₂] [d₁]
        else shortMonth [y₁, y₂, y₃, y₄] rest
      | m₁ :: m₂ :: '-' :: d₁ :: [] =>
        if isNumber [m₁, m₂, d₁] then date? [y₁, y₂, y₃, y₄] [m₁, m₂] [d₁]
        else shortMonth [y₁, y₂, y₃, y₄] rest
      | rest => shortMonth [y₁, y₂, y₃, y₄] rest
  | _ =>
    if s.length = 8 && isNumber s then date? (s.take 4) ((s.drop 4).take 2) (s.drop 6) else none
where
  /-- Month and day when the month has one digit. -/
  shortMonth (year : List Char) : List Char → Option Date
    | m :: '-' :: d₁ :: d₂ :: rest =>
      if isNumber [m, d₁, d₂] && endsWithin 1 rest then date? year [m] [d₁, d₂]
      else if isNumber [m, d₁] && endsWithin 2 (d₂ :: rest) then date? year [m] [d₁]
      else none
    | [m, '-', d] => if isNumber [m, d] then date? year [m] [d] else none
    | _ => none

/-- The day number of a date; a longer text is read as a timestamp. -/
def parseDay (s : String) : Option Int :=
  if 10 < s.utf8ByteSize then (parseMoment s.toList).map Moment.day
  else (parseShortDate s.toList).map Date.toDays

/-- The ticks of a timestamp; a count of nanoseconds has to fit 64 bits. -/
def parseTicks (unit : TimeUnit) (s : List Char) : Option Int := do
  let moment ← parseMoment s
  let ticks := moment.toTicks unit.perSecond
  if unit = .nanosecond && !IntegerType.int64.holds ticks then none else some ticks

end CellText

/-- The cell that a text stands for in a column of the given type. -/
def parseCell (type : ColumnType) (s : String) : Option Cell :=
  if s = "" then some .null
  else
    match type with
    | .null => some .null
    | .boolean => (CellText.parseBoolean s.toList).map .boolean
    | .integer t => (CellText.parseInteger t s.toList).map .integer
    | .float .float32 => (CellText.parseFloat .binary32 s.toList).map .float
    | .float .float64 => (CellText.parseFloat .binary64 s.toList).map .float
    | .text | .largeText => some (.text s)
    | .date32 => (CellText.parseDay s).map .integer
    | .timestamp unit _ => (CellText.parseTicks unit s.toList).map .integer
    | .date64 | .other _ => none

end RootedStorage.Csv
