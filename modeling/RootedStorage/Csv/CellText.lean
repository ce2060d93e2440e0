import RootedStorage.Calendar.Moment
import RootedStorage.Csv.CellParser
import RootedStorage.Number.Notation

/-!
# Writing the cells of a CSV text

Each type has a written form for its cells.  Nulls are empty.  Dates and timestamps that lie outside
the range of the calendar have no written form, and neither have cells of nested types.
-/

namespace RootedStorage.Csv

namespace CellText

/-- Floating point numbers of 64 bits. -/
def notation64 : FloatNotation where
  wholeDigits := 16
  leadingZeros := 5
  exponentPlus := false
  exponentDigits := 1
  nan := "NaN"
  infinity := "inf"

/-- Floating point numbers of 32 bits. -/
def notation32 : FloatNotation := { notation64 with wholeDigits := 13, leadingZeros := 6 }

/-- The offset of a zone that is given as hours and minutes. -/
def zoneOffset? (zone : String) : Option Int := offset? zone.toList

/-- A moment of universal time. -/
def momentText (m : Moment) : Option String :=
  if Date.inRange m.day then some (String.ofList m.chars) else none

/-- A timestamp: date and time of day, followed by the offset if the column has a zone. -/
def timestampText (unit : TimeUnit) (zone : Option String) (ticks : Int) : Option String :=
  let m := Moment.ofTicks unit.perSecond ticks
  match zone with
  | none => momentText m
  | some zone =>
    match zoneOffset? zone, Date.inRange m.day with
    | some offset, true =>
      some (String.ofList ((m.shift offset).chars ++ offsetChars offset))
    | _, _ => none

/-- A date. -/
def dateText (days : Int) : Option String :=
  if Date.inRange days then some (String.ofList (Date.ofDays days).chars) else none

end CellText

/-- Whether a column of the type can be written at all. -/
def isWritable : ColumnType → Bool
  | .other _ => false
  | .timestamp _ (some zone) => (CellText.zoneOffset? zone).isSome
  | _ => true

/-- The text of a cell in a column of the given type. -/
def cellText (type : ColumnType) (cell : Cell) : Option String :=
  match cell with
  | .null => some ""
  | .boolean b => some (if b then "true" else "false")
  | .text s => some s
  | .float bits =>
    match type with
    | .float .float32 => some (CellText.notation32.write .binary32 bits)
    | _ => some (CellText.notation64.write .binary64 bits)
  | .integer n =>
    match type with
    | .date32 => CellText.dateText n
    | .date64 => CellText.momentText (Moment.ofTicks 1000 n)
    | .timestamp unit zone => CellText.timestampText unit zone n
    | _ => some (toString n)

end RootedStorage.Csv
