/-!
# Civil dates

Dates of the proleptic Gregorian calendar and their day numbers, counted from 1970-01-01.  The
conversions count in years that begin on the first of March, so that a leap day is the last day of
its year, and in eras of 400 years, which all have the same length.
-/

namespace RootedStorage

/-- A date of the calendar. -/
structure Date where
  year : Int
  month : Nat
  day : Nat
  deriving DecidableEq, Repr, Inhabited

namespace Date

/-- Whether a year has a leap day. -/
def isLeap (year : Int) : Bool := year % 4 = 0 && (year % 100 ≠ 0 || year % 400 = 0)

/-- The number of days of a month. -/
def monthLength (year : Int) (month : Nat) : Nat :=
  match month with
  | 2 => if isLeap year then 29 else 28
  | 4 | 6 | 9 | 11 => 30
  | _ => 31

/-- The month is one of twelve and has the day. -/
def Valid (d : Date) : Prop :=
  1 ≤ d.month ∧ d.month ≤ 12 ∧ 1 ≤ d.day ∧ d.day ≤ monthLength d.year d.month

instance (d : Date) : Decidable d.Valid := inferInstanceAs (Decidable (_ ∧ _ ∧ _ ∧ _))

/-- Days of a year that begins in March before its month with the given index. -/
def daysBeforeMonth (index : Int) : Int := (153 * index + 2) / 5

/-- The number of days from 1970-01-01 to the date. -/
def toDays (d : Date) : Int :=
  let index : Int := if 3 ≤ d.month then d.month - 3 else d.month + 9
  let year := if 3 ≤ d.month then d.year else d.year - 1
  let era := year / 400
  let yearOfEra := year - era * 400
  let dayOfYear := daysBeforeMonth index + d.day - 1
  let dayOfEra := yearOfEra * 365 + yearOfEra / 4 - yearOfEra / 100 + dayOfYear
  era * 146097 + dayOfEra - 719468

/-- The date that lies the given number of days after 1970-01-01. -/
def ofDays (days : Int) : Date :=
  let shifted := days + 719468
  let era := shifted / 146097
  let dayOfEra := shifted - era * 146097
  let yearOfEra :=
    (dayOfEra - dayOfEra / 1460 + dayOfEra / 36524 - dayOfEra / 146096) / 365
  let dayOfYear := dayOfEra - (365 * yearOfEra + yearOfEra / 4 - yearOfEra / 100)
  let index := (5 * dayOfYear + 2) / 153
  let month := if index < 10 then index + 3 else index - 9
  let year := yearOfEra + era * 400
  { year := if month ≤ 2 then year + 1 else year
    month := month.toNat
    day := (dayOfYear - daysBeforeMonth index + 1).toNat }

/-- Whether the day with this number lies in the years from -262143 to 262142. -/
def inRange (days : Int) : Bool := -96465292 ≤ days && days ≤ 95026236

/-- Decimal digits with zeros in front up to a least count. -/
def padded (count n : Nat) : List Char :=
  let ds := Nat.toDigits 10 n
  List.replicate (count - ds.length) '0' ++ ds

/-- A year: four digits, with a sign when it lies outside 0 to 9999. -/
def yearText (year : Int) : List Char :=
  if 0 ≤ year && year ≤ 9999 then padded 4 year.toNat
  else (if year < 0 then '-' else '+') :: padded 4 year.natAbs

/-- The date as year, month and day. -/
def chars (d : Date) : List Char :=
  yearText d.year ++ '-' :: padded 2 d.month ++ '-' :: padded 2 d.day

end Date

end RootedStorage
