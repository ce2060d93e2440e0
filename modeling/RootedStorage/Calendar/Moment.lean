import RootedStorage.Calendar.Date

/-!
# Moments

A moment counts seconds from 1970-01-01T00:00:00 and nanoseconds within the second.  Nanoseconds of
a thousand million and more belong to a leap second, which follows the last second of a minute.
-/

namespace RootedStorage

/-- A point of time. -/
structure Moment where
  seconds : Int
  nanosecond : Nat
  deriving DecidableEq, Repr, Inhabited

/-- A time of day.  The second 60 is a leap second. -/
structure ClockTime where
  hour : Nat
  minute : Nat
  second : Nat
  nanosecond : Nat
  deriving DecidableEq, Repr, Inhabited

namespace ClockTime

/-- Seconds since midnight; a leap second counts as the second before it. -/
def toSeconds (t : ClockTime) : Nat := t.hour * 3600 + t.minute * 60 + min t.second 59

/-- Nanoseconds within the second; those of a leap second follow a full second. -/
def subsecond (t : ClockTime) : Nat :=
  if t.second = 60 then t.nanosecond + 1000000000 else t.nanosecond

/-- The fraction of a second with no, three, six or nine digits, as few as it takes. -/
def fraction (nanosecond : Nat) : List Char :=
  if nanosecond = 0 then []
  else if nanosecond % 1000000 = 0 then '.' :: Date.padded 3 (nanosecond / 1000000)
  else if nanosecond % 1000 = 0 then '.' :: Date.padded 6 (nanosecond / 1000)
  else '.' :: Date.padded 9 nanosecond

/-- Hours, minutes, seconds and the fraction of the second. -/
def chars (t : ClockTime) : List Char :=
  Date.padded 2 t.hour ++ ':' :: Date.padded 2 t.minute ++ ':' :: Date.padded 2 t.second
    ++ fraction t.nanosecond

end ClockTime

namespace Moment

/-- The moment of a date and a time of day. -/
def ofDateTime (d : Date) (t : ClockTime) : Moment :=
  ⟨d.toDays * 86400 + t.toSeconds, t.subsecond⟩

/-- The moment after the given number of ticks. -/
def ofTicks (perSecond : Nat) (ticks : Int) : Moment :=
  ⟨ticks / perSecond, (ticks % perSecond).toNat * (1000000000 / perSecond)⟩

/-- The number of full ticks up to the moment.  A count of seconds stays at the second before a leap
second; finer counts go on into it. -/
def toTicks (perSecond : Nat) (m : Moment) : Int :=
  if perSecond = 1 then m.seconds
  else m.seconds * perSecond + (m.nanosecond / (1000000000 / perSecond) : Nat)

/-- The moment with a clock that is ahead by the given number of seconds. -/
def shift (m : Moment) (seconds : Int) : Moment := ⟨m.seconds + seconds, m.nanosecond⟩

/-- The day number of the moment. -/
def day (m : Moment) : Int := m.seconds / 86400

/-- The date of the moment. -/
def date (m : Moment) : Date := Date.ofDays m.day

/-- The time of day of the moment. -/
def clock (m : Moment) : ClockTime :=
  let s := (m.seconds % 86400).toNat
  let leap := 1000000000 ≤ m.nanosecond
  { hour := s / 3600
    minute := s / 60 % 60
    second := if leap then s % 60 + 1 else s % 60
    nanosecond := if leap then m.nanosecond - 1000000000 else m.nanosecond }

/-- Date and time of day, with a `T` between them. -/
def chars (m : Moment) : List Char := m.date.chars ++ 'T' :: m.clock.chars

end Moment

/-- A clock's distance from universal time, in seconds to the east. -/
def offsetChars (offset : Int) : List Char :=
  if offset = 0 then ['Z']
  else
    let minutes := offset.natAbs / 60
    (if offset < 0 then '-' else '+') :: Date.padded 2 (minutes / 60) ++ ':'
      :: Date.padded 2 (minutes % 60)

end RootedStorage
