import RootedStorage.Calendar.Moment
import RootedStorage.Text.Blank

/-!
# Date and time of the Internet

Reading a moment from a date, a time of day and an offset.  White space may stand between the parts,
years may have a sign and any number of digits after it, and the offset may be spelled in several
ways.  The first part that cannot be read decides the fault.
-/

namespace RootedStorage

/-- Why a text is no moment. -/
inductive MomentFault where
  | outOfRange
  | impossible
  | tooShort
  | invalid
  | tooLong
  deriving DecidableEq, Repr

/-- The fault in words. -/
def MomentFault.message : MomentFault → String
  | outOfRange => "input is out of range"
  | impossible => "no possible date and time matching input"
  | tooShort => "premature end of input"
  | invalid => "input contains invalid characters"
  | tooLong => "trailing input"

namespace Moment.Internet

/-- A number of at most `limit` digits, or of any number of digits. -/
def number (limit : Option Nat) (s : List Char) : Except MomentFault (Int × List Char) :=
  let ds := match limit with
    | some n => (s.take n).takeWhile Char.isDigit
    | none => s.takeWhile Char.isDigit
  let value := Nat.ofDigitChars 10 ds 0
  if s.isEmpty then .error .tooShort
  else if ds.isEmpty then .error .invalid
  else if Nat.pow 2 63 ≤ value then .error .outOfRange
  else .ok (value, s.drop ds.length)

/-- A character that has to stand next, after white space. -/
def literal (c : Char) (s : List Char) : Except MomentFault (List Char) :=
  match Text.trimStart s with
  | [] => .error .tooShort
  | d :: rest => if c = d then .ok rest else .error .invalid

/-- A number between two bounds, after white space. -/
def field (least greatest : Int) (s : List Char) : Except MomentFault (Nat × List Char) := do
  let (n, rest) ← number (some 2) (Text.trimStart s)
  if least ≤ n && n ≤ greatest then .ok (n.toNat, rest) else .error .outOfRange

/-- A year: four digits, or a sign and any number of digits. -/
def year (s : List Char) : Except MomentFault (Int × List Char) := do
  let (n, rest) ← match Text.trimStart s with
    | '-' :: rest => (number none rest).map fun x => (-x.1, x.2)
    | '+' :: rest => number none rest
    | s => number (some 4) s
  if -(Nat.pow 2 31 : Int) ≤ n && n < Nat.pow 2 31 then .ok (n, rest) else .error .outOfRange

/-- A fraction of a second, cut to nanoseconds. -/
def fraction (s : List Char) : Except MomentFault (Nat × List Char) :=
  match s with
  | '.' :: s => do
    let (n, rest) ← number (some 9) s
    .ok (n.toNat * Nat.pow 10 (9 - (s.length - rest.length)), rest.dropWhile Char.isDigit)
  | s => .ok (0, s)

/-- Two digits. -/
def twoDigits (s : List Char) : Except MomentFault ((Char × Char) × List Char) :=
  match s with
  | [] => .error .tooShort
  | [c] => if c.utf8Size < 2 then .error .tooShort else .error .invalid
  | a :: b :: rest => if a.isDigit && b.isDigit then .ok ((a, b), rest) else .error .invalid

/-- The value of two digits. -/
def pairValue (p : Char × Char) : Nat := (p.1.toNat - 48) * 10 + (p.2.toNat - 48)

/-- The clock's distance from universal time in seconds to the east. -/
def offset (s : List Char) : Except MomentFault (Int × List Char) :=
  match s with
  | 'Z' :: rest => .ok (0, rest)
  | 'z' :: rest => .ok (0, rest)
  | [] => .error .tooShort
  | sign :: rest =>
    if (s.take 3).map Char.toUpper = "UTC".toList then .ok (0, s.drop 3)
    else if sign = '+' || sign = '-' || sign = '−' then do
      let (hours, rest) ← twoDigits rest
      let (minutes, rest) ←
        twoDigits (rest.dropWhile fun c => c = ':' || Text.isBlank c)
      if '6' ≤ minutes.1 then .error .outOfRange
      else
        let seconds : Int := pairValue hours * 3600 + pairValue minutes * 60
        .ok (if sign = '+' then seconds else -seconds, rest)
    else .error .invalid

/-- The moment that a text stands for. -/
def parse (s : List Char) : Except MomentFault Moment := do
  let (y, s) ← year s
  let s ← literal '-' s
  let (month, s) ← field 1 12 s
  let s ← literal '-' s
  let (day, s) ← field 1 31 s
  let s ← match s with
    | [] => .error .tooShort
    | c :: rest =>
      if c = 'T' || c = 't' || c = ' ' then .ok rest else .error .invalid
  let (hour, s) ← field 0 23 s
  let s ← literal ':' s
  let (minute, s) ← field 0 59 s
  let s ← literal ':' s
  let (second, s) ← field 0 60 s
  let (nanosecond, s) ← fraction s
  let (east, s) ← offset (Text.trimStart s)
  if !(Text.trimStart s).isEmpty then .error .tooLong
  let date : Date := ⟨y, month, day⟩
  if !(decide date.Valid && Date.inRange date.toDays) then .error .outOfRange
  if 86400 ≤ east.natAbs then .error .outOfRange
  let moment := (Moment.ofDateTime date ⟨hour, minute, second, nanosecond⟩).shift (-east)
  if Date.inRange moment.day then .ok moment else .error .impossible

end Moment.Internet

/-- The moment in universal time. -/
def Moment.universalText (m : Moment) : String := String.ofList (m.chars ++ ['Z'])

end RootedStorage
