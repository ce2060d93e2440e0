import RootedStorage.Number.BinaryFormat

/-!
# Shortest decimals of binary numbers

The decimal with the fewest digits among those that read back as a given binary number, and of
those the nearest.  The numbers that read back form an interval around the binary number, and for
one digit after another the two neighbours on that decimal grid are tested against it.
-/

namespace RootedStorage.Shortest

/-- An interval around a point, all three over one denominator; `closed` says whether the ends
belong to it. -/
structure Interval where
  low : Nat
  point : Nat
  high : Nat
  den : Nat
  closed : Bool
  deriving Repr

/-- A decimal number: `digits * 10 ^ exponent`. -/
structure Decimal where
  digits : Nat
  exponent : Int
  deriving DecidableEq, Repr, Inhabited

/-- The numbers that round to `significand * 2 ^ exponent`. -/
def interval (f : BinaryFormat) (significand : Nat) (exponent : Int) : Interval :=
  let (unit, den) := BinaryFormat.scaleByPow2 1 1 (exponent - 2)
  let below :=
    if significand = Nat.pow 2 (f.precision - 1) && f.leastExponent < exponent then 1 else 2
  { low := (4 * significand - below) * unit
    point := 4 * significand * unit
    high := (4 * significand + 2) * unit
    den
    closed := significand % 2 = 0 }

/-- How many decimal digits a whole number has. -/
def digitCount (n : Nat) : Nat := (Nat.toDigits 10 n).length

/-- The exponent of the power of ten just above `num / den`, which is positive. -/
def position (num den : Nat) : Int :=
  if den ≤ num then digitCount (num / den)
  else
    let count := digitCount (den / num)
    if den ≤ num * Nat.pow 10 (count - 1) then 2 - (count : Int) else 1 - (count : Int)

namespace Interval

/-- Whether `d * 10 ^ e` lies in the interval. -/
def contains (i : Interval) (d : Nat) (e : Int) : Bool :=
  let (n, den) := if 0 ≤ e then (d * Nat.pow 10 e.toNat, 1) else (d, Nat.pow 10 (-e).toNat)
  let x := n * i.den
  let low := i.low * den
  let high := i.high * den
  if i.closed then low ≤ x && x ≤ high else low < x && x < high

/-- Whether `d + 1` is nearer to the point than `d` on the grid of `10 ^ e`; the even one of two
that are equally near counts as nearer. -/
def upperIsNearer (i : Interval) (d : Nat) (e : Int) : Bool :=
  let (step, den) := if 0 ≤ e then (Nat.pow 10 e.toNat, 1) else (1, Nat.pow 10 (-e).toNat)
  let middle := (2 * d + 1) * step * i.den
  let point := 2 * i.point * den
  if point = middle then d % 2 = 1 else middle < point

/-- The point of the grid `10 ^ e` that lies in the interval and is nearest to its point. -/
def onGrid (i : Interval) (e : Int) : Option Decimal :=
  let d :=
    if 0 ≤ e then i.point / (i.den * Nat.pow 10 e.toNat)
    else i.point * Nat.pow 10 (-e).toNat / i.den
  match i.contains d e, i.contains (d + 1) e with
  | true, true => some ⟨if i.upperIsNearer d e then d + 1 else d, e⟩
  | true, false => some ⟨d, e⟩
  | false, true => some ⟨d + 1, e⟩
  | false, false => none

/-- The first grid with a point in the interval, from a given grid to finer ones. -/
def search (i : Interval) : Nat → Int → Decimal
  | 0, e => ⟨i.point * Nat.pow 10 (-e).toNat / i.den, e⟩
  | n + 1, e => (i.onGrid e).getD (i.search n (e - 1))

end Interval

/-- The same decimal without zeros at the end of its digits. -/
def stripZeros : Nat → Decimal → Decimal
  | 0, x => x
  | n + 1, x =>
    if x.digits % 10 = 0 && x.digits ≠ 0 then stripZeros n ⟨x.digits / 10, x.exponent + 1⟩ else x

/-- The shortest decimal that reads back as the positive number `significand * 2 ^ exponent`. -/
def decimal (f : BinaryFormat) (significand : Nat) (exponent : Int) : Decimal :=
  let i := interval f significand exponent
  let x := i.search 20 (position i.point i.den - 1)
  stripZeros 20 x

end RootedStorage.Shortest
