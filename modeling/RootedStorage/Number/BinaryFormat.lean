/-!
# Binary floating point formats

Numbers of a binary format are kept as their bits.  `decode` reads bits as a class of value, and
`ofScientific` gives the bits of the number of the format that is nearest to a decimal number;
of two numbers equally near it takes the one with an even last place.
-/

namespace RootedStorage

/-- An interchange format: the bits of the significand, the leading one included, and the bits of
the exponent. -/
structure BinaryFormat where
  precision : Nat
  exponentBits : Nat
  deriving DecidableEq, Repr

/-- What the bits of a format stand for.  The magnitude of a finite number is
`significand * 2 ^ exponent`. -/
inductive BinaryValue where
  | nan
  | infinite (negative : Bool)
  | finite (negative : Bool) (significand : Nat) (exponent : Int)
  deriving DecidableEq, Repr

namespace BinaryFormat

/-- The format of 32 bits. -/
def binary32 : BinaryFormat := ⟨24, 8⟩

/-- The format of 64 bits. -/
def binary64 : BinaryFormat := ⟨53, 11⟩

/-- The value of the last place of the least numbers, as an exponent of two. -/
def leastExponent (f : BinaryFormat) : Int :=
  3 - (Nat.pow 2 (f.exponentBits - 1) : Nat) - f.precision

/-- The value of the sign bit. -/
def signBit (f : BinaryFormat) : Nat := Nat.pow 2 (f.precision + f.exponentBits - 1)

/-- The bits of positive infinity. -/
def infinityBits (f : BinaryFormat) : Nat :=
  (Nat.pow 2 f.exponentBits - 1) * Nat.pow 2 (f.precision - 1)

/-- The bits of the quiet value that is no number. -/
def nanBits (f : BinaryFormat) : Nat := f.infinityBits + Nat.pow 2 (f.precision - 2)

/-- What the given bits stand for. -/
def decode (f : BinaryFormat) (bits : Nat) : BinaryValue :=
  let fraction := bits % Nat.pow 2 (f.precision - 1)
  let exponent := bits / Nat.pow 2 (f.precision - 1) % Nat.pow 2 f.exponentBits
  let negative := bits / f.signBit % 2 = 1
  if exponent = Nat.pow 2 f.exponentBits - 1 then
    if fraction = 0 then .infinite negative else .nan
  else if exponent = 0 then .finite negative fraction f.leastExponent
  else .finite negative (fraction + Nat.pow 2 (f.precision - 1)) (f.leastExponent + exponent - 1)

/-- A fraction times a power of two, as numerator and denominator. -/
def scaleByPow2 (num den : Nat) (e : Int) : Nat × Nat :=
  if 0 ≤ e then (num * Nat.pow 2 e.toNat, den) else (num, den * Nat.pow 2 (-e).toNat)

/-- The quotient rounded to the nearest whole number, a half to the even neighbour. -/
def roundHalfEven (num den : Nat) : Nat :=
  let q := num / den
  let twice := 2 * (num % den)
  if twice < den then q else if den < twice then q + 1 else q + q % 2

/-- The exponent of the power of two at or below the fraction `num / den`. -/
def floorLog2 (num den : Nat) : Int :=
  let guess : Int := (num.log2 : Int) - den.log2
  let (n, d) := scaleByPow2 num den (-guess)
  if n < d then guess - 1 else guess

/-- The bits of the magnitude nearest to `num / den`; too large ones become infinity. -/
def ofRatio (f : BinaryFormat) (num den : Nat) : Nat :=
  if num = 0 then 0
  else
    let exponent := max (floorLog2 num den - (f.precision - 1 : Nat)) f.leastExponent
    let (n, d) := scaleByPow2 num den (-exponent)
    let significand := roundHalfEven n d
    let bits :=
      if significand < Nat.pow 2 (f.precision - 1) then significand
      else (exponent - f.leastExponent + 1).toNat * Nat.pow 2 (f.precision - 1)
        + (significand - Nat.pow 2 (f.precision - 1))
    min bits f.infinityBits

/-- The bits of a magnitude with its sign. -/
def withSign (f : BinaryFormat) (negative : Bool) (magnitude : Nat) : Nat :=
  if negative then f.signBit + magnitude else magnitude

/-- The bits of the number nearest to `significand * 10 ^ exponent`.  An exponent that decides the
outcome alone is not expanded. -/
def ofScientific (f : BinaryFormat) (negative : Bool) (significand : Nat) (exponent : Int) : Nat :=
  let position : Int := exponent + (significand.log2 * 30103 / 100000 : Nat)
  let magnitude :=
    if significand = 0 then 0
    else if 400 < position then f.infinityBits
    else if position < -400 then 0
    else if 0 ≤ exponent then f.ofRatio (significand * Nat.pow 10 exponent.toNat) 1
    else f.ofRatio significand (Nat.pow 10 (-exponent).toNat)
  f.withSign negative magnitude

end BinaryFormat

end RootedStorage
