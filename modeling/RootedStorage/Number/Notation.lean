import RootedStorage.Number.Shortest

/-!
# Written forms of floating point numbers

A written form of a floating point number is its shortest decimal in positional notation for
middling magnitudes and in scientific notation for the others.  Where one ends and the other
begins, and how an exponent is written, is a `FloatNotation`.
-/

namespace RootedStorage

/-- How floating point numbers are written. -/
structure FloatNotation where
  /-- Most digits before the point in positional notation. -/
  wholeDigits : Nat
  /-- Numbers with this many zeros after the point, or more, are written with an exponent. -/
  leadingZeros : Nat
  /-- Whether a positive exponent has a sign. -/
  exponentPlus : Bool
  /-- Fewest digits of an exponent. -/
  exponentDigits : Nat
  nan : String
  infinity : String
  deriving Repr

namespace FloatNotation

/-- A run of zeros. -/
def zeros (n : Nat) : List Char := List.replicate n '0'

/-- Decimal digits with zeros in front up to a least count. -/
def padded (count n : Nat) : List Char :=
  let ds := Nat.toDigits 10 n
  zeros (count - ds.length) ++ ds

/-- The exponent part. -/
def exponent (w : FloatNotation) (e : Int) : List Char :=
  'e' :: (if e < 0 then ['-'] else if w.exponentPlus then ['+'] else [])
    ++ padded w.exponentDigits e.natAbs

/-- A positive decimal. -/
def magnitude (w : FloatNotation) (x : Shortest.Decimal) : List Char :=
  let ds := Nat.toDigits 10 x.digits
  let point : Int := ds.length + x.exponent
  if 0 ≤ x.exponent && point ≤ w.wholeDigits then
    ds ++ zeros x.exponent.toNat ++ ['.', '0']
  else if 0 < point && point ≤ w.wholeDigits then
    ds.take point.toNat ++ '.' :: ds.drop point.toNat
  else if -(w.leadingZeros : Int) < point && point ≤ 0 then
    '0' :: '.' :: zeros (-point).toNat ++ ds
  else
    match ds with
    | [d] => d :: w.exponent (point - 1)
    | d :: rest => d :: '.' :: rest ++ w.exponent (point - 1)
    | [] => []

/-- The number with the given bits. -/
def write (w : FloatNotation) (f : BinaryFormat) (bits : Nat) : String :=
  let sign (negative : Bool) : List Char := if negative then ['-'] else []
  match f.decode bits with
  | .nan => w.nan
  | .infinite negative => String.ofList (sign negative ++ w.infinity.toList)
  | .finite negative significand exponent =>
    String.ofList (sign negative ++
      if significand = 0 then ['0', '.', '0']
      else w.magnitude (Shortest.decimal f significand exponent))

end FloatNotation

end RootedStorage
