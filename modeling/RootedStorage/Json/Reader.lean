import RootedStorage.Json.Fault
import RootedStorage.Text.Utf8

/-!
# Reading JSON texts

A reader takes a value off the front of a text.  It either gives the value and what is left, or a
fault.  A fault of the text's form has a place at once; a fault of its content gets the place that
the reader of the enclosing value has come to (`Step.placed`).

Places are kept as the number of octets that are left, so that no reader needs to know what it has
read before; `Error.ofFailure` turns them into lines and columns.
-/

namespace RootedStorage.Json

/-- What a reader gives: a value and the rest of the text, or a fault, its place if it has one, and
the rest at which reading stopped. -/
inductive Step (α : Type) where
  | value (a : α) (rest : Bytes)
  | failure (fault : Fault) (place : Option Nat) (rest : Bytes)
  deriving Repr

/-- A reader of values. -/
abbrev Reader (α : Type) := Bytes → Step α

namespace Step

variable {α β : Type}

/-- Goes on with the value and the rest. -/
def andThen (s : Step α) (next : α → Reader β) : Step β :=
  match s with
  | value a rest => next a rest
  | failure fault place rest => failure fault place rest

/-- Changes the value. -/
def map (f : α → β) (s : Step α) : Step β := s.andThen fun a rest => value (f a) rest

/-- Gives a fault without a place the place that reading has come to. -/
def placed : Step α → Step α
  | failure fault none rest => failure fault (some rest.length) rest
  | s => s

end Step

/-- A fault at the place that reading has come to. -/
def failHere {α : Type} (fault : Fault) (rest : Bytes) : Step α :=
  .failure fault (some rest.length) rest

/-- A fault at the octet that is next. -/
def failNext {α : Type} (fault : Fault) (rest : Bytes) : Step α :=
  .failure fault (some (rest.length - 1)) rest

/-- A fault whose place is not known yet. -/
def failLater {α : Type} (fault : Fault) (rest : Bytes) : Step α := .failure fault none rest

namespace Fault

/-- The text ends where a value is expected. -/
def endOfValue : Fault := endOfText "a value"

/-- The text ends inside a list. -/
def endOfList : Fault := endOfText "a list"

/-- The text ends inside an object. -/
def endOfObject : Fault := endOfText "an object"

/-- The text ends inside a string. -/
def endOfString : Fault := endOfText "a string"

/-- No value begins here. -/
def noValue : Fault := expected "value"

end Fault

/-- Whether an octet is white space. -/
def isSpace (b : UInt8) : Bool := b = 32 || b = 10 || b = 9 || b = 13

/-- The text without white space at its front. -/
def skip (s : Bytes) : Bytes := s.dropWhile isSpace

/-- The octet of an ASCII character. -/
def octet (c : Char) : UInt8 := c.toNat.toUInt8

/-- Whether an octet is a decimal digit. -/
def isDigit (b : UInt8) : Bool := 48 ≤ b && b ≤ 57

/-- The value of a decimal digit. -/
def digit (b : UInt8) : Nat := b.toNat - 48

/-- The rest of a literal word. -/
def word : List Char → Reader Unit
  | [], s => .value () s
  | _ :: _, [] => failHere .endOfValue []
  | c :: cs, b :: rest =>
    if b = octet c then word cs rest else failHere (.expected "ident") rest

/-! ## Strings -/

/-- The value of a hexadecimal digit. -/
def hexDigit? (b : UInt8) : Option Nat :=
  if isDigit b then some (digit b)
  else if 97 ≤ b && b ≤ 102 then some (b.toNat - 87)
  else if 65 ≤ b && b ≤ 70 then some (b.toNat - 55)
  else none

/-- The four digits of an escaped code unit. -/
def hexEscape : Reader Nat
  | a :: b :: c :: d :: rest =>
    match hexDigit? a, hexDigit? b, hexDigit? c, hexDigit? d with
    | some a, some b, some c, some d => .value (((a * 16 + b) * 16 + c) * 16 + d) rest
    | _, _, _, _ => failHere .invalidEscape rest
  | _ => failHere .endOfString []

/-- The octets of a code point. -/
def pointOctets (n : Nat) : Bytes := String.utf8EncodeChar (Char.ofNat n)

/-- An escaped code point after its `u`: one unit, or two that form a surrogate pair. -/
def unicodeEscape (s : Bytes) : Step Bytes :=
  (hexEscape s).andThen fun n rest =>
    if 0xDC00 ≤ n && n ≤ 0xDFFF then failHere .loneSurrogate rest
    else if n < 0xD800 || 0xDBFF < n then .value (pointOctets n) rest
    else
      match rest with
      | [] => failHere .endOfString []
      | b :: rest =>
        if b ≠ 92 then failHere .shortHexEscape rest
        else
          match rest with
          | [] => failHere .endOfString []
          | b :: rest =>
            if b ≠ 117 then failHere .shortHexEscape rest
            else (hexEscape rest).andThen fun m rest =>
              if m < 0xDC00 || 0xDFFF < m then failHere .loneSurrogate rest
              else .value (pointOctets ((n - 0xD800) * 1024 + (m - 0xDC00) + 0x10000)) rest

/-- The octet that a short escape stands for. -/
def shortEscape? (b : UInt8) : Option UInt8 :=
  if b = 34 then some 34
  else if b = 92 then some 92
  else if b = 47 then some 47
  else if b = 98 then some 8
  else if b = 102 then some 12
  else if b = 110 then some 10
  else if b = 114 then some 13
  else if b = 116 then some 9
  else none

/-- What an escape stands for, after its backslash. -/
def escape : Reader Bytes
  | [] => failHere .endOfString []
  | b :: rest =>
    if b = 117 then unicodeEscape rest
    else
      match shortEscape? b with
      | some c => .value [c] rest
      | none => failHere .invalidEscape rest

/-- The octets of a string up to its closing quote.  The fuel bounds the number of pieces; `before`
are the octets so far, the last one first. -/
def stringFrom : Nat → Bytes → Reader Bytes
  | 0, _, s => failHere .endOfString s
  | fuel + 1, before, s =>
    match s with
    | [] => failHere .endOfString []
    | b :: rest =>
      if b = 34 then .value before.reverse rest
      else if b = 92 then
        (escape rest).andThen fun piece rest => stringFrom fuel (piece.reverse ++ before) rest
      else if b < 32 then failHere .controlCharacter rest
      else stringFrom fuel (b :: before) rest

/-- A string after its opening quote. -/
def stringBody (s : Bytes) : Step String :=
  (stringFrom (s.length + 1) [] s).map fun bytes => (Utf8.decode? bytes).getD ""

/-! ## Numbers -/

/-- A number: whole if it is written without point and exponent and fits 64 bits, with a sign or
without. -/
inductive Number where
  | whole (value : Int)
  | float (bits : Nat)
  deriving DecidableEq, Repr

/-- The magnitude of `bits` times or divided by a power of ten, each rounded to 64 bits. -/
def scaleBits (bits : Nat) (exponent : Int) : Nat :=
  let f := BinaryFormat.binary64
  match f.decode bits, f.decode (f.ofRatio (Nat.pow 10 exponent.natAbs) 1) with
  | .finite _ m e, .finite _ p q =>
    let (n, d) := BinaryFormat.scaleByPow2 m 1 e
    let (a, b) := BinaryFormat.scaleByPow2 p 1 q
    if 0 ≤ exponent then f.ofRatio (n * a) (d * b) else f.ofRatio (n * b) (d * a)
  | _, _ => f.infinityBits

/-- The number `bits * 10 ^ exponent`, in steps of at most 308 powers of ten; `none` if it is too
large. -/
def scaleSteps : Nat → Nat → Int → Option Nat
  | 0, bits, _ => some bits
  | fuel + 1, bits, exponent =>
    if exponent.natAbs ≤ 308 then
      let scaled := scaleBits bits exponent
      if scaled = BinaryFormat.binary64.infinityBits then none else some scaled
    else if bits = 0 then some 0
    else if 0 ≤ exponent then none
    else scaleSteps fuel (scaleBits bits (-308)) (exponent + 308)

/-- The floating point number of a significand and an exponent of ten. -/
def floatOf (negative : Bool) (significand : Nat) (exponent : Int) (rest : Bytes) :
    Step Number :=
  let f := BinaryFormat.binary64
  match scaleSteps 8 (f.ofRatio significand 1) exponent with
  | some bits => .value (.float (f.withSign negative bits)) rest
  | none => failHere .numberOutOfRange rest

/-- The digits at the front of a text. -/
def digitsOf (s : Bytes) : List Nat := (s.takeWhile isDigit).map digit

/-- What follows the digits at the front of a text. -/
def afterDigits (s : Bytes) : Bytes := s.dropWhile isDigit

/-- Appends digits to a significand as long as it fits 64 bits, and counts those that are left. -/
def accumulate : Nat → List Nat → Nat × Nat
  | n, [] => (n, 0)
  | n, d :: ds =>
    if n * 10 + d < Nat.pow 2 64 then accumulate (n * 10 + d) ds else (n, ds.length + 1)

/-- How the digits of an exponent end: below 2 ^ 31, or too large after the given number of
them. -/
def exponentDigits : Nat → Nat → List Nat → Except Nat Nat
  | n, _, [] => .ok n
  | n, count, d :: ds =>
    if n * 10 + d < Nat.pow 2 31 then exponentDigits (n * 10 + d) (count + 1) ds
    else .error (count + 1)

/-- The exponent of a number, after its mark. -/
def exponentPart (negative : Bool) (significand : Nat) (exponent : Int) (s : Bytes) :
    Step Number :=
  let (down, s) := match s with
    | 43 :: rest => (false, rest)
    | 45 :: rest => (true, rest)
    | _ => (false, s)
  match s with
  | [] => failHere .endOfValue []
  | b :: rest =>
    if !isDigit b then failHere .invalidNumber rest
    else
      match exponentDigits (digit b) 0 (digitsOf rest) with
      | .ok e =>
        floatOf negative significand (if down then exponent - e else exponent + e)
          (afterDigits rest)
      | .error count =>
        if significand ≠ 0 && !down then failHere .numberOutOfRange (rest.drop count)
        else .value (.float (BinaryFormat.binary64.withSign negative 0)) (afterDigits rest)

/-- What may follow the digits of a significand: an exponent or nothing. -/
def afterSignificand (negative : Bool) (significand : Nat) (exponent : Int) (s : Bytes) :
    Step Number :=
  match s with
  | b :: rest =>
    if b = 101 || b = 69 then exponentPart negative significand exponent rest
    else floatOf negative significand exponent s
  | [] => floatOf negative significand exponent s

/-- The digits after the point of a number.  Those that do not fit the significand are passed over.
-/
def fractionPart (negative : Bool) (significand : Nat) (exponent : Int) (s : Bytes) :
    Step Number :=
  let ds := digitsOf s
  if ds.isEmpty then
    if s.isEmpty then failNext .endOfValue s else failNext .invalidNumber s
  else
    let (n, unread) := accumulate significand ds
    afterSignificand negative n (exponent - (ds.length - unread : Nat)) (afterDigits s)

/-- A number after its sign. -/
def numberBody (negative : Bool) : Reader Number
  | [] => failHere .endOfValue []
  | b :: rest =>
    if !isDigit b then failHere .invalidNumber rest
    else if b = 48 && (rest.head?.map isDigit).getD false then failNext .invalidNumber rest
    else
      let ds := if b = 48 then [] else digitsOf rest
      let after := if b = 48 then rest else afterDigits rest
      let (n, unread) := accumulate (digit b) ds
      match after with
      | 46 :: after => fractionPart negative n unread after
      | c :: tail =>
        if c = 101 || c = 69 then exponentPart negative n unread tail
        else wholeOrFloat n unread after
      | [] => wholeOrFloat n unread after
where
  /-- A number without point and exponent. -/
  wholeOrFloat (n unread : Nat) (after : Bytes) : Step Number :=
    if unread ≠ 0 then floatOf negative n unread after
    else if !negative then .value (.whole n) after
    else if n = 0 || Nat.pow 2 63 < n then floatOf true n 0 after
    else .value (.whole (-(n : Int))) after

/-- The number as a found value. -/
def Number.found : Number → Found
  | whole n => .integer n
  | float bits => .float bits

/-! ## Values of an unexpected kind -/

/-- The fault that the next value has another kind than the one expected. -/
def unexpected {α : Type} (wanted : String) (s : Bytes) : Step α :=
  let wrong (found : Found) (rest : Bytes) : Step α :=
    failHere (.invalidType found wanted) rest
  match s with
  | [] => failNext .noValue []
  | b :: rest =>
    if b = octet 'n' then (word "ull".toList rest).andThen fun _ => wrong .null
    else if b = octet 't' then (word "rue".toList rest).andThen fun _ => wrong (.boolean true)
    else if b = octet 'f' then (word "alse".toList rest).andThen fun _ => wrong (.boolean false)
    else if b = 45 then (numberBody true rest).andThen fun n => wrong n.found
    else if isDigit b then (numberBody false s).andThen fun n => wrong n.found
    else if b = 34 then (stringBody rest).andThen fun t => wrong (.string t)
    else if b = 91 then wrong .sequence s
    else if b = 123 then wrong .map s
    else failNext .noValue s

/-! ## Values that are passed over -/

/-- What an escape leaves when its value does not matter. -/
def skipEscape : Reader Unit
  | [] => failHere .endOfString []
  | b :: rest =>
    if b = 117 then (hexEscape rest).map fun _ => ()
    else if (shortEscape? b).isSome then .value () rest
    else failHere .invalidEscape rest

/-- A string after its opening quote, passed over. -/
def skipString : Nat → Reader Unit
  | 0, s => failHere .endOfString s
  | fuel + 1, s =>
    match s with
    | [] => failHere .endOfString []
    | b :: rest =>
      if b = 34 then .value () rest
      else if b = 92 then (skipEscape rest).andThen fun _ rest => skipString fuel rest
      else if b < 32 then failHere .controlCharacter s
      else skipString fuel rest

/-- An exponent after its mark, passed over. -/
def skipExponent (s : Bytes) : Step Unit :=
  let s := match s with
    | 43 :: rest => rest
    | 45 :: rest => rest
    | _ => s
  match s with
  | [] => failHere .invalidNumber []
  | b :: rest =>
    if isDigit b then .value () (afterDigits rest) else failHere .invalidNumber rest

/-- What may follow the digits of a number, passed over. -/
def skipAfterDigits (s : Bytes) : Step Unit :=
  match s with
  | 101 :: rest => skipExponent rest
  | 69 :: rest => skipExponent rest
  | _ => .value () s

/-- A number after its sign, passed over. -/
def skipNumber : Reader Unit
  | [] => failHere .invalidNumber []
  | b :: rest =>
    if !isDigit b then failHere .invalidNumber rest
    else if b = 48 && (rest.head?.map isDigit).getD false then failNext .invalidNumber rest
    else
      let after := if b = 48 then rest else afterDigits rest
      match after with
      | 46 :: fraction =>
        if (digitsOf fraction).isEmpty then failNext .invalidNumber fraction
        else skipAfterDigits (afterDigits fraction)
      | _ => skipAfterDigits after

/-- What stands around a value that is passed over. -/
inductive Frame where
  | list
  | object
  deriving DecidableEq, Repr

/-- A string of an object, its colon, and the white space around them, passed over. -/
def skipKey (s : Bytes) : Step Unit :=
  match skip s with
  | [] => failNext .endOfObject []
  | b :: rest =>
    if b ≠ 34 then failNext .keyNotString (b :: rest)
    else (skipString (rest.length + 1) rest).andThen fun _ rest =>
      match skip rest with
      | [] => failNext .endOfObject []
      | b :: rest => if b = 58 then .value () rest else failNext (.expected "\x60:\x60") (b :: rest)

/-- Leaves the frames that end here; gives those that are still open, or none if all are closed.
`between` says whether a value stands before. -/
def skipEnds : Bool → List Frame → Reader (List Frame)
  | _, [], s => .value [] s
  | between, frame :: outer, s =>
    match skip s with
    | [] => failNext (match frame with | .list => .endOfList | .object => .endOfObject) []
    | b :: rest =>
      if between && b = 44 then .value (frame :: outer) rest
      else if b = (match frame with | .list => 93 | .object => 125) then skipEnds true outer rest
      else if between then
        failNext (match frame with
          | .list => .expected "\x60,\x60 or \x60]\x60"
          | .object => .expected "\x60,\x60 or \x60\x7d\x60") (b :: rest)
      else .value (frame :: outer) (b :: rest)

/-- A value inside the given frames and the rest of the frames, passed over.  The fuel bounds the
number of values. -/
def skipValues : Nat → List Frame → Reader Unit
  | 0, _, s => failHere .noValue s
  | fuel + 1, frames, s =>
    let close (between : Bool) (frames : List Frame) (s : Bytes) : Step Unit :=
      (skipEnds between frames s).andThen fun frames rest =>
        match frames with
        | [] => .value () rest
        | .list :: _ => skipValues fuel frames rest
        | .object :: _ => (skipKey rest).andThen fun _ rest => skipValues fuel frames rest
    match skip s with
    | [] => failNext .endOfValue []
    | b :: rest =>
      let scalar (read : Step Unit) : Step Unit := read.andThen fun _ rest => close true frames rest
      if b = octet 'n' then scalar (word "ull".toList rest)
      else if b = octet 't' then scalar (word "rue".toList rest)
      else if b = octet 'f' then scalar (word "alse".toList rest)
      else if b = 45 then scalar (skipNumber rest)
      else if isDigit b then scalar (skipNumber (b :: rest))
      else if b = 34 then scalar (skipString (rest.length + 1) rest)
      else if b = 91 then close false (.list :: frames) rest
      else if b = 123 then close false (.object :: frames) rest
      else failNext .noValue (b :: rest)

/-- Any value, passed over. -/
def skipValue (s : Bytes) : Step Unit := skipValues (s.length + 1) [] s

end RootedStorage.Json
