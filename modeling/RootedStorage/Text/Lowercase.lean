import RootedStorage.Text.CaseTable

/-!
# Lower case

Full lower-casing of a text.  Every character is mapped by itself except the capital sigma, which
becomes a final sigma at the end of a word.
-/

namespace RootedStorage.Text

/-- The lower case of a letter of ASCII; every other character is kept. -/
def asciiLower (s : List Char) : List Char := s.map Char.toLower

/-- The lower case of one character, without regard to its neighbours. -/
def lowerChar (c : Char) : List Char :=
  if c.toNat < 0x80 then [c.toLower]
  else if c.toNat = 0x130 then ['i', Char.ofNat 0x307]
  else
    match lowerRanges.find? fun r =>
        r.1 ≤ c.toNat && c.toNat ≤ r.2.1 && (c.toNat - r.1) % r.2.2.1 = 0 with
    | some r => [Char.ofNat (c.toNat + r.2.2.2).toNat]
    | none => [c]

/-- Whether the first character that is not passed over is a cased letter. -/
def leadsToCased (s : List Char) : Bool :=
  match s.dropWhile (inRanges caseIgnorable) with
  | [] => false
  | c :: _ => inRanges cased c

/-- Lower-casing of the text that follows `before`, which is kept in reverse order. -/
def lowerFrom (before : List Char) : List Char → List Char
  | [] => []
  | c :: rest =>
    (if c.toNat = 0x3A3 then
      [if leadsToCased before && !leadsToCased rest then Char.ofNat 0x3C2 else Char.ofNat 0x3C3]
    else lowerChar c) ++ lowerFrom (c :: before) rest

/-- The lower case of a text. -/
def lower (s : List Char) : List Char := lowerFrom [] s

/-- The lower case of a string. -/
def lowercase (s : String) : String := String.ofList (lower s.toList)

end RootedStorage.Text
