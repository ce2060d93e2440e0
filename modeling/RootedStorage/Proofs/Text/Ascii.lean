import RootedStorage.Proofs.Text.Utf8
import RootedStorage.Text.DecimalDigit
import RootedStorage.Text.Lowercase

/-!
# Texts in ASCII

Decimal digits and lower case in ASCII, and the length of a text in octets, which is its length in
characters only in ASCII.
-/

namespace RootedStorage

namespace Text

/-- All characters are of ASCII. -/
def IsAscii (s : List Char) : Prop := ∀ c ∈ s, c.toNat < 128

instance (s : List Char) : Decidable (IsAscii s) :=
  List.decidableBAll (fun c : Char => c.toNat < 128) s

/-- A text is ASCII if its first character and the others are. -/
theorem isAscii_cons {c : Char} {s : List Char} :
    IsAscii (c :: s) ↔ c.toNat < 128 ∧ IsAscii s :=
  List.forall_mem_cons

/-- A text is ASCII if both its parts are. -/
theorem isAscii_append {s t : List Char} : IsAscii (s ++ t) ↔ IsAscii s ∧ IsAscii t :=
  List.forall_mem_append

/-- The digits of ASCII are the decimal digits among its characters. -/
theorem isDigit_iff {c : Char} :
    c.isDigit = true ↔ isDecimalDigit c = true ∧ c.toNat < 128 := by
  constructor
  · intro h
    have hrange : 48 ≤ c.toNat ∧ c.toNat ≤ 57 := Char.isDigit_iff_toNat.1 h
    exact ⟨isDecimalDigit_of_isDigit h, by omega⟩
  · rintro ⟨h, hascii⟩
    have hfirst : ∀ r ∈ decimalDigits, r.1 < 128 → r = (0x30, 0x39) := by decide
    obtain ⟨r, hr, hlow, hhigh⟩ := inRanges_iff.1 h
    obtain rfl := hfirst r hr (by omega)
    exact Char.isDigit_iff_toNat.2 ⟨hlow, hhigh⟩

/-- Beyond ASCII a character has no other lower case. -/
theorem toLower_of_le {c : Char} (h : 128 ≤ c.toNat) : c.toLower = c := by
  unfold Char.toLower
  rw [dif_neg]
  rintro ⟨-, hle⟩
  have hle' : c.toNat ≤ 90 := hle
  omega

/-- Lower-casing brings no character into ASCII. -/
theorem isAscii_of_asciiLower {s : List Char} (h : IsAscii (asciiLower s)) : IsAscii s := by
  intro c hc
  by_contra hlarge
  have hkept := h c.toLower (List.mem_map_of_mem hc)
  rw [toLower_of_le (by omega)] at hkept
  exact hlarge hkept

end Text

namespace Utf8

/-- A text's size is the number of its octets. -/
theorem length_encode (s : String) : (encode s).length = s.utf8ByteSize := rfl

/-- Characters have an octet each if they are ASCII, and more otherwise. -/
theorem length_flatMap_utf8EncodeChar (chars : List Char) :
    chars.length ≤ (chars.flatMap String.utf8EncodeChar).length ∧
      ((chars.flatMap String.utf8EncodeChar).length ≤ chars.length ↔ Text.IsAscii chars) := by
  induction chars with
  | nil => simp [Text.IsAscii]
  | cons c chars ih =>
    obtain ⟨hle, hascii⟩ := ih
    have hpositive := c.utf8Size_pos
    have hone : c.utf8Size = 1 ↔ c.toNat < 128 :=
      Char.utf8Size_eq_one_iff.trans (Nat.lt_succ_iff (m := c.toNat) (n := 127)).symm
    rw [Text.isAscii_cons, ← hone, ← hascii, List.flatMap_cons, List.length_append,
      String.length_utf8EncodeChar, List.length_cons]
    omega

/-- Every character takes an octet at least. -/
theorem length_le_length_encode (s : String) : s.toList.length ≤ (encode s).length := by
  rw [encode_eq_flatMap]
  exact (length_flatMap_utf8EncodeChar s.toList).1

/-- A text has as many octets as characters if it is ASCII, and more otherwise. -/
theorem length_encode_le_iff {s : String} :
    (encode s).length ≤ s.toList.length ↔ Text.IsAscii s.toList := by
  rw [encode_eq_flatMap]
  exact (length_flatMap_utf8EncodeChar s.toList).2

end Utf8

end RootedStorage
