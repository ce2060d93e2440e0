import Mathlib.Tactic.IntervalCases
import RootedStorage.Json.Decoder
import RootedStorage.Json.Writer
import RootedStorage.Proofs.Text.Utf8

/-!
# Written strings are read back

The reader undoes the writer character by character: one that is written with an escape is put in
its place, and the octets of every other one are taken as they stand, since no octet of a character
beyond ASCII is a quote, a backslash or a control.
-/

namespace RootedStorage.Json

variable {α : Type}

/-- The reader takes the octets off the front of any text and gives the value. -/
def Reads (read : Reader α) (octets : Bytes) (a : α) : Prop :=
  ∀ rest, read (octets ++ rest) = .value a rest

/-- The octets that a character is written as. -/
def charOctets (c : Char) : Bytes := (writeChar c).flatMap String.utf8EncodeChar

/-- The octets that the characters of a string are written as. -/
def bodyOctets (s : String) : Bytes := s.toList.flatMap charOctets

/-- A string is written as its characters between quotes. -/
theorem encode_writeString (s : String) :
    Utf8.encode (writeString s) = 34 :: (bodyOctets s ++ [34]) := by
  have hquote : String.utf8EncodeChar '"' = [34] := rfl
  rw [Utf8.encode_eq_flatMap, writeString, String.toList_ofList, List.flatMap_append,
    List.flatMap_cons, List.flatMap_singleton, List.flatMap_assoc, hquote]
  rfl

/-! ## One character -/

/-- A character that has to be escaped. -/
def IsEscaped (c : Char) : Prop := c = '"' ∨ c = '\\' ∨ c.toNat < 32

/-- An escape is read as the character that it is written for. -/
theorem escape_charOctets {c : Char} (h : IsEscaped c) :
    ∃ tail, charOctets c = 92 :: tail ∧ Reads escape tail (String.utf8EncodeChar c) := by
  rcases h with rfl | rfl | h
  · exact ⟨_, rfl, fun rest => rfl⟩
  · exact ⟨_, rfl, fun rest => rfl⟩
  · obtain ⟨n, hn, rfl⟩ : ∃ n < 32, c = Char.ofNat n := ⟨_, h, (Char.ofNat_toNat c).symm⟩
    interval_cases n <;> exact ⟨_, rfl, fun rest => rfl⟩

/-- Every other character is written as it is. -/
theorem charOctets_of_not_isEscaped {c : Char} (h : ¬ IsEscaped c) :
    charOctets c = String.utf8EncodeChar c := by
  unfold IsEscaped at h
  push Not at h
  obtain ⟨hquote, hbackslash, hcontrol⟩ := h
  have hsmall : ∀ n < 32, c ≠ Char.ofNat n := by
    rintro n hn rfl
    have hvalue : ∀ n < 32, (Char.ofNat n).toNat < 32 := by decide
    exact absurd hcontrol (Nat.not_le.2 (hvalue n hn))
  have hwrite : writeChar c = [c] := by
    have hnewline : c ≠ '\n' := hsmall 10 (by decide)
    have hreturn : c ≠ '\r' := hsmall 13 (by decide)
    have htab : c ≠ '\t' := hsmall 9 (by decide)
    have hlarge : ¬ c.toNat < 32 := Nat.not_lt.2 hcontrol
    simp only [writeChar, hquote, hbackslash, hnewline, hreturn, htab, hsmall 8 (by decide),
      hsmall 12 (by decide), hlarge, if_false]
  rw [charOctets, hwrite, List.flatMap_singleton]

/-- The octet stands for itself in a string. -/
def IsPlain (b : UInt8) : Prop := b ≠ 34 ∧ b ≠ 92 ∧ ¬ b < 32

/-- An octet is plain if it is no control, no quote and no backslash. -/
theorem isPlain_of_toNat {b : UInt8} (h : 32 ≤ b.toNat) (hquote : b.toNat ≠ 34)
    (hbackslash : b.toNat ≠ 92) : IsPlain b := by
  refine ⟨?_, ?_, ?_⟩
  · rintro rfl
    exact hquote rfl
  · rintro rfl
    exact hbackslash rfl
  · rw [UInt8.lt_iff_toNat_lt]
    exact Nat.not_lt.2 h

/-- The octets of a character that needs no escape are plain. -/
theorem isPlain_of_mem_utf8EncodeChar {c : Char} (h : ¬ IsEscaped c) :
    ∀ b ∈ String.utf8EncodeChar c, IsPlain b := by
  unfold IsEscaped at h
  push Not at h
  obtain ⟨hquote, hbackslash, hcontrol⟩ := h
  intro b hb
  by_cases hascii : c.toNat ≤ 127
  · have hsingle : String.utf8EncodeChar c = [UInt8.ofNat c.toNat] := if_pos hascii
    rw [hsingle, List.mem_singleton] at hb
    have hb' : b.toNat = c.toNat := by
      rw [hb]
      exact UInt8.toNat_ofNat_of_lt' (Nat.lt_of_le_of_lt hascii (by decide))
    refine isPlain_of_toNat (by omega) (fun hq => hquote ?_) fun hs => hbackslash ?_
    · rw [← Char.ofNat_toNat c, ← hb', hq]
    · rw [← Char.ofNat_toNat c, ← hb', hs]
  · have hlarge := Utf8.le_of_mem_utf8EncodeChar (by omega) b hb
    exact isPlain_of_toNat (by omega) (by omega) (by omega)

/-! ## The characters of a string -/

/-- Plain octets are taken into a string as they are. -/
theorem stringFrom_plain {octets : Bytes} (h : ∀ b ∈ octets, IsPlain b) (fuel : Nat)
    (before rest : Bytes) :
    stringFrom (fuel + octets.length) before (octets ++ rest) =
      stringFrom fuel (octets.reverse ++ before) rest := by
  induction octets generalizing before with
  | nil => rfl
  | cons b octets ih =>
    obtain ⟨⟨hquote, hbackslash, hcontrol⟩, hrest⟩ := List.forall_mem_cons.1 h
    rw [List.length_cons, ← Nat.add_assoc, List.cons_append, stringFrom]
    simp only [hquote, hbackslash, hcontrol, if_false]
    rw [ih hrest, List.reverse_cons, List.append_assoc]
    rfl

/-- An escape is taken into a string as the octets that it stands for. -/
theorem stringFrom_escape {tail piece : Bytes} (h : Reads escape tail piece) (fuel : Nat)
    (before rest : Bytes) :
    stringFrom (fuel + 1) before (92 :: tail ++ rest) =
      stringFrom fuel (piece.reverse ++ before) rest := by
  rw [List.cons_append, stringFrom]
  simp only [if_neg (by decide : ¬ (92 : UInt8) = 34), if_true, h rest, Step.andThen]

/-- A written character is read in as many steps as it has octets, or less. -/
theorem stringFrom_charOctets (c : Char) {fuel : Nat} (hfuel : (charOctets c).length ≤ fuel)
    (before rest : Bytes) :
    ∃ left, fuel ≤ left + (charOctets c).length ∧
      stringFrom fuel before (charOctets c ++ rest) =
        stringFrom left ((String.utf8EncodeChar c).reverse ++ before) rest := by
  by_cases h : IsEscaped c
  · obtain ⟨tail, htail, hread⟩ := escape_charOctets h
    rw [htail] at hfuel ⊢
    obtain ⟨left, rfl⟩ : ∃ left, fuel = left + 1 := ⟨fuel - 1, by simp at hfuel; omega⟩
    exact ⟨left, by simp, stringFrom_escape hread left before rest⟩
  · rw [charOctets_of_not_isEscaped h] at hfuel ⊢
    obtain ⟨left, rfl⟩ := Nat.exists_eq_add_of_le' hfuel
    exact ⟨left, Nat.le_refl _, stringFrom_plain (isPlain_of_mem_utf8EncodeChar h) left before rest⟩

/-- Written characters are read up to the quote behind them. -/
theorem stringFrom_chars (chars : List Char) {fuel : Nat}
    (hfuel : (chars.flatMap charOctets).length < fuel) (before rest : Bytes) :
    stringFrom fuel before (chars.flatMap charOctets ++ 34 :: rest) =
      .value (before.reverse ++ chars.flatMap String.utf8EncodeChar) rest := by
  induction chars generalizing fuel before with
  | nil =>
    obtain ⟨left, rfl⟩ : ∃ left, fuel = left + 1 := ⟨fuel - 1, by simp at hfuel; omega⟩
    simp [stringFrom]
  | cons c chars ih =>
    rw [List.flatMap_cons, List.length_append] at hfuel
    rw [List.flatMap_cons, List.append_assoc]
    have hfirst : (charOctets c).length ≤ fuel := by omega
    obtain ⟨left, hleft, hread⟩ := stringFrom_charOctets c hfirst before
      (chars.flatMap charOctets ++ 34 :: rest)
    rw [hread, ih (by omega)]
    simp

/-! ## Strings -/

/-- The octets of a string behind its opening quote are read as the string. -/
theorem reads_stringBody (s : String) : Reads stringBody (bodyOctets s ++ [34]) s := by
  intro rest
  rw [List.append_assoc, List.singleton_append, stringBody, bodyOctets, stringFrom_chars]
  · simp [Step.map, Step.andThen, ← Utf8.encode_eq_flatMap]
  · simp only [List.length_append, List.length_cons]
    omega

/-- Nothing is skipped in front of an octet that is no space. -/
theorem skip_of_not_isSpace {b : UInt8} (h : isSpace b = false) (s : Bytes) :
    skip (b :: s) = b :: s := by
  simp [skip, h]

/-- A written string is read back, whatever it is wanted for. -/
theorem reads_stringAs (wanted : String) (s : String) :
    Reads (stringAs wanted) (Utf8.encode (writeString s)) s := by
  intro rest
  have hbody := reads_stringBody s rest
  rw [encode_writeString, List.cons_append, stringAs, skip_of_not_isSpace (by decide)]
  simp only [if_true, hbody, Step.placed]

/-- A written string is read back. -/
theorem reads_string (s : String) : Reads string (Utf8.encode (writeString s)) s :=
  reads_stringAs "a string" s

end RootedStorage.Json
