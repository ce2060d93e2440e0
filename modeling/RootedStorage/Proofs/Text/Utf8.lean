import Mathlib.Data.List.Basic
import Mathlib.Tactic.Common
import RootedStorage.Text.Utf8

/-!
# Putting texts together from octets

Octets that stand for a text may be put behind each other, and an octet of ASCII may be replaced by
a text wherever it occurs: it is never part of the encoding of another character.  A text may also be
taken apart, where no octet that continues a character follows (`isValid_of_append`).
-/

namespace RootedStorage.Utf8

/-- Octets are valid exactly if they encode a text. -/
theorem isValid_iff {bytes : Bytes} : isValid bytes = true ↔ ∃ s, bytes = encode s := by
  simp [isValid, Option.isSome_iff_exists, decode?_eq_some_iff]

/-- Every encoded text is valid. -/
theorem isValid_encode (s : String) : isValid (encode s) = true := isValid_iff.2 ⟨s, rfl⟩

/-- The octets of a text are those of its characters. -/
theorem encode_eq_flatMap (s : String) : encode s = s.toList.flatMap String.utf8EncodeChar := by
  rw [encode, ← String.utf8Encode_toList, List.utf8Encode]
  simp

/-- A text is encoded part by part. -/
theorem encode_append (s t : String) : encode (s ++ t) = encode s ++ encode t := by
  rw [encode_eq_flatMap, encode_eq_flatMap, encode_eq_flatMap, String.toList_append,
    List.flatMap_append]

/-- Joined texts are encoded one after the other. -/
theorem encode_join (texts : List String) : encode (String.join texts) = texts.flatMap encode := by
  rw [encode_eq_flatMap, String.toList_join, List.flatMap_assoc, funext encode_eq_flatMap]

/-- Different texts are encoded differently. -/
theorem encode_injective {s t : String} (h : encode s = encode t) : s = t := by
  rw [← decode?_eq_some_iff, decode?_encode, Option.some_inj] at h
  exact h

/-- A text of one character is encoded as that character. -/
theorem encode_singleton (c : Char) : encode (String.singleton c) = String.utf8EncodeChar c := by
  simp [encode_eq_flatMap]

/-- No octets are valid. -/
theorem isValid_nil : isValid [] = true := isValid_encode ""

/-- Valid octets stay valid behind one another. -/
theorem isValid_append {a b : Bytes} (ha : isValid a = true) (hb : isValid b = true) :
    isValid (a ++ b) = true := by
  obtain ⟨s, rfl⟩ := isValid_iff.1 ha
  obtain ⟨t, rfl⟩ := isValid_iff.1 hb
  rw [← encode_append]
  exact isValid_encode _

/-- Valid pieces are valid together. -/
theorem isValid_flatMap {α : Type} {f : α → Bytes} {l : List α}
    (h : ∀ x ∈ l, isValid (f x) = true) : isValid (l.flatMap f) = true := by
  induction l with
  | nil => exact isValid_nil
  | cons x l ih =>
    obtain ⟨hx, hl⟩ := List.forall_mem_cons.1 h
    rw [List.flatMap_cons]
    exact isValid_append hx (ih hl)

/-- A character of ASCII is one octet, and the octets of every other character lie above. -/
theorem utf8EncodeChar_cases (c : Char) :
    (∃ b : UInt8, b.toNat < 128 ∧ String.utf8EncodeChar c = [b]) ∨
      2 ≤ (String.utf8EncodeChar c).length ∧ ∀ b ∈ String.utf8EncodeChar c, 128 ≤ b.toNat := by
  unfold String.utf8EncodeChar
  dsimp only
  split
  · left
    refine ⟨_, ?_, rfl⟩
    rw [UInt8.toNat_ofNat']
    omega
  · right
    split
    · simp
      omega
    · split
      · simp
        omega
      · simp
        omega

/-- The octets of a character beyond ASCII lie above ASCII. -/
theorem le_of_mem_utf8EncodeChar {c : Char} (h : 128 ≤ c.toNat) :
    ∀ b ∈ String.utf8EncodeChar c, 128 ≤ b.toNat := by
  rcases utf8EncodeChar_cases c with ⟨b, -, hb⟩ | ⟨-, hlarge⟩
  · have hmore : 2 ≤ (String.utf8EncodeChar c).length := by
      unfold String.utf8EncodeChar
      dsimp only
      rw [if_neg (Nat.not_le.2 h : ¬ c.val.toNat ≤ 127)]
      split
      · exact Nat.le_refl _
      · split <;> simp
    rw [hb, List.length_singleton] at hmore
    omega
  · exact hlarge

/-- An ASCII octet is valid by itself. -/
theorem isValid_singleton {b : UInt8} (h : b.toNat < 128) : isValid [b] = true := by
  have hchar : (Char.ofNat b.toNat).val.toNat = b.toNat := by
    have hvalid : b.toNat.isValidChar := Or.inl (by omega)
    rw [Char.ofNat, dif_pos hvalid]
    rfl
  refine isValid_iff.2 ⟨String.singleton (Char.ofNat b.toNat), ?_⟩
  rw [encode_eq_flatMap]
  simp only [String.toList_singleton, List.flatMap_cons, List.flatMap_nil, List.append_nil,
    String.utf8EncodeChar, hchar]
  rw [if_pos (by omega), UInt8.ofNat_toNat]

/-- A character of ASCII is encoded as its number. -/
theorem utf8EncodeChar_of_lt {c : Char} (h : c.toNat < 128) :
    String.utf8EncodeChar c = [UInt8.ofNat c.toNat] := by
  unfold String.utf8EncodeChar
  dsimp only
  rw [if_pos (Nat.le_of_lt_succ h : c.val.toNat ≤ 127)]
  rfl

/-- A text of one octet is one character of ASCII. -/
theorem encode_eq_singleton_iff {s : String} {b : UInt8} : encode s = [b] ↔
    ∃ c : Char, c.toNat < 128 ∧ s = String.singleton c ∧ b = UInt8.ofNat c.toNat := by
  constructor
  · intro h
    have hchars := h
    rw [encode_eq_flatMap] at hchars
    cases hlist : s.toList with
    | nil =>
      rw [hlist] at hchars
      cases hchars
    | cons c rest =>
      rw [hlist, List.flatMap_cons] at hchars
      have hlengths := congrArg List.length hchars
      rw [List.length_append, List.length_singleton] at hlengths
      have hascii : c.toNat < 128 := by
        rcases utf8EncodeChar_cases c with ⟨a, ha, hc⟩ | ⟨hlong, -⟩
        · by_contra hlarge
          have hle := le_of_mem_utf8EncodeChar (Nat.not_lt.1 hlarge) a (hc ▸ List.mem_cons_self)
          omega
        · omega
      rw [utf8EncodeChar_of_lt hascii, List.singleton_append, List.cons_eq_cons] at hchars
      obtain ⟨hb, -⟩ := hchars
      refine ⟨c, hascii, encode_injective ?_, hb.symm⟩
      rw [h, encode_singleton, utf8EncodeChar_of_lt hascii, hb]
  · rintro ⟨c, hascii, rfl, rfl⟩
    rw [encode_singleton, utf8EncodeChar_of_lt hascii]

/-- An octet that is all of a text is ASCII. -/
theorem lt_of_isValid_singleton {b : UInt8} (h : isValid [b] = true) : b.toNat < 128 := by
  obtain ⟨s, hs⟩ := isValid_iff.1 h
  rw [encode_eq_flatMap] at hs
  cases hlist : s.toList with
  | nil => simp [hlist] at hs
  | cons c rest =>
    rw [hlist, List.flatMap_cons] at hs
    rcases utf8EncodeChar_cases c with ⟨a, ha, hc⟩ | ⟨hlength, -⟩
    · rw [hc] at hs
      obtain rfl := (List.cons.inj hs).1
      exact ha
    · have hlengths := congrArg List.length hs
      rw [List.length_append, List.length_singleton] at hlengths
      omega

/-- Octets of ASCII may be replaced by texts in a text. -/
theorem isValid_replace {bytes : Bytes} {f : UInt8 → Bytes} (h : isValid bytes = true)
    (hascii : ∀ b : UInt8, b.toNat < 128 → isValid (f b) = true)
    (hkeep : ∀ b : UInt8, 128 ≤ b.toNat → f b = [b]) : isValid (bytes.flatMap f) = true := by
  obtain ⟨s, rfl⟩ := isValid_iff.1 h
  rw [encode_eq_flatMap, List.flatMap_assoc]
  refine isValid_flatMap fun c _ => ?_
  rcases utf8EncodeChar_cases c with ⟨b, hb, hc⟩ | ⟨-, hhigh⟩
  · rw [hc]
    simpa using hascii b hb
  · have hsame : (String.utf8EncodeChar c).flatMap f = String.utf8EncodeChar c := by
      calc (String.utf8EncodeChar c).flatMap f
          = (String.utf8EncodeChar c).flatMap fun b => [b] :=
            List.flatMap_congr fun b hb => hkeep b (hhigh b hb)
        _ = String.utf8EncodeChar c := by simp
    rw [hsame]
    refine isValid_iff.2 ⟨String.singleton c, ?_⟩
    rw [encode_eq_flatMap]
    simp

/-! ## Boundaries between characters -/

/-- An octet that continues a character. -/
def isContinuation (b : UInt8) : Bool := 128 ≤ b.toNat && b.toNat < 192

/-- All octets of a character but the first continue it. -/
theorem isContinuation_of_mem_tail {c : Char} {b : UInt8}
    (h : b ∈ (String.utf8EncodeChar c).tail) : isContinuation b = true := by
  unfold String.utf8EncodeChar at h
  dsimp only at h
  split at h
  · cases h
  · split at h
    · simp at h
      subst h
      simp [isContinuation]
      omega
    · split at h
      · simp at h
        rcases h with rfl | rfl <;> simp [isContinuation] <;> omega
      · simp at h
        rcases h with rfl | rfl | rfl <;> simp [isContinuation] <;> omega

/-- The octets do not begin in the middle of a character. -/
def AtBoundary (bytes : Bytes) : Prop := ∀ b ∈ bytes.head?, isContinuation b = false

/-- The end is a boundary between characters. -/
theorem atBoundary_nil : AtBoundary [] := by
  intro b hb
  cases hb

/-- A boundary is where no continuation octet stands. -/
theorem atBoundary_cons {b : UInt8} {bytes : Bytes} :
    AtBoundary (b :: bytes) ↔ isContinuation b = false := by
  simp [AtBoundary]

/-- Encoded characters are valid. -/
theorem isValid_chars (chars : List Char) :
    isValid (chars.flatMap String.utf8EncodeChar) = true := by
  refine isValid_iff.2 ⟨String.ofList chars, ?_⟩
  rw [encode_eq_flatMap, String.toList_ofList]

/-- Encoded characters that are cut at a boundary are valid on both sides. -/
theorem isValid_of_append_eq_chars {chars : List Char} {a b : Bytes} (hb : AtBoundary b)
    (h : a ++ b = chars.flatMap String.utf8EncodeChar) : isValid a = true ∧ isValid b = true := by
  -- characters are taken off the front until the cut is reached
  induction chars generalizing a with
  | nil =>
    obtain ⟨rfl, rfl⟩ := List.append_eq_nil_iff.1 h
    exact ⟨isValid_nil, isValid_nil⟩
  | cons c chars ih =>
    have hchar := isValid_chars [c]
    rw [List.flatMap_cons, List.flatMap_nil, List.append_nil] at hchar
    rw [List.flatMap_cons, List.append_eq_append_iff] at h
    rcases h with ⟨middle, hc, rfl⟩ | ⟨behind, rfl, hrest⟩
    · cases a with
      | nil =>
        rw [List.nil_append] at hc
        rw [← hc]
        exact ⟨isValid_nil, isValid_append hchar (isValid_chars chars)⟩
      | cons first a =>
        cases middle with
        | nil =>
          rw [List.append_nil] at hc
          rw [← hc]
          exact ⟨hchar, isValid_chars chars⟩
        | cons m middle =>
          have htail : m ∈ (String.utf8EncodeChar c).tail := by
            rw [hc]
            simp
          rw [List.cons_append, atBoundary_cons, isContinuation_of_mem_tail htail] at hb
          cases hb
    · obtain ⟨hbehind, hvalid⟩ := ih hrest.symm
      exact ⟨isValid_append hchar hbehind, hvalid⟩

/-- A text that is cut between two characters is two texts. -/
theorem isValid_of_append {a b : Bytes} (h : isValid (a ++ b) = true) (hb : AtBoundary b) :
    isValid a = true ∧ isValid b = true := by
  obtain ⟨s, hs⟩ := isValid_iff.1 h
  rw [encode_eq_flatMap] at hs
  exact isValid_of_append_eq_chars hb hs

/-- What follows an octet of ASCII in a text is a text. -/
theorem isValid_of_cons {b : UInt8} {bytes : Bytes} (hascii : b.toNat < 128)
    (h : isValid (b :: bytes) = true) : isValid bytes = true := by
  obtain ⟨s, hs⟩ := isValid_iff.1 h
  rw [encode_eq_flatMap] at hs
  cases hlist : s.toList with
  | nil => simp [hlist] at hs
  | cons c chars =>
    rw [hlist, List.flatMap_cons] at hs
    rcases utf8EncodeChar_cases c with ⟨a, -, hc⟩ | ⟨hlength, hhigh⟩
    · rw [hc] at hs
      rw [(List.cons.inj hs).2]
      exact isValid_chars chars
    · cases hchar : String.utf8EncodeChar c with
      | nil => simp [hchar] at hlength
      | cons first others =>
        rw [hchar] at hs hhigh
        obtain rfl := (List.cons.inj hs).1
        have hlarge := hhigh b List.mem_cons_self
        omega

end RootedStorage.Utf8
