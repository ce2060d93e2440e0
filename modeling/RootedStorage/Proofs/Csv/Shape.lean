import Mathlib.Algebra.Group.Nat.Defs
import Mathlib.Data.List.TakeWhile
import RootedStorage.Csv.CellParser
import RootedStorage.Csv.Inference
import RootedStorage.Proofs.Text.Ascii

/-!
# Shapes and values

A text is given a shape by what it looks like, and a value by the grammar of a type.  The shapes are
wider: they take the decimal digits of every script and a long s, and dates that no calendar has.  A
text that looks like a truth value or a number is one exactly if it is written in ASCII, and a text
that looks like a date is one exactly if it is a moment.
-/

namespace RootedStorage

namespace Csv

open Text (IsAscii isAscii_cons isAscii_append isDecimalDigit)

variable {s : List Char}

/-! ## Truth values -/

/-- An ASCII cell that spells a word in some case is that word in lower case. -/
theorem asciiLower_of_spells {word : List Char} (h : Shape.spells word s = true) (hs : IsAscii s) :
    Text.asciiLower s = word := by
  rw [Shape.spells, decide_eq_true_iff] at h
  rw [← h]
  refine List.map_congr_left fun c hc => (if_neg ?_).symm
  rintro rfl
  exact absurd (hs _ hc) (by decide)

/-- A text that looks like a truth value is one if it is written in ASCII, without a long s. -/
theorem isSome_parseBoolean_iff
    (h : Shape.spells "true".toList s = true ∨ Shape.spells "false".toList s = true) :
    (CellText.parseBoolean s).isSome = true ↔ IsAscii s := by
  constructor
  · intro hsome
    apply Text.isAscii_of_asciiLower
    unfold CellText.parseBoolean at hsome
    dsimp only at hsome
    split at hsome
    · next hword =>
      rw [hword]
      decide
    · split at hsome
      · next hword =>
        rw [hword]
        decide
      · cases hsome
  · intro hs
    unfold CellText.parseBoolean
    rcases h with h | h
    · simp [asciiLower_of_spells h hs]
    · simp [asciiLower_of_spells h hs]

/-! ## Whole numbers -/

/-- A minus sign in front does not decide whether a cell is ASCII. -/
theorem isAscii_dropMinus : IsAscii (Shape.dropMinus s) ↔ IsAscii s := by
  unfold Shape.dropMinus
  split
  · rw [isAscii_cons]
    exact (and_iff_right (by decide)).symm
  · rfl

/-- Without its sign a cell is not longer. -/
theorem length_dropMinus_le (s : List Char) : (Shape.dropMinus s).length ≤ s.length := by
  unfold Shape.dropMinus
  split
  · exact Nat.le_succ _
  · exact Nat.le_refl _

/-- Nothing but digits, and at least one. -/
theorem digits_complete_iff : (!(Shape.digits s).1.isEmpty && (Shape.digits s).2.isEmpty) = true ↔
    s ≠ [] ∧ ∀ c ∈ s, isDecimalDigit c = true := by
  have hsplit : (!(Shape.digits s).1.isEmpty && (Shape.digits s).2.isEmpty) = true ↔
      s.takeWhile isDecimalDigit ≠ [] ∧ s.dropWhile isDecimalDigit = [] := by
    simp [Shape.digits]
  rw [hsplit, List.dropWhile_eq_nil_iff]
  refine and_congr_left fun hall => ?_
  rw [List.takeWhile_eq_self_iff.2 hall]

/-- A cell looks like a whole number if digits only, and at least one, follow an optional minus
sign. -/
theorem isWhole_iff : Shape.isWhole s = true ↔
    Shape.dropMinus s ≠ [] ∧ ∀ c ∈ Shape.dropMinus s, isDecimalDigit c = true :=
  digits_complete_iff

/-- A run of digits is a number unless it is empty. -/
theorem isNumber_iff {ds : List Char} :
    CellText.isNumber ds = true ↔ ds ≠ [] ∧ ∀ c ∈ ds, c.isDigit = true := by
  simp [CellText.isNumber]

/-- Digits are a number if they are digits of ASCII. -/
theorem isNumber_iff_isAscii {ds : List Char} (hsome : ds ≠ [])
    (hdigits : ∀ c ∈ ds, isDecimalDigit c = true) : CellText.isNumber ds = true ↔ IsAscii ds := by
  rw [isNumber_iff, and_iff_right hsome]
  refine forall₂_congr fun c hc => ?_
  rw [Text.isDigit_iff, and_iff_right (hdigits c hc)]

/-- The value of a whole number. -/
def wholeValue (s : List Char) : Int :=
  if s.head? = some '-' then -(CellText.number (Shape.dropMinus s) : Int)
  else CellText.number (Shape.dropMinus s)

/-- A cell that looks like a whole number is parsed if it is ASCII and its value fits the type. -/
theorem isSome_parseInteger_iff {t : IntegerType} (h : Shape.isWhole s = true) :
    (CellText.parseInteger t s).isSome = true ↔ IsAscii s ∧ t.holds (wholeValue s) = true := by
  obtain ⟨hsome, hdigits⟩ := isWhole_iff.1 h
  rw [← isAscii_dropMinus, ← isNumber_iff_isAscii hsome hdigits]
  unfold CellText.parseInteger
  split
  · rename_i negative ds heq
    split at heq
    · obtain ⟨rfl, rfl⟩ := Prod.mk.inj heq
      simp [wholeValue, Shape.dropMinus]
    · exact absurd (hdigits '+' List.mem_cons_self) (by decide)
    · next hminus _ =>
      obtain ⟨rfl, rfl⟩ := Prod.mk.inj heq
      have hhead : s.head? ≠ some '-' := by
        intro hhead
        obtain ⟨rest, rfl⟩ := List.head?_eq_some_iff.1 hhead
        exact hminus rest rfl
      have hdrop : Shape.dropMinus s = s := by
        unfold Shape.dropMinus
        split
        · exact absurd rfl hhead
        · rfl
      simp [wholeValue, hhead, hdrop]

/-- A number with so many digits is smaller than that power of ten. -/
theorem number_lt {ds : List Char} (h : ∀ c ∈ ds, c.isDigit = true) :
    CellText.number ds < 10 ^ ds.length := by
  unfold CellText.number OptionValue.digitsValue
  induction ds with
  | nil => simp
  | cons c ds ih =>
    obtain ⟨hc, hds⟩ := List.forall_mem_cons.1 h
    have hdigit : 48 ≤ c.toNat ∧ c.toNat ≤ 57 := Char.isDigit_iff_toNat.1 hc
    have hrest := ih hds
    have hzero : '0'.toNat = 48 := rfl
    rw [Nat.ofDigitChars_cons, Nat.ofDigitChars_eq_ofDigitChars_zero, List.length_cons, hzero]
    have hfirst : 10 ^ ds.length * (10 * 0 + (c.toNat - 48)) ≤ 10 ^ ds.length * 9 :=
      Nat.mul_le_mul_left _ (by omega)
    omega

/-- A whole number of at most eighteen digits fits 64 bits. -/
theorem holds_wholeValue (hlength : (Shape.dropMinus s).length ≤ 18)
    (h : ∀ c ∈ Shape.dropMinus s, c.isDigit = true) :
    IntegerType.int64.holds (wholeValue s) = true := by
  have hlt := number_lt h
  have hle : 10 ^ (Shape.dropMinus s).length ≤ 10 ^ 18 := Nat.pow_le_pow_right (by omega) hlength
  have hrange : ∀ n : Int, -(10 ^ 18) < n ∧ n < 10 ^ 18 → IntegerType.int64.holds n = true := by
    intro n hn
    have hleast : IntegerType.int64.least = -9223372036854775808 := by decide
    have hgreatest : IntegerType.int64.greatest = 9223372036854775807 := by decide
    rw [IntegerType.holds, hleast, hgreatest, Bool.and_eq_true, decide_eq_true_iff,
      decide_eq_true_iff]
    omega
  apply hrange
  unfold wholeValue
  split
  · omega
  · omega

/-! ## Decimal numbers -/

/-- What follows a sign that may stand at the start. -/
def unsigned : List Char → List Char
  | '-' :: rest => rest
  | '+' :: rest => rest
  | s => s

/-- A sign in front does not decide whether a cell is ASCII. -/
theorem isAscii_unsigned : IsAscii (unsigned s) ↔ IsAscii s := by
  unfold unsigned
  split
  · rw [isAscii_cons]
    exact (and_iff_right (by decide)).symm
  · rw [isAscii_cons]
    exact (and_iff_right (by decide)).symm
  · rfl

/-- Digits are ASCII. -/
theorem isAscii_digits {ds : List Char} (h : ∀ c ∈ ds, c.isDigit = true) : IsAscii ds :=
  fun c hc => (Text.isDigit_iff.1 (h c hc)).2

/-- The digits in front of ASCII are digits of ASCII. -/
theorem digits_of_isAscii (hs : IsAscii s) :
    Shape.digits s = (s.takeWhile Char.isDigit, s.dropWhile Char.isDigit) := by
  unfold Shape.digits
  induction s with
  | nil => rfl
  | cons c s ih =>
    obtain ⟨hc, hs⟩ := isAscii_cons.1 hs
    obtain ⟨htake, hdrop⟩ := Prod.mk.inj (ih hs)
    have hsame : isDecimalDigit c = c.isDigit := by
      rw [Bool.eq_iff_iff, Text.isDigit_iff, and_iff_left hc]
    simp only [List.takeWhile_cons, List.dropWhile_cons, hsame, htake, hdrop]

/-- A cell without a sign has none to drop. -/
theorem unsigned_of_ne (hminus : ∀ rest, s ≠ '-' :: rest) (hplus : ∀ rest, s ≠ '+' :: rest) :
    unsigned s = s := by
  unfold unsigned
  split
  · exact absurd rfl (hminus _)
  · exact absurd rfl (hplus _)
  · rfl

/-- An exponent is the letter E in either case and a number with an optional sign. -/
theorem isSome_parseExponent_iff {c : Char} {rest : List Char} :
    (CellText.parseExponent (c :: rest)).isSome = true ↔
      (c = 'e' ∨ c = 'E') ∧ CellText.isNumber (unsigned rest) = true := by
  unfold CellText.parseExponent
  split
  · next hnil => cases hnil
  · next hcons =>
    cases hcons
    by_cases hmark : c = 'e' ∨ c = 'E'
    · rw [if_pos (by simpa using hmark), and_iff_right hmark]
      split
      rename_i negative ds heq
      have hds : unsigned rest = ds := by
        split at heq
        · exact (Prod.mk.inj heq).2
        · exact (Prod.mk.inj heq).2
        · next hminus hplus =>
          exact (unsigned_of_ne hminus hplus).trans (Prod.mk.inj heq).2
      rw [hds]
      by_cases hnumber : CellText.isNumber ds = true
      · simp [hnumber]
      · simp [hnumber]
    · rw [if_neg (by simpa using hmark)]
      simp [hmark]

/-- Every exponent that is parsed is ASCII. -/
theorem isAscii_of_parseExponent {e : Int} (h : CellText.parseExponent s = some e) : IsAscii s := by
  cases s with
  | nil => exact fun c hc => nomatch hc
  | cons c rest =>
    obtain ⟨hmark, hnumber⟩ := isSome_parseExponent_iff.1 (Option.isSome_of_eq_some h)
    refine isAscii_cons.2 ⟨?_, isAscii_unsigned.1 (isAscii_digits (isNumber_iff.1 hnumber).2)⟩
    rcases hmark with rfl | rfl <;> decide

/-- An exponent in ASCII is read. -/
theorem isSome_parseExponent (h : Shape.isExponent s = true) (hs : IsAscii s) :
    (CellText.parseExponent s).isSome = true := by
  cases s with
  | nil => cases h
  | cons c rest =>
    have hsplit : ((decide (c = 'e') || decide (c = 'E')) &&
        (!(Shape.digits (unsigned rest)).1.isEmpty && (Shape.digits (unsigned rest)).2.isEmpty)) =
          true := h
    rw [Bool.and_eq_true, digits_complete_iff, Bool.or_eq_true, decide_eq_true_iff,
      decide_eq_true_iff] at hsplit
    obtain ⟨hmark, hsome, hdigits⟩ := hsplit
    rw [isSome_parseExponent_iff, isNumber_iff_isAscii hsome hdigits, isAscii_unsigned]
    exact ⟨hmark, (isAscii_cons.1 hs).2⟩

/-- The digits behind a point that may follow, and the rest. -/
def fraction : List Char → List Char × List Char
  | '.' :: rest => (rest.takeWhile Char.isDigit, rest.dropWhile Char.isDigit)
  | rest => ([], rest)

/-- A word for a number that has no digits. -/
def IsNumberWord (s : List Char) : Prop :=
  Text.asciiLower s = "nan".toList ∨ Text.asciiLower s = "inf".toList ∨
    Text.asciiLower s = "infinity".toList

/-- A decimal number behind its sign: digits before or behind the point, and an exponent or none. -/
def IsUnsignedDecimal (s : List Char) : Prop :=
  (s.takeWhile Char.isDigit ≠ [] ∨ (fraction (s.dropWhile Char.isDigit)).1 ≠ []) ∧
    (CellText.parseExponent (fraction (s.dropWhile Char.isDigit)).2).isSome = true

/-- A cell that does not begin with a point has no fraction there. -/
theorem fraction_of_ne (h : ∀ rest, s ≠ '.' :: rest) : fraction s = ([], s) := by
  unfold fraction
  split
  · exact absurd rfl (h _)
  · rfl

/-- A cell is parsed as a floating point number if what follows its sign is one of the number words
or a decimal. -/
theorem isSome_parseFloat_iff {f : BinaryFormat} : (CellText.parseFloat f s).isSome = true ↔
    IsNumberWord (unsigned s) ∨ IsUnsignedDecimal (unsigned s) := by
  unfold CellText.parseFloat
  split
  rename_i negative u heq
  have hu : unsigned s = u := by
    split at heq
    · exact (Prod.mk.inj heq).2
    · exact (Prod.mk.inj heq).2
    · next hminus hplus => exact (unsigned_of_ne hminus hplus).trans (Prod.mk.inj heq).2
  rw [hu]
  dsimp only
  by_cases hnan : Text.asciiLower u = "nan".toList
  · rw [if_pos hnan]
    exact iff_of_true rfl (.inl (.inl hnan))
  · rw [if_neg hnan]
    by_cases hinf : (decide (Text.asciiLower u = "inf".toList) ||
        decide (Text.asciiLower u = "infinity".toList)) = true
    · rw [if_pos hinf]
      rw [Bool.or_eq_true, decide_eq_true_iff, decide_eq_true_iff] at hinf
      exact iff_of_true rfl (.inl (.inr hinf))
    · rw [if_neg hinf]
      rw [Bool.or_eq_true, decide_eq_true_iff, decide_eq_true_iff] at hinf
      have hword : ¬ IsNumberWord u := not_or.2 ⟨hnan, hinf⟩
      have hdigits : ∀ (before after rest : List Char) (value : Int → Nat),
          (if (before.isEmpty && after.isEmpty) = true then none
            else (CellText.parseExponent rest).map value).isSome = true ↔
          (before ≠ [] ∨ after ≠ []) ∧ (CellText.parseExponent rest).isSome = true := by
        intro before after rest value
        by_cases hnone : before = [] ∧ after = []
        · simp [hnone]
        · rw [if_neg (by simpa using hnone), Option.isSome_map, and_iff_right]
          tauto
      rw [or_iff_right hword, IsUnsignedDecimal]
      split
      · next hpoint =>
        rw [hpoint]
        exact hdigits ..
      · next hpoint =>
        rw [fraction_of_ne hpoint]
        exact hdigits ..

/-- A text that is read as a decimal number is written in ASCII. -/
theorem isAscii_of_parseFloat {f : BinaryFormat} (h : (CellText.parseFloat f s).isSome = true) :
    IsAscii s := by
  rw [isSome_parseFloat_iff] at h
  apply isAscii_unsigned.1
  generalize unsigned s = u at h ⊢
  rcases h with hword | ⟨-, hexponent⟩
  · apply Text.isAscii_of_asciiLower
    rcases hword with hword | hword | hword <;> rw [hword] <;> decide
  · obtain ⟨e, he⟩ := Option.isSome_iff_exists.1 hexponent
    have hrest := isAscii_of_parseExponent he
    have hbefore : IsAscii (u.takeWhile Char.isDigit) :=
      isAscii_digits fun c hc => List.mem_takeWhile_imp hc
    rw [← List.takeWhile_append_dropWhile (p := Char.isDigit) (l := u), isAscii_append]
    refine ⟨hbefore, ?_⟩
    generalize u.dropWhile Char.isDigit = behind at hrest ⊢
    unfold fraction at hrest
    split at hrest
    · next rest =>
      refine isAscii_cons.2 ⟨by decide, ?_⟩
      rw [← List.takeWhile_append_dropWhile (p := Char.isDigit) (l := rest), isAscii_append]
      exact ⟨isAscii_digits fun c hc => List.mem_takeWhile_imp hc, hrest⟩
    · exact hrest

/-- A number that looks like one has no plus sign in front. -/
theorem unsigned_eq_dropMinus (h : ∀ rest, s ≠ '+' :: rest) : unsigned s = Shape.dropMinus s := by
  unfold Shape.dropMinus
  split
  · rfl
  · next hminus => exact unsigned_of_ne hminus h

/-- An ASCII cell that looks like a whole number is a decimal behind its sign. -/
theorem isUnsignedDecimal_of_isWhole (h : Shape.isWhole s = true) (hs : IsAscii s) :
    IsUnsignedDecimal (Shape.dropMinus s) := by
  obtain ⟨hsome, hdigits⟩ := isWhole_iff.1 h
  have hascii := isAscii_dropMinus.2 hs
  have hall : ∀ c ∈ Shape.dropMinus s, c.isDigit = true := fun c hc =>
    Text.isDigit_iff.2 ⟨hdigits c hc, hascii c hc⟩
  rw [IsUnsignedDecimal, List.takeWhile_eq_self_iff.2 hall, List.dropWhile_eq_nil_iff.2 hall]
  exact ⟨.inl hsome, rfl⟩

/-- An ASCII cell that looks like a decimal is one behind its sign. -/
theorem isUnsignedDecimal_of_isDecimal (h : Shape.isDecimal s = true) (hs : IsAscii s) :
    IsUnsignedDecimal (Shape.dropMinus s) := by
  have hascii := isAscii_dropMinus.2 hs
  have hbehind : IsAscii ((Shape.dropMinus s).dropWhile Char.isDigit) := fun c hc =>
    hascii c (List.dropWhile_subset _ hc)
  unfold Shape.isDecimal at h
  rw [digits_of_isAscii hascii] at h
  dsimp only at h
  unfold IsUnsignedDecimal
  generalize (Shape.dropMinus s).takeWhile Char.isDigit = before at h ⊢
  generalize (Shape.dropMinus s).dropWhile Char.isDigit = behind at h hbehind ⊢
  split at h
  · next rest =>
    have hrest := (isAscii_cons.1 hbehind).2
    rw [digits_of_isAscii hrest] at h
    dsimp only at h
    rw [Bool.and_eq_true, Bool.or_eq_true] at h
    have hsome : ∀ {ds : List Char}, (!ds.isEmpty) = true → ds ≠ [] := fun hds => by simpa using hds
    refine ⟨h.1.imp hsome hsome, ?_⟩
    show (CellText.parseExponent (rest.dropWhile Char.isDigit)).isSome = true
    by_cases hnil : rest.dropWhile Char.isDigit = []
    · rw [hnil]
      rfl
    · refine isSome_parseExponent ?_ fun c hc => hrest c (List.dropWhile_subset _ hc)
      simpa [hnil] using h.2
  · next hpoint =>
    rw [Bool.and_eq_true] at h
    rw [fraction_of_ne hpoint]
    exact ⟨.inl (by simpa using h.1), isSome_parseExponent h.2 hbehind⟩

/-- A text that looks like a number is read as a decimal one if it is written in ASCII. -/
theorem isSome_parseFloat_iff_isAscii {f : BinaryFormat}
    (h : Shape.isWhole s = true ∨ Shape.isDecimal s = true) :
    (CellText.parseFloat f s).isSome = true ↔ IsAscii s := by
  refine ⟨isAscii_of_parseFloat, fun hs => ?_⟩
  have hplus : ∀ rest, s ≠ '+' :: rest := by
    rintro rest rfl
    have hdigit : isDecimalDigit '+' = false := by decide
    rcases h with h | h
    · exact absurd ((isWhole_iff.1 h).2 '+' List.mem_cons_self) (by rw [hdigit]; simp)
    · simp [Shape.isDecimal, Shape.dropMinus, Shape.digits, hdigit] at h
  rw [isSome_parseFloat_iff, unsigned_eq_dropMinus hplus]
  rcases h with h | h
  · exact .inr (isUnsignedDecimal_of_isWhole h hs)
  · exact .inr (isUnsignedDecimal_of_isDecimal h hs)

/-! ## Dates -/

/-- A text in the form of a date: its four, two and two digits. -/
theorem exists_of_afterPattern_date (h : Shape.afterPattern "0000-00-00".toList s = some []) :
    ∃ y₁ y₂ y₃ y₄ m₁ m₂ d₁ d₂, s = [y₁, y₂, y₃, y₄, '-', m₁, m₂, '-', d₁, d₂] ∧
      ∀ c ∈ [y₁, y₂, y₃, y₄, m₁, m₂, d₁, d₂], isDecimalDigit c = true := by
  have hstep : ∀ {p : Char} {ps u : List Char}, Shape.afterPattern (p :: ps) u = some [] →
      ∃ c rest, u = c :: rest ∧ Shape.afterPattern ps rest = some [] ∧
        (if p = '0' then isDecimalDigit c else if p = 'T' then c = 'T' || c = ' ' else p = c) = true := by
    intro p ps u hu
    cases u with
    | nil => cases hu
    | cons c rest =>
      rw [Shape.afterPattern, Option.ite_none_right_eq_some] at hu
      exact ⟨c, rest, rfl, hu.2, hu.1⟩
  have hpattern : "0000-00-00".toList = ['0', '0', '0', '0', '-', '0', '0', '-', '0', '0'] := by
    decide
  rw [hpattern] at h
  obtain ⟨y₁, _, rfl, h, hy₁⟩ := hstep h
  obtain ⟨y₂, _, rfl, h, hy₂⟩ := hstep h
  obtain ⟨y₃, _, rfl, h, hy₃⟩ := hstep h
  obtain ⟨y₄, _, rfl, h, hy₄⟩ := hstep h
  obtain ⟨c, _, rfl, h, hc⟩ := hstep h
  obtain ⟨m₁, _, rfl, h, hm₁⟩ := hstep h
  obtain ⟨m₂, _, rfl, h, hm₂⟩ := hstep h
  obtain ⟨c', _, rfl, h, hc'⟩ := hstep h
  obtain ⟨d₁, _, rfl, h, hd₁⟩ := hstep h
  obtain ⟨d₂, _, rfl, h, hd₂⟩ := hstep h
  obtain rfl := Option.some.inj h
  obtain rfl : '-' = c := by simpa using hc
  obtain rfl : '-' = c' := by simpa using hc'
  refine ⟨y₁, y₂, y₃, y₄, m₁, m₂, d₁, d₂, rfl, ?_⟩
  simp only [if_true] at hy₁ hy₂ hy₃ hy₄ hm₁ hm₂ hd₁ hd₂
  simp [hy₁, hy₂, hy₃, hy₄, hm₁, hm₂, hd₁, hd₂]

/-- A text that looks like a date is read as a day exactly if it is a moment. -/
theorem isSome_parseDay_iff {s : String}
    (h : Shape.afterPattern "0000-00-00".toList s.toList = some []) :
    (CellText.parseDay s).isSome = true ↔ (CellText.parseMoment s.toList).isSome = true := by
  obtain ⟨y₁, y₂, y₃, y₄, m₁, m₂, d₁, d₂, hs, hdigits⟩ := exists_of_afterPattern_date h
  unfold CellText.parseDay
  by_cases hlong : 10 < s.utf8ByteSize
  · rw [if_pos hlong, Option.isSome_map]
  · have hascii : IsAscii s.toList := by
      rw [← Utf8.length_encode_le_iff, hs]
      exact Nat.not_lt.1 hlong
    rw [hs] at hascii
    have hall : ∀ c ∈ [y₁, y₂, y₃, y₄, m₁, m₂, d₁, d₂], c.isDigit = true := by
      intro c hc
      refine Text.isDigit_iff.2 ⟨hdigits c hc, hascii c ?_⟩
      simp only [List.mem_cons, List.not_mem_nil, or_false] at hc ⊢
      tauto
    have hnumber : ∀ {ds : List Char}, ds ≠ [] → ds ⊆ [y₁, y₂, y₃, y₄, m₁, m₂, d₁, d₂] →
        CellText.isNumber ds = true := fun hsome hsub =>
      isNumber_iff.2 ⟨hsome, fun c hc => hall c (hsub hc)⟩
    have hyear : CellText.isNumber [y₁, y₂, y₃, y₄] = true := hnumber (by simp) (by simp)
    have hday : CellText.isNumber [m₁, m₂, d₁, d₂] = true := hnumber (by simp) (by simp)
    have hwhole : CellText.isNumber [y₁, y₂, y₃, y₄, m₁, m₂, d₁, d₂] = true :=
      hnumber (by simp) (by simp)
    have hshort : CellText.parseShortDate s.toList =
        CellText.date? [y₁, y₂, y₃, y₄] [m₁, m₂] [d₁, d₂] := by
      rw [hs]
      simp [CellText.parseShortDate, hyear, hday]
    have hmoment : CellText.parseMoment s.toList =
        (CellText.date? [y₁, y₂, y₃, y₄] [m₁, m₂] [d₁, d₂]).map
          fun date => Moment.ofDateTime date ⟨0, 0, 0, 0⟩ := by
      rw [hs]
      simp only [CellText.parseMoment, hwhole]
      rw [if_neg (by simp)]
      cases CellText.date? [y₁, y₂, y₃, y₄] [m₁, m₂] [d₁, d₂] <;> rfl
    rw [if_neg hlong, hshort, hmoment, Option.isSome_map, Option.isSome_map]

/-! ## The shape of a text -/

/-- What is known of a text that has the given shape. -/
def Looks (text : String) : Shape → Prop
  | .boolean => Shape.spells "true".toList text.toList = true ∨
      Shape.spells "false".toList text.toList = true
  | .whole => Shape.isWhole text.toList = true ∧
      ¬ (19 ≤ text.utf8ByteSize ∧ Shape.isTooLarge text.toList = true)
  | .decimal => Shape.isDecimal text.toList = true
  | .date => Shape.afterPattern "0000-00-00".toList text.toList = some []
  | .timestamp _ | .text => True

/-- The shape that is computed for a cell is the shape that it has. -/
theorem looks_ofText (text : String) : Looks text (Shape.ofText text) := by
  unfold Shape.ofText
  dsimp only
  split
  · trivial
  split
  · next hword => exact Bool.or_eq_true_iff.1 hword
  split
  · next hwhole =>
    split
    · trivial
    · next hlarge =>
      exact ⟨hwhole, fun hboth => hlarge (by simpa using hboth)⟩
  split
  · next hdecimal => exact hdecimal
  split
  · trivial
  · next hdate => exact hdate
  · split <;> trivial

/-- A whole number is of the shape of one, or too large for it. -/
theorem calendar?_of_isWhole {text : String} (h : Shape.isWhole text.toList = true) :
    (Shape.ofText text).calendar? = none := by
  unfold Shape.ofText
  dsimp only
  split
  · rfl
  split
  · rfl
  split <;> rfl

/-- A text that looks like a whole number is one of 64 bits if it is written in ASCII. -/
theorem isSome_parseInteger_iff_isAscii {text : String} (h : Looks text .whole) :
    (CellText.parseInteger .int64 text.toList).isSome = true ↔ IsAscii text.toList := by
  obtain ⟨hwhole, hsmall⟩ := h
  obtain ⟨-, hdigits⟩ := isWhole_iff.1 hwhole
  rw [isSome_parseInteger_iff hwhole]
  refine ⟨And.left, fun hs => ⟨hs, ?_⟩⟩
  have hall : ∀ c ∈ Shape.dropMinus text.toList, c.isDigit = true := fun c hc =>
    Text.isDigit_iff.2 ⟨hdigits c hc, isAscii_dropMinus.2 hs c hc⟩
  by_cases hlong : 19 ≤ text.utf8ByteSize
  · have hfits := not_and.1 hsmall hlong
    simpa [Shape.isTooLarge, wholeValue, CellText.number, List.all_eq_true.2 hall] using hfits
  · refine holds_wholeValue ?_ hall
    have hle := length_dropMinus_le text.toList
    have hlength := Utf8.length_le_length_encode text
    rw [Utf8.length_encode] at hlength
    omega

end Csv
end RootedStorage
