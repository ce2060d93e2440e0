import RootedStorage.Proofs.Csv.CellText
import RootedStorage.Proofs.Json.Objects

/-!
# Written numbers and missing values are read back

A whole number is written as its decimal digits.  It has no end of its own, so it is read back only in
front of what cannot go on with it, which a comma and a brace cannot (`ReadsMember`).  The digits are
gathered in 64 bits, and a number that fits is gathered whole (`accumulate_of_lt`).
-/

namespace RootedStorage.Json

/-! ## Digits -/

/-- The number that digits behind a number make. -/
def gathered (n : Nat) (ds : List Nat) : Nat := ds.foldl (fun n d => n * 10 + d) n

/-- Gathering digits makes a number no smaller. -/
theorem le_gathered (n : Nat) (ds : List Nat) : n ≤ gathered n ds := by
  induction ds generalizing n with
  | nil => exact Nat.le_refl n
  | cons d ds ih =>
    have hnext := ih (n * 10 + d)
    rw [gathered, List.foldl_cons, ← gathered]
    omega

/-- Digits are gathered to the last one if their number fits. -/
theorem accumulate_of_lt {n : Nat} {ds : List Nat} (h : gathered n ds < Nat.pow 2 64) :
    accumulate n ds = (gathered n ds, 0) := by
  induction ds generalizing n with
  | nil => rfl
  | cons d ds ih =>
    have hgathered : gathered n (d :: ds) = gathered (n * 10 + d) ds := rfl
    have hnext := le_gathered (n * 10 + d) ds
    rw [hgathered] at h ⊢
    rw [accumulate, if_pos (Nat.lt_of_le_of_lt hnext h), ih h]

/-- A digit's octet has the digit's code. -/
theorem toNat_octet {c : Char} (h : c.isDigit = true) : (octet c).toNat = c.toNat := by
  have hlarge : c.toNat ≤ 57 := (Char.isDigit_iff_toNat.1 h).2
  exact UInt8.toNat_ofNat_of_lt' (Nat.lt_of_le_of_lt hlarge (by decide))

/-- A digit's octet is a digit. -/
theorem isDigit_octet {c : Char} (h : c.isDigit = true) : isDigit (octet c) = true := by
  obtain ⟨hlow, hhigh⟩ := Char.isDigit_iff_toNat.1 h
  rw [isDigit, Bool.and_eq_true, decide_eq_true_iff, decide_eq_true_iff, UInt8.le_iff_toNat_le,
    UInt8.le_iff_toNat_le, toNat_octet h]
  exact ⟨hlow, hhigh⟩

/-- A digit's octet has the digit's value. -/
theorem digit_octet {c : Char} (h : c.isDigit = true) : digit (octet c) = c.toNat - 48 := by
  rw [digit, toNat_octet h]

/-- The digits of a number are gathered to the number. -/
theorem gathered_toDigits {n : Nat} {c : Char} {ds : List Char} (h : Nat.toDigits 10 n = c :: ds) :
    gathered (digit (octet c)) ((ds.map octet).map digit) = n := by
  have hdigit : ∀ x ∈ c :: ds, x.isDigit = true := fun x hx =>
    Nat.isDigit_of_mem_toDigits (by decide) (by decide) (h ▸ hx)
  have hvalue := Nat.ofDigitChars_ten_toDigits (n := n)
  obtain ⟨hc, hds⟩ := List.forall_mem_cons.1 hdigit
  rw [h, Nat.ofDigitChars_eq_foldl, List.foldl_cons] at hvalue
  have hmap : (ds.map octet).map digit = ds.map fun x => x.toNat - '0'.toNat := by
    rw [List.map_map]
    exact List.map_congr_left fun x hx => digit_octet (hds x hx)
  rw [gathered, hmap, List.foldl_map, digit_octet hc]
  rw [Nat.mul_zero, Nat.zero_add] at hvalue
  refine Eq.trans ?_ hvalue
  exact List.foldl_ext _ _ _ fun a x _ => by rw [Nat.mul_comm]

/-- The digits of a number do not begin with a zero, except for the number zero. -/
theorem first_toDigits {n : Nat} (h : 0 < n) :
    ∃ c ds, Nat.toDigits 10 n = c :: ds ∧ c ≠ '0' := by
  induction n using Nat.strongRecOn with
  | ind n ih =>
    by_cases hsmall : n < 10
    · have hone : ∀ m < 10, 0 < m → Nat.digitChar m ≠ '0' := by decide
      exact ⟨_, [], Nat.toDigits_of_lt_base hsmall, hone n hsmall h⟩
    · obtain ⟨c, ds, hcons, hc⟩ := ih (n / 10) (by omega) (by omega)
      rw [Nat.toDigits_of_base_le (by decide) (by omega), hcons]
      exact ⟨c, ds ++ [(n % 10).digitChar], rfl, hc⟩

/-- A natural number is written as the octets of its digits. -/
theorem encode_toString (n : Nat) : Utf8.encode (toString n) = (Nat.toDigits 10 n).map octet := by
  rw [Utf8.encode_eq_flatMap, Nat.toString_eq_repr, Nat.toList_repr, List.map_eq_flatMap]
  refine List.flatMap_congr fun c hc => ?_
  have hdigit : c.isDigit = true := Nat.isDigit_of_mem_toDigits (by decide) (by decide) hc
  have hlarge : c.toNat ≤ 57 := (Char.isDigit_iff_toNat.1 hdigit).2
  exact Utf8.utf8EncodeChar_of_lt (Nat.lt_of_le_of_lt hlarge (by decide))

/-- The octets of a number begin with a digit. -/
theorem exists_encode_toString_eq_cons (n : Nat) :
    ∃ b octets, Utf8.encode (toString n) = b :: octets ∧ isDigit b = true := by
  obtain ⟨c, ds, hcons⟩ := List.exists_cons_of_ne_nil (Nat.toDigits_ne_nil (n := n) (b := 10))
  rw [encode_toString, hcons]
  refine ⟨octet c, ds.map octet, rfl, isDigit_octet ?_⟩
  exact Nat.isDigit_of_mem_toDigits (by decide) (by decide) (hcons ▸ List.mem_cons_self)

/-- A digit is no white space, and begins neither a negative number nor null. -/
theorem apart_of_isDigit {b : UInt8} (h : isDigit b = true) :
    isSpace b = false ∧ b ≠ 45 ∧ b ≠ 110 := by
  have hne : ∀ other, isDigit other = false → b ≠ other := by
    rintro other hother rfl
    rw [h] at hother
    cases hother
  refine ⟨?_, hne 45 (by decide), hne 110 (by decide)⟩
  simp only [isSpace, Bool.or_eq_false_iff, decide_eq_false_iff_not]
  exact ⟨⟨⟨hne 32 (by decide), hne 10 (by decide)⟩, hne 9 (by decide)⟩, hne 13 (by decide)⟩

/-- The octets of digits are digits. -/
theorem isDigit_of_mem_octets {ds : List Char} (h : ∀ c ∈ ds, c.isDigit = true) :
    ∀ b ∈ ds.map octet, isDigit b = true := by
  intro b hb
  obtain ⟨c, hc, rfl⟩ := List.mem_map.1 hb
  exact isDigit_octet (h c hc)

/-- Digits end in front of what is none. -/
theorem digitsOf_append {octets : Bytes} (h : ∀ b ∈ octets, isDigit b = true) {b : UInt8}
    (hb : isDigit b = false) (rest : Bytes) :
    digitsOf (octets ++ b :: rest) = octets.map digit ∧
      afterDigits (octets ++ b :: rest) = b :: rest := by
  constructor
  · rw [digitsOf, List.takeWhile_append_of_pos h, List.takeWhile_cons_of_neg (by simp [hb]),
      List.append_nil]
  · rw [afterDigits, List.dropWhile_append_of_pos h, List.dropWhile_cons_of_neg (by simp [hb])]

/-! ## Numbers -/

/-- A number of 64 bits is read back in front of a comma or a brace. -/
theorem readsMember_numberBody {n : Nat} (h : n < Nat.pow 2 64) :
    ReadsMember (numberBody false) (Utf8.encode (toString n)) (.whole n) := by
  intro b rest hb
  rw [encode_toString]
  rcases Nat.eq_zero_or_pos n with rfl | hpositive
  · rcases hb with rfl | rfl <;> rfl
  · obtain ⟨c, ds, hcons, hzero⟩ := first_toDigits hpositive
    have hdigit : ∀ x ∈ c :: ds, x.isDigit = true := fun x hx =>
      Nat.isDigit_of_mem_toDigits (by decide) (by decide) (hcons ▸ hx)
    obtain ⟨hc, hds⟩ := List.forall_mem_cons.1 hdigit
    have hfirst : octet c ≠ 48 := by
      intro hoctet
      have hvalue := toNat_octet hc
      rw [hoctet] at hvalue
      exact hzero (Char.toNat_inj.1 hvalue.symm)
    have hend : isDigit b = false := by rcases hb with rfl | rfl <;> decide
    obtain ⟨hdigits, hafter⟩ := digitsOf_append (isDigit_of_mem_octets hds) hend rest
    have hgathered := gathered_toDigits hcons
    have haccumulate : accumulate (digit (octet c)) ((ds.map octet).map digit) = (n, 0) := by
      rw [accumulate_of_lt (by rw [hgathered]; exact h), hgathered]
    rw [hcons, List.map_cons, List.cons_append, numberBody]
    simp only [isDigit_octet hc, hfirst, hdigits, hafter, haccumulate, Bool.not_true,
      Bool.false_eq_true, decide_false, Bool.false_and, if_false]
    rcases hb with rfl | rfl <;> rfl

/-- A number below a limit of up to 64 bits is read back. -/
theorem readsMember_natural {limit n : Nat} (hlimit : limit ≤ Nat.pow 2 64) (h : n < limit)
    (wanted : String) : ReadsMember (natural limit wanted) (Utf8.encode (toString n)) n := by
  intro b rest hb
  have hbody := readsMember_numberBody (Nat.lt_of_lt_of_le h hlimit) b rest hb
  obtain ⟨first, tail, hcons, hfirst⟩ := exists_encode_toString_eq_cons n
  obtain ⟨hspace, hminus, -⟩ := apart_of_isDigit hfirst
  rw [hcons, List.cons_append] at hbody ⊢
  unfold natural
  dsimp only
  rw [skip_of_not_isSpace hspace]
  dsimp only
  rw [if_neg hminus, if_pos hfirst, hbody]
  simp only [Step.andThen]
  rw [if_pos h]
  rfl

/-! ## Values that may be missing -/

/-- The octets begin a value other than null. -/
def BeginsValue (octets : Bytes) : Prop :=
  ∃ b tail, octets = b :: tail ∧ isSpace b = false ∧ b ≠ 110

/-- A written number can begin a value. -/
theorem beginsValue_toString (n : Nat) : BeginsValue (Utf8.encode (toString n)) := by
  obtain ⟨b, tail, hcons, hdigit⟩ := exists_encode_toString_eq_cons n
  obtain ⟨hspace, -, hnull⟩ := apart_of_isDigit hdigit
  exact ⟨b, tail, hcons, hspace, hnull⟩

/-- A written string can begin a value. -/
theorem beginsValue_writeString (s : String) : BeginsValue (Utf8.encode (writeString s)) :=
  ⟨34, _, encode_writeString s, by decide, by decide⟩

/-- A missing value is written as null, and any other as it is written by itself. -/
theorem readsMember_optional {α : Type} {read : Reader α} {write : α → String} {a : Option α}
    (hbegins : ∀ x, BeginsValue (Utf8.encode (write x)))
    (h : ∀ x ∈ a, ReadsMember read (Utf8.encode (write x)) x) :
    ReadsMember (optional read) (Utf8.encode (writeOption write a)) a := by
  intro b rest hb
  cases a with
  | none => rfl
  | some x =>
    have hvalue := h x rfl b rest hb
    obtain ⟨first, tail, hcons, hspace, hnull⟩ := hbegins x
    rw [writeOption, optional]
    rw [hcons, List.cons_append] at hvalue ⊢
    rw [skip_of_not_isSpace hspace]
    split
    · next heq => exact absurd (List.cons.inj heq).1 hnull
    · rw [hvalue]
      rfl

end RootedStorage.Json
