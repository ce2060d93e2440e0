import RootedStorage.Calendar.Internet
import RootedStorage.Proofs.Csv.DateText
import RootedStorage.Proofs.Prelude

/-!
# Moments as texts of the Internet

The reader of moments is lenient: it accepts signs, white space and many spellings of an offset.  A
moment is written in one way only, as date and time of day with a `Z` behind them.  In a year of four
digits and outside a leap second every part of that text begins where the one before it ends, and the
reader finds the moment again (`parse_chars`).
-/

namespace RootedStorage.Moment.Internet

open Csv.CellText (Digits digits_padded fraction_cases)

/-! ## The parts -/

theorem not_isBlank_of_isDigit {c : Char} (h : c.isDigit = true) : Text.isBlank c = false := by
  obtain ⟨hlow, hhigh⟩ := Char.isDigit_iff_toNat.1 h
  have hlow' : 48 ≤ c.toNat := hlow
  have hhigh' : c.toNat ≤ 57 := hhigh
  simp only [Text.isBlank, Bool.or_eq_false_iff, Bool.and_eq_false_iff, decide_eq_false_iff_not]
  omega

theorem trimStart_cons {c : Char} (h : Text.isBlank c = false) (rest : List Char) :
    Text.trimStart (c :: rest) = c :: rest := by
  simp [Text.trimStart, h]

/-- Digits begin with a digit. -/
theorem exists_cons_of_digits {ds : List Char} {count n : Nat} (h : Digits ds count n)
    (hpositive : 0 < count) : ∃ c rest, ds = c :: rest ∧ c.isDigit = true := by
  obtain ⟨c, rest, hcons⟩ := List.exists_cons_of_length_pos (by
    rw [h.length_eq]
    exact hpositive)
  refine ⟨c, rest, hcons, h.isDigit c ?_⟩
  rw [hcons]
  exact List.mem_cons_self

/-- A number of fixed width is read up to its last digit, if the width is the limit or something else
than a digit follows. -/
theorem number_digits {ds : List Char} {count n limit : Nat} (h : Digits ds count n)
    (hpositive : 0 < count) (hlimit : count ≤ limit) (hn : n < Nat.pow 2 63) (rest : List Char)
    (hend : count = limit ∨ ∀ c ∈ rest.head?, c.isDigit = false) :
    number (some limit) (ds ++ rest) = .ok (n, rest) := by
  have htake : ((ds ++ rest).take limit).takeWhile Char.isDigit = ds := by
    rw [List.take_append, List.take_of_length_le (by rw [h.length_eq]; exact hlimit), h.length_eq,
      List.takeWhile_append_of_pos h.isDigit]
    rcases hend with rfl | hhead
    · simp
    · cases rest with
      | nil => simp
      | cons c rest =>
        have hc := hhead c rfl
        cases limit - count with
        | zero => simp
        | succ left => simp [hc]
  have hvalue : Nat.ofDigitChars 10 ds 0 = n := h.number_eq
  have hsome : ds ≠ [] := by
    obtain ⟨c, ds, rfl, -⟩ := exists_cons_of_digits h hpositive
    exact List.cons_ne_nil c ds
  unfold number
  dsimp only
  rw [htake, hvalue, if_neg (by simp [hsome]), if_neg (by simp [hsome]), if_neg (Nat.not_le.2 hn),
    List.drop_left]

theorem literal_cons {c : Char} (h : Text.isBlank c = false) (rest : List Char) :
    literal c (c :: rest) = .ok rest := by
  rw [literal, trimStart_cons h]
  exact if_pos rfl

/-- Two digits within the bounds are a field. -/
theorem field_padded {n : Nat} {least greatest : Int} (hleast : least ≤ n) (hgreatest : n ≤ greatest)
    (h : n < 100) (rest : List Char) :
    field least greatest (Date.padded 2 n ++ rest) = .ok (n, rest) := by
  have hdigits : Digits (Date.padded 2 n) 2 n := digits_padded (by decide) (by omega)
  have hnumber := number_digits hdigits (by decide) (Nat.le_refl 2) (by
    rw [show Nat.pow 2 63 = 2 ^ 63 from rfl]
    omega) rest (Or.inl rfl)
  have htrim : Text.trimStart (Date.padded 2 n ++ rest) = Date.padded 2 n ++ rest := by
    obtain ⟨c, ds, hcons, hc⟩ := exists_cons_of_digits hdigits (by decide)
    rw [hcons]
    exact trimStart_cons (not_isBlank_of_isDigit hc) _
  rw [field, htrim, hnumber]
  simp [bind, Except.bind, hleast, hgreatest]

/-- Four digits are a year. -/
theorem year_padded {n : Nat} (h : n < 10000) (rest : List Char) :
    year (Date.padded 4 n ++ rest) = .ok (n, rest) := by
  have hdigits : Digits (Date.padded 4 n) 4 n := digits_padded (by decide) (by omega)
  have hnumber := number_digits hdigits (by decide) (Nat.le_refl 4) (by
    rw [show Nat.pow 2 63 = 2 ^ 63 from rfl]
    omega) rest (Or.inl rfl)
  obtain ⟨c, ds, hcons, hc⟩ := exists_cons_of_digits hdigits (by decide)
  have hminus : c ≠ '-' := by
    rintro rfl
    exact absurd hc (by decide)
  have hplus : c ≠ '+' := by
    rintro rfl
    exact absurd hc (by decide)
  have hrange : -(Nat.pow 2 31 : Int) ≤ n ∧ (n : Int) < Nat.pow 2 31 := by
    rw [show Nat.pow 2 31 = 2 ^ 31 from rfl]
    omega
  rw [hcons, List.cons_append] at hnumber ⊢
  rw [year, trimStart_cons (not_isBlank_of_isDigit hc)]
  split
  · next heq => exact absurd (List.cons.inj heq).1 hminus
  · next heq => exact absurd (List.cons.inj heq).1 hplus
  · refine bind_eq_ok_iff.2 ⟨_, hnumber, ?_⟩
    dsimp only
    rw [if_pos (by simp only [hrange.1, hrange.2, decide_true, Bool.and_self])]

/-- A fraction is read back to the nanosecond, at whatever width it is written. -/
theorem fraction_fraction {n : Nat} (h : n < 1000000000) :
    fraction (ClockTime.fraction n ++ ['Z']) = .ok (n, ['Z']) := by
  rcases fraction_cases h with
    ⟨hnone, rfl⟩ | ⟨count, ds, value, hsome, hdigits, hpositive, hshort, hvalue⟩
  · rw [hnone]
    rfl
  · have hsmall : value < Nat.pow 2 63 := by
      have hle : value ≤ n := by
        rw [← hvalue]
        exact Nat.le_mul_of_pos_right _ (Nat.pow_pos (by decide))
      rw [show Nat.pow 2 63 = 2 ^ 63 from rfl]
      omega
    have hnumber := number_digits hdigits hpositive hshort hsmall ['Z']
      (Or.inr (by simp))
    rw [hsome, List.cons_append, fraction, hnumber]
    have hcount : (ds ++ ['Z']).length - ['Z'].length = count := by
      simp [hdigits.length_eq]
    simp only [bind, Except.bind]
    rw [hcount, Int.toNat_natCast]
    exact congrArg (fun x => Except.ok (x, ['Z'])) hvalue

/-! ## The whole text -/

/-- A regular time of day does not lead to another day. -/
theorem day_ofDateTime {t : ClockTime} (ht : t.Regular) (d : Date) :
    (ofDateTime d t).day = d.toDays := by
  have hhour := ht.hour
  have hminute := ht.minute
  have hsecond := ht.second
  show (d.toDays * 86400 + t.toSeconds) / 86400 = d.toDays
  rw [ClockTime.toSeconds]
  omega

/-- A date and a regular time of day in universal time are read as the moment that they name. -/
theorem parse_spelled {d : Date} {t : ClockTime} (hd : d.Valid) (hplain : d.Plain) (ht : t.Regular)
    (hrange : Date.inRange d.toDays = true) :
    parse (d.chars ++ 'T' :: t.chars ++ ['Z']) = .ok (ofDateTime d t) := by
  have hvalid := hd
  obtain ⟨hmonth, hmonth', hday, hday'⟩ := hd
  have hhour := ht.hour
  have hminute := ht.minute
  have hsecond := ht.second
  obtain ⟨hyear, hyear'⟩ := hplain
  have hlength := Date.monthLength_le d.year d.month
  have hspelled : d.chars ++ 'T' :: t.chars ++ ['Z'] =
      Date.padded 4 d.year.toNat ++ '-' :: (Date.padded 2 d.month ++ '-' ::
        (Date.padded 2 d.day ++ 'T' :: (Date.padded 2 t.hour ++ ':' :: (Date.padded 2 t.minute ++
          ':' :: (Date.padded 2 t.second ++ (ClockTime.fraction t.nanosecond ++ ['Z'])))))) := by
    rw [Date.chars, Date.yearText, if_pos (by simp [hyear, hyear']), ClockTime.chars]
    simp
  have hdate : (⟨((d.year.toNat : Nat) : Int), d.month, d.day⟩ : Date) = d := by
    rw [Int.toNat_of_nonneg hyear]
  have hmoment : (ofDateTime d t).shift (-0) = ofDateTime d t := by simp [shift]
  -- every part begins where the one before it ends
  rw [hspelled, parse]
  refine bind_eq_ok_iff.2 ⟨_, year_padded (by omega) _, ?_⟩
  refine bind_eq_ok_iff.2 ⟨_, literal_cons (by decide) _, ?_⟩
  refine bind_eq_ok_iff.2 ⟨_, field_padded (by omega) (by omega) (by omega) _, ?_⟩
  refine bind_eq_ok_iff.2 ⟨_, literal_cons (by decide) _, ?_⟩
  refine bind_eq_ok_iff.2 ⟨_, field_padded (by omega) (by omega) (by omega) _, ?_⟩
  refine bind_eq_ok_iff.2 ⟨_, rfl, ?_⟩
  refine bind_eq_ok_iff.2 ⟨_, field_padded (by omega) (by omega) (by omega) _, ?_⟩
  refine bind_eq_ok_iff.2 ⟨_, literal_cons (by decide) _, ?_⟩
  refine bind_eq_ok_iff.2 ⟨_, field_padded (by omega) (by omega) (by omega) _, ?_⟩
  refine bind_eq_ok_iff.2 ⟨_, literal_cons (by decide) _, ?_⟩
  refine bind_eq_ok_iff.2 ⟨_, field_padded (by omega) (by omega) (by omega) _, ?_⟩
  refine bind_eq_ok_iff.2 ⟨_, fraction_fraction ht.nanosecond, ?_⟩
  refine bind_eq_ok_iff.2 ⟨(0, []), rfl, ?_⟩
  dsimp only
  rw [if_neg (by decide), hdate, if_neg (by simp [hvalid, hrange]), if_neg (by decide), hmoment,
    day_ofDateTime ht, if_pos hrange]

/-- A moment of a year of four digits, outside a leap second, is read back from its text. -/
theorem parse_chars {m : Moment} (hplain : m.date.Plain) (h : m.nanosecond < 1000000000) :
    parse (m.chars ++ ['Z']) = .ok m := by
  have hrange : Date.inRange m.date.toDays = true := by
    rw [date, Date.toDays_ofDays]
    exact Date.inRange_of_plain hplain
  have hvalid : m.date.Valid := Date.valid_ofDays m.day
  rw [chars, parse_spelled hvalid hplain (regular_clock h) hrange, ofDateTime_date_clock h]

end RootedStorage.Moment.Internet
