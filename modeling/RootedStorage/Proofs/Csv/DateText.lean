import Mathlib.Data.List.TakeWhile
import RootedStorage.Csv.CellText
import RootedStorage.Proofs.Calendar.Moment
import RootedStorage.Proofs.Csv.Shape

/-!
# Dates and times as texts

Numbers of a fixed width are written with zeros in front (`Digits`), and years of four digits need no
sign.  So the text of a date or of a moment in such a year has one form only, and the readers, which
accept several, find the date and the moment again (`parseShortDate_chars`, `parseMoment_chars`).
-/

namespace RootedStorage.Csv.CellText

/-! ## Numbers of a fixed width -/

/-- So many digits of ASCII, and the number that they stand for. -/
structure Digits (ds : List Char) (count n : Nat) : Prop where
  length_eq : ds.length = count
  isDigit : ∀ c ∈ ds, c.isDigit = true
  number_eq : number ds = n

theorem number_replicate_zero_append (count : Nat) (ds : List Char) :
    number (List.replicate count '0' ++ ds) = number ds := by
  induction count with
  | zero => rfl
  | succ count ih =>
    rw [← ih, List.replicate_succ, List.cons_append]
    exact Nat.ofDigitChars_cons

theorem digits_padded {count n : Nat} (hcount : 0 < count) (h : n < 10 ^ count) :
    Digits (Date.padded count n) count n where
  length_eq := by
    have hlength := (Nat.length_toDigits_le_iff (b := 10) (by decide) hcount).2 h
    rw [Date.padded, List.length_append, List.length_replicate]
    omega
  isDigit := by
    intro c hc
    rcases List.mem_append.1 hc with hzero | hdigit
    · rw [List.eq_of_mem_replicate hzero]
      decide
    · exact Nat.isDigit_of_mem_toDigits (by decide) (by decide) hdigit
  number_eq := by
    rw [Date.padded, number_replicate_zero_append]
    exact Nat.ofDigitChars_ten_toDigits

theorem exists_padded_two {n : Nat} (h : n < 100) :
    ∃ a b, Date.padded 2 n = [a, b] ∧ a.isDigit = true ∧ b.isDigit = true ∧ number [a, b] = n := by
  have hdigits : Digits (Date.padded 2 n) 2 n := digits_padded (by decide) h
  obtain ⟨a, b, hab⟩ := List.length_eq_two.1 hdigits.length_eq
  rw [hab] at hdigits
  exact ⟨a, b, hab, hdigits.isDigit a (by simp), hdigits.isDigit b (by simp), hdigits.number_eq⟩

/-! ## Dates -/

/-- A date in a year of four digits, as it is written. -/
theorem exists_chars {d : Date} (hd : d.Valid) (hplain : d.Plain) :
    ∃ y₁ y₂ y₃ y₄ m₁ m₂ d₁ d₂, d.chars = [y₁, y₂, y₃, y₄, '-', m₁, m₂, '-', d₁, d₂] ∧
      (∀ c ∈ [y₁, y₂, y₃, y₄, m₁, m₂, d₁, d₂], c.isDigit = true) ∧
      date? [y₁, y₂, y₃, y₄] [m₁, m₂] [d₁, d₂] = some d := by
  have hmonth := hd.2.1
  have hday := hd.2.2.2
  obtain ⟨hsign, hyear⟩ := hplain
  have hlength := Date.monthLength_le d.year d.month
  have hdigits : Digits (Date.padded 4 d.year.toNat) 4 d.year.toNat :=
    digits_padded (by decide) (by omega)
  obtain ⟨y₁, y₂, y₃, y₄, hy⟩ := List.length_eq_four.1 hdigits.length_eq
  obtain ⟨m₁, m₂, hm, hm₁, hm₂, hmonthBack⟩ := exists_padded_two (n := d.month) (by omega)
  obtain ⟨d₁, d₂, hd', hd₁, hd₂, hdayBack⟩ := exists_padded_two (n := d.day) (by omega)
  rw [hy] at hdigits
  refine ⟨y₁, y₂, y₃, y₄, m₁, m₂, d₁, d₂, ?_, ?_, ?_⟩
  · rw [Date.chars, Date.yearText, if_pos (by simp [hsign, hyear]), hy, hm, hd']
    rfl
  · have hyears := hdigits.isDigit
    simp only [List.forall_mem_cons] at hyears
    obtain ⟨hy₁, hy₂, hy₃, hy₄, -⟩ := hyears
    simp [hy₁, hy₂, hy₃, hy₄, hm₁, hm₂, hd₁, hd₂]
  · have hback : (⟨number [y₁, y₂, y₃, y₄], number [m₁, m₂], number [d₁, d₂]⟩ : Date) = d := by
      rw [hdigits.number_eq, hmonthBack, hdayBack, Int.toNat_of_nonneg hsign]
    simp only [date?, hback, if_pos hd]

/-- A date in a year of four digits is read back. -/
theorem parseShortDate_chars {d : Date} (hd : d.Valid) (hplain : d.Plain) :
    parseShortDate d.chars = some d := by
  obtain ⟨y₁, y₂, y₃, y₄, m₁, m₂, d₁, d₂, hchars, hdigits, hback⟩ := exists_chars hd hplain
  simp only [List.forall_mem_cons] at hdigits
  have hyear : isNumber [y₁, y₂, y₃, y₄] = true := isNumber_iff.2 ⟨by simp, by simp [hdigits]⟩
  have hday : isNumber [m₁, m₂, d₁, d₂] = true := isNumber_iff.2 ⟨by simp, by simp [hdigits]⟩
  rw [hchars]
  simp only [parseShortDate, hyear, hday, hback, Bool.not_true, Bool.false_eq_true, if_false, if_true]

/-! ## Times of day -/

/-- A fraction of a second is empty or so many digits, and stands for its nanoseconds. -/
theorem fraction_cases {n : Nat} (h : n < 1000000000) :
    ClockTime.fraction n = [] ∧ n = 0 ∨
      ∃ count ds value, ClockTime.fraction n = '.' :: ds ∧ Digits ds count value ∧
        0 < count ∧ count ≤ 9 ∧ value * 10 ^ (9 - count) = n := by
  unfold ClockTime.fraction
  split
  · exact .inl ⟨rfl, ‹n = 0›⟩
  · right
    split
    · exact ⟨3, _, _, rfl, digits_padded (by decide) (by omega), by decide, by decide, by omega⟩
    · split
      · exact ⟨6, _, _, rfl, digits_padded (by decide) (by omega), by decide, by decide, by omega⟩
      · exact ⟨9, _, _, rfl, digits_padded (by decide) (by omega), by decide, by decide, by omega⟩

/-- Hours, minutes and seconds with colons between them, and what may follow. -/
theorem clockPart_colons (h₁ h₂ m₁ m₂ s₁ s₂ : Char) (rest : List Char) :
    clockPart (h₁ :: h₂ :: ':' :: m₁ :: m₂ :: ':' :: s₁ :: s₂ :: rest) =
      if isNumber [h₁, h₂, m₁, m₂, s₁, s₂] then
        match rest with
        | '.' :: rest =>
          if (rest.takeWhile Char.isDigit).isEmpty then none
          else (clock? [h₁, h₂] [m₁, m₂] [s₁, s₂] (rest.takeWhile Char.isDigit)).map
            (·, rest.dropWhile Char.isDigit)
        | rest => (clock? [h₁, h₂] [m₁, m₂] [s₁, s₂] []).map (·, rest)
      else none :=
  rfl

/-- A regular time of day is read back. -/
theorem clockPart_chars {t : ClockTime} (ht : t.Regular) : clockPart t.chars = some (t, []) := by
  have hhour := ht.hour
  have hminute := ht.minute
  have hsecond := ht.second
  obtain ⟨h₁, h₂, hh, hh₁, hh₂, hhourBack⟩ := exists_padded_two (n := t.hour) (by omega)
  obtain ⟨m₁, m₂, hm, hm₁, hm₂, hminuteBack⟩ := exists_padded_two (n := t.minute) (by omega)
  obtain ⟨s₁, s₂, hs, hs₁, hs₂, hsecondBack⟩ := exists_padded_two (n := t.second) (by omega)
  have hchars : t.chars =
      h₁ :: h₂ :: ':' :: m₁ :: m₂ :: ':' :: s₁ :: s₂ :: ClockTime.fraction t.nanosecond := by
    rw [ClockTime.chars, hh, hm, hs]
    rfl
  have hnumber : isNumber [h₁, h₂, m₁, m₂, s₁, s₂] = true :=
    isNumber_iff.2 ⟨by simp, by simp [hh₁, hh₂, hm₁, hm₂, hs₁, hs₂]⟩
  have hclock : ∀ ds : List Char, number (ds.take 9) * Nat.pow 10 (9 - min ds.length 9) =
      t.nanosecond → clock? [h₁, h₂] [m₁, m₂] [s₁, s₂] ds = some t := by
    intro ds hds
    simp only [clock?, hhourBack, hminuteBack, hsecondBack, hds]
    rw [if_pos]
    simp only [Bool.and_eq_true, decide_eq_true_iff]
    omega
  rw [hchars]
  rcases fraction_cases ht.nanosecond with
    ⟨hnone, hzero⟩ | ⟨count, ds, value, hsome, hdigits, hpositive, hshort, hvalue⟩
  · have hback : clock? [h₁, h₂] [m₁, m₂] [s₁, s₂] [] = some t := by
      have hnothing : number (([] : List Char).take 9) = 0 := rfl
      apply hclock
      rw [hnothing, Nat.zero_mul, hzero]
    rw [hnone, clockPart_colons, if_pos hnumber]
    dsimp only
    rw [hback]
    rfl
  · have htake : ds.takeWhile Char.isDigit = ds := List.takeWhile_eq_self_iff.2 hdigits.isDigit
    have hdrop : ds.dropWhile Char.isDigit = [] := List.dropWhile_eq_nil_iff.2 hdigits.isDigit
    have hlength := hdigits.length_eq
    have hempty : ds.isEmpty = false := by
      rw [List.isEmpty_eq_false_iff_exists_mem]
      exact List.exists_mem_of_length_pos (by omega)
    have hback : clock? [h₁, h₂] [m₁, m₂] [s₁, s₂] ds = some t := by
      apply hclock
      rw [List.take_of_length_le (by omega), hdigits.number_eq, hlength, Nat.min_eq_left hshort]
      exact hvalue
    rw [hsome, clockPart_colons, if_pos hnumber]
    simp only [htake, hdrop, hempty, hback, Bool.false_eq_true, if_false, Option.map_some]

/-! ## Moments -/

/-- A moment in a year of four digits is read back. -/
theorem parseMoment_chars {m : Moment} (hplain : m.date.Plain) (h : m.nanosecond < 1000000000) :
    parseMoment m.chars = some m := by
  obtain ⟨y₁, y₂, y₃, y₄, m₁, m₂, d₁, d₂, hchars, hdigits, hback⟩ :=
    exists_chars (Date.valid_ofDays m.day) hplain
  have hnumber : isNumber [y₁, y₂, y₃, y₄, m₁, m₂, d₁, d₂] = true :=
    isNumber_iff.2 ⟨by simp, hdigits⟩
  have hclock := clockPart_chars (Moment.regular_clock h)
  have hshift : (Moment.ofDateTime m.date m.clock).shift (-0) = m := by
    rw [Moment.ofDateTime_date_clock h]
    simp [Moment.shift]
  rw [Moment.chars, show m.date.chars = _ from hchars]
  simp only [List.cons_append, List.nil_append, parseMoment, hnumber, hback, hclock, zone?,
    Bool.not_true, Bool.false_eq_true, if_false, Option.bind_eq_bind, Option.bind_some]
  exact congrArg some hshift

/-! ## Cells -/

theorem ofList_ne_empty {chars : List Char} (h : chars ≠ []) : String.ofList chars ≠ "" := by
  rw [← String.toList_inj.ne, String.toList_ofList]
  exact h

/-- A date in a year of four digits takes ten octets. -/
theorem utf8ByteSize_chars {d : Date} (hd : d.Valid) (hplain : d.Plain) :
    (String.ofList d.chars).utf8ByteSize ≤ 10 := by
  obtain ⟨y₁, y₂, y₃, y₄, m₁, m₂, d₁, d₂, hchars, hdigits, -⟩ := exists_chars hd hplain
  have hascii : Text.IsAscii d.chars := by
    have hall := isAscii_digits hdigits
    simp only [Text.isAscii_cons] at hall
    obtain ⟨hy₁, hy₂, hy₃, hy₄, hm₁, hm₂, hd₁, hd₂, hnil⟩ := hall
    have hdash : '-'.toNat < 128 := by decide
    simp only [hchars, Text.isAscii_cons]
    exact ⟨hy₁, hy₂, hy₃, hy₄, hdash, hm₁, hm₂, hdash, hd₁, hd₂, hnil⟩
  have hlength := Utf8.length_encode_le_iff (s := String.ofList d.chars)
  rw [String.toList_ofList, Utf8.length_encode] at hlength
  calc (String.ofList d.chars).utf8ByteSize
      ≤ d.chars.length := hlength.2 hascii
    _ ≤ 10 := by simp [hchars]

/-- A day of a year of four digits is read back from its text. -/
theorem parseDay_dateText {days : Int} (hplain : (Date.ofDays days).Plain) :
    ∃ s, dateText days = some s ∧ s ≠ "" ∧ parseDay s = some days := by
  have hvalid := Date.valid_ofDays days
  refine ⟨_, if_pos (Date.inRange_of_plain hplain), ofList_ne_empty (by simp [Date.chars]), ?_⟩
  rw [parseDay, if_neg (Nat.not_lt.2 (utf8ByteSize_chars hvalid hplain)), String.toList_ofList,
    parseShortDate_chars hvalid hplain, Option.map_some, Date.toDays_ofDays]

/-- A timestamp in a year of four digits is read back from its text. -/
theorem parseTicks_timestampText {unit : TimeUnit} {ticks : Int}
    (hplain : (Moment.ofTicks unit.perSecond ticks).date.Plain)
    (hholds : IntegerType.int64.holds ticks = true) :
    ∃ s, timestampText unit none ticks = some s ∧ s ≠ "" ∧
      parseTicks unit s.toList = some ticks := by
  refine ⟨_, if_pos (Date.inRange_of_plain hplain), ofList_ne_empty (by simp [Moment.chars]), ?_⟩
  have hmoment := parseMoment_chars hplain (Moment.nanosecond_ofTicks_lt unit ticks)
  rw [parseTicks, String.toList_ofList, hmoment]
  simp [Moment.toTicks_ofTicks, hholds]

end RootedStorage.Csv.CellText
