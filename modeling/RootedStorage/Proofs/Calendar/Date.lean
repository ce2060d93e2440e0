import Mathlib.Tactic.Common
import RootedStorage.Calendar.Date

/-!
# Day numbers and dates

Every day number has a date of the calendar, and the date has that day number (`Date.toDays_ofDays`).
The work is done within an era: its days are counted by century, by four years and by year
(`Date.inEra_ofDays`), and the months of a year that begins in March follow one linear rule.
-/

namespace RootedStorage.Date

/-! ## Within an era -/

/-- The place of a day within its era: the year, which begins in March, and the day of the year.  The
last day of a leap year is the day 365, and the year that follows in the calendar is then the one with
the leap day. -/
structure InEra (dayOfEra year dayOfYear : Int) : Prop where
  year_mem : 0 ≤ year ∧ year ≤ 399
  day_mem : 0 ≤ dayOfYear ∧ dayOfYear ≤ 365
  leap : dayOfYear = 365 → (year + 1) % 4 = 0 ∧ ((year + 1) % 100 ≠ 0 ∨ (year + 1) % 400 = 0)
  dayOfEra_eq : dayOfEra = 365 * year + year / 4 - year / 100 + dayOfYear

/-- The year of a day of an era. -/
def yearOfEra (dayOfEra : Int) : Int :=
  (dayOfEra - dayOfEra / 1460 + dayOfEra / 36524 - dayOfEra / 146096) / 365

/-- The day of its year that a day of an era is. -/
def dayOfYear (dayOfEra : Int) : Int :=
  dayOfEra - (365 * yearOfEra dayOfEra + yearOfEra dayOfEra / 4 - yearOfEra dayOfEra / 100)

/-- A day of an era by century, by group of four years, by year and by day.  The last century has a day
more, and the last group of another century a day less. -/
structure Place (day century group year rest : Int) : Prop where
  century_mem : 0 ≤ century ∧ century ≤ 3
  group_mem : 0 ≤ group ∧ group ≤ 24
  year_mem : 0 ≤ year ∧ year ≤ 3
  rest_mem : 0 ≤ rest ∧ rest ≤ 365
  leap : rest = 365 → year = 3 ∧ (group = 24 → century = 3)
  day_eq : day = 36524 * century + 1461 * group + 365 * year + rest

/-- Every day of four hundred years has its place. -/
theorem exists_place {day : Int} (h : 0 ≤ day ∧ day < 146097) :
    ∃ century group year rest, Place day century group year rest := by
  obtain ⟨century, hcentury⟩ : ∃ century, century = min (day / 36524) 3 := ⟨_, rfl⟩
  obtain ⟨group, hgroup⟩ : ∃ group, group = (day - 36524 * century) / 1461 := ⟨_, rfl⟩
  obtain ⟨year, hyear⟩ : ∃ year, year = min ((day - 36524 * century - 1461 * group) / 365) 3 :=
    ⟨_, rfl⟩
  refine ⟨century, group, year, day - 36524 * century - 1461 * group - 365 * year, ?_⟩
  constructor
  all_goals omega

/-- The year is found by taking the leap days off. -/
theorem Place.yearOfEra_eq {day century group year rest : Int}
    (h : Place day century group year rest) :
    yearOfEra day = 100 * century + 4 * group + year := by
  obtain ⟨hcentury, hgroup, hyear, hrest, hleap, hday⟩ := h
  have hlength : 1461 * group + 365 * year + rest ≤ 36523 ∨
      century = 3 ∧ 1461 * group + 365 * year + rest ≤ 36524 := by omega
  have hcenturies : day / 36524 - day / 146096 = century := by
    rcases hlength with hshort | ⟨rfl, hlong⟩
    · have hall : day / 36524 = century := by omega
      have hnone : day / 146096 = 0 := by omega
      rw [hall, hnone, Int.sub_zero]
    · omega
  -- a day near the end of a group may be counted behind its leap day already
  have hgroups : day / 1460 = 25 * century + group ∨
      day / 1460 = 25 * century + group + 1 ∧ 1364 ≤ 365 * year + rest := by
    omega
  rw [yearOfEra]
  omega

/-- The place of a day by its year and its day of the year. -/
theorem inEra_dayOfYear {day : Int} (h : 0 ≤ day ∧ day < 146097) :
    InEra day (yearOfEra day) (dayOfYear day) := by
  obtain ⟨century, group, year, rest, hplace⟩ := exists_place h
  have hfound := hplace.yearOfEra_eq
  obtain ⟨hcentury, hgroup, hyear, hrest, hleap, hday⟩ := hplace
  have hfours : (100 * century + 4 * group + year) / 4 = 25 * century + group := by omega
  have hhundreds : (100 * century + 4 * group + year) / 100 = century := by omega
  have hdays : dayOfYear day = rest := by
    rw [dayOfYear, hfound, hfours, hhundreds]
    omega
  rw [hfound, hdays]
  exact {
    year_mem := by omega
    day_mem := hrest
    leap := by
      intro hlast
      obtain ⟨rfl, hcenturyLast⟩ := hleap hlast
      omega
    dayOfEra_eq := by
      rw [hfours, hhundreds]
      omega }

/-! ## Within a year -/

/-- The month, counted from March, that a day of the year lies in. -/
def monthIndex (dayOfYear : Int) : Int := (5 * dayOfYear + 2) / 153

/-- The month of the calendar. -/
def monthOf (index : Int) : Nat := (if index < 10 then index + 3 else index - 9).toNat

/-- The date of a day of a year that begins in March. -/
def ofMarch (year dayOfYear : Int) : Date where
  year := if monthOf (monthIndex dayOfYear) ≤ 2 then year + 1 else year
  month := monthOf (monthIndex dayOfYear)
  day := (dayOfYear - daysBeforeMonth (monthIndex dayOfYear) + 1).toNat

section March

variable {year dayOfYear index : Int}

/-- A day of the year lies in one of twelve months. -/
theorem monthIndex_mem (h : 0 ≤ dayOfYear ∧ dayOfYear ≤ 365) :
    0 ≤ monthIndex dayOfYear ∧ monthIndex dayOfYear ≤ 11 := by
  unfold monthIndex
  omega

/-- A day lies behind the first day of its month and before that of the next one. -/
theorem daysBeforeMonth_le (dayOfYear : Int) :
    daysBeforeMonth (monthIndex dayOfYear) ≤ dayOfYear ∧
      dayOfYear < daysBeforeMonth (monthIndex dayOfYear + 1) := by
  unfold monthIndex daysBeforeMonth
  omega

/-- The linear rule gives the lengths of the months up to January. -/
theorem monthLength_monthOf (h : 0 ≤ index ∧ index ≤ 10) (year : Int) :
    (monthLength year (monthOf index) : Int) =
      daysBeforeMonth (index + 1) - daysBeforeMonth index := by
  have hcases : index = 0 ∨ index = 1 ∨ index = 2 ∨ index = 3 ∨ index = 4 ∨ index = 5 ∨ index = 6 ∨
      index = 7 ∨ index = 8 ∨ index = 9 ∨ index = 10 := by omega
  rcases hcases with rfl | rfl | rfl | rfl | rfl | rfl | rfl | rfl | rfl | rfl | rfl <;> rfl

/-- February has the days that are left of the year. -/
theorem monthLength_february (hleap : dayOfYear = 365 → isLeap (year + 1) = true)
    (h : dayOfYear ≤ 365) :
    dayOfYear - daysBeforeMonth 11 + 1 ≤ (monthLength (year + 1) 2 : Int) := by
  have hbefore : daysBeforeMonth 11 = 337 := rfl
  have hlength : monthLength (year + 1) 2 = if isLeap (year + 1) then 29 else 28 := rfl
  rw [hbefore, hlength]
  split
  · omega
  · next hcommon =>
    have hshort : dayOfYear ≠ 365 := fun h365 => hcommon (hleap h365)
    omega

/-- The twelve months from March on are numbered from January on. -/
theorem monthOf_mem (h : 0 ≤ index ∧ index ≤ 11) :
    1 ≤ monthOf index ∧ monthOf index ≤ 12 ∧
      (monthOf index : Int) = if index < 10 then index + 3 else index - 9 := by
  unfold monthOf
  split
  · omega
  · omega

/-- Every day of a year is a date of the calendar, the day 365 if the year ends with a leap day. -/
theorem valid_ofMarch (h : 0 ≤ dayOfYear ∧ dayOfYear ≤ 365)
    (hleap : dayOfYear = 365 → isLeap (year + 1) = true) : (ofMarch year dayOfYear).Valid := by
  have hindex := monthIndex_mem h
  obtain ⟨hfirst, hlast, -⟩ := monthOf_mem hindex
  obtain ⟨hbegun, hnext⟩ := daysBeforeMonth_le dayOfYear
  refine ⟨hfirst, hlast, ?_, ?_⟩
  · show 1 ≤ (dayOfYear - daysBeforeMonth (monthIndex dayOfYear) + 1).toNat
    omega
  · show (dayOfYear - daysBeforeMonth (monthIndex dayOfYear) + 1).toNat ≤
      monthLength (if monthOf (monthIndex dayOfYear) ≤ 2 then year + 1 else year)
        (monthOf (monthIndex dayOfYear))
    by_cases hfebruary : monthIndex dayOfYear = 11
    · have hlength := monthLength_february hleap h.2
      rw [hfebruary]
      show (dayOfYear - daysBeforeMonth 11 + 1).toNat ≤ monthLength (year + 1) 2
      omega
    · have hlength := monthLength_monthOf ⟨hindex.1, by omega⟩
        (if monthOf (monthIndex dayOfYear) ≤ 2 then year + 1 else year)
      omega

/-- The day is counted back from its month and its year. -/
theorem toDays_ofMarch {era : Int} (hyear : 0 ≤ year ∧ year ≤ 399)
    (h : 0 ≤ dayOfYear ∧ dayOfYear ≤ 365) :
    (ofMarch (year + era * 400) dayOfYear).toDays =
      era * 146097 + (365 * year + year / 4 - year / 100 + dayOfYear) - 719468 := by
  obtain ⟨month, hmonth⟩ : ∃ month, month = monthOf (monthIndex dayOfYear) := ⟨_, rfl⟩
  obtain ⟨hbegun, -⟩ := daysBeforeMonth_le dayOfYear
  have hindex := monthIndex_mem h
  obtain ⟨-, -, hof⟩ := monthOf_mem hindex
  rw [← hmonth] at hof
  have hindexBack : (if 3 ≤ month then (month : Int) - 3 else month + 9) = monthIndex dayOfYear := by
    split at hof
    · rw [if_pos (by omega)]
      omega
    · rw [if_neg (by omega)]
      omega
  have hyearBack : (if 3 ≤ month then if month ≤ 2 then year + era * 400 + 1 else year + era * 400
      else (if month ≤ 2 then year + era * 400 + 1 else year + era * 400) - 1) =
      year + era * 400 := by
    by_cases hlate : 3 ≤ month
    · rw [if_pos hlate, if_neg (by omega)]
    · rw [if_neg hlate, if_pos (by omega), Int.add_sub_cancel]
  have hera : (year + era * 400) / 400 = era := by omega
  unfold toDays ofMarch
  dsimp only
  rw [← hmonth, hindexBack, hyearBack, hera, Int.add_sub_cancel]
  omega

end March

/-! ## Every day -/

/-- The date of a day is found within its era. -/
theorem exists_ofDays (days : Int) : ∃ era year dayOfYear : Int,
    InEra (days + 719468 - era * 146097) year dayOfYear ∧
      ofDays days = ofMarch (year + era * 400) dayOfYear := by
  have hmem : 0 ≤ days + 719468 - (days + 719468) / 146097 * 146097 ∧
      days + 719468 - (days + 719468) / 146097 * 146097 < 146097 := by omega
  have h := inEra_dayOfYear hmem
  refine ⟨(days + 719468) / 146097, _, _, h, ?_⟩
  have hmonth := (monthOf_mem (monthIndex_mem h.day_mem)).2.2
  unfold ofMarch
  simp only [← Int.ofNat_le (n := 2), hmonth]
  rfl

/-- A day has a date of the calendar. -/
theorem valid_ofDays (days : Int) : (ofDays days).Valid := by
  obtain ⟨era, year, dayOfYear, h, hdate⟩ := exists_ofDays days
  rw [hdate]
  refine valid_ofMarch h.day_mem fun hlast => ?_
  obtain ⟨hfour, hcentury⟩ := h.leap hlast
  simp only [isLeap, Bool.and_eq_true, Bool.or_eq_true, decide_eq_true_iff]
  omega

/-- The date of a day has the number of the day. -/
theorem toDays_ofDays (days : Int) : (ofDays days).toDays = days := by
  obtain ⟨era, year, dayOfYear, h, hdate⟩ := exists_ofDays days
  have hcount := h.dayOfEra_eq
  rw [hdate, toDays_ofMarch h.year_mem h.day_mem]
  omega

/-- No month is longer than thirty-one days. -/
theorem monthLength_le (year : Int) (month : Nat) : monthLength year month ≤ 31 := by
  unfold monthLength
  split
  · split <;> decide
  all_goals decide

/-- The years that are written with four digits and no sign. -/
def Plain (d : Date) : Prop := 0 ≤ d.year ∧ d.year ≤ 9999

/-- January and February, which belong to the next year of the calendar, are the last days. -/
theorem monthOf_monthIndex_le_iff {dayOfYear : Int} (h : 0 ≤ dayOfYear ∧ dayOfYear ≤ 365) :
    monthOf (monthIndex dayOfYear) ≤ 2 ↔ 306 ≤ dayOfYear := by
  have hmem := monthIndex_mem h
  have hmonth := (monthOf_mem hmem).2.2
  have hindex : monthIndex dayOfYear < 10 ↔ dayOfYear < 306 := by
    unfold monthIndex
    omega
  split at hmonth
  · omega
  · omega

/-- The days of the years with four digits. -/
theorem plain_ofDays_iff (days : Int) : (ofDays days).Plain ↔ -719528 ≤ days ∧ days ≤ 2932896 := by
  obtain ⟨era, year, dayOfYear, h, hdate⟩ := exists_ofDays days
  have hcount := h.dayOfEra_eq
  have hyear := h.year_mem
  have hday := h.day_mem
  have hbefore : 365 * year ≤ 365 * year + year / 4 - year / 100 ∧
      365 * year + year / 4 - year / 100 ≤ 365 * year + 96 := by omega
  have hera : era ≤ -2 ∨ era = -1 ∨ 0 ≤ era ∧ era ≤ 23 ∨ era = 24 ∨ 25 ≤ era := by omega
  rw [hdate, Plain, ofMarch]
  simp only [monthOf_monthIndex_le_iff hday]
  rcases hera with hera | rfl | hera | rfl | hera
  · split <;> omega
  · split <;> omega
  · split <;> omega
  · split <;> omega
  · split <;> omega

/-- Every day of a year of four digits is in range. -/
theorem inRange_of_plain {days : Int} (h : (ofDays days).Plain) : inRange days = true := by
  obtain ⟨hfirst, hlast⟩ := (plain_ofDays_iff days).1 h
  rw [inRange, Bool.and_eq_true, decide_eq_true_iff, decide_eq_true_iff]
  omega

end RootedStorage.Date
