import RootedStorage.Calendar.Moment
import RootedStorage.Proofs.Calendar.Date
import RootedStorage.Table.ColumnType

/-!
# Moments and ticks

A moment is its date and its time of day (`Moment.ofDateTime_date_clock`), and a count of ticks is kept
by the moment that it leads to (`Moment.toTicks_ofTicks`), also before 1970, where seconds are rounded
down.
-/

namespace RootedStorage

/-- A time of day without a leap second. -/
structure ClockTime.Regular (t : ClockTime) : Prop where
  hour : t.hour < 24
  minute : t.minute < 60
  second : t.second < 60
  nanosecond : t.nanosecond < 1000000000

namespace Moment

variable {m : Moment}

/-- Outside a leap second the clock shows a regular time. -/
theorem regular_clock (h : m.nanosecond < 1000000000) : m.clock.Regular := by
  unfold clock
  simp only [Nat.not_le.2 h, if_false]
  exact {
    hour := by
      show (m.seconds % 86400).toNat / 3600 < 24
      omega
    minute := Nat.mod_lt _ (by decide)
    second := Nat.mod_lt _ (by decide)
    nanosecond := h }

/-- Outside a leap second a moment is its date and its time of day. -/
theorem ofDateTime_date_clock (h : m.nanosecond < 1000000000) : ofDateTime m.date m.clock = m := by
  have hregular := regular_clock h
  have hsub : m.clock.subsecond = m.nanosecond := by
    rw [ClockTime.subsecond, if_neg (Nat.ne_of_lt hregular.second)]
    simp only [clock, Nat.not_le.2 h, if_false]
  have hseconds : (m.clock.toSeconds : Int) = m.seconds % 86400 := by
    rw [ClockTime.toSeconds, Nat.min_eq_left (Nat.le_of_lt_succ hregular.second)]
    simp only [clock, Nat.not_le.2 h, if_false]
    omega
  rw [ofDateTime, date, Date.toDays_ofDays, hsub, hseconds, day, Int.ediv_mul_add_emod]

theorem nanosecond_ofTicks_lt (unit : TimeUnit) (ticks : Int) :
    (ofTicks unit.perSecond ticks).nanosecond < 1000000000 := by
  unfold ofTicks
  cases unit with
  | second => simp only [TimeUnit.perSecond]; omega
  | millisecond => simp only [TimeUnit.perSecond]; omega
  | microsecond => simp only [TimeUnit.perSecond]; omega
  | nanosecond => simp only [TimeUnit.perSecond]; omega

/-- Ticks are counted back from the moment that they lead to. -/
theorem toTicks_ofTicks (unit : TimeUnit) (ticks : Int) :
    (ofTicks unit.perSecond ticks).toTicks unit.perSecond = ticks := by
  unfold toTicks ofTicks
  cases unit with
  | second => simp [TimeUnit.perSecond]
  | millisecond => simp only [TimeUnit.perSecond]; omega
  | microsecond => simp only [TimeUnit.perSecond]; omega
  | nanosecond => simp only [TimeUnit.perSecond]; omega

end Moment

end RootedStorage
