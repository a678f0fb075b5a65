import Era.Lib.Calendar
import Mathlib.Data.Nat.Periodic

/-!
# Months, weekdays and the cycle of the calendar

The days up to the first of the next month lie in one month.  Dates and weekdays repeat
every four hundred years, and every day of a common year falls on every weekday.
-/

namespace Era.Lib.Calendar

/-- A valid date is the date of its day count. -/
theorem dateOfDays_daysOfDate {date : Date} (valid : date.Valid) :
    dateOfDays (daysOfDate date) = date := by
  have count := daysOfDate_dateOfDays (daysOfDate date)
  have found := dateOfDays_valid (daysOfDate date)
  by_contra different
  have ordered : (dateOfDays (daysOfDate date)).Before date ∨
      date.Before (dateOfDays (daysOfDate date)) := by
    generalize dateOfDays (daysOfDate date) = other at different
    rw [Date.ext_iff] at different
    simp only [Date.Before]
    omega
  cases ordered with
  | inl before =>
      have := daysOfDate_lt_of_before found valid before
      omega
  | inr before =>
      have := daysOfDate_lt_of_before valid found before
      omega

/-! ## Months -/

/-- The first day of the month after the month of a date. -/
def Date.nextMonth (date : Date) : Date :=
  if date.month = 12 then { year := date.year + 1, month := 1, day := 1 }
  else { year := date.year, month := date.month + 1, day := 1 }

theorem daysInMonth_pos : ∀ leap < 2, ∀ month ≤ 12, 1 ≤ month →
    daysBeforeMonth leap month + 28 ≤ daysBeforeMonth leap (month + 1) := by
  decide

theorem Date.Valid.nextMonth {date : Date} (valid : date.Valid) : date.nextMonth.Valid := by
  have month_pos := valid.month_pos
  have month_le := valid.month_le
  have year_pos := valid.year_pos
  have filled : ∀ year month, 1 ≤ month → month ≤ 12 →
      daysBeforeMonth (leapDay year) month + 1 ≤ daysBeforeMonth (leapDay year) (month + 1) := by
    intro year month positive bound
    have := daysInMonth_pos (leapDay year) (leapDay_lt_two year) month bound positive
    omega
  unfold Date.nextMonth
  split
  next december =>
    have first_le : 1 ≤ 12 := by decide
    exact ⟨Nat.le_add_left 1 date.year, Nat.le_refl 1, first_le, Nat.le_refl 1,
      filled (date.year + 1) 1 (Nat.le_refl 1) first_le⟩
  next earlier =>
    have next_le : date.month + 1 ≤ 12 := by omega
    exact ⟨year_pos, Nat.le_add_left 1 date.month, next_le, Nat.le_refl 1,
      filled date.year (date.month + 1) (Nat.le_add_left 1 date.month) next_le⟩

/-- The days before the next month, counted from the year of a date. -/
theorem daysOfDate_nextMonth {date : Date} (valid : date.Valid) :
    daysOfDate date.nextMonth =
      daysBeforeYear date.year + daysBeforeMonth (leapDay date.year) (date.month + 1) := by
  unfold Date.nextMonth
  split
  next december =>
    have yearLength := daysBeforeYear_succ valid.year_pos
    have whole : daysBeforeMonth (leapDay date.year) (12 + 1) = 365 + leapDay date.year := rfl
    have start : ∀ leap, daysBeforeMonth leap 1 = 0 := fun _ => rfl
    simp only [daysOfDate, december, start]
    omega
  next => rfl

/-- A date lies in front of the next month. -/
theorem lt_daysOfDate_nextMonth (days : Nat) : days < daysOfDate (dateOfDays days).nextMonth := by
  have valid := dateOfDays_valid days
  have count := daysOfDate_dateOfDays days
  have := valid.day_le
  have := valid.day_pos
  rw [daysOfDate_nextMonth valid]
  simp only [daysOfDate] at count
  omega

/-- The days up to the next month lie in one month. -/
theorem month_of_between {days later : Nat} (after : days ≤ later)
    (before : later < daysOfDate (dateOfDays days).nextMonth) :
    (dateOfDays later).month = (dateOfDays days).month := by
  have startsFirst : ¬(dateOfDays later).Before (dateOfDays days) := by
    rw [dateOfDays_before_iff]
    omega
  have endsFirst : ¬(dateOfDays days).nextMonth.Before (dateOfDays later) ∧
      (dateOfDays days).nextMonth ≠ dateOfDays later := by
    rw [← dateOfDays_daysOfDate (dateOfDays_valid days).nextMonth, dateOfDays_before_iff, ne_eq,
      dateOfDays_inj]
    omega
  have laterValid := dateOfDays_valid later
  have := laterValid.month_pos
  have := laterValid.month_le
  have := laterValid.day_pos
  have := (dateOfDays_valid days).month_le
  generalize dateOfDays later = laterDate at *
  generalize dateOfDays days = date at *
  rw [ne_eq, Date.ext_iff] at endsFirst
  unfold Date.nextMonth at endsFirst
  split at endsFirst <;> simp only [Date.Before] at startsFirst endsFirst <;> omega

/-- The next day lies in the same month, or starts the next one. -/
theorem dateOfDays_succ (days : Nat) :
    dateOfDays (days + 1) = { dateOfDays days with day := (dateOfDays days).day + 1 } ∨
      dateOfDays (days + 1) = (dateOfDays days).nextMonth := by
  have valid := dateOfDays_valid days
  have count := daysOfDate_dateOfDays days
  have := valid.day_pos
  have := valid.day_le
  by_cases fits : daysBeforeMonth (leapDay (dateOfDays days).year) (dateOfDays days).month +
      ((dateOfDays days).day + 1) ≤
      daysBeforeMonth (leapDay (dateOfDays days).year) ((dateOfDays days).month + 1)
  · left
    have next : Date.Valid { dateOfDays days with day := (dateOfDays days).day + 1 } :=
      ⟨valid.year_pos, valid.month_pos, valid.month_le, by simp, fits⟩
    rw [← dateOfDays_daysOfDate next, dateOfDays_inj]
    simp only [daysOfDate] at count ⊢
    omega
  · right
    rw [← dateOfDays_daysOfDate valid.nextMonth, dateOfDays_inj, daysOfDate_nextMonth valid]
    simp only [daysOfDate] at count
    omega

/-! ## The cycle -/

/-- Days in four hundred years. -/
def cycleDays : Nat := 146097

theorem leapDay_add_cycle (year : Nat) : leapDay (year + 400) = leapDay year := by
  have same : IsLeap (year + 400) ↔ IsLeap year := by
    simp only [IsLeap]
    omega
  simp only [leapDay, same]

/-- Four hundred years later every date has the same month and day. -/
theorem dateOfDays_add_cycle (days : Nat) :
    dateOfDays (days + cycleDays) =
      { dateOfDays days with year := (dateOfDays days).year + 400 } := by
  have cycles : cyclesOfDays (days + cycleDays) =
      { cyclesOfDays days with n400 := (cyclesOfDays days).n400 + 1 } := by
    simp only [cyclesOfDays, cycleDays, Nat.add_mod_right, Cycles.mk.injEq, and_self, and_true]
    omega
  have year : (cyclesOfDays (days + cycleDays)).year = (cyclesOfDays days).year + 400 := by
    simp only [cycles, Cycles.year]
    omega
  simp only [dateOfDays, year, leapDay_add_cycle]
  simp only [cycles]

/-- The day of the week of a day count, Monday first. -/
def weekday (days : Nat) : Nat := days % 7

theorem weekday_add_cycle (days : Nat) : weekday (days + cycleDays) = weekday days := by
  simp only [weekday, cycleDays]
  omega

/-- A property of days that repeats with the calendar holds again within one cycle. -/
theorem exists_within_cycle {property : Nat → Prop}
    (repeats : ∀ days, property (days + cycleDays) ↔ property days)
    {once : Nat} (holds : property once) (after : Nat) :
    ∃ days, after < days ∧ days ≤ after + cycleDays ∧ property days := by
  have periodic : Function.Periodic property cycleDays := fun days => propext (repeats days)
  have positive : 0 < cycleDays := by decide
  have remainder := Nat.mod_lt once positive
  have afterRemainder := Nat.mod_lt after positive
  have split := Nat.div_add_mod after cycleDays
  have anywhere : ∀ count, property (once % cycleDays + count * cycleDays) := by
    intro count
    rw [← periodic.map_mod_nat, Nat.add_mul_mod_self_right, periodic.map_mod_nat,
      periodic.map_mod_nat]
    exact holds
  by_cases inFront : after % cycleDays < once % cycleDays
  · refine ⟨_, ?_, ?_, anywhere (after / cycleDays)⟩ <;> rw [Nat.mul_comm] <;> omega
  · refine ⟨_, ?_, ?_, anywhere (after / cycleDays + 1)⟩ <;>
      rw [Nat.add_mul, Nat.one_mul, Nat.mul_comm] <;> omega

/-- Seven common years start on the seven days of the week. -/
theorem exists_commonYear : ∀ start < 7, ∃ year ∈ [2001, 2002, 2003, 2005, 2006, 2009, 2010],
    leapDay year = 0 ∧ daysBeforeYear year % 7 = start := by
  decide

/-- Every day of a common year falls on every day of the week. -/
theorem exists_weekday {month day : Nat} (month_pos : 1 ≤ month) (month_le : month ≤ 12)
    (day_pos : 1 ≤ day) (day_le : daysBeforeMonth 0 month + day ≤ daysBeforeMonth 0 (month + 1))
    {onDay : Nat} (onDay_lt : onDay < 7) :
    ∃ days, days < 3652059 ∧ (dateOfDays days).month = month ∧ (dateOfDays days).day = day ∧
      weekday days = onDay := by
  let offset := daysBeforeMonth 0 month + (day - 1)
  obtain ⟨year, listed, common, start⟩ :=
    exists_commonYear ((onDay + 7 - offset % 7) % 7) (Nat.mod_lt _ (by decide))
  have years : 2001 ≤ year ∧ year ≤ 2010 := by
    simp only [List.mem_cons, List.not_mem_nil, or_false] at listed
    omega
  have valid : Date.Valid { year, month, day } :=
    ⟨by simp; omega, month_pos, month_le, day_pos, by simpa only [common] using day_le⟩
  have inCalendar := valid.daysOfDate_lt
  have lastYear := daysBeforeYear_mono (Nat.le_add_left 1 year) (Nat.add_le_add_right years.2 1)
  have bound : daysBeforeYear (2010 + 1) < 3652059 := by decide
  refine ⟨daysOfDate { year, month, day }, ?_, ?_⟩
  · simp only at inCalendar
    omega
  · rw [dateOfDays_daysOfDate valid]
    refine ⟨rfl, rfl, ?_⟩
    simp only [weekday, daysOfDate, common]
    omega

end Era.Lib.Calendar
