import Mathlib.Algebra.Order.Group.Nat
import Mathlib.Algebra.Order.Ring.Nat
import Mathlib.Data.Nat.Init

/-!
# The proleptic Gregorian calendar

Days are counted from the first day of year one.  Every day count has one civil
date, and later days have lexicographically later dates.
-/

namespace Era.Lib.Calendar

/-- A civil date; months and days count from one. -/
@[ext] structure Date where
  year : Nat
  month : Nat
  day : Nat
  deriving DecidableEq, Repr

def IsLeap (year : Nat) : Prop :=
  year % 4 = 0 ∧ (year % 100 ≠ 0 ∨ year % 400 = 0)

instance (year : Nat) : Decidable (IsLeap year) := inferInstanceAs (Decidable (_ ∧ _))

/-- One in a leap year, else zero. -/
def leapDay (year : Nat) : Nat := if IsLeap year then 1 else 0

/-- Days in the years before `year`. -/
def daysBeforeYear (year : Nat) : Nat :=
  365 * (year - 1) + (year - 1) / 4 - (year - 1) / 100 + (year - 1) / 400

/-- Days of a year before each month, January first, and in the whole year. -/
def monthStarts (leap : Nat) : List Nat :=
  [0, 31, 59 + leap, 90 + leap, 120 + leap, 151 + leap, 181 + leap, 212 + leap,
    243 + leap, 273 + leap, 304 + leap, 334 + leap, 365 + leap]

/-- Days of a year before a month, given the leap day of that year. -/
def daysBeforeMonth (leap month : Nat) : Nat := (monthStarts leap).getD (month - 1) 0

/-- The month a day of the year falls into. -/
def monthOfDay (leap dayOfYear : Nat) : Nat :=
  (monthStarts leap).countP (· ≤ dayOfYear)

/-- Position of a day inside its cycles of 400, 100, 4 and 1 years. -/
structure Cycles where
  n400 : Nat
  n100 : Nat
  n4 : Nat
  n1 : Nat
  dayOfYear : Nat

/-- Split a day count into cycles.  The last day of a leap cycle would start a
fourth century or a fourth year, hence the two minima. -/
def cyclesOfDays (days : Nat) : Cycles :=
  let inCycle := days % 146097
  let n100 := min 3 (inCycle / 36524)
  let inCentury := inCycle - 36524 * n100
  let inFour := inCentury % 1461
  let n1 := min 3 (inFour / 365)
  { n400 := days / 146097, n100, n4 := inCentury / 1461, n1, dayOfYear := inFour - 365 * n1 }

def Cycles.year (cycles : Cycles) : Nat :=
  400 * cycles.n400 + 100 * cycles.n100 + 4 * cycles.n4 + cycles.n1 + 1

/-- Civil date of a day count. -/
def dateOfDays (days : Nat) : Date :=
  let cycles := cyclesOfDays days
  let leap := leapDay cycles.year
  let month := monthOfDay leap cycles.dayOfYear
  { year := cycles.year, month, day := cycles.dayOfYear - daysBeforeMonth leap month + 1 }

/-- Day count of a civil date. -/
def daysOfDate (date : Date) : Nat :=
  daysBeforeYear date.year + daysBeforeMonth (leapDay date.year) date.month + (date.day - 1)

theorem leapDay_lt_two (year : Nat) : leapDay year < 2 := by
  unfold leapDay
  split <;> omega

/-- The bounds that hold between the cycles of a day count. -/
structure Cycles.Bounded (cycles : Cycles) (days : Nat) : Prop where
  n100_le : cycles.n100 ≤ 3
  n4_le : cycles.n4 ≤ 24
  n1_le : cycles.n1 ≤ 3
  days_eq : 146097 * cycles.n400 + 36524 * cycles.n100 + 1461 * cycles.n4 +
    365 * cycles.n1 + cycles.dayOfYear = days
  dayOfYear_le : cycles.dayOfYear ≤ 365
  lastDay : cycles.dayOfYear = 365 →
    cycles.n1 = 3 ∧ (cycles.n4 ≠ 24 ∨ cycles.n100 = 3)

theorem cyclesOfDays_bounded (days : Nat) : (cyclesOfDays days).Bounded days := by
  constructor <;> simp only [cyclesOfDays] <;> omega

theorem isLeap_of_cycles {cycles : Cycles} (n1_eq : cycles.n1 = 3)
    (century : cycles.n4 ≠ 24 ∨ cycles.n100 = 3) (n4_le : cycles.n4 ≤ 24) :
    IsLeap cycles.year := by
  simp only [IsLeap, Cycles.year]
  omega

theorem daysBeforeYear_of_cycles {cycles : Cycles} (n100_le : cycles.n100 ≤ 3)
    (n4_le : cycles.n4 ≤ 24) (n1_le : cycles.n1 ≤ 3) :
    daysBeforeYear cycles.year = 146097 * cycles.n400 + 36524 * cycles.n100 +
      1461 * cycles.n4 + 365 * cycles.n1 := by
  simp only [daysBeforeYear, Cycles.year]
  omega

/-- A day of the year lies in its month. -/
theorem monthOfDay_spec : ∀ leap < 2, ∀ dayOfYear < 365 + leap,
    1 ≤ monthOfDay leap dayOfYear ∧ monthOfDay leap dayOfYear ≤ 12 ∧
      daysBeforeMonth leap (monthOfDay leap dayOfYear) ≤ dayOfYear ∧
      dayOfYear < daysBeforeMonth leap (monthOfDay leap dayOfYear + 1) := by
  decide +kernel

theorem daysBeforeMonth_mono : ∀ leap < 2, ∀ right < 14, ∀ left ≤ right,
    daysBeforeMonth leap left ≤ daysBeforeMonth leap right := by
  decide +kernel

/-- A date that the calendar has. -/
structure Date.Valid (date : Date) : Prop where
  year_pos : 1 ≤ date.year
  month_pos : 1 ≤ date.month
  month_le : date.month ≤ 12
  day_pos : 1 ≤ date.day
  day_le : daysBeforeMonth (leapDay date.year) date.month + date.day ≤
    daysBeforeMonth (leapDay date.year) (date.month + 1)

theorem dayOfYear_lt (days : Nat) :
    (cyclesOfDays days).dayOfYear < 365 + leapDay (cyclesOfDays days).year := by
  have bounded := cyclesOfDays_bounded days
  by_cases last : (cyclesOfDays days).dayOfYear = 365
  · obtain ⟨n1_eq, century⟩ := bounded.lastDay last
    have leap := isLeap_of_cycles n1_eq century bounded.n4_le
    simp [leapDay, leap, last]
  · have := bounded.dayOfYear_le
    omega

theorem dateOfDays_valid (days : Nat) : (dateOfDays days).Valid := by
  obtain ⟨month_pos, month_le, _, inMonth⟩ :=
    monthOfDay_spec _ (leapDay_lt_two (cyclesOfDays days).year) _ (dayOfYear_lt days)
  refine ⟨?_, month_pos, month_le, ?_, ?_⟩
  · simp [dateOfDays, Cycles.year]
  · simp [dateOfDays]
  · simp only [dateOfDays]
    omega

/-- No month has more than 31 days. -/
theorem daysInMonth_le : ∀ leap < 2, ∀ month ≤ 12, 1 ≤ month →
    daysBeforeMonth leap (month + 1) ≤ daysBeforeMonth leap month + 31 := by
  decide

theorem Date.Valid.day_le_31 {date : Date} (valid : date.Valid) : date.day ≤ 31 := by
  have monthLength := daysInMonth_le (leapDay date.year) (leapDay_lt_two date.year) date.month
    valid.month_le valid.month_pos
  have := valid.day_le
  omega

/-- Civil dates lose nothing. -/
theorem daysOfDate_dateOfDays (days : Nat) : daysOfDate (dateOfDays days) = days := by
  have bounded := cyclesOfDays_bounded days
  obtain ⟨_, _, startsBefore, _⟩ :=
    monthOfDay_spec _ (leapDay_lt_two (cyclesOfDays days).year) _ (dayOfYear_lt days)
  have yearStart := daysBeforeYear_of_cycles bounded.n100_le bounded.n4_le bounded.n1_le
  have := bounded.days_eq
  simp only [daysOfDate, dateOfDays]
  omega

theorem dateOfDays_inj {left right : Nat} : dateOfDays left = dateOfDays right ↔ left = right :=
  ⟨fun equal => by simpa only [daysOfDate_dateOfDays] using congrArg daysOfDate equal,
    congrArg dateOfDays⟩

/-! ## Order -/

/-- Lexicographic order of dates. -/
def Date.Before (left right : Date) : Prop :=
  left.year < right.year ∨ left.year = right.year ∧
    (left.month < right.month ∨ left.month = right.month ∧ left.day < right.day)

/-- The order of dates in front of a further comparison. -/
theorem Date.before_or_eq_and_iff {left right : Date} {next : Prop} :
    left.Before right ∨ left = right ∧ next ↔
      left.year < right.year ∨ left.year = right.year ∧
        (left.month < right.month ∨ left.month = right.month ∧
          (left.day < right.day ∨ left.day = right.day ∧ next)) := by
  simp only [Date.Before, Date.ext_iff]
  by_cases years : left.year = right.year <;> by_cases months : left.month = right.month <;>
    simp [years, months]

theorem daysBeforeYear_succ {year : Nat} (positive : 1 ≤ year) :
    daysBeforeYear (year + 1) = daysBeforeYear year + 365 + leapDay year := by
  obtain ⟨before, rfl⟩ : ∃ before, year = before + 1 := ⟨year - 1, by omega⟩
  have fewer : before / 100 ≤ before / 4 := by omega
  simp only [daysBeforeYear, leapDay, IsLeap, Nat.add_sub_cancel, Nat.succ_div,
    Nat.dvd_iff_mod_eq_zero]
  by_cases four : (before + 1) % 4 = 0
  · by_cases hundred : (before + 1) % 100 = 0
    · by_cases fourHundred : (before + 1) % 400 = 0 <;>
        simp only [four, hundred, fourHundred, if_true, if_false, ne_eq, not_true, false_or,
          and_true, and_false] <;> omega
    · have fourHundred : ¬(before + 1) % 400 = 0 := by omega
      simp only [four, hundred, fourHundred, if_true, if_false, ne_eq, not_false_eq_true,
        true_or, and_true]
      omega
  · have hundred : ¬(before + 1) % 100 = 0 := by omega
    have fourHundred : ¬(before + 1) % 400 = 0 := by omega
    simp only [four, hundred, fourHundred, if_false, false_and]
    omega

theorem daysBeforeYear_mono {left right : Nat} (positive : 1 ≤ left) (ordered : left ≤ right) :
    daysBeforeYear left ≤ daysBeforeYear right := by
  induction right, ordered using Nat.le_induction with
  | base => exact Nat.le_refl _
  | succ right ordered ih =>
      have := daysBeforeYear_succ (positive.trans ordered)
      omega

/-- A date lies in its year. -/
theorem Date.Valid.daysOfDate_lt {date : Date} (valid : date.Valid) :
    daysOfDate date < daysBeforeYear (date.year + 1) := by
  have yearLength := daysBeforeYear_succ valid.year_pos
  have monthEnd := daysBeforeMonth_mono (leapDay date.year) (leapDay_lt_two date.year) 13
    (by decide) (date.month + 1) (Nat.add_le_add_right valid.month_le 1)
  have december : daysBeforeMonth (leapDay date.year) 13 = 365 + leapDay date.year := rfl
  have := valid.day_le
  have := valid.day_pos
  simp only [daysOfDate]
  omega

theorem daysOfDate_lt_of_before {left right : Date} (leftValid : left.Valid)
    (rightValid : right.Valid) (before : left.Before right) :
    daysOfDate left < daysOfDate right := by
  obtain years | ⟨years, months | ⟨months, days⟩⟩ := before
  · calc daysOfDate left < daysBeforeYear (left.year + 1) := leftValid.daysOfDate_lt
      _ ≤ daysBeforeYear right.year := daysBeforeYear_mono (Nat.le_add_left _ _) years
      _ ≤ daysOfDate right := by simp only [daysOfDate]; omega
  · have monthEnd := daysBeforeMonth_mono (leapDay left.year) (leapDay_lt_two left.year)
      right.month (by have := rightValid.month_le; omega) (left.month + 1) months
    have := leftValid.day_le
    have := leftValid.day_pos
    simp only [daysOfDate, ← years]
    omega
  · have := leftValid.day_pos
    simp only [daysOfDate, ← years, ← months]
    omega

/-- Dates are ordered like the days they name. -/
theorem dateOfDays_before_iff (left right : Nat) :
    (dateOfDays left).Before (dateOfDays right) ↔ left < right := by
  have forward : ∀ first second : Nat,
      (dateOfDays first).Before (dateOfDays second) → first < second := by
    intro first second before
    simpa only [daysOfDate_dateOfDays] using
      daysOfDate_lt_of_before (dateOfDays_valid first) (dateOfDays_valid second) before
  refine ⟨forward left right, fun ordered => ?_⟩
  by_contra notBefore
  have reversed : (dateOfDays right).Before (dateOfDays left) ∨
      dateOfDays right = dateOfDays left := by
    generalize dateOfDays left = leftDate at notBefore
    generalize dateOfDays right = rightDate at notBefore
    cases leftDate
    cases rightDate
    simp only [Date.Before, Date.mk.injEq] at notBefore ⊢
    omega
  cases reversed with
  | inl before => exact absurd (forward right left before) (by omega)
  | inr equal =>
      have := dateOfDays_inj.mp equal
      omega

/-- Dates before year ten thousand. -/
theorem dateOfDays_year_le {days : Nat} (bound : days < 3652059) :
    (dateOfDays days).year ≤ 9999 := by
  have bounded := cyclesOfDays_bounded days
  have := bounded.days_eq
  have := bounded.n100_le
  have := bounded.n4_le
  have := bounded.n1_le
  simp only [dateOfDays, Cycles.year]
  omega

end Era.Lib.Calendar
