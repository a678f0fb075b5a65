import Era.Core.Cron
import Mathlib.Order.Interval.Finset.Basic

/-!
# Days of the month and days of the week

Cron asks for either day field when both are restricted, and for both otherwise.  The day test
asks for both always, so it follows the rule for the expressions that restrict at most one of
them, or allow every day in both.
-/

namespace Era.Core

open Era.Lib.Calendar

/-- The fields of an expression for days of the month and days of the week. -/
def dayFields (platform : Platform) (expr : String) : Option (String × String) :=
  match cronFields platform expr with
  | [_, _, dayField, _, weekdayField] => some (dayField, weekdayField)
  | _ => none

namespace CronSchedule

variable (schedule : CronSchedule)

/-- A day of the month that is allowed. -/
def DomMatches (days : Nat) : Prop :=
  ((dateOfDays days).day : Int) ∈ schedule.daysOfMonth.values

/-- A day of the week that is allowed. -/
def DowMatches (days : Nat) : Prop := (cronDow days : Int) ∈ schedule.daysOfWeek.values

/-- Standard cron: with both fields restricted either one suffices, otherwise both must
match. -/
def DayRule (dayField weekdayField : String) (days : Nat) : Prop :=
  if dayField ≠ "*" ∧ weekdayField ≠ "*" then schedule.DomMatches days ∨ schedule.DowMatches days
  else schedule.DomMatches days ∧ schedule.DowMatches days

/-- Every date of the calendar is treated by the rule. -/
def FollowsRule (dayField weekdayField : String) : Prop :=
  ∀ days < 3652059, schedule.DayMatches days ↔ schedule.DayRule dayField weekdayField days

/-- The fields do not restrict both, unless they allow every day. -/
def RestrictsOne (dayField weekdayField : String) : Prop :=
  dayField = "*" ∨ weekdayField = "*" ∨
    schedule.daysOfMonth.values = wholeRange 1 31 ∧ schedule.daysOfWeek.values = wholeRange 0 6

variable {schedule}

/-- Every day of the month falls on every day of the week. -/
theorem exists_cronDow (day onDay : Nat) (day_pos : 1 ≤ day) (day_le : day ≤ 31)
    (onDay_le : onDay ≤ 6) :
    ∃ days < 3652059, (dateOfDays days).day = day ∧ cronDow days = onDay := by
  have january : daysBeforeMonth 0 1 + day ≤ daysBeforeMonth 0 (1 + 1) := by
    have before : daysBeforeMonth 0 1 = 0 := rfl
    have length : daysBeforeMonth 0 (1 + 1) = 31 := rfl
    omega
  obtain ⟨days, inCalendar, -, day_eq, weekday_eq⟩ :=
    exists_weekday (Nat.le_refl 1) (by decide) day_pos january
      (show (onDay + 6) % 7 < 7 from Nat.mod_lt _ (by decide))
  refine ⟨days, inCalendar, day_eq, ?_⟩
  simp only [cronDow, weekday_eq]
  omega

/-- When either day field suffices only where both match, both allow every day. -/
theorem all_days_of_either {schedule : CronSchedule}
    (both : ∀ days < 3652059, schedule.DomMatches days ∨ schedule.DowMatches days →
      schedule.DomMatches days ∧ schedule.DowMatches days) :
    schedule.daysOfMonth.values = wholeRange 1 31 ∧
      schedule.daysOfWeek.values = wholeRange 0 6 := by
  obtain ⟨someDay, dayListed⟩ := schedule.daysOfMonth.allowed.nonempty
  obtain ⟨someWeekday, weekdayListed⟩ := schedule.daysOfWeek.allowed.nonempty
  have dayBounds := schedule.daysOfMonth.allowed.within someDay dayListed
  have weekdayBounds := schedule.daysOfWeek.allowed.within someWeekday weekdayListed
  constructor
  · ext value
    rw [mem_wholeRange]
    refine ⟨schedule.daysOfMonth.allowed.within value, fun bounds => ?_⟩
    obtain ⟨days, inCalendar, day_eq, dow_eq⟩ := exists_cronDow value.toNat
      someWeekday.toNat (by omega) (by omega) (by omega)
    have matched := both days inCalendar (.inr (by
      rw [DowMatches, dow_eq, Int.toNat_of_nonneg weekdayBounds.1]
      exact weekdayListed))
    have listed := matched.1
    rwa [DomMatches, day_eq, Int.toNat_of_nonneg (by omega)] at listed
  · ext value
    rw [mem_wholeRange]
    refine ⟨schedule.daysOfWeek.allowed.within value, fun bounds => ?_⟩
    obtain ⟨days, inCalendar, day_eq, dow_eq⟩ := exists_cronDow someDay.toNat
      value.toNat (by omega) (by omega) (by omega)
    have matched := both days inCalendar (.inl (by
      rw [DomMatches, day_eq, Int.toNat_of_nonneg (by omega)]
      exact dayListed))
    have listed := matched.2
    rwa [DowMatches, dow_eq, Int.toNat_of_nonneg bounds.1] at listed

theorem followsRule_iff (dayField weekdayField : String) :
    schedule.FollowsRule dayField weekdayField ↔ schedule.RestrictsOne dayField weekdayField := by
  unfold FollowsRule DayRule
  by_cases restricted : dayField ≠ "*" ∧ weekdayField ≠ "*"
  · simp only [if_pos restricted]
    constructor
    · intro follows
      exact .inr (.inr (all_days_of_either fun days inCalendar =>
        (follows days inCalendar).mpr))
    · rintro (star | star | ⟨allDays, allWeekdays⟩)
      · exact absurd star restricted.1
      · exact absurd star restricted.2
      · intro days inCalendar
        have valid := dateOfDays_valid days
        have day_pos := valid.day_pos
        have day_le := valid.day_le_31
        have dow_lt : cronDow days < 7 := Nat.mod_lt _ (by decide)
        have matched : schedule.DayMatches days := by
          rw [DayMatches, allDays, allWeekdays, mem_wholeRange, mem_wholeRange]
          omega
        exact ⟨fun matched => .inl matched.1, fun _ => matched⟩
  · simp only [if_neg restricted]
    have oneStar : schedule.RestrictsOne dayField weekdayField := by
      by_cases star : dayField = "*"
      · exact .inl star
      · exact .inr (.inl (not_not.mp fun other => restricted ⟨star, other⟩))
    exact ⟨fun _ => oneStar, fun _ days _ => Iff.rfl⟩

end CronSchedule

/-- The schedule of an accepted expression treats every date by the rule. -/
def DayRuleHolds (platform : Platform) (tables : CharTables) (expr : String) : Prop :=
  ∀ schedule, CronSchedule.parse platform tables expr = .ok schedule →
    ∀ dayField weekdayField, dayFields platform expr = some (dayField, weekdayField) →
      schedule.FollowsRule dayField weekdayField

/-- The day fields are not both restricted, unless they allow every day. -/
def DayFieldsAgree (platform : Platform) (tables : CharTables) (expr : String) : Prop :=
  ∀ schedule, CronSchedule.parse platform tables expr = .ok schedule →
    ∀ dayField weekdayField, dayFields platform expr = some (dayField, weekdayField) →
      schedule.RestrictsOne dayField weekdayField

/-- The expressions whose dates are treated by the rule. -/
theorem dayRuleHolds_iff (platform : Platform) (tables : CharTables) (expr : String) :
    DayRuleHolds platform tables expr ↔ DayFieldsAgree platform tables expr := by
  constructor
  · intro holds schedule parsed dayField weekdayField fields
    exact (CronSchedule.followsRule_iff dayField weekdayField).mp
      (holds schedule parsed dayField weekdayField fields)
  · intro agree schedule parsed dayField weekdayField fields
    exact (CronSchedule.followsRule_iff dayField weekdayField).mpr
      (agree schedule parsed dayField weekdayField fields)

/-- The first of a month that is no Monday is skipped by `0 0 1 * MON`. -/
theorem not_dayRuleHolds : ¬DayRuleHolds Platform.plain CharTables.ascii "0 0 1 * MON" := by
  have run : (CronSchedule.parse Platform.plain CharTables.ascii "0 0 1 * MON").map
      (fun schedule => decide (schedule.DayMatches 31) ||
        !decide (((dateOfDays 31).day : Int) ∈ schedule.daysOfMonth.values)) = .ok false := by
    decide +kernel
  obtain ⟨schedule, parsed, verdict⟩ := map_eq_ok_iff.mp run
  simp only [Bool.or_eq_false_iff, decide_eq_false_iff_not, Bool.not_eq_false',
    decide_eq_true_eq] at verdict
  intro holds
  have follows := holds schedule parsed "1" "MON" (by decide +kernel) 31 (by decide)
  exact verdict.1 (follows.mpr (.inl verdict.2))

end Era.Core
