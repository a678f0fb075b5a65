import Era.Core.Cron
import Era.Lib.Search

/-!
# The search of a cron schedule

Counted in minutes, the loop of `next_after` is a search that jumps and never skips a minute
that fits.  So what it returns is the next match.
-/

namespace Era.Core

open Era.Lib Era.Lib.Calendar

/-! ## Minutes -/

/-- Minutes before year ten thousand. -/
def calendarMinutes : Nat := 3652059 * 1440

/-- An instant on a whole minute, counted from the first one. -/
def Instant.AtMinute (instant : Instant) (minute : Nat) : Prop :=
  instant.microseconds = 60000000 * minute

/-- Seconds and microseconds are zero. -/
def Instant.WholeMinute (instant : Instant) : Prop :=
  instant.second = 0 ∧ instant.microsecond = 0

namespace Instant.AtMinute

variable {instant : Instant} {minute : Nat}

theorem inCalendar (atMinute : instant.AtMinute minute) : minute < calendarMinutes := by
  have inRange := instant.inRange
  unfold Instant.AtMinute at atMinute
  unfold calendarMinutes
  omega

theorem days_eq (atMinute : instant.AtMinute minute) : instant.days = minute / 1440 := by
  unfold Instant.AtMinute at atMinute
  simp only [Instant.days, atMinute]
  omega

theorem hour_eq (atMinute : instant.AtMinute minute) : instant.hour = minute / 60 % 24 := by
  unfold Instant.AtMinute at atMinute
  simp only [Instant.hour, atMinute]
  omega

theorem minute_eq (atMinute : instant.AtMinute minute) : instant.minute = minute % 60 := by
  unfold Instant.AtMinute at atMinute
  simp only [Instant.minute, atMinute]
  omega

theorem whole (atMinute : instant.AtMinute minute) : instant.WholeMinute := by
  unfold Instant.AtMinute at atMinute
  simp only [Instant.WholeMinute, Instant.second, Instant.microsecond, atMinute]
  omega

theorem fields_eq (atMinute : instant.AtMinute minute) :
    instant.fields =
      { date := dateOfDays (minute / 1440), hour := minute / 60 % 24, minute := minute % 60,
        second := 0, microsecond := 0 } := by
  obtain ⟨second, microsecond⟩ := atMinute.whole
  simp only [Instant.fields, Instant.date, atMinute.days_eq, atMinute.hour_eq,
    atMinute.minute_eq, second, microsecond]

end Instant.AtMinute

theorem Instant.WholeMinute.atMinute {instant : Instant} (whole : instant.WholeMinute) :
    instant.AtMinute (instant.microseconds / 60000000) := by
  simp only [Instant.WholeMinute, Instant.second, Instant.microsecond] at whole
  unfold Instant.AtMinute
  omega

/-- What is raised at the end of the calendar. -/
inductive PastCalendar : Raised → Prop
  | year (year : String) :
      PastCalendar (.exception "ValueError" ("year " ++ year ++ " is out of range"))
  | overflow : PastCalendar (.exception "OverflowError" "date value out of range")

/-- A step to a minute arrives there, or raises when the calendar has ended before. -/
inductive Reaches (target : Nat) : Except Raised Instant → Prop
  | arrived {instant : Instant} : instant.AtMinute target → Reaches target (.ok instant)
  | past {raised : Raised} : calendarMinutes ≤ target → PastCalendar raised →
      Reaches target (.error raised)

theorem Instant.ofMicroseconds?_eq_some {microseconds : Nat}
    (inRange : microseconds < 3652059 * 86400000000) :
    Instant.ofMicroseconds? microseconds = some { microseconds, inRange } := dif_pos inRange

theorem Instant.ofMicroseconds?_eq_none {microseconds : Nat}
    (past : 3652059 * 86400000000 ≤ microseconds) :
    Instant.ofMicroseconds? microseconds = none := dif_neg (Nat.not_lt.mpr past)

/-- The calendar ends with a whole minute. -/
theorem calendarMinutes_le {minute : Nat}
    (past : 3652059 * 86400000000 ≤ 60000000 * minute) : calendarMinutes ≤ minute := by
  unfold calendarMinutes
  omega

theorem Instant.replaced_reaches (fields : IsoFields) (second : fields.second = 0)
    (microsecond : fields.microsecond = 0) :
    Reaches ((daysOfDate fields.date * 24 + fields.hour) * 60 + fields.minute)
      (Instant.replaced fields) := by
  unfold Instant.replaced
  rw [second, microsecond]
  generalize (daysOfDate fields.date * 24 + fields.hour) * 60 + fields.minute = target
  have microseconds_eq : (target * 60 + 0) * 1000000 + 0 = 60000000 * target := by omega
  rw [microseconds_eq]
  obtain inRange | past := Nat.lt_or_ge (60000000 * target) (3652059 * 86400000000)
  · rw [Instant.ofMicroseconds?_eq_some inRange]
    exact .arrived rfl
  · rw [Instant.ofMicroseconds?_eq_none past]
    exact .past (calendarMinutes_le past) (.year _)

/-- A date, and a time of day. -/
theorem Instant.replaced_at (date : Date) (hour minute : Nat) :
    Reaches ((daysOfDate date * 24 + hour) * 60 + minute)
      (Instant.replaced { date, hour, minute, second := 0, microsecond := 0 }) :=
  Instant.replaced_reaches { date, hour, minute, second := 0, microsecond := 0 } rfl rfl

theorem oneMinute : (60000000 : Int) = 60000000 * (1 : Nat) := by norm_num

theorem oneHour : (3600000000 : Int) = 60000000 * (60 : Nat) := by norm_num

theorem oneDay : (86400000000 : Int) = 60000000 * (1440 : Nat) := by norm_num

theorem Instant.AtMinute.plus_reaches {instant : Instant} {minute : Nat}
    (atMinute : instant.AtMinute minute) {minutes : Nat} {microseconds : Int}
    (spanned : microseconds = 60000000 * minutes) :
    Reaches (minute + minutes) (instant.plus microseconds) := by
  unfold Instant.AtMinute at atMinute
  have shifted : (instant.microseconds : Int) + microseconds =
      (60000000 * (minute + minutes) : Nat) := by
    rw [atMinute, spanned]
    push_cast
    ring
  unfold Instant.plus
  simp only [shifted, Int.natCast_nonneg, if_true, Int.toNat_natCast]
  generalize minute + minutes = target
  obtain inRange | past := Nat.lt_or_ge (60000000 * target) (3652059 * 86400000000)
  · rw [Instant.ofMicroseconds?_eq_some inRange]
    exact .arrived rfl
  · rw [Instant.ofMicroseconds?_eq_none past]
    exact .past (calendarMinutes_le past) .overflow

theorem Reaches.cast {target : Nat} {step : Except Raised Instant}
    (reaches : Reaches target step) {other : Nat} (same : target = other) :
    Reaches other step := same ▸ reaches

/-- A step, and another one from where it arrives. -/
theorem Reaches.bind {target later : Nat} {step : Except Raised Instant}
    {next : Instant → Except Raised Instant} (reaches : Reaches target step)
    (past : calendarMinutes ≤ target → calendarMinutes ≤ later)
    (continued : ∀ instant, instant.AtMinute target → Reaches later (next instant)) :
    Reaches later (step.bind next) := by
  cases reaches with
  | arrived atMinute => exact continued _ atMinute
  | past ended raised => exact .past (past ended) raised

/-! ## Jumps -/

namespace CronSchedule

variable (schedule : CronSchedule)

/-- Every field matches a minute. -/
structure FitsMinute (minute : Nat) : Prop where
  month : ((dateOfDays (minute / 1440)).month : Int) ∈ schedule.months.values
  day : schedule.DayMatches (minute / 1440)
  hour : ((minute / 60 % 24 : Nat) : Int) ∈ schedule.hours.values
  minute : ((minute % 60 : Nat) : Int) ∈ schedule.minutes.values

/-- Every field matches a datetime. -/
structure Fits (dt : Instant) : Prop where
  month : (dt.date.month : Int) ∈ schedule.months.values
  day : schedule.DayMatches dt.days
  hour : (dt.hour : Int) ∈ schedule.hours.values
  minute : (dt.minute : Int) ∈ schedule.minutes.values

variable {schedule}

theorem fits_iff {dt : Instant} {minute : Nat} (atMinute : dt.AtMinute minute) :
    schedule.Fits dt ↔ schedule.FitsMinute minute := by
  constructor
  · rintro ⟨month, day, hour, minute⟩
    rw [Instant.date, atMinute.days_eq] at month
    rw [atMinute.days_eq] at day
    rw [atMinute.hour_eq] at hour
    rw [atMinute.minute_eq] at minute
    exact ⟨month, day, hour, minute⟩
  · rintro ⟨month, day, hour, minute⟩
    rw [← atMinute.days_eq] at month day
    rw [← atMinute.hour_eq] at hour
    rw [← atMinute.minute_eq] at minute
    exact ⟨month, day, hour, minute⟩

variable (schedule)

/-- The minute the loop moves to. -/
def jump (minute : Nat) : Option Nat :=
  if ((dateOfDays (minute / 1440)).month : Int) ∉ schedule.months.values then
    some (1440 * daysOfDate (dateOfDays (minute / 1440)).nextMonth)
  else if ¬schedule.DayMatches (minute / 1440) then some (1440 * (minute / 1440 + 1))
  else if ((minute / 60 % 24 : Nat) : Int) ∉ schedule.hours.values then
    some (60 * (minute / 60 + 1))
  else if ((minute % 60 : Nat) : Int) ∉ schedule.minutes.values then some (minute + 1)
  else none

/-- Where a jump goes, and why. -/
inductive Jumps (minute : Nat) : Nat → Prop
  | month : ((dateOfDays (minute / 1440)).month : Int) ∉ schedule.months.values →
      Jumps minute (1440 * daysOfDate (dateOfDays (minute / 1440)).nextMonth)
  | day : ((dateOfDays (minute / 1440)).month : Int) ∈ schedule.months.values →
      ¬schedule.DayMatches (minute / 1440) → Jumps minute (1440 * (minute / 1440 + 1))
  | hour : ((dateOfDays (minute / 1440)).month : Int) ∈ schedule.months.values →
      schedule.DayMatches (minute / 1440) →
      ((minute / 60 % 24 : Nat) : Int) ∉ schedule.hours.values →
      Jumps minute (60 * (minute / 60 + 1))
  | minute : ((dateOfDays (minute / 1440)).month : Int) ∈ schedule.months.values →
      schedule.DayMatches (minute / 1440) →
      ((minute % 60 : Nat) : Int) ∉ schedule.minutes.values → Jumps minute (minute + 1)

variable {schedule}

theorem jump_cases (schedule : CronSchedule) (minute : Nat) :
    schedule.jump minute = none ∧ schedule.FitsMinute minute ∨
      ∃ next, schedule.jump minute = some next ∧ schedule.Jumps minute next := by
  unfold jump
  split
  next month => exact .inr ⟨_, rfl, .month month⟩
  next month =>
    replace month := not_not.mp month
    split
    next day => exact .inr ⟨_, rfl, .day month day⟩
    next day =>
      replace day := not_not.mp day
      split
      next hour => exact .inr ⟨_, rfl, .hour month day hour⟩
      next hour =>
        split
        next minute => exact .inr ⟨_, rfl, .minute month day minute⟩
        next minute => exact .inl ⟨rfl, month, day, not_not.mp hour, not_not.mp minute⟩

theorem Jumps.lt {minute next : Nat} (jumps : schedule.Jumps minute next) : minute < next := by
  cases jumps with
  | month =>
      have := lt_daysOfDate_nextMonth (minute / 1440)
      omega
  | day | hour | minute => omega

/-- The month, day and hour jumps skip no match. -/
theorem Jumps.skipped {minute next : Nat} (jumps : schedule.Jumps minute next) {between : Nat}
    (after : minute ≤ between) (before : between < next) : ¬schedule.FitsMinute between := by
  intro fits
  cases jumps with
  | month notListed =>
      have sameMonth := month_of_between (show minute / 1440 ≤ between / 1440 by omega)
        (by omega)
      exact notListed (sameMonth ▸ fits.month)
  | day month notMatched =>
      have sameDay : between / 1440 = minute / 1440 := by omega
      exact notMatched (sameDay ▸ fits.day)
  | hour month day notListed =>
      have sameHour : between / 60 % 24 = minute / 60 % 24 := by omega
      exact notListed (sameHour ▸ fits.hour)
  | minute month day notListed =>
      obtain rfl : between = minute := by omega
      exact notListed fits.minute

theorem jump_skips : Search.Skips schedule.jump schedule.FitsMinute where
  stays minute := by
    obtain ⟨stays, fits⟩ | ⟨next, jumped, jumps⟩ := jump_cases schedule minute
    · simp [stays, fits]
    · simpa [jumped] using jumps.skipped (Nat.le_refl minute) jumps.lt
  later minute next jumped := by
    obtain ⟨stays, -⟩ | ⟨_, jumpedTo, jumps⟩ := jump_cases schedule minute
    · simp [stays] at jumped
    · obtain rfl := Option.some.inj (jumped.symm.trans jumpedTo)
      exact jumps.lt
  skipped minute next jumped between after before := by
    obtain ⟨stays, -⟩ | ⟨_, jumpedTo, jumps⟩ := jump_cases schedule minute
    · simp [stays] at jumped
    · obtain rfl := Option.some.inj (jumped.symm.trans jumpedTo)
      exact jumps.skipped after before

/-! ## The loop -/

/-- One turn of the loop makes the jump. -/
theorem advance_jumps (schedule : CronSchedule) {dt : Instant} {minute : Nat}
    (atMinute : dt.AtMinute minute) :
    schedule.advance dt = none ∧ schedule.FitsMinute minute ∨
      ∃ next step, schedule.jump minute = some next ∧ schedule.advance dt = some step ∧
        Reaches next step := by
  simp only [advance, jump, Instant.date, atMinute.days_eq, atMinute.hour_eq, atMinute.minute_eq,
    atMinute.fields_eq]
  split
  next month =>
    right
    have reaches := Instant.replaced_at (dateOfDays (minute / 1440)).nextMonth 0 0
    refine ⟨_, _, rfl, ?_, reaches.cast (by omega)⟩
    unfold Date.nextMonth
    split <;> rfl
  next month =>
    split
    next day =>
      refine .inr ⟨_, _, rfl, rfl, (atMinute.plus_reaches oneDay).bind ?_ ?_⟩
      · unfold calendarMinutes
        omega
      · intro next nextAt
        have midnight := Instant.replaced_at (dateOfDays ((minute + 1440) / 1440)) 0 0
        rw [daysOfDate_dateOfDays] at midnight
        rw [nextAt.fields_eq]
        exact midnight.cast (by omega)
    next day =>
      split
      next hour =>
        refine .inr ⟨_, _, rfl, rfl, (atMinute.plus_reaches oneHour).bind ?_ ?_⟩
        · unfold calendarMinutes
          omega
        · intro next nextAt
          have onHour := Instant.replaced_at (dateOfDays ((minute + 60) / 1440))
            ((minute + 60) / 60 % 24) 0
          rw [daysOfDate_dateOfDays] at onHour
          rw [nextAt.fields_eq]
          exact onHour.cast (by omega)
      next hour =>
        split
        next minuteField => exact .inr ⟨_, _, rfl, rfl, atMinute.plus_reaches oneMinute⟩
        next minuteField =>
          exact .inl ⟨rfl, not_not.mp month, not_not.mp day, not_not.mp hour,
            not_not.mp minuteField⟩

/-- How the loop ends, when the search ends in some way. -/
inductive Ends : Search.Outcome Nat → Except Raised Instant → Prop
  | found {dt : Instant} {minute : Nat} : dt.AtMinute minute → Ends (.found minute) (.ok dt)
  | pastLimit {raised : Raised} : PastCalendar raised → Ends .pastLimit (.error raised)
  | exhausted : Ends .exhausted
      (.error (cronError "could not find next cron schedule run within 5 years"))

/-- The loop is the search. -/
theorem loop_ends {iterations : Nat} {dt : Instant} {minute : Nat}
    (atMinute : dt.AtMinute minute) :
    Ends (Search.run schedule.jump calendarMinutes iterations minute)
      (schedule.loop iterations dt) := by
  induction iterations generalizing dt minute with
  | zero => exact .exhausted
  | succ iterations ih =>
      rw [Search.run, loop]
      obtain ⟨stays, fits⟩ | ⟨next, step, jumped, advanced, reaches⟩ :=
        advance_jumps schedule atMinute
      · rw [(jump_skips.stays minute).mpr fits, stays]
        exact .found atMinute
      · rw [jumped, advanced]
        dsimp only
        cases reaches with
        | arrived nextAt =>
            rw [if_pos nextAt.inCalendar, Except.bind]
            exact ih nextAt
        | past ended raised =>
            rw [if_neg (by omega), Except.bind]
            exact .pastLimit raised

/-- The minute the search of `next_after` starts from. -/
def startMinute (utc : Instant) : Nat := utc.microseconds / 60000000 + 1

/-- `next_after` searches from the next whole minute, if the calendar has one. -/
theorem nextAfter_cases (schedule : CronSchedule) {fromDt : PyDatetime} {utc : Instant}
    (converted : fromDt.toUtc = .ok utc) :
    startMinute utc < calendarMinutes ∧
        Ends (Search.run schedule.jump calendarMinutes maxIterations (startMinute utc))
          (schedule.nextAfter fromDt) ∨
      calendarMinutes ≤ startMinute utc ∧
        ∃ raised, schedule.nextAfter fromDt = .error raised ∧ PastCalendar raised := by
  have inRange := utc.inRange
  have minute_eq : (daysOfDate (dateOfDays utc.days) * 24 + utc.hour) * 60 + utc.minute =
      utc.microseconds / 60000000 := by
    rw [daysOfDate_dateOfDays]
    simp only [Instant.days, Instant.hour, Instant.minute]
    omega
  have truncated : Reaches (utc.microseconds / 60000000)
      (Instant.replaced { utc.fields with second := 0, microsecond := 0 }) :=
    minute_eq ▸ Instant.replaced_at (dateOfDays utc.days) utc.hour utc.minute
  rw [nextAfter, converted, Except.bind]
  generalize Instant.replaced { utc.fields with second := 0, microsecond := 0 } = replaced
    at truncated
  generalize maxIterations = iterations
  cases truncated with
  | past ended raised =>
      unfold calendarMinutes at ended
      omega
  | @arrived truncated atMinute =>
      have next := (atMinute.plus_reaches oneMinute).cast (show _ = startMinute utc from rfl)
      rw [Except.bind]
      generalize truncated.plus 60000000 = step at next
      cases next with
      | arrived nextAt =>
          rw [Except.bind]
          exact .inl ⟨nextAt.inCalendar, loop_ends nextAt⟩
      | past ended raised => exact .inr ⟨ended, _, rfl, raised⟩

variable (schedule)

/-- The first whole minute after an instant that every field matches. -/
structure NextMatch (utc result : Instant) : Prop where
  later : utc.microseconds < result.microseconds
  whole : result.WholeMinute
  fits : schedule.Fits result
  least : ∀ between : Instant, between.WholeMinute → utc.microseconds < between.microseconds →
    between.microseconds < result.microseconds → ¬schedule.Fits between

variable {schedule}

/-- What the search finds is the next match. -/
theorem nextMatch_of_found {utc result : Instant} {minute : Nat}
    (inLimit : startMinute utc < calendarMinutes)
    (found : Search.run schedule.jump calendarMinutes maxIterations (startMinute utc) =
      .found minute)
    (atMinute : result.AtMinute minute) : schedule.NextMatch utc result := by
  obtain ⟨after, -, fits, least⟩ := jump_skips.run_found inLimit found
  have atMinuteEq := atMinute
  unfold Instant.AtMinute at atMinuteEq
  unfold startMinute at after
  refine ⟨by omega, atMinute.whole, (fits_iff atMinute).mpr fits, ?_⟩
  intro between whole later earlier betweenFits
  have betweenAt := whole.atMinute
  refine least _ ?_ ?_ ((fits_iff betweenAt).mp betweenFits)
  · unfold Instant.AtMinute at betweenAt
    unfold startMinute
    omega
  · omega

/-- What `next_after` returns is the next match. -/
theorem nextAfter_nextMatch (schedule : CronSchedule) (fromDt : PyDatetime) (result : Instant)
    (returned : schedule.nextAfter fromDt = .ok result) :
    ∃ utc, fromDt.toUtc = .ok utc ∧ schedule.NextMatch utc result := by
  cases converted : fromDt.toUtc with
  | error raised =>
      simp only [nextAfter, converted] at returned
      cases returned
  | ok utc =>
      refine ⟨utc, rfl, ?_⟩
      obtain ⟨inLimit, ends⟩ | ⟨-, raised, failed, -⟩ :=
        nextAfter_cases schedule converted
      · rw [returned] at ends
        generalize outcome : Search.run schedule.jump calendarMinutes maxIterations
          (startMinute utc) = found at ends
        cases ends with
        | found atMinute => exact nextMatch_of_found inLimit outcome atMinute
      · simp [failed] at returned

end CronSchedule

namespace CronDemo

/-- The schedule `0 0 29 2 *`. -/
def leapDays : CronSchedule :=
  { raw := "0 0 29 2 *"
    minutes := { values := {0}, allowed := ⟨by decide, by decide⟩ }
    hours := { values := {0}, allowed := ⟨by decide, by decide⟩ }
    daysOfMonth := { values := {29}, allowed := ⟨by decide, by decide⟩ }
    months := { values := {2}, allowed := ⟨by decide, by decide⟩ }
    daysOfWeek := { values := wholeRange 0 6, allowed := ⟨by decide, by decide⟩ } }

/-- A naive time in year one. -/
def start : PyDatetime :=
  { reading := { microseconds := 123456789, inRange := by decide }, offset := none }

end CronDemo

/-- The first leap day is found in year four. -/
theorem CronSchedule.nextAfter_nextMatch_demo :
    ∃ result, CronDemo.leapDays.nextAfter CronDemo.start = .ok result ∧
      result.date = { year := 4, month := 2, day := 29 } ∧
      ∃ utc, CronDemo.start.toUtc = .ok utc ∧ CronDemo.leapDays.NextMatch utc result := by
  have run : (CronDemo.leapDays.nextAfter CronDemo.start).map Instant.date =
      .ok { year := 4, month := 2, day := 29 } := by
    decide +kernel
  obtain ⟨result, returned, date_eq⟩ := map_eq_ok_iff.mp run
  exact ⟨result, returned, date_eq, CronSchedule.nextAfter_nextMatch _ _ _ returned⟩

end Era.Core
