import Era.Core.CronSearch

/-!
# How the search of a cron schedule ends

The bound on the iterations is never reached.  Where some date has an allowed month and day,
there is one in every cycle of the calendar, and the loop visits each day before it once.
Where none has, only short months are allowed, and a year takes few iterations.  So the loop
returns the next match, or runs into the end of the calendar and raises what `datetime`
raises there.
-/

namespace Era.Core.CronSchedule

open Era.Lib Era.Lib.Calendar

variable (schedule : CronSchedule)

/-- The fields of days and months match a day. -/
structure DayFits (days : Nat) : Prop where
  month : ((dateOfDays days).month : Int) ∈ schedule.months.values
  day : schedule.DayMatches days

variable {schedule}

theorem dayFits_add_cycle (days : Nat) :
    schedule.DayFits (days + cycleDays) ↔ schedule.DayFits days := by
  constructor <;> rintro ⟨month, day⟩
  · simp only [DayMatches, cronDow, dateOfDays_add_cycle, weekday_add_cycle] at month day
    exact ⟨month, day⟩
  · refine ⟨?_, ?_⟩
    · rwa [dateOfDays_add_cycle]
    · simpa only [DayMatches, cronDow, dateOfDays_add_cycle, weekday_add_cycle] using day

/-- A day that matches has a minute that fits. -/
theorem DayFits.exists_fitsMinute {days : Nat} (fits : schedule.DayFits days) :
    ∃ minute, minute / 1440 = days ∧ schedule.FitsMinute minute := by
  obtain ⟨hour, hourListed⟩ := schedule.hours.allowed.nonempty
  obtain ⟨minute, minuteListed⟩ := schedule.minutes.allowed.nonempty
  have hourBounds := schedule.hours.allowed.within hour hourListed
  have minuteBounds := schedule.minutes.allowed.within minute minuteListed
  have days_eq : (1440 * days + 60 * hour.toNat + minute.toNat) / 1440 = days := by omega
  have hour_eq : (((1440 * days + 60 * hour.toNat + minute.toNat) / 60 % 24 : Nat) : Int) =
      hour := by omega
  have minute_eq : (((1440 * days + 60 * hour.toNat + minute.toNat) % 60 : Nat) : Int) =
      minute := by omega
  exact ⟨1440 * days + 60 * hour.toNat + minute.toNat, days_eq,
    { month := by rw [days_eq]; exact fits.month
      day := by rw [days_eq]; exact fits.day
      hour := by rw [hour_eq]; exact hourListed
      minute := by rw [minute_eq]; exact minuteListed }⟩

/-- On a day that does not match, the loop moves to another day. -/
theorem Jumps.next_day {minute next : Nat} (jumps : schedule.Jumps minute next)
    (misses : ¬schedule.DayFits (minute / 1440)) :
    next = 1440 * daysOfDate (dateOfDays (minute / 1440)).nextMonth ∧
        ((dateOfDays (minute / 1440)).month : Int) ∉ schedule.months.values ∨
      next = 1440 * (minute / 1440 + 1) ∧
        ((dateOfDays (minute / 1440)).month : Int) ∈ schedule.months.values := by
  cases jumps with
  | month notListed => exact .inl ⟨rfl, notListed⟩
  | day month _ => exact .inr ⟨rfl, month⟩
  | hour month day _ => exact absurd ⟨month, day⟩ misses
  | minute month day _ => exact absurd ⟨month, day⟩ misses

theorem jumps_of_jump {minute next : Nat} (jumped : schedule.jump minute = some next) :
    schedule.Jumps minute next := by
  obtain ⟨stays, -⟩ | ⟨_, jumpedTo, jumps⟩ := jump_cases schedule minute
  · simp [stays] at jumped
  · obtain rfl := Option.some.inj (jumped.symm.trans jumpedTo)
    exact jumps

/-! ## Dates that occur -/

/-- Iterations that are left at most, between the day of the start and a later day that has a
target. -/
def iterationsTo (startDay target minute : Nat) : Nat :=
  if minute / 1440 = target / 1440 then target - minute
  else (target / 1440 - minute / 1440) + 1440 +
    if minute / 1440 = startDay then 1440 - minute % 1440 else 0

/-- Where some day matches, the search does not run out of iterations. -/
theorem run_ne_exhausted_of_dayFits {once : Nat} (fits : schedule.DayFits once) (start : Nat) :
    Search.run schedule.jump calendarMinutes maxIterations start ≠ .exhausted := by
  -- The first matching day after the day of the start, and a minute of it that fits.
  have ahead : ∃ days, start / 1440 < days ∧ schedule.DayFits days := by
    obtain ⟨days, later, -, matched⟩ := exists_within_cycle dayFits_add_cycle fits (start / 1440)
    exact ⟨days, later, matched⟩
  classical
  obtain ⟨later, matched⟩ := Nat.find_spec ahead
  have least : ∀ days, start / 1440 < days → days < Nat.find ahead → ¬schedule.DayFits days :=
    fun days after before matched => Nat.find_min ahead before ⟨after, matched⟩
  have near : Nat.find ahead ≤ start / 1440 + cycleDays := by
    obtain ⟨days, after, bound, matched⟩ :=
      exists_within_cycle dayFits_add_cycle fits (start / 1440)
    exact (Nat.find_min' ahead ⟨after, matched⟩).trans bound
  generalize Nat.find ahead = day at later matched least near
  obtain ⟨target, rfl, targetFits⟩ := matched.exists_fitsMinute
  refine Search.run_ne_exhausted (fun minute => start ≤ minute ∧ minute ≤ target)
    (iterationsTo (start / 1440) target) ?_ ⟨Nat.le_refl _, by omega⟩ ?_
  · rintro minute next ⟨after, before⟩ jumped -
    have reached := jump_skips.le_of_fits jumped before targetFits
    have moved := jump_skips.later minute next jumped
    refine ⟨⟨by omega, reached⟩, ?_⟩
    unfold iterationsTo
    obtain onTarget | onStart | ⟨afterStart, beforeTarget⟩ :
        minute / 1440 = target / 1440 ∨
          minute / 1440 = start / 1440 ∧ minute / 1440 < target / 1440 ∨
          start / 1440 < minute / 1440 ∧ minute / 1440 < target / 1440 := by
      omega
    · have stillOnTarget : next / 1440 = target / 1440 := by omega
      rw [if_pos onTarget, if_pos stillOnTarget]
      omega
    · rw [if_neg (show minute / 1440 ≠ target / 1440 by omega), if_pos onStart.1]
      split_ifs <;> omega
    · -- Between the two days the loop moves by days.
      have nextDay : minute / 1440 < next / 1440 := by
        have monthEnd := lt_daysOfDate_nextMonth (minute / 1440)
        obtain ⟨rfl, -⟩ | ⟨rfl, -⟩ :=
          (jumps_of_jump jumped).next_day (least _ afterStart beforeTarget) <;> omega
      rw [if_neg (show minute / 1440 ≠ target / 1440 by omega),
        if_neg (show minute / 1440 ≠ start / 1440 by omega),
        if_neg (show next / 1440 ≠ start / 1440 by omega)]
      split <;> omega
  · unfold iterationsTo maxIterations
    unfold cycleDays at near
    rw [if_neg (by omega), if_pos rfl]
    omega

/-! ## Dates that do not occur -/

/-- A month of 31 days. -/
def LongMonth (month : Nat) : Prop :=
  daysBeforeMonth 0 (month + 1) = daysBeforeMonth 0 month + 31

instance (month : Nat) : Decidable (LongMonth month) := inferInstanceAs (Decidable (_ = _))

/-- Where no day matches, no long month is allowed. -/
theorem shortMonth_of_no_dayFits (never : ∀ days, ¬schedule.DayFits days) {month : Nat}
    (month_pos : 1 ≤ month) (month_le : month ≤ 12)
    (listed : (month : Int) ∈ schedule.months.values) : ¬LongMonth month := by
  intro long
  obtain ⟨day, dayListed⟩ := schedule.daysOfMonth.allowed.nonempty
  obtain ⟨onDay, weekdayListed⟩ := schedule.daysOfWeek.allowed.nonempty
  have dayBounds := schedule.daysOfMonth.allowed.within day dayListed
  have weekdayBounds := schedule.daysOfWeek.allowed.within onDay weekdayListed
  unfold LongMonth at long
  obtain ⟨days, -, month_eq, day_eq, weekday_eq⟩ :=
    exists_weekday month_pos month_le (show 1 ≤ day.toNat by omega) (by omega)
      (show (onDay.toNat + 6) % 7 < 7 from Nat.mod_lt _ (by decide))
  refine never days ⟨month_eq.symm ▸ listed, ?_, ?_⟩
  · rwa [day_eq, Int.toNat_of_nonneg (by omega)]
  · have dow_eq : ((cronDow days : Nat) : Int) = onDay := by
      simp only [cronDow, weekday_eq]
      omega
    rwa [dow_eq]

/-- Iterations in a month that starts on its first day. -/
def iterationsInMonth (month : Nat) : Nat := if LongMonth month then 1 else 30

/-- Iterations in the months of a year after a month. -/
def iterationsAfterMonth (month : Nat) : Nat :=
  ((List.range' (month + 1) (12 - month)).map iterationsInMonth).sum

/-- Iterations in the month of a date, from this date. -/
def iterationsFromDate (date : Date) : Nat :=
  if LongMonth date.month then 1 else 31 - date.day

/-- Iterations that are left at most, when no day matches. -/
def iterationsToEnd (date : Date) : Nat :=
  157 * (9999 - date.year) + iterationsAfterMonth date.month + iterationsFromDate date

theorem iterationsAfterMonth_succ : ∀ month < 12, 1 ≤ month →
    iterationsAfterMonth month =
      iterationsInMonth (month + 1) + iterationsAfterMonth (month + 1) := by
  decide

theorem iterationsInYear : iterationsInMonth 1 + iterationsAfterMonth 1 = 157 := by decide

theorem shortMonth_le : ∀ leap < 2, ∀ month ≤ 12, 1 ≤ month → ¬LongMonth month →
    daysBeforeMonth leap (month + 1) ≤ daysBeforeMonth leap month + 30 := by
  decide

theorem iterationsFromDate_pos {date : Date} (valid : date.Valid) :
    1 ≤ iterationsFromDate date := by
  unfold iterationsFromDate
  split
  next => exact Nat.le_refl 1
  next short =>
    have length := shortMonth_le (leapDay date.year) (leapDay_lt_two date.year) date.month
      valid.month_le valid.month_pos short
    have := valid.day_le
    omega

theorem iterationsToEnd_nextMonth {date : Date} (valid : date.Valid)
    (year_le : date.nextMonth.year ≤ 9999) :
    iterationsToEnd date.nextMonth < iterationsToEnd date := by
  have left := iterationsFromDate_pos valid
  have first : ∀ year month, iterationsFromDate { year, month, day := 1 } =
      iterationsInMonth month := fun _ _ => rfl
  unfold Date.nextMonth at year_le ⊢
  by_cases december : date.month = 12
  · rw [if_pos december] at year_le ⊢
    have year := iterationsInYear
    simp only at year_le
    simp only [iterationsToEnd, first]
    omega
  · have later := iterationsAfterMonth_succ date.month
      (by have := valid.month_le; omega) valid.month_pos
    rw [if_neg december]
    simp only [iterationsToEnd, first]
    omega

/-- Where no day matches, the search does not run out of iterations either. -/
theorem run_ne_exhausted_of_never (never : ∀ days, ¬schedule.DayFits days) (start : Nat) :
    Search.run schedule.jump calendarMinutes maxIterations start ≠ .exhausted := by
  refine Search.run_ne_exhausted (fun _ => True)
    (fun minute => iterationsToEnd (dateOfDays (minute / 1440))) ?_ trivial ?_
  · rintro minute next - jumped inCalendar
    refine ⟨trivial, ?_⟩
    have valid := dateOfDays_valid (minute / 1440)
    have year_le : (dateOfDays (next / 1440)).year ≤ 9999 := by
      unfold calendarMinutes at inCalendar
      exact dateOfDays_year_le (by omega)
    obtain ⟨rfl, -⟩ | ⟨rfl, listed⟩ := (jumps_of_jump jumped).next_day (never _)
    · rw [Nat.mul_div_cancel_left _ (by decide), dateOfDays_daysOfDate valid.nextMonth] at *
      exact iterationsToEnd_nextMonth valid year_le
    · rw [Nat.mul_div_cancel_left _ (by decide)] at *
      have short := shortMonth_of_no_dayFits never valid.month_pos valid.month_le listed
      obtain sameMonth | nextMonth := dateOfDays_succ (minute / 1440)
      · have nextValid := dateOfDays_valid (minute / 1440 + 1)
        have left := iterationsFromDate_pos nextValid
        rw [sameMonth] at left ⊢
        simp only [iterationsToEnd, iterationsFromDate, if_neg short] at left ⊢
        omega
      · rw [nextMonth] at year_le ⊢
        exact iterationsToEnd_nextMonth valid year_le
  · have valid := dateOfDays_valid (start / 1440)
    have year_pos := valid.year_pos
    have month_le : ∀ month ≤ 12, iterationsAfterMonth month ≤ 157 := by decide
    have := month_le _ valid.month_le
    simp only [iterationsToEnd, iterationsFromDate, maxIterations]
    split <;> omega

/-- The loop does not run out of iterations. -/
theorem run_ne_exhausted (schedule : CronSchedule) (start : Nat) :
    Search.run schedule.jump calendarMinutes maxIterations start ≠ .exhausted := by
  by_cases occurs : ∃ days, schedule.DayFits days
  · obtain ⟨days, fits⟩ := occurs
    exact run_ne_exhausted_of_dayFits fits start
  · exact run_ne_exhausted_of_never (not_exists.mp occurs) start

/-! ## What `next_after` returns and raises -/

variable (schedule)

/-- Some whole minute of the calendar after an instant matches. -/
def MatchAfter (utc : Instant) : Prop :=
  ∃ dt : Instant, dt.WholeMinute ∧ utc.microseconds < dt.microseconds ∧ schedule.Fits dt

/-- `next_after` returns the next match, or finds that the calendar has none. -/
theorem nextAfter_ends {fromDt : PyDatetime} {utc : Instant} (converted : fromDt.toUtc = .ok utc) :
    (∃ result, schedule.nextAfter fromDt = .ok result ∧ schedule.NextMatch utc result) ∨
      (∃ raised, schedule.nextAfter fromDt = .error raised ∧ PastCalendar raised) ∧
        ¬schedule.MatchAfter utc := by
  obtain ⟨inLimit, ends⟩ | ⟨ended, failed⟩ := nextAfter_cases schedule converted
  · generalize outcome : Search.run schedule.jump calendarMinutes maxIterations
      (startMinute utc) = found at ends
    generalize schedule.nextAfter fromDt = answer at ends
    cases ends with
    | @found result minute atMinute =>
        exact .inl ⟨result, rfl, nextMatch_of_found inLimit outcome atMinute⟩
    | pastLimit raised =>
        refine .inr ⟨⟨_, rfl, raised⟩, ?_⟩
        rintro ⟨dt, whole, later, fits⟩
        have atMinute := whole.atMinute
        refine jump_skips.run_pastLimit outcome _ ?_ atMinute.inCalendar
          ((fits_iff atMinute).mp fits)
        unfold Instant.AtMinute at atMinute
        unfold startMinute
        omega
    | exhausted => exact absurd outcome (run_ne_exhausted schedule _)
  · refine .inr ⟨failed, ?_⟩
    rintro ⟨dt, whole, later, -⟩
    have atMinute := whole.atMinute
    have inCalendar := atMinute.inCalendar
    unfold Instant.AtMinute at atMinute
    unfold startMinute at ended
    omega

/-- Five years, in microseconds. -/
def fiveYears : Nat := 5 * 366 * 86400000000

/-- A call that returns the next match or raises `CronError`, and returns when a match is at
most five years away. -/
structure Answers (fromDt : PyDatetime) : Prop where
  answered : (∃ utc result, fromDt.toUtc = .ok utc ∧ schedule.nextAfter fromDt = .ok result ∧
      schedule.NextMatch utc result) ∨
    ∃ message, schedule.nextAfter fromDt = .error (cronError message)
  returned : ∀ utc, fromDt.toUtc = .ok utc →
    (∃ dt : Instant, dt.WholeMinute ∧ utc.microseconds < dt.microseconds ∧
      dt.microseconds ≤ utc.microseconds + fiveYears ∧ schedule.Fits dt) →
    ∃ result, schedule.nextAfter fromDt = .ok result

theorem not_cronError_of_pastCalendar {raised : Raised} (past : PastCalendar raised)
    (message : String) : raised ≠ cronError message := by
  cases past <;> simp [cronError]

/-- A conversion to UTC fails at an end of the calendar. -/
theorem toUtc_error {fromDt : PyDatetime} {raised : Raised}
    (failed : fromDt.toUtc = .error raised) : PastCalendar raised := by
  unfold PyDatetime.toUtc at failed
  cases offset : fromDt.offset with
  | none =>
      rw [offset] at failed
      cases failed
  | some given =>
      simp only [offset, Instant.plus] at failed
      generalize (if 0 ≤ (fromDt.reading.microseconds : Int) + -given.microseconds then
        Instant.ofMicroseconds?
          ((fromDt.reading.microseconds : Int) + -given.microseconds).toNat
        else none) = shifted at failed
      cases shifted with
      | some instant => cases failed
      | none =>
          obtain rfl := Except.error.inj failed
          exact .overflow

/-- A call answers when its time in UTC is in the calendar and a match is left there. -/
theorem answers_iff (fromDt : PyDatetime) :
    schedule.Answers fromDt ↔ ∃ utc, fromDt.toUtc = .ok utc ∧ schedule.MatchAfter utc := by
  constructor
  · rintro ⟨⟨utc, result, converted, -, next⟩ | ⟨message, failed⟩, -⟩
    · exact ⟨utc, converted, result, next.whole, next.later, next.fits⟩
    · exfalso
      cases converted : fromDt.toUtc with
      | error raised =>
          rw [nextAfter, converted, Except.bind] at failed
          exact not_cronError_of_pastCalendar (toUtc_error converted) message
            (Except.error.inj failed)
      | ok utc =>
          obtain ⟨result, returned, -⟩ | ⟨⟨raised, other, past⟩, -⟩ :=
            schedule.nextAfter_ends converted
          · simp [returned] at failed
          · rw [other] at failed
            exact not_cronError_of_pastCalendar past message (Except.error.inj failed)
  · rintro ⟨utc, converted, matched⟩
    obtain ⟨result, returned, next⟩ | ⟨-, none⟩ := schedule.nextAfter_ends converted
    · exact ⟨.inl ⟨utc, result, converted, returned, next⟩, fun _ _ _ => ⟨result, returned⟩⟩
    · exact absurd matched none

/-- What a call has raised. -/
def raised? : Except Raised Instant → Option Raised
  | .ok _ => none
  | .error raised => some raised

/-- The thirtieth of February is looked for until the calendar ends. -/
theorem not_answers : ∃ schedule fromDt,
    parse Platform.plain CharTables.ascii "0 0 30 2 *" = .ok schedule ∧
      fromDt.reading.date = { year := 9989, month := 12, day := 31 } ∧
      ¬schedule.Answers fromDt := by
  let fromDt : PyDatetime :=
    { reading := { microseconds := 3648406 * 86400000000, inRange := by decide }, offset := none }
  have run : (parse Platform.plain CharTables.ascii "0 0 30 2 *").map
      (fun schedule => raised? (schedule.nextAfter fromDt)) =
        .ok (some (.exception "ValueError" "year 10000 is out of range")) := by
    decide +kernel
  obtain ⟨schedule, parsed, failed⟩ := map_eq_ok_iff.mp run
  refine ⟨schedule, fromDt, parsed, by decide +kernel, fun answers => ?_⟩
  obtain ⟨utc, result, -, returned, -⟩ | ⟨message, cronFailed⟩ := answers.answered
  · simp [returned, raised?] at failed
  · simp [cronFailed, raised?, cronError] at failed

end Era.Core.CronSchedule
