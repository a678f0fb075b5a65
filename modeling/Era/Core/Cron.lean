import Era.Core.Clock
import Era.Core.CronField
import Era.Lib.CalendarCycle

/-!
# Cron schedules

A cron expression has five fields.  The next run is found by moving minute by minute, hour by
hour, day by day or month by month, whatever does not match.
-/

namespace Era.Core

open Era.Lib Era.Lib.Calendar

/-! ## Datetimes -/

/-- What `astimezone` subtracts from a reading: less than a day either way. -/
structure UtcOffset where
  microseconds : Int
  bounded : -86400000000 < microseconds ∧ microseconds < 86400000000

/-- The offset of UTC. -/
def UtcOffset.zero : UtcOffset := { microseconds := 0, bounded := by decide }

/-- A `datetime`: its own reading, and the offset of its `tzinfo` unless it is naive. -/
structure PyDatetime where
  reading : Instant
  offset : Option UtcOffset

namespace Instant

def date (instant : Instant) : Date := dateOfDays instant.days

/-- The fields of a datetime. -/
def fields (instant : Instant) : IsoFields :=
  { date := instant.date, hour := instant.hour, minute := instant.minute,
    second := instant.second, microsecond := instant.microsecond }

/-- An instant of the calendar, or what is raised outside it. -/
def orRaise (raised : Raised) : Option Instant → Except Raised Instant
  | some instant => .ok instant
  | none => .error raised

/-- `dt.replace(...)`, for fields with a valid date and time of day: the year may be too
late. -/
def replaced (fields : IsoFields) : Except Raised Instant :=
  orRaise (.exception "ValueError" ("year " ++ toString fields.date.year ++ " is out of range"))
    (ofMicroseconds? ((((daysOfDate fields.date * 24 + fields.hour) * 60 + fields.minute) * 60 +
      fields.second) * 1000000 + fields.microsecond))

/-- `dt + timedelta(...)`, in microseconds. -/
def plus (instant : Instant) (microseconds : Int) : Except Raised Instant :=
  let shifted := instant.microseconds + microseconds
  orRaise (.exception "OverflowError" "date value out of range")
    (if 0 ≤ shifted then ofMicroseconds? shifted.toNat else none)

end Instant

/-- `from_dt` in UTC: a naive datetime is taken for UTC, any other is converted. -/
def PyDatetime.toUtc (datetime : PyDatetime) : Except Raised Instant :=
  match datetime.offset with
  | none => .ok datetime.reading
  | some offset => datetime.reading.plus (-offset.microseconds)

/-! ## Schedules -/

/-- A set of values that `parse_field` returns. -/
structure FieldSet (min max : Int) where
  values : Finset Int
  allowed : RangeWithin min max values

/-- `CronSchedule`. -/
structure CronSchedule where
  raw : String
  minutes : FieldSet 0 59
  hours : FieldSet 0 23
  daysOfMonth : FieldSet 1 31
  months : FieldSet 1 12
  daysOfWeek : FieldSet 0 6

/-- `_ALIASES`. -/
def cronAliases : List (String × String) :=
  [("@hourly", "0 * * * *"), ("@daily", "0 0 * * *"), ("@midnight", "0 0 * * *"),
    ("@weekly", "0 0 * * 0"), ("@monthly", "0 0 1 * *"), ("@yearly", "0 0 1 1 *"),
    ("@annually", "0 0 1 1 *")]

/-- `text.split()`. -/
def splitSpace (text : String) : List String :=
  ((text.toList.splitOnP isPySpace).filter (· ≠ [])).map String.ofList

section Parsing

variable (platform : Platform) (tables : CharTables)

/-- `parse_field`, with what it has checked. -/
def parseFieldSet (text : String) (min max : Int) (names : NameMap) :
    Except Raised (FieldSet min max) :=
  match parsed : parseField platform tables text min max names with
  | .ok values => .ok { values, allowed := parseField_ok parsed }
  | .error raised => .error raised

/-- Sunday may be written as seven. -/
def FieldSet.sundayZero (days : FieldSet 0 7) : FieldSet 0 6 :=
  { values := days.values.image fun day => if day = 7 then 0 else day
    allowed := by
      refine ⟨days.allowed.nonempty.image _, fun value member => ?_⟩
      obtain ⟨day, listed, rfl⟩ := Finset.mem_image.mp member
      have := days.allowed.within day listed
      split <;> omega }

/-- The five fields of an expression, with its alias replaced. -/
def cronFields (expr : String) : List String :=
  let raw := pyStrip expr
  splitSpace ((cronAliases.lookup (platform.lower raw)).getD raw)

/-- `CronSchedule(expr)`. -/
def CronSchedule.parse (expr : String) : Except Raised CronSchedule :=
  match cronFields platform expr with
  | [minuteField, hourField, dayField, monthField, weekdayField] => do
      let minutes ← parseFieldSet platform tables minuteField 0 59 NameMap.none
      let hours ← parseFieldSet platform tables hourField 0 23 NameMap.none
      let daysOfMonth ← parseFieldSet platform tables dayField 1 31 NameMap.none
      let months ← parseFieldSet platform tables monthField 1 12 monthNames
      let daysOfWeek ← parseFieldSet platform tables weekdayField 0 7 dowNames
      return { raw := pyStrip expr, minutes, hours, daysOfMonth, months,
               daysOfWeek := daysOfWeek.sundayZero }
  | fields =>
      .error (cronError ("cron expression must have 5 fields (or alias), got " ++
        toString fields.length ++ ": " ++ platform.reprString expr))

end Parsing

/-! ## The next run -/

namespace CronSchedule

variable (schedule : CronSchedule)

/-- The day of the week of cron, Sunday first. -/
def cronDow (days : Nat) : Nat := (weekday days + 1) % 7

/-- The day test of `next_after`. -/
def DayMatches (days : Nat) : Prop :=
  ((dateOfDays days).day : Int) ∈ schedule.daysOfMonth.values ∧
    (cronDow days : Int) ∈ schedule.daysOfWeek.values

instance (days : Nat) : Decidable (schedule.DayMatches days) :=
  inferInstanceAs (Decidable (_ ∧ _))

/-- One turn of the loop: nothing is left to do when every field matches. -/
def advance (dt : Instant) : Option (Except Raised Instant) :=
  if (dt.date.month : Int) ∉ schedule.months.values then
    if dt.date.month = 12 then
      some (Instant.replaced { dt.fields with
        date := { year := dt.date.year + 1, month := 1, day := 1 }, hour := 0, minute := 0 })
    else
      some (Instant.replaced { dt.fields with
        date := { year := dt.date.year, month := dt.date.month + 1, day := 1 }, hour := 0,
        minute := 0 })
  else if ¬schedule.DayMatches dt.days then
    some ((dt.plus 86400000000).bind fun next =>
      Instant.replaced { next.fields with hour := 0, minute := 0 })
  else if (dt.hour : Int) ∉ schedule.hours.values then
    some ((dt.plus 3600000000).bind fun next =>
      Instant.replaced { next.fields with minute := 0 })
  else if (dt.minute : Int) ∉ schedule.minutes.values then some (dt.plus 60000000)
  else none

/-- The loop of `next_after`, with so many iterations left. -/
def loop : Nat → Instant → Except Raised Instant
  | 0, _ => .error (cronError "could not find next cron schedule run within 5 years")
  | iterations + 1, dt =>
      match schedule.advance dt with
      | none => .ok dt
      | some next => next.bind (loop iterations)

/-- Five years of minutes. -/
def maxIterations : Nat := 5 * 366 * 24 * 60

/-- `next_after`. -/
def nextAfter (fromDt : PyDatetime) : Except Raised Instant :=
  fromDt.toUtc.bind fun utc =>
    (Instant.replaced { utc.fields with second := 0, microsecond := 0 }).bind fun minute =>
      (minute.plus 60000000).bind (schedule.loop maxIterations)

end CronSchedule

/-- `timedelta(seconds=...)`, in microseconds. -/
def timedeltaSeconds (seconds : Int) : Except Raised Int :=
  let days := seconds / 86400
  if -2147483648 ≤ days ∧ days ≤ 2147483647 then
    if days.natAbs ≤ 999999999 then .ok (seconds * 1000000)
    else
      .error (.exception "OverflowError"
        ("days=" ++ toString days ++ "; must have magnitude <= 999999999"))
  else .error (.exception "OverflowError" "Python int too large to convert to C int")

/-- `compute_next_run`, for a time that is given.  The result of an interval keeps the
`tzinfo` of the time. -/
def computeNextRun (platform : Platform) (tables : CharTables) (cronExpr : Option String)
    (intervalSeconds : Option Int) (fromDt : PyDatetime) : Except Raised PyDatetime :=
  let base : PyDatetime := { fromDt with offset := some (fromDt.offset.getD UtcOffset.zero) }
  match intervalSeconds.filter (0 < ·), cronExpr.filter (· ≠ "") with
  | some seconds, _ =>
      (timedeltaSeconds seconds).bind fun interval =>
        (base.reading.plus interval).map fun reading => { base with reading }
  | none, some expr =>
      (CronSchedule.parse platform tables expr).bind fun schedule =>
        (schedule.nextAfter base).map fun next =>
          { reading := next, offset := some UtcOffset.zero }
  | none, none =>
      .error (.exception "ValueError" "must provide either cron_expr or interval_seconds > 0")

end Era.Core
