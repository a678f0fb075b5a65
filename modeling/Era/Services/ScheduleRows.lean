import Era.Services.ScheduledJobs

/-!
# What the rows of schedules say

A tick reads the rows that are due in one transaction and writes the next run of each back in
another, computed from what it has read.  Updates of the same rows come in between.
-/

namespace Era.Services

open Era.Core Era.Lib

/-! ## Next runs -/

/-- A row has a definition to compute its next run from. -/
def Recurrence.recurs (recurrence : Recurrence) : Bool :=
  recurrence.cronExpr.any (· != "") || recurrence.intervalSeconds.any (· != 0)

/-- A disabled row has no next run, and the one of an enabled row is computed from its own
definition. -/
structure Recurrence.Current (computeNextRun : NextRun) (recurrence : Recurrence)
    (nextRunAt : Option String) : Prop where
  disabled : recurrence.enabled = false → nextRunAt = none
  enabled : recurrence.enabled = true →
    (∃ now, nextRunAt = recurrence.nextRun computeNextRun now) ∨
      recurrence.recurs = false ∧ nextRunAt = none

/-- A row is enabled, and has the definition that a tick has read. -/
def Recurrence.isUnedited (read stored : Recurrence) : Bool :=
  stored.enabled && stored.cronExpr == read.cronExpr &&
    stored.intervalSeconds == read.intervalSeconds

section Recurrence

variable {computeNextRun : NextRun} {recurrence : Recurrence} {nextRunAt : Option String}

theorem Recurrence.Current.none (disabled : recurrence.enabled = false) :
    recurrence.Current computeNextRun .none :=
  ⟨fun _ => rfl, fun enabled => by
    rw [disabled] at enabled
    cases enabled⟩

/-- What `compute_next_run` returns for a row is current. -/
theorem Recurrence.Current.of_computed {now : String} (enabled : recurrence.enabled = true)
    (computed : (computeNextRun recurrence.cronExpr recurrence.intervalSeconds now).map some =
      .ok nextRunAt) :
    recurrence.Current computeNextRun nextRunAt := by
  refine ⟨fun disabled => ?_, fun _ => .inl ⟨now, ?_⟩⟩
  · rw [enabled] at disabled
    cases disabled
  · unfold Recurrence.nextRun
    cases result : computeNextRun recurrence.cronExpr recurrence.intervalSeconds now with
    | error failure =>
        rw [result] at computed
        cases computed
    | ok time =>
        rw [result] at computed
        exact (Except.ok.inj computed).symm

/-- The first run of a new row. -/
theorem Recurrence.Current.first {now : String}
    (first : recurrence.firstRun computeNextRun now = .ok nextRunAt) :
    recurrence.Current computeNextRun nextRunAt := by
  unfold Recurrence.firstRun at first
  cases enabled : recurrence.enabled with
  | true =>
      rw [enabled, if_pos rfl] at first
      exact .of_computed enabled first
  | false =>
      rw [enabled, if_neg Bool.false_ne_true] at first
      rw [← Except.ok.inj first]
      exact .none enabled

/-- An update that changes no definition keeps it. -/
theorem Recurrence.change_eq_self {change : RecurrenceChange}
    (kept : (change.cronExpr.isSome || change.intervalSeconds.isSome ||
      change.enabled.isSome) = false) :
    recurrence.change change = recurrence := by
  rw [Bool.or_eq_false_iff, Bool.or_eq_false_iff] at kept
  obtain ⟨⟨no_cron, no_interval⟩, no_switch⟩ := kept
  rw [Option.isSome_eq_false_iff, Option.isNone_iff_eq_none] at no_cron no_interval no_switch
  unfold Recurrence.change
  rw [no_cron, no_interval, no_switch]
  rfl

/-- An update leaves a row current. -/
theorem Recurrence.Current.changed {change : RecurrenceChange} {stored : Option String}
    {now : String} (current : recurrence.Current computeNextRun stored)
    (changed : (recurrence.change change).changedRun computeNextRun change stored now =
      .ok nextRunAt) :
    (recurrence.change change).Current computeNextRun nextRunAt := by
  unfold Recurrence.changedRun at changed
  dsimp only at changed
  cases recalculated : (change.cronExpr.isSome || change.intervalSeconds.isSome ||
      change.enabled.isSome) with
  | false =>
      rw [recalculated, Bool.not_false, if_pos rfl] at changed
      rw [change_eq_self recalculated, ← Except.ok.inj changed]
      exact current
  | true =>
      rw [recalculated, Bool.not_true, if_neg Bool.false_ne_true] at changed
      cases enabled : (recurrence.change change).enabled with
      | false =>
          rw [enabled, Bool.false_and, if_neg Bool.false_ne_true] at changed
          rw [← Except.ok.inj changed]
          exact .none enabled
      | true =>
          rw [enabled, Bool.true_and] at changed
          cases recurs : (recurrence.change change).recurs with
          | true =>
              unfold Recurrence.recurs at recurs
              rw [recurs, if_pos rfl] at changed
              exact .of_computed enabled changed
          | false =>
              have is_none := recurs
              unfold Recurrence.recurs at is_none
              rw [is_none, if_neg Bool.false_ne_true] at changed
              rw [← Except.ok.inj changed]
              exact ⟨fun _ => rfl, fun _ => .inr ⟨recurs, rfl⟩⟩

/-- What a tick writes back is current unless the row has been edited. -/
theorem Recurrence.Current.advanced {read : Recurrence} (unedited : read.isUnedited recurrence)
    (now : String) : recurrence.Current computeNextRun (read.nextRun computeNextRun now) := by
  unfold Recurrence.isUnedited at unedited
  rw [Bool.and_eq_true, Bool.and_eq_true, beq_iff_eq, beq_iff_eq] at unedited
  obtain ⟨⟨enabled, same_cron⟩, same_interval⟩ := unedited
  refine ⟨fun disabled => ?_, fun _ => .inl ⟨now, ?_⟩⟩
  · rw [enabled] at disabled
    cases disabled
  · unfold Recurrence.nextRun
    rw [same_cron, same_interval]

end Recurrence

/-! ## Tables of rows -/

section Rows

variable {Row : Type} (computeNextRun : NextRun) (recurrence : Row → Recurrence)
variable (nextRunAt : Row → Option String)

/-- The next run of every row is current. -/
def AllCurrent (table : List Row) : Prop :=
  ∀ row ∈ table, (recurrence row).Current computeNextRun (nextRunAt row)

variable {computeNextRun recurrence nextRunAt} {table : List Row} {key : Row → String}

theorem AllCurrent.append (all : AllCurrent computeNextRun recurrence nextRunAt table) {row : Row}
    (current : (recurrence row).Current computeNextRun (nextRunAt row)) :
    AllCurrent computeNextRun recurrence nextRunAt (table ++ [row]) := by
  intro other member
  rcases List.mem_append.mp member with old | new
  · exact all other old
  · rw [List.mem_singleton.mp new]
    exact current

theorem AllCurrent.store (all : AllCurrent computeNextRun recurrence nextRunAt table) {row : Row}
    (current : (recurrence row).Current computeNextRun (nextRunAt row)) :
    AllCurrent computeNextRun recurrence nextRunAt (Table.store key table row) := by
  intro other member
  rcases Table.mem_store member with rfl | ⟨old, -⟩
  · exact current
  · exact all other old

theorem AllCurrent.delete (all : AllCurrent computeNextRun recurrence nextRunAt table)
    (wanted : String) :
    AllCurrent computeNextRun recurrence nextRunAt (Table.delete key table wanted) :=
  fun row member => all row (List.mem_filter.mp member).1

end Rows

/-! ## Schedules of actions -/

/-- A tick is about to write back a row that has been edited since the tick has read it. -/
def overwritesEdit (state : ScheduledState) : ScheduledInput → Bool
  | .proceed ticker _ =>
      match state.tickers ticker with
      | .advancing _ _ _ schedule _ =>
          (Table.find Schedule.id state.table schedule.id).any fun row =>
            !schedule.toRecurrence.isUnedited row.toRecurrence
      | _ => false
  | _ => false

section Schedules

variable {service : ScheduledJobService} {state : ScheduledState}

/-- The schedules of a state are current. -/
def ScheduledState.IsCurrent (service : ScheduledJobService) (state : ScheduledState) : Prop :=
  AllCurrent service.schedules.computeNextRun Schedule.toRecurrence Schedule.nextRunAt state.table

theorem ScheduledState.IsCurrent.create (current : state.IsCurrent service) (id : String)
    (request : ScheduleRequest) (now : String) :
    AllCurrent service.schedules.computeNextRun Schedule.toRecurrence Schedule.nextRunAt
      (scheduleStep service.schedules state.table (.create id request now)).1 := by
  unfold scheduleStep
  dsimp only
  split
  next after made =>
    obtain ⟨-, schedule, rfl, -, -, first, same⟩ := createSchedule_ok made
    refine AllCurrent.append current ?_
    rw [same]
    exact .first first
  next => exact current

theorem ScheduledState.IsCurrent.update (current : state.IsCurrent service) (id actorId : String)
    (change : ScheduleChange) (now : String) :
    AllCurrent service.schedules.computeNextRun Schedule.toRecurrence Schedule.nextRunAt
      (scheduleStep service.schedules state.table (.update id actorId change now)).1 := by
  unfold scheduleStep
  dsimp only
  split
  next after made =>
    obtain ⟨schedule, nextRunAt, found, rfl, next_run⟩ := updateSchedule_ok made
    exact AllCurrent.store current
      ((current schedule (Table.find_eq_some found).1).changed next_run)
  next => exact current
  next => exact current

theorem ScheduledState.IsCurrent.delete (current : state.IsCurrent service)
    (id actorId : String) :
    AllCurrent service.schedules.computeNextRun Schedule.toRecurrence Schedule.nextRunAt
      (deleteSchedule state.table id actorId) := by
  unfold deleteSchedule
  split
  next => exact current
  next => exact AllCurrent.delete current id

/-- A tick that overwrites no edit leaves the schedules current. -/
theorem ScheduledState.IsCurrent.proceed (current : state.IsCurrent service) {ticker : Nat}
    {jobId : String} (unedited : overwritesEdit state (.proceed ticker jobId) = false) :
    (proceedTicker service state ticker jobId).1.IsCurrent service := by
  unfold overwritesEdit at unedited
  dsimp only at unedited
  unfold proceedTicker
  cases at_phase : state.tickers ticker with
  | idle => exact current
  | ticking process now due =>
      cases due with
      | nil => exact current
      | cons schedule rest => exact current
  | submitting process now schedule rest =>
      dsimp only
      split
      · exact current
      · exact current
      · exact current
  | advancing process now submitted schedule rest =>
      rw [at_phase] at unedited
      unfold ScheduledState.IsCurrent advanceSchedule
      dsimp only
      cases found : Table.find Schedule.id state.table schedule.id with
      | none => exact current
      | some row =>
          dsimp only at unedited
          rw [found, Option.any_some, Bool.not_eq_false'] at unedited
          exact AllCurrent.store current (.advanced unedited now)

/-- An input keeps the schedules current unless a tick overwrites an edit with it. -/
theorem ScheduledState.IsCurrent.step (current : state.IsCurrent service) {input : ScheduledInput}
    (unedited : overwritesEdit state input = false) :
    (scheduledStep service state input).1.IsCurrent service := by
  cases input with
  | create id request now => exact current.create id request now
  | update id actorId change now => exact current.update id actorId change now
  | delete id actorId => exact current.delete id actorId
  | proceed ticker jobId => exact current.proceed unedited
  | tick ticker process now =>
      unfold scheduledStep
      dsimp only
      split <;> exact current
  | abort ticker =>
      unfold scheduledStep
      dsimp only
      split <;> exact current
  | jobs input =>
      unfold scheduledStep
      dsimp only
      split <;> exact current

end Schedules

namespace Demo

/-- `compute_next_run` of intervals. -/
def nextInterval : NextRun := fun _ intervalSeconds now =>
  match intervalSeconds.bind (addSeconds now) with
  | some time => .ok time
  | none =>
      .error (.exception "ValueError" "must provide either cron_expr or interval_seconds > 0")

def intervalJobs : ScheduledJobService :=
  { schedules := { platform, catalog := config.catalog, computeNextRun := nextInterval }
    jobs := jobService }

/-- An hourly schedule that is due, and the tick that has submitted its job. -/
def submittedHourly : List ScheduledInput :=
  .create "hourly" { actorId := "alice", name := "hourly", actionType := "stub.noop",
                     intervalSeconds := some 3600 } "2026-01-01T08:00:00+00:00" ::
    .jobs (.start 0) :: .tick 0 0 "2026-01-01T09:00:00+00:00" ::
      List.replicate 5 (.proceed 0 "job")

/-- The tick writes the schedule back. -/
def writtenHourly : List ScheduledInput := submittedHourly ++ [.proceed 0 "job"]

/-- The schedule is disabled before the tick writes it back. -/
def disabledHourly : List ScheduledInput :=
  submittedHourly ++
    [.update "hourly" "alice" { enabled := some false } "2026-01-01T09:00:00+00:00",
      .proceed 0 "job"]

end Demo

end Era.Services
