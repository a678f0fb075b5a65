import Era.Services.ScheduledJobs
import Era.Workflows.Tracking

/-!
# Ticks of the workflow schedules

The token of a run that a tick starts is made of its schedule and the due time, so a tick that
finds the same schedule due again comes to the same run.
-/

namespace Era.Workflows

open Era.Core Era.Lib Era.Security Era.Services

section Firing

variable (operations : WorkflowOperations)

/-- The key of the run that a tick starts for a due time of a schedule. -/
def dueKey (scheduleId actorId due : String) : RunKey :=
  (actorId, "sched:" ++ operations.config.platform.sha256Hex
    (actorId ++ ":" ++ scheduleId ++ ":" ++ due))

/-- The key of the run that an input moves, if it moves one. -/
def OperationsInput.key? (state : OperationsState) : OperationsInput → Option RunKey
  | .run key _ => some key
  | input => input.begun? operations state

/-- What the run that an input creates is created from. -/
def createdBy (state : OperationsState) (input : OperationsInput) : List Origin :=
  match input.key? operations state with
  | none => []
  | some key =>
      let after := (operationsStep operations state input).1.runs key
      if (state.runs key).engine.store.run.isNone && after.engine.store.run.isSome then
        after.origin.toList
      else []

/-- The workflow services, and the runs that they create. -/
def creations : Machine OperationsState OperationsInput (List Origin) :=
  { step := fun state input => ((operationsStep operations state input).1,
      createdBy operations state input) }

end Firing

/-- A tick has started the run for a due time of a schedule. -/
def Origin.firesFor (scheduleId actorId due : String) (origin : Origin) : Bool :=
  origin.schedule.any fun schedule =>
    schedule.id == scheduleId && schedule.actorId == actorId && schedule.nextRunAt == some due

section Fired

variable {operations : WorkflowOperations} {state : OperationsState}

/-- A run of a schedule has the key of the schedule and the due time. -/
def FiredAt (operations : WorkflowOperations) (key : RunKey) (origin : Origin) : Prop :=
  ∀ schedule, origin.schedule = some schedule → ∃ due, schedule.nextRunAt = some due ∧
    key = dueKey operations schedule.id schedule.actorId due

/-- What ticks hold is due, and what they have started has its key. -/
structure TicksFit (operations : WorkflowOperations) (state : OperationsState) : Prop where
  due : ∀ schedule ∈ state.due, schedule.nextRunAt.isSome = true
  origins : ∀ key, OriginsHave (FiredAt operations key) (state.runs key)

theorem ticksFit_initial : TicksFit operations {} := by
  refine ⟨fun schedule held => ?_, fun key => originsHave_initial _⟩
  cases held

theorem mem_due_step {input : OperationsInput} {schedule : WorkflowSchedule}
    (held : schedule ∈ (operationsStep operations state input).1.due) :
    schedule ∈ state.due ∨ schedule.nextRunAt.isSome = true := by
  have begun_due (due : List WorkflowSchedule) (caller : Nat) (ctx : ExecutionContext)
      (allowed : String → Bool) (key : RunKey) (source : Source) (request : StartRequest)
      (schedule? : Option WorkflowSchedule) :
      (beginRun operations { state with due } caller ctx allowed key source request
        schedule?).due = due := by
    unfold beginRun
    extract_lets tracked resolved registered
    split
    · rfl
    · split <;> rfl
  unfold operationsStep at held
  cases input with
  | register | createSchedule | updateSchedule =>
      dsimp only at held
      split at held <;> exact .inl held
  | publish | deleteSchedule | advance | run => exact .inl held
  | listDue now =>
      obtain earlier | found := List.mem_append.mp held
      · exact .inl earlier
      · exact .inr (isSome_of_mem_listDue found)
  | tick index caller now runId allowed =>
      dsimp only at held
      split at held
      · exact .inl held
      · unfold tickSchedule at held
        extract_lets key request at held
        split at held
        · exact .inl (List.mem_of_mem_eraseIdx held)
        · dsimp only at held
          rw [begun_due] at held
          exact .inl (List.mem_of_mem_eraseIdx held)
  | start caller ctx allowed token source request =>
      exact .inl ((begun_due state.due caller ctx allowed _ source request none) ▸ held)

/-- A tick starts a run under the key of the schedule and its due time. -/
theorem ScheduledStart.firedAt (fits : TicksFit operations state) {input : OperationsInput}
    {key : RunKey} {source : Source} {origin : Origin}
    (begun : input.begun? operations state = some key)
    (scheduled : ∀ schedule, origin.schedule = some schedule →
      ScheduledStart state input source origin.request schedule) :
    FiredAt operations key origin := by
  intro schedule for_schedule
  have turns := (scheduled schedule for_schedule).turns
  cases input with
  | tick index caller now runId allowed =>
      have found : state.due[index]? = some schedule := turns
      obtain ⟨due, time⟩ := Option.isSome_iff_exists.mp
        (fits.due schedule (List.mem_of_getElem? found))
      refine ⟨due, time, ?_⟩
      unfold OperationsInput.begun? scheduleToken at begun
      dsimp only at begun
      rw [found, Option.map_some, time] at begun
      exact (Option.some.inj begun).symm
  | register | publish | createSchedule | updateSchedule | deleteSchedule | listDue | advance
  | start | run => exact absurd turns id

theorem TicksFit.step (fits : TicksFit operations state) (input : OperationsInput) :
    TicksFit operations (operationsStep operations state input).1 := by
  constructor
  · intro schedule held
    obtain earlier | due := mem_due_step held
    · exact fits.due schedule earlier
    · exact due
  · intro key
    have change := (operationsStep_change operations state input).runs key
    by_cases begun : input.begun? operations state = some key
    · exact (fits.origins key).change change fun _ _ _ scheduled =>
        ScheduledStart.firedAt fits begun scheduled
    · generalize (operationsStep operations state input).1.runs key = after at change
      cases change with
      | kept => exact fits.origins key
      | begins _ _ _ _ _ _ _ begun_here => exact absurd begun_here begun
      | steps engineInput => exact (fits.origins key).trackedStep engineInput

/-- A run that has been created stays. -/
theorem run_stays (input : OperationsInput) {key : RunKey}
    (stored : (state.runs key).engine.store.run.isSome = true) :
    ((operationsStep operations state input).1.runs key).engine.store.run.isSome = true := by
  have change := (operationsStep_change operations state input).runs key
  generalize (operationsStep operations state input).1.runs key = after at change
  cases change with
  | kept => exact stored
  | begins ctx allowed source origin free =>
      dsimp only
      rw [after_launch free]
      exact stored
  | steps engineInput =>
      obtain ⟨run, found⟩ := Option.isSome_iff_exists.mp stored
      obtain ⟨later, found_later, _⟩ := (TrackedRun.step_later engineInput).kept run found
      rw [found_later]
      rfl

/-- What one input creates for a due time of a schedule. -/
theorem createdBy_fires (fits : TicksFit operations state) (input : OperationsInput)
    (scheduleId actorId due : String) :
    (createdBy operations state input).countP (Origin.firesFor scheduleId actorId due) = 0 ∨
      (createdBy operations state input).countP (Origin.firesFor scheduleId actorId due) = 1 ∧
        (state.runs (dueKey operations scheduleId actorId due)).engine.store.run = none ∧
        ((operationsStep operations state input).1.runs
          (dueKey operations scheduleId actorId due)).engine.store.run.isSome = true := by
  have origins := (fits.step input).origins
  unfold createdBy
  split
  · exact .inl rfl
  next key moved =>
    dsimp only
    split
    next created =>
      obtain ⟨absent, stored⟩ := Bool.and_eq_true_iff.mp created
      cases made : ((operationsStep operations state input).1.runs key).origin with
      | none => exact .inl rfl
      | some origin =>
          rw [Option.toList_some, List.countP_singleton]
          split
          next fires =>
            obtain ⟨schedule, for_schedule, same⟩ := (Option.any_eq_true _ _).mp fires
            obtain ⟨time, time_eq, key_eq⟩ := (origins key).origin origin made schedule for_schedule
            simp only [Bool.and_eq_true, beq_iff_eq] at same
            obtain ⟨⟨rfl, rfl⟩, due_eq⟩ := same
            obtain rfl := Option.some.inj (time_eq.symm.trans due_eq)
            subst key_eq
            exact .inr ⟨rfl, Option.isNone_iff_eq_none.mp absent, stored⟩
          · exact .inl rfl
    · exact .inl rfl

/-- In every history, ticks create one job at most, and one run at most, for a due time of a
schedule. -/
theorem fires_once (service : ScheduledJobService) (operations : WorkflowOperations)
    (scheduleId actorId due : String) :
    (∀ inputs : List ScheduledInput,
      ((scheduledJobs service).trace id {} inputs).countP
        (ScheduledEvent.firesFor scheduleId actorId due) ≤ 1) ∧
    ∀ inputs : List OperationsInput,
      ((creations operations).trace id {} inputs).countP
        (Origin.firesFor scheduleId actorId due) ≤ 1 := by
  refine ⟨jobs_fired_once service scheduleId actorId due, fun inputs => ?_⟩
  apply @Machine.countP_trace_le_one _ _ _ (creations operations) _ id (TicksFit operations)
    (fun state =>
      (state.runs (dueKey operations scheduleId actorId due)).engine.store.run.isSome = true)
    _ _ ticksFit_initial
  · exact fun _ input fits => fits.step input
  · exact fun _ input stored => run_stays input stored
  · intro state input fits
    obtain none | ⟨one, _⟩ := createdBy_fires fits input scheduleId actorId due
    · exact none.trans_le (Nat.zero_le 1)
    · exact one.le
  · intro state input fits firing
    obtain none | ⟨_, absent, stored⟩ := createdBy_fires fits input scheduleId actorId due
    · exact absurd none firing.ne'
    · refine ⟨fun already => ?_, stored⟩
      rw [absent] at already
      cases already

end Fired

end Era.Workflows
