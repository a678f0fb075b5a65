import Era.Services.ScheduleRows
import Era.Workflows.Supplied

/-!
# What the rows of workflow schedules say

The ticks of the workflow schedules write their rows back as those of the jobs do.
-/

namespace Era.Workflows

open Era.Core Era.Lib Era.Services

/-! ## Workflow schedules -/

/-- A tick is about to write back a row that has been edited since the tick has read it.  Where
the run of the schedule exists already, the tick reads the row and writes it in one go. -/
def overwritesWorkflowEdit (state : OperationsState) : OperationsInput → Bool
  | .advance schedule _ _ =>
      (Table.find WorkflowSchedule.id state.schedules schedule.id).any fun row =>
        !schedule.toRecurrence.isUnedited row.toRecurrence
  | _ => false

section WorkflowSchedules

variable {operations : WorkflowOperations} {state : OperationsState}

/-- The workflow schedules of a state are current. -/
def OperationsState.IsCurrent (operations : WorkflowOperations) (state : OperationsState) : Prop :=
  AllCurrent operations.computeNextRun WorkflowSchedule.toRecurrence WorkflowSchedule.nextRunAt
    state.schedules

theorem OperationsState.IsCurrent.of_schedules (current : state.IsCurrent operations)
    {after : OperationsState} (same : after.schedules = state.schedules) :
    after.IsCurrent operations := by
  unfold OperationsState.IsCurrent
  rw [same]
  exact current

/-- An input keeps the workflow schedules current unless a tick overwrites an edit with it. -/
theorem OperationsState.IsCurrent.step (current : state.IsCurrent operations)
    {input : OperationsInput} (unedited : overwritesWorkflowEdit state input = false) :
    (operationsStep operations state input).1.IsCurrent operations := by
  unfold operationsStep
  cases input with
  | publish | listDue | run => exact current
  | register =>
      dsimp only
      split <;> exact current
  | start => exact current.of_schedules (beginRun_schedules ..)
  | tick =>
      dsimp only
      split
      next => exact current
      next =>
        unfold tickSchedule
        dsimp only
        split
        next => exact current
        next => exact current.of_schedules (beginRun_schedules ..)
  | createSchedule id request now =>
      dsimp only
      split
      next after made =>
        obtain ⟨-, schedule, rfl, -, -, first, same⟩ := createWorkflowSchedule_ok made
        refine AllCurrent.append current ?_
        rw [same]
        exact .first first
      next => exact current
  | updateSchedule id actorId change now =>
      dsimp only
      split
      next after made =>
        obtain ⟨schedule, nextRunAt, found, rfl, next_run⟩ := updateWorkflowSchedule_ok made
        exact AllCurrent.store current
          ((current schedule (Table.find_eq_some found).1).changed next_run)
      next => exact current
      next => exact current
  | deleteSchedule id actorId =>
      dsimp only
      unfold OperationsState.IsCurrent deleteWorkflowSchedule
      dsimp only
      split
      next => exact current
      next => exact AllCurrent.delete current id
  | advance schedule now runId =>
      unfold overwritesWorkflowEdit at unedited
      unfold OperationsState.IsCurrent advanceWorkflowSchedule
      dsimp only at unedited ⊢
      cases found : Table.find WorkflowSchedule.id state.schedules schedule.id with
      | none => exact current
      | some row =>
          rw [found, Option.any_some, Bool.not_eq_false'] at unedited
          exact AllCurrent.store current (.advanced unedited now)

end WorkflowSchedules

/-- The rows of both services are current after every run in which no tick overwrites an edit. -/
theorem schedules_current (service : ScheduledJobService) (operations : WorkflowOperations)
    {inputs : List ScheduledInput} {others : List OperationsInput}
    (unedited : (scheduledJobs service).Admits
      (fun state input => overwritesEdit state input = false) {} inputs)
    (others_unedited : (workflows operations).Admits
      (fun state input => overwritesWorkflowEdit state input = false) {} others) :
    ((scheduledJobs service).stateAfter {} inputs).IsCurrent service ∧
      ((workflows operations).stateAfter {} others).IsCurrent operations :=
  ⟨Machine.invariant_of_admits (fun _ member => by cases member)
      (fun _ _ current unedited => current.step unedited) unedited,
    Machine.invariant_of_admits (fun _ member => by cases member)
      (fun _ _ current unedited => current.step unedited) others_unedited⟩

namespace Demo

def intervalWorkflows : WorkflowOperations :=
  { operations with computeNextRun := Services.Demo.nextInterval }

/-- An hourly workflow schedule, written back by the tick that has started its run. -/
def advancedHourly : List OperationsInput :=
  let row : WorkflowSchedule :=
    { id := "hourly", actorId := "alice", actorRole := none, name := "hourly"
      workflowName := "inspect", workflowVersion := 1, paramsRedacted := []
      intervalSeconds := some 3600, nextRunAt := some "2026-01-01T09:00:00+00:00" }
  [.register (single "inspect" { id := "first", action := "browser.inspect" }) none,
    .createSchedule "hourly" { actorId := "alice", actorRole := none, name := "hourly",
                               workflowName := "inspect", params := [],
                               intervalSeconds := some 3600 } "2026-01-01T08:00:00+00:00",
    .listDue "2026-01-01T09:00:00+00:00",
    .tick 0 0 "2026-01-01T09:00:00+00:00" "run" (fun _ => true),
    .advance row "2026-01-01T09:00:00+00:00" "run"]

end Demo

theorem schedules_current_demo :
    ((scheduledJobs Services.Demo.intervalJobs).stateAfter {}
        Services.Demo.writtenHourly).IsCurrent Services.Demo.intervalJobs ∧
      ((workflows Demo.intervalWorkflows).stateAfter {} Demo.advancedHourly).IsCurrent
        Demo.intervalWorkflows :=
  schedules_current Services.Demo.intervalJobs Demo.intervalWorkflows (by decide +kernel)
    (by decide +kernel)

/-- A tick gives a next run to a schedule that has been disabled meanwhile. -/
theorem not_schedules_current :
    ¬∀ inputs, ((scheduledJobs Services.Demo.intervalJobs).stateAfter {} inputs).IsCurrent
      Services.Demo.intervalJobs := by
  intro always
  have scheduled : (((scheduledJobs Services.Demo.intervalJobs).stateAfter {}
      Services.Demo.disabledHourly).table.any fun row =>
        !row.enabled && row.nextRunAt.isSome) = true := by
    decide +kernel
  obtain ⟨row, member, both⟩ := List.any_eq_true.mp scheduled
  rw [Bool.and_eq_true, Bool.not_eq_true'] at both
  have no_next := (always Services.Demo.disabledHourly row member).disabled both.1
  rw [no_next] at both
  cases both.2

end Era.Workflows
