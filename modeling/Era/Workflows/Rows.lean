import Era.Services.Execution
import Era.Workflows.Validation

/-!
# Durable runs and steps

A run has one row and each of its steps has one.  A call holds the row of the run as an
object: `update_run` writes the columns in which the object differs from what it was when
it was last loaded or written, and leaves the other columns to whoever wrote them.
-/

namespace Era.Workflows

open Era.Core Era.Services

/-- Lifecycle states of a run. -/
inductive RunStatus where
  | pending
  | running
  | waiting
  | completed
  | failed
  | ambiguous
  | cancelled
  deriving DecidableEq, Repr, Inhabited

/-- A finished run. -/
def RunStatus.terminal : RunStatus → Bool
  | .completed | .failed | .cancelled => true
  | .pending | .running | .waiting | .ambiguous => false

/-- Lifecycle states of a step. -/
inductive StepStatus where
  | pending
  | running
  | waiting
  | completed
  | failed
  | ambiguous
  | cancelled
  | skipped
  | skippedConditional
  deriving DecidableEq, Repr

/-- `_TERMINAL_STEP_STATUSES`. -/
def StepStatus.settled : StepStatus → Bool
  | .completed | .failed | .ambiguous | .cancelled | .skipped | .skippedConditional => true
  | .pending | .running | .waiting => false

/-- The statuses that satisfy a dependency. -/
def StepStatus.done : StepStatus → Bool
  | .completed | .skipped | .skippedConditional => true
  | _ => false

/-- A row of `workflow_run`. -/
structure WorkflowRun where
  workflowName : String
  workflowVersion : Int
  actorId : String
  executionScope : Option String
  status : RunStatus
  currentStep : Nat
  error : Option String
  definitionChecksum : String
  runParams : Params
  templateName : Option String
  templateVersion : Option Int
  governanceCode : Option String
  deriving Inhabited

/-- A row of `workflow_step_run`; its place in the list of rows is its `step_index`. -/
structure WorkflowStepRun where
  status : StepStatus := .pending
  attempt : Nat := 0
  confirmationId : Option String := none
  resultReceipt : Option Value := none
  errorCode : Option String := none
  errorMessage : Option String := none

/-! ## Writing a run -/

/-- The value of a column after an object has been written over it. -/
def writeColumn {α : Type} [DecidableEq α] (loaded changed stored : α) : α :=
  if changed = loaded then stored else changed

@[simp] theorem writeColumn_fresh {α : Type} [DecidableEq α] (loaded changed : α) :
    writeColumn loaded changed loaded = changed := by
  unfold writeColumn
  split
  next same => exact same.symm
  next => rfl

/-- `update_run`: what was loaded, what it has been changed to, and the stored row.  No
other column of an object is ever assigned. -/
def updateRun (loaded changed stored : WorkflowRun) : WorkflowRun :=
  { stored with
    status := writeColumn loaded.status changed.status stored.status
    currentStep := writeColumn loaded.currentStep changed.currentStep stored.currentStep
    error := writeColumn loaded.error changed.error stored.error
    governanceCode :=
      writeColumn loaded.governanceCode changed.governanceCode stored.governanceCode }

/-- A status that is written is the stored one, or one that the object has been changed to. -/
theorem updateRun_status (loaded changed stored : WorkflowRun) :
    (updateRun loaded changed stored).status = stored.status ∨
      (updateRun loaded changed stored).status = changed.status ∧
        changed.status ≠ loaded.status := by
  unfold updateRun writeColumn
  dsimp only
  split
  next => exact .inl rfl
  next different => exact .inr ⟨rfl, different⟩

/-- The places at which the engine changes the object of a run and writes it. -/
inductive RunUpdate where
  /-- `_set_run_failed`, and the failures of `_refresh_run_status` and
  `_classify_step_outcome`. -/
  | failed (message : String)
  /-- `_set_run_budget_failed`. -/
  | budgetFailed (message : String)
  | ambiguous
  | waiting (index : Option Nat)
  | completed (steps : Nat)
  | cancelled (message : String)
  /-- `_set_current` before a step that runs alone. -/
  | select (index : Nat)
  /-- A step that runs alone is about to be executed. -/
  | running (index : Nat)
  /-- `_classify_step_outcome` of a step that went well. -/
  | idle (current : Nat)
  /-- `_set_current` before a member of a batch is submitted. -/
  | submit (index : Nat) (rest : List Nat)

def RunUpdate.apply (update : RunUpdate) (run : WorkflowRun) : WorkflowRun :=
  match update with
  | .failed message => { run with status := .failed, error := some message }
  | .budgetFailed message =>
      { run with
        status := .failed, error := some message, governanceCode := some "BUDGET_EXCEEDED" }
  | .ambiguous =>
      { run with
        status := .ambiguous
        error := some "a step has an unknown outcome; operator resolution required" }
  | .waiting index =>
      { run with status := .waiting, currentStep := index.getD run.currentStep }
  | .completed steps => { run with status := .completed, currentStep := steps, error := none }
  | .cancelled message => { run with status := .cancelled, error := some message }
  | .select index | .idle index | .submit index _ => { run with currentStep := index }
  | .running _ => { run with status := .running }

/-- The status that an update assigns. -/
def RunUpdate.status? : RunUpdate → Option RunStatus
  | .failed _ | .budgetFailed _ => some .failed
  | .ambiguous => some .ambiguous
  | .waiting _ => some .waiting
  | .completed _ => some .completed
  | .cancelled _ => some .cancelled
  | .select _ | .idle _ | .submit _ _ => none
  | .running _ => some .running

theorem RunUpdate.apply_status (update : RunUpdate) (run : WorkflowRun) :
    (update.apply run).status = update.status?.getD run.status := by
  cases update <;> rfl

@[simp] theorem RunUpdate.apply_actorId (update : RunUpdate) (run : WorkflowRun) :
    (update.apply run).actorId = run.actorId := by
  cases update <;> rfl

/-- What `resolve_ambiguous` makes of a run that continues. -/
def WorkflowRun.resolved (run : WorkflowRun) : WorkflowRun :=
  { run with status := .running, currentStep := run.currentStep + 1, error := none }

/-- Writing over the row that was loaded stores the object. -/
theorem updateRun_fresh (loaded : WorkflowRun) (update : RunUpdate) :
    updateRun loaded (update.apply loaded) loaded = update.apply loaded := by
  cases update <;> simp [updateRun, RunUpdate.apply]

/-! ## Marking a step -/

/-- How `_execute_step` writes the outcome of a step. -/
inductive StepMark where
  | completed (receipt : Value)
  | skipped (message : String)
  | failed (errorCode : Option String) (message : String)
  | ambiguous (errorCode message : String)
  /-- The step waits for a confirmation. -/
  | awaiting (confirmationId : Option String)

def StepMark.status : StepMark → StepStatus
  | .completed _ => .completed
  | .skipped _ => .skipped
  | .failed _ _ => .failed
  | .ambiguous _ _ => .ambiguous
  | .awaiting _ => .waiting

/-- `_mark_step` writes four columns; a step that waits keeps all but its confirmation. -/
def StepMark.apply (mark : StepMark) (row : WorkflowStepRun) : WorkflowStepRun :=
  match mark with
  | .completed receipt =>
      { row with
        status := .completed, resultReceipt := some receipt, errorCode := none
        errorMessage := none }
  | .skipped message =>
      { row with
        status := .skipped, resultReceipt := none, errorCode := none
        errorMessage := some message }
  | .failed errorCode message =>
      { row with
        status := .failed, resultReceipt := none, errorCode, errorMessage := some message }
  | .ambiguous errorCode message =>
      { row with
        status := .ambiguous, resultReceipt := none, errorCode := some errorCode
        errorMessage := some message }
  | .awaiting confirmationId => { row with status := .waiting, confirmationId }

@[simp] theorem StepMark.apply_status (mark : StepMark) (row : WorkflowStepRun) :
    (mark.apply row).status = mark.status := by
  cases mark <;> rfl

@[simp] theorem StepMark.apply_attempt (mark : StepMark) (row : WorkflowStepRun) :
    (mark.apply row).attempt = row.attempt := by
  cases mark <;> rfl

theorem StepMark.status_ne_pending (mark : StepMark) : mark.status ≠ .pending := by
  cases mark <;> simp [StepMark.status]

/-- The status of a step; a step without a row counts as pending. -/
def statusAt (rows : List WorkflowStepRun) (index : Nat) : StepStatus :=
  (rows[index]?.map WorkflowStepRun.status).getD .pending

end Era.Workflows
