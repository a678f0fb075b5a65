import Era.Lib.Table
import Era.Workflows.Operations

/-!
# Admission and budgets

The governance service keeps counters in a table: how many runs of an actor and of a workflow
are admitted, how many were started in a window of time, and what a run has spent.  A run
claims its slots before it is created and releases them when it has ended.
-/

namespace Era.Workflows

open Era.Core Era.Lib Era.Services

/-! ## Counters -/

/-- A row of `workflow_governance_counter`. -/
structure GovernanceCounter where
  kind : String
  scope : String
  count : Int

/-- A row is unique by its kind and scope. -/
def GovernanceCounter.key (counter : GovernanceCounter) : String × String :=
  (counter.kind, counter.scope)

/-- The primary key, which is cut off. -/
def GovernanceCounter.id (counter : GovernanceCounter) : String :=
  pyTake (counter.kind ++ ":" ++ counter.scope) 64

/-- What a counter stands at. -/
def countOf (counters : List GovernanceCounter) (kind scope : String) : Int :=
  ((Table.find GovernanceCounter.key counters (kind, scope)).map GovernanceCounter.count).getD 0

/-- A change of the counters with its answer, unless it raises. -/
abbrev Bumped := Except GovernanceFailure (List GovernanceCounter × Int × Bool)

/-- `SQLiteWorkflowGovernanceRepo.bump`: a row is changed if that keeps it under the cap, and
inserted if there is none. -/
def bump (counters : List GovernanceCounter) (kind scope : String) (delta cap : Int) : Bumped :=
  match Table.find GovernanceCounter.key counters (kind, scope) with
  | some row =>
      let changed := { row with count := row.count + delta }
      if changed.count ≤ cap then
        .ok (Table.store GovernanceCounter.key counters changed, changed.count, true)
      else .ok (counters, row.count, false)
  | none =>
      let inserted : GovernanceCounter := { kind, scope, count := delta }
      if counters.any fun row => row.id == inserted.id then
        .error
          { code := none
            message := "UNIQUE constraint failed: workflow_governance_counter.id" }
      else .ok (counters ++ [inserted], delta, true)

/-- The cap of a counter for which none is given. -/
def noCap : Int := 2 ^ 31 - 1

/-- The settings of the service. -/
structure GovernanceSettings where
  maxConcurrentPerActor : Int
  maxConcurrentPerWorkflow : Int
  maxRunsPerWindow : Int
  maxStepsPerRun : Int
  maxCostUnits : Int

def actorKind : String := "concurrency.actor"

def workflowKind : String := "concurrency.workflow"

/-- A counter goes up by one, unless the cap is reached. -/
def claimOne (counters : List GovernanceCounter) (kind scope : String) (cap : Int)
    (refused : GovernanceFailure) : Except GovernanceFailure (List GovernanceCounter) := do
  let bumped ← bump counters kind scope 1 cap
  if bumped.2.2 then return bumped.1 else throw refused

section Governance

variable (settings : GovernanceSettings) (counters : List GovernanceCounter)

/-- `claim_start`: one transaction, which is rolled back if it raises. -/
def claimStart (actorId workflowName : String) (windowStart : Int) :
    Except GovernanceFailure (List GovernanceCounter) := do
  let afterActor ← claimOne counters actorKind actorId settings.maxConcurrentPerActor
    { code := some "CONCURRENCY_EXCEEDED", message := "concurrent-run cap exceeded for actor" }
  let afterWorkflow ← claimOne afterActor workflowKind workflowName
    settings.maxConcurrentPerWorkflow
    { code := some "CONCURRENCY_EXCEEDED"
      message := "concurrent-run cap exceeded for workflow" }
  claimOne afterWorkflow "rate" (workflowName ++ ":" ++ toString windowStart)
    settings.maxRunsPerWindow
    { code := some "RATE_LIMIT_EXCEEDED", message := "per-window run rate exceeded for workflow" }

/-- `release_start`, whose failures are only logged. -/
def releaseStart (actorId workflowName : String) : List GovernanceCounter :=
  let released : Except GovernanceFailure (List GovernanceCounter) := do
    let afterActor ← bump counters actorKind actorId (-1) noCap
    let afterWorkflow ← bump afterActor.1 workflowKind workflowName (-1) noCap
    return afterWorkflow.1
  match released with
  | .ok after => after
  | .error _ => counters

/-- `claim_step_budget`: one transaction, which is rolled back if it raises. -/
def claimStepBudget (runId : String) : Except GovernanceFailure (List GovernanceCounter) := do
  let spent ← bump counters "steps" ("run:" ++ runId) 1 settings.maxStepsPerRun
  if !spent.2.2 || settings.maxStepsPerRun < spent.2.1 then
    throw { code := some "BUDGET_EXCEEDED", message := "step budget exceeded for run" }
  claimOne spent.1 "cost" ("run:" ++ runId) settings.maxCostUnits
    { code := some "BUDGET_EXCEEDED", message := "cost/quota budget exceeded for run" }

/-- The claims of a batch, each in its own transaction; the first refusal ends them. -/
def claimBatch (runId : String) : Nat → List GovernanceCounter →
    List GovernanceCounter × Option GovernanceFailure
  | 0, counters => (counters, none)
  | members + 1, counters =>
      match claimStepBudget settings counters runId with
      | .error failure => (counters, some failure)
      | .ok after => claimBatch runId members after

end Governance

/-! ## The calls of the engine -/

/-- What a transaction of the engine asks of the governance service. -/
inductive GovernanceCall where
  | claimStart (actorId workflowName : String)
  | claimSteps (runId : String) (members : Nat)
  | releaseStart (actorId workflowName : String)

/-- The call of the next transaction of a run. -/
def TrackedRun.governanceCall (tracked : TrackedRun) : Input → Option GovernanceCall
  | .drive caller _ =>
      let driver := tracked.engine.drivers caller
      match driver.stage with
      | .startClaim _ => some (.claimStart driver.ctx.actorId (tracked.loaded caller).name)
      | .budget _ rest => tracked.origin.map fun origin =>
          .claimSteps origin.request.runId (rest.length + 1)
      | .release _ | .batchRelease =>
          some (.releaseStart driver.run.actorId driver.run.workflowName)
      | _ => none
  | .work caller index _ =>
      let driver := tracked.engine.drivers caller
      match driver.stage, driver.workers index with
      | .off, _ => none
      | _, .budget => tracked.origin.map fun origin => .claimSteps origin.request.runId 1
      | _, .overspentRelease _ =>
          some (.releaseStart driver.run.actorId driver.run.workflowName)
      | _, _ => none
  | _ => none

/-- The counters after a call, and its refusal. -/
def GovernanceCall.answer (settings : GovernanceSettings) (counters : List GovernanceCounter)
    (windowStart : Int) : GovernanceCall → List GovernanceCounter × Option GovernanceFailure
  | .claimStart actorId workflowName =>
      match Workflows.claimStart settings counters actorId workflowName windowStart with
      | .ok after => (after, none)
      | .error failure => (counters, some failure)
  | .claimSteps runId members => claimBatch settings runId members counters
  | .releaseStart actorId workflowName =>
      (Workflows.releaseStart counters actorId workflowName, none)

/-- The input with what the governance service has answered. -/
def Input.answered (refused : Option GovernanceFailure) : Input → Input
  | .drive caller reading => .drive caller { reading with governance := refused }
  | .work caller index reading => .work caller index { reading with governance := refused }
  | input => input

/-! ## The governed services -/

/-- The services with the counters. -/
structure GovernedState where
  operations : OperationsState := {}
  counters : List GovernanceCounter := []

/-- An input of the services, and the window of time in which a start is counted. -/
structure GovernedInput where
  input : OperationsInput
  windowStart : Int := 0

/-- What becomes of the slot of a run. -/
inductive SlotUse where
  | claimed
  | released
  deriving DecidableEq, Repr

/-- What an input shows, and what it does to the slots of runs. -/
structure GovernedOutput where
  shown : List OperationsEvent
  slots : List (RunKey × SlotUse)

/-- What an answered call does to the slot of its run. -/
def GovernanceCall.uses (refused : Option GovernanceFailure) : GovernanceCall → List SlotUse
  | .claimStart .. => if refused.isNone then [.claimed] else []
  | .claimSteps .. => []
  | .releaseStart .. => [.released]

section Governed

variable (operations : WorkflowOperations) (settings : GovernanceSettings)

/-- The call of the governance service that an input makes, and the run that makes it. -/
def GovernedState.call? (state : GovernedState) (given : GovernedInput) :
    Option (RunKey × GovernanceCall) :=
  match given.input with
  | .run key input =>
      if operations.governed then
        ((state.operations.runs key).governanceCall input).map fun call => (key, call)
      else none
  | _ => none

/-- The counters and the refusal that an input meets. -/
def GovernedState.governance (state : GovernedState) (given : GovernedInput) :
    List GovernanceCounter × Option GovernanceFailure :=
  match state.call? operations given with
  | some (_, call) => call.answer settings state.counters given.windowStart
  | none => (state.counters, none)

/-- One input of the governed services. -/
def governedStep (state : GovernedState) (given : GovernedInput) :
    GovernedState × GovernedOutput :=
  let governance := state.governance operations settings given
  let input :=
    match given.input with
    | .run key input => .run key (input.answered governance.2)
    | input => input
  let moved := operationsStep operations state.operations input
  let slots :=
    match state.call? operations given with
    | some (key, call) => (call.uses governance.2).map fun use => (key, use)
    | none => []
  ({ operations := moved.1, counters := governance.1 }, { shown := moved.2, slots })

def governedWorkflows : Machine GovernedState GovernedInput GovernedOutput :=
  { step := governedStep operations settings }

end Governed

end Era.Workflows
