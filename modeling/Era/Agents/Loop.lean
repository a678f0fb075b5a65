import Era.Agents.Budget
import Era.Agents.TaskManager
import Era.Agents.Verifier
import Era.Core.ToolRegistry
import Era.Lib.Machine
import Era.Security.Redaction
import Era.Services.Dispatch

/-!
# The loop of an agent run

Each iteration checks the budget, takes the next ready task, passes the calls that the brain
proposes for it to the execution service and verifies the task.  A run may pause for the user
and be resumed.  The answers of the brain, the planner, the execution service and the operator,
the workspace and the clock are inputs of an iteration.
-/

namespace Era.Agents

open Era.Core Era.Lib Era.Security Era.Services

/-- What a loop is wired with. -/
structure AgentLoop where
  platform : Platform
  catalog : ActionCatalog
  registry : ToolRegistry
  domainGuard : Option (String → Bool) := none
  verifier : Verifier
  maxReplans : Int := 1

/-! ## Inputs -/

inductive ApprovalChoice where
  | approve
  | deny
  | wait
  deriving DecidableEq, Repr

/-- `_ask_operator`, from the answer of the approval handler; there is none without a handler or
where it raises. -/
def askOperator : Option String → ApprovalChoice
  | some "approve" => .approve
  | some "deny" => .deny
  | _ => .wait

/-- What a call meets when it is its turn. -/
structure CallAnswer where
  reading : BudgetReading := {}
  response : ExecutionResponse
  operator : Option String := none
  /-- The response to the approval. -/
  approved : ExecutionResponse := response

/-- What one iteration meets. -/
structure Iteration where
  reading : BudgetReading := {}
  /-- The model calls of the brain. -/
  llmCalls : List BudgetReading := []
  /-- The proposed calls, or the message of the `ToolError` that the brain raises. -/
  proposed : Except String (List (Action × CallAnswer))
  workspace : Workspace := {}
  /-- What the planner proposes as a repair. -/
  repairs : List Task := []

inductive ResolutionOutcome where
  | executed
  | failed
  | denied
  | expired
  deriving DecidableEq, Repr

def ResolutionOutcome.value : ResolutionOutcome → String
  | .executed => "executed"
  | .failed => "failed"
  | .denied => "denied"
  | .expired => "expired"

/-- Outcome of a pending confirmation, resolved from the audit log. -/
structure ApprovalResolution where
  confirmationId : String
  outcome : ResolutionOutcome
  note : String := ""

inductive LoopInput where
  | iterate (iteration : Iteration)
  | resume (resolutions : List ApprovalResolution)

/-! ## States and events -/

structure AgentResult where
  status : RunStatus
  tasksCompleted : Nat
  tasksFailed : Nat
  tasksSkipped : Nat
  toolCalls : Nat
  iterations : Nat
  llmCalls : Nat
  notes : List String

/-- What is persisted of a run. -/
structure RunRecord where
  status : RunStatus
  tasks : List Task
  result : AgentResult
  pendingConfirmations : List String

inductive LoopPhase where
  | driving
  | ended (record : RunRecord)
  /-- The verifier has raised. -/
  | raised (exception : String)

/-- A run; its replans are counted in each segment anew. -/
structure LoopState where
  manager : TaskManager
  budget : AgentBudget
  replans : Nat := 0
  phase : LoopPhase := .driving

inductive LoopEvent where
  | started (task : Task)
  | modelCalled
  /-- A call is passed to `ExecutionService.request`. -/
  | requested (task : Task) (call : Action)
  /-- A call is passed to `ExecutionService.approve`. -/
  | approved (task : Task) (confirmationId : String) (call : Action)
  /-- A task is verified, with the result of its last call. -/
  | completed (task : Task) (last : Option Observation)
  | replanned (task : Task) (repairs : List Task)

/-! ## Gate and calls -/

section Loop

variable (loop : AgentLoop)

/-- `_gate_reject`: a reason to reject a call. -/
def AgentLoop.gateReject (call : Action) : Option String :=
  match loop.catalog.get call.actionType with
  | none => some ("unknown action type: " ++ call.actionType)
  | some spec =>
      if spec.riskLevel = .forbidden then
        some ("action is permanently forbidden: " ++ call.actionType)
      else if (loop.registry.get call.actionType).isNone then
        some ("no provider registered for " ++ call.actionType)
      else if loop.domainGuard.any fun allows => !allows call.actionType then
        some ("action not allowed for this role: " ++ call.actionType)
      else if call.actionType = "browser.fill" then
        match call.params.get "text" with
        | .str _ => some "agent browser.fill requires a vault-backed value_ref"
        | _ => none
      else none

/-- `_automatic_retry_allowed`. -/
def AgentLoop.automaticRetryAllowed (actionType : String) : Bool :=
  !(loop.registry.get actionType).any fun provider =>
    provider.nonRetryableActionTypes.contains actionType

/-- `_observation_from_response`. -/
def observationOf (response : ExecutionResponse) : Observation :=
  { status := response.status
    summary :=
      let summary := (response.result.map ActionResult.summary).getD ""
      if summary = "" then response.message.getD "" else summary
    data := (response.result.map ActionResult.data).getD []
    error :=
      match response.status with
      | .failed | .rejected | .denied => response.message
      | .executed | .confirmationRequired | .awaitingApproval => none }

/-- What a call comes to once it has been passed to the execution service. -/
inductive CallEnd where
  | paused (confirmationId : String)
  | denied
  | observed (observation : Observation)

def CallAnswer.settle (answer : CallAnswer) : CallEnd :=
  match answer.response.status with
  | .confirmationRequired =>
      match askOperator answer.operator with
      | .wait => .paused (answer.response.confirmationId.getD "")
      | .deny => .denied
      | .approve => .observed (observationOf answer.approved)
  | _ => .observed (observationOf answer.response)

/-- The events of a call. -/
def CallAnswer.events (answer : CallAnswer) (task : Task) (call : Action) : List LoopEvent :=
  match answer.response.status with
  | .confirmationRequired =>
      match askOperator answer.operator with
      | .approve =>
          [.requested task call,
            .approved task (answer.response.confirmationId.getD "") call]
      | .wait | .deny => [.requested task call]
  | _ => [.requested task call]

/-- What the loop over the calls of a task comes to. -/
inductive CallsEnd where
  | overBudget (reason : String)
  | paused (confirmationId : String)
  | denied
  | observed (last : Option Observation)

structure Calls where
  budget : AgentBudget
  events : List LoopEvent
  ending : CallsEnd

/-- The loop over the calls of a task; it stops at the first that is not executed. -/
def dispatchCalls (task : Task) :
    AgentBudget → Option Observation → List (Action × CallAnswer) → Calls
  | budget, last, [] => { budget, events := [], ending := .observed last }
  | budget, _, (call, answer) :: rest =>
      match budget.canToolCall loop.platform answer.reading with
      | some reason => { budget, events := [], ending := .overBudget reason }
      | none =>
          let budget := budget.recordToolCall
          let events := answer.events task call
          match answer.settle with
          | .paused confirmationId => { budget, events, ending := .paused confirmationId }
          | .denied => { budget, events, ending := .denied }
          | .observed observation =>
              if observation.status = .executed then
                let after := dispatchCalls task budget (some observation) rest
                { after with events := events ++ after.events }
              else { budget, events, ending := .observed (some observation) }

/-! ## One iteration -/

/-- `_pending_ids`. -/
def pendingIds (manager : TaskManager) : List String :=
  (manager.waiting.flatMap Task.waitingOn).eraseDups

/-- The status that `_final` gives to a run. -/
def finalStatus (manager : TaskManager) (forced : RunStatus) : RunStatus :=
  let requiredFailed := manager.tasks.any fun task =>
    task.required && (task.status = .failed || task.status = .skipped)
  if forced = .budgetExceeded then forced
  else if forced = .waitingForUser || !manager.waiting.isEmpty then .waitingForUser
  else if requiredFailed then .failed
  else .completed

/-- `_final`. -/
def LoopState.final (state : LoopState) (forced : RunStatus) (notes : List String) : RunRecord :=
  let status := finalStatus state.manager forced
  let failed := state.manager.count .failed
  let skipped := state.manager.count .skipped
  { status
    tasks := state.manager.tasks
    result :=
      { status
        tasksCompleted := state.manager.count .completed
        tasksFailed := failed
        tasksSkipped := skipped
        toolCalls := state.budget.toolCalls
        iterations := state.budget.iterations
        llmCalls := state.budget.llmCalls
        notes := notes ++
          (if failed ≠ 0 then
            [toString failed ++ " task(s) failed (non-required failures are tolerated)"]
          else []) ++
          (if skipped ≠ 0 then [toString skipped ++ " task(s) skipped"] else []) }
    pendingConfirmations := if status = .waitingForUser then pendingIds state.manager else [] }

def LoopState.finish (state : LoopState) (forced : RunStatus) (notes : List String) : LoopState :=
  { state with phase := .ended (state.final forced notes) }

def LoopState.put (state : LoopState) (task : Task) : LoopState :=
  { state with manager := state.manager.put task }

/-- `_settle_failure`. -/
def LoopState.settleFailure (state : LoopState) (task : Task) (error : String) : LoopState :=
  state.put (if task.retryAllowed then task.retry error else task.fail error)

/-- A task whose verification is final has failed: one bounded replan. -/
def AgentLoop.replan (state : LoopState) (task : Task) (repairs : List Task) :
    LoopState × List LoopEvent :=
  if state.replans < loop.maxReplans && !repairs.isEmpty then
    ({ state with
      manager := repairs.foldl TaskManager.add state.manager
      replans := state.replans + 1 }, [.replanned task repairs])
  else (state, [])

/-- The verification of a task after its calls, and what follows. -/
def AgentLoop.settle (state : LoopState) (task : Task) (iteration : Iteration)
    (last : Option Observation) : LoopState × List LoopEvent :=
  match loop.verifier.verify iteration.workspace task.verify last with
  | .error exception => ({ state with phase := .raised exception }, [])
  | .ok verdict =>
      if verdict.ok then (state.put task.complete, [.completed task last])
      else if task.retryAllowed && loop.automaticRetryAllowed task.actionType then
        (state.put (task.retry verdict.reason), [])
      else
        loop.replan (state.put (task.fail ("verification failed: " ++ verdict.reason))) task
          iteration.repairs

/-- The calls of a task, once the gate has let the first one pass. -/
def AgentLoop.callTask (state : LoopState) (task : Task) (iteration : Iteration)
    (calls : List (Action × CallAnswer)) : LoopState × List LoopEvent :=
  let dispatched := dispatchCalls loop task state.budget none calls
  let after := { state with budget := dispatched.budget }
  match dispatched.ending with
  | .overBudget reason =>
      (after.finish .budgetExceeded ["run stopped: " ++ reason], dispatched.events)
  | .paused confirmationId =>
      ((after.put (task.pauseForUser confirmationId)).finish .waitingForUser
        ["run paused for user approval"], dispatched.events)
  | .denied =>
      (after.put (task.fail "operator denied the pending confirmation"), dispatched.events)
  | .observed last =>
      let settled := loop.settle after task iteration last
      (settled.1, dispatched.events ++ settled.2)

/-- What follows of the proposal of the brain for a task that runs. -/
def AgentLoop.proceed (state : LoopState) (task : Task) (iteration : Iteration) :
    LoopState × List LoopEvent :=
  match iteration.proposed with
  | .error error => (state.settleFailure task error, [])
  | .ok proposed =>
      match proposed.filter fun call => call.1.actionType ≠ "" with
      | [] => (state.put (task.fail "brain proposed no tool call"), [])
      | first :: rest =>
          match loop.gateReject first.1 with
          | some reason => (state.put (task.fail reason), [])
          | none => loop.callTask state task iteration (first :: rest)

/-- An iteration with a ready task. -/
def AgentLoop.runTask (state : LoopState) (task : Task) (iteration : Iteration) :
    LoopState × List LoopEvent :=
  let counted := state.budget.recordIteration
  let asked := counted.recordLlmCalls loop.platform iteration.llmCalls
  let running := { state with manager := state.manager.put task.markRunning, budget := asked }
  let after := loop.proceed running task.markRunning iteration
  (after.1, .started task ::
    (List.replicate (asked.llmCalls - counted.llmCalls) .modelCalled ++ after.2))

def unsatisfiable : String :=
  "dependency could not be satisfied (failed, cycle or unknown dependency)"

/-- An iteration without a ready task: pending tasks that are blocked are skipped, or else all
that are pending. -/
def LoopState.skipBlocked (state : LoopState) : LoopState :=
  let blocked := state.manager.blockedPending
  let dead := if blocked.isEmpty then state.manager.pending else blocked
  { state with manager := state.manager.skipAll unsatisfiable dead }

/-- One iteration of `_drive`. -/
def AgentLoop.iterate (state : LoopState) (iteration : Iteration) : LoopState × List LoopEvent :=
  match state.budget.check loop.platform iteration.reading with
  | some reason => (state.finish .budgetExceeded ["run stopped: " ++ reason], [])
  | none =>
      match state.manager.nextReady with
      | some task => loop.runTask state task iteration
      | none =>
          if state.manager.hasPending then (state.skipBlocked, [])
          else (state.finish .completed [], [])

/-! ## Segments -/

/-- `_harden_browser_fill_tasks`. -/
def harden (task : Task) : Task :=
  if task.actionType = "browser.fill" && task.params.contains "text" then
    { task with params := task.params.set "text" (.str redacted) }
  else task

/-- `resolved.get`; a later resolution replaces an earlier one. -/
def resolutionOf (resolutions : List ApprovalResolution) (confirmationId : String) :
    Option ApprovalResolution :=
  resolutions.reverse.find? fun resolution => resolution.confirmationId == confirmationId

/-- What a resumption makes of a task that waits. -/
def resolveTask (resolutions : List ApprovalResolution) (task : Task) : Task :=
  let entries := task.waitingOn.filterMap (resolutionOf resolutions)
  match entries.getLast? with
  | none => task
  | some last =>
      if entries.any fun entry => entry.outcome = .executed then task.complete
      else
        task.fail (if last.note = "" then "confirmation resolved as " ++ last.outcome.value
          else last.note)

/-- `resume` up to the loop. -/
def resumeFrom (state : LoopState) (record : RunRecord) (resolutions : List ApprovalResolution) :
    LoopState :=
  let manager := TaskManager.ofTasks (record.tasks.map harden)
  let result := record.result
  { manager := manager.waiting.foldl
      (fun manager task => manager.put (resolveTask resolutions task)) manager
    budget := state.budget.restore result.iterations result.toolCalls result.llmCalls }

def loopStep (state : LoopState) : LoopInput → LoopState × List LoopEvent
  | .iterate iteration =>
      match state.phase with
      | .driving => loop.iterate state iteration
      | .ended _ | .raised _ => (state, [])
  | .resume resolutions =>
      match state.phase with
      | .ended record =>
          -- `continue_run` resumes a paused run, and only with a resolution.
          if record.status = .waitingForUser && !resolutions.isEmpty then
            (resumeFrom state record resolutions, [])
          else (state, [])
      | .driving | .raised _ => (state, [])

def agentRun : Machine LoopState LoopInput (List LoopEvent) := { step := loopStep loop }

/-- `run` up to the loop, with the model calls of the planner. -/
def startRun (budget : AgentBudget) (llmCalls : List BudgetReading) (plan : List Task) :
    LoopState :=
  { manager := TaskManager.ofTasks (plan.map harden)
    budget := budget.recordLlmCalls loop.platform llmCalls }

end Loop

end Era.Agents
