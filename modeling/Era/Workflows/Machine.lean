import Era.Lib.Machine
import Era.Services.System
import Era.Workflows.Engine

/-!
# The engine as a system of drivers

A driver is one public call on a run, with the worker threads of its parallel batches.  It
moves one transaction at a time, and everything that it does not compute itself is part of
the reading of its move: what it finds in catalogs, clocks and counters, and how the
execution service answers.  A crash ends a driver between two transactions.

All inputs concern one run, whose definition is fixed: a definition that is found with the
checksum of the run is the definition of the run.
-/

namespace Era.Workflows

open Era.Core Era.Lib Era.Services

/-! ## States -/

/-- What the service is wired with. -/
structure WorkflowService where
  platform : Platform
  maxPendingConfirmations : Int
  /-- Whether a governance service has been injected. -/
  governed : Bool
  checksum : WorkflowDefinition → String

/-- The rows of the run and of its steps, and the statuses of the confirmations. -/
structure Store where
  run : Option WorkflowRun
  steps : List WorkflowStepRun
  confirmations : String → Option Status

/-- The arguments of `start` that reach the row of the run, and its fresh identifier. -/
structure StartRequest where
  runId : String
  params : Params
  templateName : Option String := none
  templateVersion : Option Int := none

/-- Calls on a run that its owner makes, or an administrator on behalf of the owner. -/
inductive OwnerCall where
  | cancel
  | resolveAmbiguous (decision : String)

/-- The public calls on a run; `start` is called with the token of the run. -/
inductive RunCall where
  | start (request : StartRequest)
  | resume
  | owner (call : OwnerCall)
  /-- `admin_cancel` and `admin_resolve_ambiguous`. -/
  | admin (call : OwnerCall)

/-- How far `_execute_step` has come with a step. -/
inductive WorkerStage where
  | idle
  | queued
  | budget
  | overspent (message : String)
  | overspentRelease (message : String)
  | inspect (rendered : Params)
  | request (action : Action)
  | mark (mark : StepMark)
  | finished (row : WorkflowStepRun)

/-- How a call ends: `_advance` returns, the call answers without advancing, or it raises. -/
inductive Ending where
  | returned
  | answered
  | raised
  deriving DecidableEq, Repr

/-- How far a call has come; the names are those of its next transaction. -/
inductive Stage where
  | off
  | startToken (request : StartRequest)
  | startClaim (request : StartRequest)
  | startRejected (request : StartRequest) (code : String)
  | startCreate (request : StartRequest)
  /-- `_load_run_any` of an administrator. -/
  | operator (call : OwnerCall)
  /-- `_load_owned` of `cancel` and `resolve_ambiguous`. -/
  | enter (call : OwnerCall)
  /-- `_load_owned` of `resume`. -/
  | resume
  /-- The transaction of `resolve_ambiguous` with `continue`. -/
  | resolve
  | load
  | head
  /-- The waiting steps that are left to be reconciled, and whether one has changed. -/
  | reconcile (waiting : List Nat) (changed : Bool)
  | outcome (index : Nat) (rest : List Nat)
  | revalidate (index : Nat) (rest : List Nat)
  | settle (index : Nat) (rest : List Nat)
  | skip (index : Nat) (rest : List Nat)
  | persist (update : RunUpdate)
  | release (ending : Ending)
  | reload (index : Nat)
  | skipConditional (index : Nat)
  | step (index : Nat)
  | classify
  | budget (first : Nat) (rest : List Nat)
  | batchRelease
  | join
  | regroup

/-- One call with its caller, its object of the run, the rows that it has read last, the
batch that it executes and the workers of that batch. -/
structure Driver where
  stage : Stage := .off
  ctx : ExecutionContext := { actorId := "" }
  /-- `domain_allowed`. -/
  allowed : String → Bool := fun _ => true
  run : WorkflowRun := default
  rows : List WorkflowStepRun := []
  batch : List Nat := []
  workers : Nat → WorkerStage := fun _ => .idle

namespace Driver

def goto (driver : Driver) (stage : Stage) : Driver := { driver with stage }

/-- A driver that has ended. -/
def stop (driver : Driver) : Driver := driver.goto .off

def enterWorker (driver : Driver) (index : Nat) (stage : WorkerStage) : Driver :=
  { driver with workers := Function.update driver.workers index stage }

end Driver

/-- What an observer of the engine sees. -/
inductive EngineEvent where
  /-- The action of a step is passed to `ExecutionService.request`. -/
  | requested (index : Nat) (action : Action)
  | inspected
  | slotClaimed
  | slotReleased
  | ended (ending : Ending)

/-- Stored rows and every call on the run. -/
structure EngineState where
  store : Store
  drivers : Nat → Driver

/-- What a driver leaves behind after one move. -/
structure Move where
  store : Store
  driver : Driver
  events : List EngineEvent := []

/-! ## Readings -/

/-- What `_definition_for_run` finds. -/
inductive DefinitionReading where
  | missing
  /-- A definition with another checksum. -/
  | changed
  | found
  deriving DecidableEq, Repr

/-- A refusal of the governance service. -/
structure GovernanceFailure where
  code : Option String
  message : String

/-- What one move reads from its surroundings. -/
structure Reading where
  definition : DefinitionReading := .found
  deadlinePassed : Bool := false
  governance : Option GovernanceFailure := none
  /-- What `_step_def_for` finds in the middle of a run. -/
  stepDef : Option WorkflowStep := none
  /-- The outcomes of the first entries of the audit log for the confirmation. -/
  outcomes : List Outcome := []
  answer : Except PyException StepResponse := .error ⟨"", ""⟩

/-- One input of the engine. -/
inductive Input where
  | launch (driver : Nat) (ctx : ExecutionContext) (allowed : String → Bool) (call : RunCall)
  | drive (driver : Nat) (reading : Reading)
  | work (driver index : Nat) (reading : Reading)
  | crash (driver : Nat)
  /-- A confirmation is approved, denied or expires. -/
  | decide (confirmationId : String) (status : Status)

section Engine

variable (service : WorkflowService) (definition : WorkflowDefinition)

/-- The refusal of the governance service, if there is one. -/
def refusal (reading : Reading) : Option GovernanceFailure :=
  if service.governed then reading.governance else none

/-- The events of a released slot. -/
def releaseEvents : List EngineEvent := if service.governed then [.slotReleased] else []

/-! ## Public calls -/

/-- The row of a run that has been admitted. -/
def newRun (request : StartRequest) (ctx : ExecutionContext) : WorkflowRun :=
  { workflowName := definition.name
    workflowVersion := definition.version
    actorId := ctx.actorId
    executionScope := pyOr ctx.executionScope (some ("workflow:" ++ request.runId))
    status := .pending
    currentStep := 0
    error := none
    definitionChecksum := service.checksum definition
    runParams := redactRunParams request.params
    templateName := request.templateName
    templateVersion := if nonempty request.templateName then some definition.version else none
    governanceCode := none }

/-- The row of a run that governance has refused. -/
def rejectedRun (request : StartRequest) (ctx : ExecutionContext) (code : String) :
    WorkflowRun :=
  { newRun service definition request ctx with
    executionScope := ctx.executionScope
    status := .failed
    error := some ("governance admission denied (" ++ code ++ ")")
    templateVersion := some definition.version
    governanceCode := some code }

/-- `start` up to its first transaction. -/
def startToken (store : Store) (driver : Driver) (request : StartRequest) : Move :=
  let known := driver.allowed "browser.workflow_run" &&
    !(request.templateVersion.any fun version => definition.version != version) &&
    definition.steps.all fun step => driver.allowed step.action
  if !known then { store, driver := driver.stop, events := [.ended .raised] }
  else
    match store.run with
    | some _ => { store, driver := driver.stop, events := [.ended .answered] }
    | none =>
        { store
          driver := driver.goto (if service.governed then .startClaim request
            else .startCreate request) }

/-- `start` creates the run with its steps.  A second run under its token violates the
uniqueness of tokens. -/
def startCreate (store : Store) (driver : Driver) (request : StartRequest) : Move :=
  match store.run with
  | some _ => { store, driver := driver.stop, events := [.ended .raised] }
  | none =>
      let run := newRun service definition request driver.ctx
      { store := { store with run := some run, steps := definition.steps.map fun _ => {} }
        driver := { driver with
          stage := .load
          ctx := { driver.ctx with executionScope := run.executionScope } } }

/-- `_create_failed_run`. -/
def startRejected (store : Store) (driver : Driver) (request : StartRequest) (code : String) :
    Move :=
  match store.run with
  | some _ => { store, driver := driver.stop, events := [.ended .raised] }
  | none =>
      { store := { store with
          run := some (rejectedRun service definition request driver.ctx code) }
        driver := driver.stop
        events := [.ended .answered] }

/-- `admin_cancel` and `admin_resolve_ambiguous` up to the call that they make for the
owner. -/
def operator (store : Store) (driver : Driver) (call : OwnerCall) : Move :=
  match store.run with
  | none => { store, driver := driver.stop, events := [.ended .raised] }
  | some run =>
      let onBehalf := { driver with
        stage := .enter call
        ctx := { actorId := run.actorId, executionScope := run.executionScope } }
      match call with
      | .resolveAmbiguous _ =>
          if run.status = .ambiguous then { store, driver := onBehalf }
          else { store, driver := driver.stop, events := [.ended .raised] }
      | .cancel => { store, driver := onBehalf }

/-- The caller with the run that it has loaded and the scope of that run. -/
def Driver.restored (driver : Driver) (run : WorkflowRun) : Driver :=
  { driver with
    run
    ctx := { driver.ctx with
      executionScope := pyOr run.executionScope driver.ctx.executionScope } }

/-- `resume` up to `_advance`. -/
def resume (store : Store) (driver : Driver) : Move :=
  match store.run with
  | none => { store, driver := driver.stop, events := [.ended .raised] }
  | some run =>
      if run.actorId ≠ driver.ctx.actorId then
        { store, driver := driver.stop, events := [.ended .raised] }
      else
        match run.status with
        | .completed | .cancelled =>
            { store, driver := driver.stop, events := [.ended .answered] }
        | .failed | .ambiguous => { store, driver := driver.stop, events := [.ended .raised] }
        | .pending | .running | .waiting =>
            { store, driver := (driver.restored run).goto .load }

/-- `cancel` and `resolve_ambiguous` up to their first write. -/
def enter (store : Store) (driver : Driver) (call : OwnerCall) : Move :=
  match store.run with
  | none => { store, driver := driver.stop, events := [.ended .raised] }
  | some run =>
      if run.actorId ≠ driver.ctx.actorId then
        { store, driver := driver.stop, events := [.ended .raised] }
      else
        match call with
        | .cancel =>
            match run.status with
            | .completed | .cancelled | .failed | .ambiguous =>
                { store, driver := driver.stop, events := [.ended .answered] }
            | .pending | .running | .waiting =>
                { store
                  driver := (driver.restored run).goto
                    (.persist (.cancelled "cancelled by operator")) }
        | .resolveAmbiguous decision =>
            if run.status ≠ .ambiguous then
              { store, driver := driver.stop, events := [.ended .raised] }
            else if decision = "abort" then
              { store
                driver := (driver.restored run).goto
                  (.persist (.cancelled "ambiguous outcome aborted by operator")) }
            else if decision = "continue" then
              { store, driver := (driver.restored run).goto .resolve }
            else { store, driver := driver.stop, events := [.ended .raised] }

/-- The receipt of a step whose unknown outcome an operator has accepted. -/
def operatorReceipt : Value :=
  .dict [("resolved", .str "operator_continue"), ("outcome_unknown", .bool true)]

/-- The current step is completed if its outcome is unknown. -/
def resolveStep (row : WorkflowStepRun) : WorkflowStepRun :=
  if row.status = .ambiguous then
    { row with status := .completed, resultReceipt := some operatorReceipt, errorMessage := none }
  else row

/-- `resolve_ambiguous` with `continue`; every action is allowed from here on. -/
def resolve (store : Store) (driver : Driver) : Move :=
  { store := { store with
      run := store.run.map (updateRun driver.run driver.run.resolved)
      steps := store.steps.modify driver.run.currentStep resolveStep }
    driver := { driver with stage := .load, run := driver.run.resolved, allowed := fun _ => true } }

/-! ## The loop -/

/-- The first read of `_advance`. -/
def load (store : Store) (driver : Driver) (reading : Reading) : Move :=
  match store.run with
  | none => { store, driver := driver.stop, events := [.ended .raised] }
  | some run =>
      if run.actorId ≠ driver.ctx.actorId then
        { store, driver := driver.stop, events := [.ended .raised] }
      else
        let loaded := { driver with run }
        match reading.definition with
        | .missing =>
            { store
              driver := loaded.goto (.persist
                (.failed "workflow is no longer registered or template missing")) }
        | .changed =>
            { store
              driver := loaded.goto (.persist
                (.failed "workflow definition changed since the run started (checksum)")) }
        | .found => { store, driver := loaded.goto .head }

/-- The steps that wait for a confirmation. -/
def waitingIndices (rows : List WorkflowStepRun) : List Nat :=
  (rows.zipIdx.filter fun entry => entry.1.status == .waiting).map Prod.snd

/-- The next thing to do when nothing waits and the rows do not settle the run. -/
def chooseNext (driver : Driver) : Driver × List EngineEvent :=
  let ready := readyIndices definition driver.rows
  match ready with
  | [] =>
      if allSettled definition driver.rows then
        (driver.goto (.persist (.completed definition.steps.length)), [])
      -- Nothing waits, nothing is ready, and not every step is settled.
      else (driver.stop, [.ended .returned])
  | _ :: _ =>
      match chooseBatch definition service.maxPendingConfirmations ready with
      | [] => (driver.stop, [.ended .raised])
      | [index] => ({ driver with stage := .persist (.select index), batch := [index] }, [])
      | first :: rest => ({ driver with stage := .budget first rest, batch := first :: rest }, [])

/-- The head of the loop. -/
def head (store : Store) (driver : Driver) (reading : Reading) : Move :=
  if reading.deadlinePassed then
    { store, driver := driver.goto (.persist (.failed "workflow wall-clock budget exceeded")) }
  else
    let driver := { driver with rows := store.steps }
    match waitingIndices store.steps with
    | first :: rest => { store, driver := driver.goto (.reconcile (first :: rest) false) }
    | [] =>
        match refreshRunStatus store.steps with
        | some update => { store, driver := driver.goto (.persist update) }
        | none =>
            let chosen := chooseNext service definition driver
            { store, driver := chosen.1, events := chosen.2 }

/-- `_handle_waiting_step` up to the status of the confirmation. -/
def reconcile (store : Store) (driver : Driver) (reading : Reading) (index : Nat)
    (rest : List Nat) (changed : Bool) : Move :=
  let failing (message : String) : Move :=
    { store, driver := driver.goto (.persist (.failed message)) }
  match (driver.rows[index]?.bind WorkflowStepRun.confirmationId).filter (· != "") with
  | none => failing "waiting step has no confirmation record"
  | some confirmationId =>
      match store.confirmations confirmationId with
      | none => failing "confirmation record is missing"
      | some .pending => { store, driver := driver.goto (.reconcile rest changed) }
      | some .used => { store, driver := driver.goto (.outcome index rest) }
      | some .denied =>
          match reading.stepDef.map WorkflowStep.onDenied with
          | some .skip => { store, driver := driver.goto (.skip index rest) }
          -- `denied_stop`: the loop returns without a failure of the run.
          | _ => { store, driver := driver.stop, events := [.ended .returned] }
      | some .expired => failing "confirmation expired"

/-- `_handle_waiting_step` of an approved step whose dispatch is looked up. -/
def readOutcome (store : Store) (driver : Driver) (reading : Reading) (index : Nat)
    (rest : List Nat) : Move :=
  match dispatchOutcome reading.outcomes with
  | some .executed => { store, driver := driver.goto (.revalidate index rest) }
  | some outcome =>
      { store
        driver := driver.goto (.persist (.failed
          ("approved step dispatch did not succeed (outcome=" ++ outcome.value ++ ")"))) }
  | none =>
      { store
        driver := driver.goto (.persist
          (.failed "approved step has no recorded dispatch outcome")) }

/-- Whether the post-condition of an approved step holds, and whether the page had to be
inspected to find out. -/
def postCondition (run : WorkflowRun) (reading : Reading) : Bool × Bool :=
  match reading.stepDef with
  | none => (true, false)
  | some step =>
      match step.expect with
      | none => (true, false)
      | some expect =>
          match renderStepExpect service.platform step run.runParams false with
          | .error _ => (false, false)
          | .ok rendered =>
              (revalidate service.platform step expect (rendered.getD []) reading.answer, true)

/-- `_revalidate_post_condition`. -/
def checkPostCondition (store : Store) (driver : Driver) (reading : Reading) (index : Nat)
    (rest : List Nat) : Move :=
  let checked := postCondition service driver.run reading
  { store
    driver := driver.goto (if checked.1 then .settle index rest
      else .persist (.failed "approved step failed post-condition revalidation"))
    events := if checked.2 then [.inspected] else [] }

/-- The receipt of a step that has been executed on its approval. -/
def approvalReceipt (confirmationId : Option String) : Value :=
  .dict [("approved", .bool true), ("executed_once", .bool true),
    ("confirmation_id", (confirmationId.map Value.str).getD .none)]

/-- An approved step is completed. -/
def settleStep (confirmationId : Option String) (row : WorkflowStepRun) : WorkflowStepRun :=
  { row with status := .completed, resultReceipt := some (approvalReceipt confirmationId) }

/-- A denied step is skipped. -/
def skipStep (row : WorkflowStepRun) : WorkflowStepRun :=
  { row with status := .skipped, errorMessage := some "confirmation denied; step skipped" }

/-- A step whose condition is false is skipped. -/
def skipConditionalStep (row : WorkflowStepRun) : WorkflowStepRun :=
  if row.status = .pending then { row with status := .skippedConditional } else row

/-- What `_advance` does with the step that it has selected, once the run is running. -/
def dispatchSelected (driver : Driver) (index : Nat) : Driver × List EngineEvent :=
  match definition.steps[index]? with
  | none => (driver.stop, [.ended .raised])
  | some step =>
      if !driver.allowed step.action then
        (driver.goto (.persist (.failed
          ("step " ++ service.platform.reprString step.action ++
            " is not allowed for this role"))), [])
      else if statusAt driver.rows index = .pending ∧
          evaluateCondition definition driver.rows step = some false then
        (driver.goto (.skipConditional index), [])
      else ((driver.goto (.step index)).enterWorker index .queued, [])

/-- Where a driver goes after a write of the run. -/
def afterWrite (driver : Driver) (update : RunUpdate) : Driver × List EngineEvent :=
  match update with
  | .failed _ | .completed _ => (driver.goto (.release .returned), [])
  | .cancelled _ => (driver.goto (.release .answered), [])
  | .budgetFailed _ => (driver.goto .batchRelease, [])
  | .ambiguous | .waiting _ => (driver.stop, [.ended .returned])
  | .select index => (driver.goto (.reload index), [])
  | .running index => dispatchSelected service definition driver index
  | .idle _ => (driver.goto .head, [])
  | .submit index rest =>
      let submitted := driver.enterWorker index .queued
      match rest with
      | [] => (submitted.goto .join, [])
      | next :: rest => (submitted.goto (.persist (.submit next rest)), [])

/-- The object of a run is changed and written. -/
def Store.write (store : Store) (run : WorkflowRun) (update : RunUpdate) : Store :=
  { store with run := store.run.map (updateRun run (update.apply run)) }

def persist (store : Store) (driver : Driver) (update : RunUpdate) : Move :=
  let next := afterWrite service definition { driver with run := update.apply driver.run } update
  { store := store.write driver.run update, driver := next.1, events := next.2 }

/-- `_load_owned` after a step has been selected. -/
def reload (store : Store) (driver : Driver) (index : Nat) : Move :=
  match store.run with
  | none => { store, driver := driver.stop, events := [.ended .raised] }
  | some run =>
      if run.actorId ≠ driver.ctx.actorId then
        { store, driver := driver.stop, events := [.ended .raised] }
      else { store, driver := { driver with run, stage := .persist (.running index) } }

/-- `_classify_step_outcome` of the step that has run alone. -/
def classifyFinished (driver : Driver) (index : Nat) : Driver :=
  match driver.workers index with
  | .finished row =>
      match classify index row with
      | .idle => driver.goto .classify
      | .settled update => driver.goto (.persist update)
  | _ => driver

def WorkerStage.isFinished : WorkerStage → Bool
  | .finished _ => true
  | _ => false

/-- Whether every member of a batch has been executed. -/
def Driver.joined (driver : Driver) : Bool :=
  driver.batch.all fun index => (driver.workers index).isFinished

/-- What the rows say after a batch. -/
def regroup (store : Store) (driver : Driver) : Driver :=
  let driver := { driver with rows := store.steps }
  match refreshRunStatus store.steps with
  | some update => driver.goto (.persist update)
  | none => driver.goto .head

/-- One transaction of a call. -/
def drive (store : Store) (driver : Driver) (reading : Reading) : Move :=
  match driver.stage with
  | .off => { store, driver }
  | .startToken request => startToken service definition store driver request
  | .startClaim request =>
      match reading.governance with
      | none =>
          { store, driver := driver.goto (.startCreate request), events := [.slotClaimed] }
      | some failure =>
          { store
            driver := driver.goto
              (.startRejected request (failure.code.getD "BUDGET_EXCEEDED")) }
  | .startRejected request code => startRejected service definition store driver request code
  | .startCreate request => startCreate service definition store driver request
  | .operator call => operator store driver call
  | .enter call => enter store driver call
  | .resume => resume store driver
  | .resolve => resolve store driver
  | .load => load store driver reading
  | .head => head service definition store driver reading
  | .reconcile [] true => { store, driver := driver.goto .head }
  | .reconcile [] false => { store, driver := driver.goto (.persist (.waiting none)) }
  | .reconcile (index :: rest) changed => reconcile store driver reading index rest changed
  | .outcome index rest => readOutcome store driver reading index rest
  | .revalidate index rest => checkPostCondition service store driver reading index rest
  | .settle index rest =>
      let confirmationId := driver.rows[index]?.bind WorkflowStepRun.confirmationId
      { store := { store with
          steps := store.steps.modify index (settleStep confirmationId) }
        driver := driver.goto (.reconcile rest true) }
  | .skip index rest =>
      { store := { store with steps := store.steps.modify index skipStep }
        driver := driver.goto (.reconcile rest true) }
  | .persist update => persist service definition store driver update
  | .release ending =>
      { store, driver := driver.stop, events := releaseEvents service ++ [.ended ending] }
  | .reload index => reload store driver index
  | .skipConditional index =>
      { store := { store with steps := store.steps.modify index skipConditionalStep }
        driver := driver.goto .head }
  | .step index => { store, driver := classifyFinished driver index }
  | .classify =>
      { store, driver := driver.goto (.persist (.idle (nextCurrent store.steps))) }
  | .budget first rest =>
      match refusal service reading with
      | some failure => { store, driver := driver.goto (.persist (.budgetFailed failure.message)) }
      | none => { store, driver := driver.goto (.persist (.submit first rest)) }
  | .batchRelease => { store, driver := driver.goto .regroup, events := releaseEvents service }
  | .join => { store, driver := if driver.joined then driver.goto .regroup else driver }
  | .regroup => { store, driver := regroup store driver }

/-! ## Workers -/

/-- Whether a thread of the pool is free for a member of the batch: threads take members in
their order. -/
def Driver.mayStart (driver : Driver) (index : Nat) : Bool :=
  let earlier := driver.batch.takeWhile (· != index)
  let unfinished := earlier.filter fun other => !(driver.workers other).isFinished
  unfinished.length < min driver.batch.length 4

/-- A step is claimed. -/
def claimStep (row : WorkflowStepRun) : WorkflowStepRun :=
  { row with status := .running, attempt := row.attempt + 1 }

/-- Once the parameters and the target are rendered, the post-condition is. -/
def renderExpectation (step : WorkflowStep) (run : WorkflowRun) (rendered : Params) :
    WorkerStage :=
  match renderStepExpect service.platform step run.runParams false with
  | .error failure => .mark failure.mark
  | .ok none => .request { actionType := step.action, params := rendered }
  | .ok (some expect) =>
      .request { actionType := step.action, params := rendered.set "expect" (.dict expect) }

/-- Once the budget is claimed, the parameters are rendered. -/
def prepare (step : WorkflowStep) (run : WorkflowRun) : WorkerStage :=
  match renderWorkflowParams service.platform step run.runParams false with
  | .error failure => .mark failure.mark
  | .ok rendered =>
      if step.target.isSome then .inspect rendered
      else renderExpectation service step run rendered

/-- Once the page is inspected, the target is acquired. -/
def acquire (step : WorkflowStep) (run : WorkflowRun) (reading : Reading) (rendered : Params) :
    WorkerStage :=
  match step.target with
  | none => renderExpectation service step run rendered
  | some target =>
      match acquireTarget target reading.answer with
      | .error failure => .mark failure.mark
      | .ok ref =>
          renderExpectation service step run (rendered.set "element_ref" (.str ref))

/-- A required confirmation is pending from its creation on. -/
def Store.await (store : Store) : StepMark → Store
  | .awaiting (some confirmationId) =>
      { store with
        confirmations := Function.update store.confirmations confirmationId (some .pending) }
  | _ => store

/-- One transaction of `_execute_step`. -/
def work (store : Store) (driver : Driver) (index : Nat) (reading : Reading) : Move :=
  match definition.steps[index]?, driver.workers index with
  | none, _ | some _, .idle | some _, .finished _ => { store, driver }
  | some _, .queued =>
      match store.steps[index]? with
      -- Every step has had its row since the run was created.
      | none => { store, driver }
      | some row =>
          if driver.mayStart index then
            { store := { store with steps := store.steps.set index (claimStep row) }
              driver := driver.enterWorker index .budget }
          else { store, driver }
  | some step, .budget =>
      match refusal service reading with
      | some failure => { store, driver := driver.enterWorker index (.overspent failure.message) }
      | none => { store, driver := driver.enterWorker index (prepare service step driver.run) }
  | some _, .overspent message =>
      { store := store.write driver.run (.budgetFailed message)
        driver := { driver.enterWorker index (.overspentRelease message) with
          run := RunUpdate.apply (.budgetFailed message) driver.run } }
  | some _, .overspentRelease message =>
      { store
        driver := driver.enterWorker index
          (.mark (.failed (some "BUDGET_EXCEEDED") message))
        events := releaseEvents service }
  | some step, .inspect rendered =>
      { store
        driver := driver.enterWorker index (acquire service step driver.run reading rendered)
        events := [.inspected] }
  | some step, .request action =>
      let mark := markOf step reading.answer
      { store := store.await mark
        driver := driver.enterWorker index (.mark mark)
        events := [.requested index action] }
  | some _, .mark mark =>
      match store.steps[index]? with
      | none => { store, driver }
      | some row =>
          { store := { store with steps := store.steps.set index (mark.apply row) }
            driver := driver.enterWorker index (.finished (mark.apply row)) }

/-! ## The machine -/

def RunCall.stage : RunCall → Stage
  | .start request => .startToken request
  | .resume => .resume
  | .owner call => .enter call
  | .admin call => .operator call

/-- The state after a move of one call. -/
def EngineState.after (state : EngineState) (caller : Nat) (move : Move) : EngineState :=
  { store := move.store, drivers := Function.update state.drivers caller move.driver }

/-- One input of the engine.  A driver carries one call at a time, and the threads of a call
end with it. -/
def engineStep (state : EngineState) : Input → EngineState × List EngineEvent
  | .launch caller ctx allowed call =>
      match (state.drivers caller).stage with
      | .off =>
          (state.after caller
            { store := state.store, driver := { stage := call.stage, ctx, allowed } }, [])
      | _ => (state, [])
  | .drive caller reading =>
      let move := drive service definition state.store (state.drivers caller) reading
      (state.after caller move, move.events)
  | .work caller index reading =>
      match (state.drivers caller).stage with
      | .off => (state, [])
      | _ =>
          let move := work service definition state.store (state.drivers caller) index reading
          (state.after caller move, move.events)
  | .crash caller =>
      (state.after caller { store := state.store, driver := (state.drivers caller).stop }, [])
  | .decide confirmationId status =>
      match state.store.confirmations confirmationId with
      | none => (state, [])
      | some _ =>
          ({ state with store := { state.store with
              confirmations := Function.update state.store.confirmations confirmationId
                (some status) } }, [])

/-- The engine on one run. -/
def engine : Machine EngineState Input (List EngineEvent) :=
  { step := engineStep service definition }

end Engine

/-- Before the run is started. -/
def initialState : EngineState :=
  { store := { run := none, steps := [], confirmations := fun _ => none }
    drivers := fun _ => {} }

/-! ## A demonstration run -/

namespace Demo

def service : WorkflowService :=
  { platform := Services.Demo.platform
    maxPendingConfirmations := 4
    governed := false
    checksum := WorkflowDefinition.name }

def inspect (id : String) : WorkflowStep := { id, action := "browser.inspect" }

/-- Two steps that do not depend on each other. -/
def pair : WorkflowDefinition := { name := "pair", steps := [inspect "first", inspect "second"] }

/-- The execution service executes what it is asked for. -/
def executed : Reading :=
  { answer := .ok { response := { status := .executed, decision := .allow } } }

def launch (caller : Nat) (call : RunCall) : Input :=
  .launch caller { actorId := "alice" } (fun _ => true) call

def start (caller : Nat) : Input := launch caller (.start { runId := "run", params := [] })

def moves (caller count : Nat) : List Input := List.replicate count (.drive caller executed)

def works (caller index count : Nat) : List Input :=
  List.replicate count (.work caller index executed)

end Demo

end Era.Workflows
