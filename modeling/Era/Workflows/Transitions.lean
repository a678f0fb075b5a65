import Era.Workflows.Sequential

/-!
# The control flow of a call

Every transaction of a call takes it from one stage to the next.  The transitions below say
which stage that is and what becomes of the rows and of what the call holds; whatever holds
of a call at all times is proved by cases on them.
-/

namespace Era.Workflows

open Era.Core Era.Lib Era.Services

/-- The stages of `start` after its first transaction and before the run is created. -/
def Stage.isStarting : Stage → Bool
  | .startClaim _ | .startRejected _ _ | .startCreate _ => true
  | _ => false

/-- The stages in front of the loop of `_advance`. -/
def Stage.isEntry : Stage → Bool
  | .startToken _ | .startClaim _ | .startRejected _ _ | .startCreate _ | .operator _ | .enter _
  | .resume | .resolve | .load => true
  | _ => false

/-- The stages of the loop of `_advance`. -/
def Stage.inLoop : Stage → Bool
  | .head | .reconcile _ _ | .outcome _ _ | .revalidate _ _ | .settle _ _ | .skip _ _ | .reload _
  | .skipConditional _ | .step _ | .classify | .budget _ _ | .batchRelease | .join
  | .regroup => true
  | .persist (.failed _) | .persist (.cancelled _) => false
  | .persist _ => true
  | .off | .startToken _ | .startClaim _ | .startRejected _ _ | .startCreate _ | .operator _
  | .enter _ | .resume | .resolve | .load | .release _ => false

/-- The stages at which the status of an approved or denied confirmation is acted on. -/
def Stage.isExamining : Stage → Bool
  | .outcome _ _ | .revalidate _ _ | .settle _ _ | .skip _ _ => true
  | _ => false

/-- The updates after which a call answers. -/
def RunUpdate.ending? : RunUpdate → Option Ending
  | .failed _ | .completed _ => some .returned
  | .cancelled _ => some .answered
  | .budgetFailed _ | .ambiguous | .waiting _ | .select _ | .running _ | .idle _ | .submit _ _ =>
      none

section Transitions

variable (service : WorkflowService) (definition : WorkflowDefinition)
variable (store : Store) (driver : Driver) (reading : Reading)

/-- What one transaction makes of the rows and of a call. -/
inductive Transition : Store → Driver → Prop where
  | waits : Transition store driver
  | stops (after : Store) (ended : Driver) : Transition after ended.stop
  | starts (stage : Stage) (starting : stage.isStarting = true)
      (asked : stage.request? = driver.stage.request?) : Transition store (driver.goto stage)
  | creates (request : StartRequest) (at_create : driver.stage = .startCreate request)
      (after : Store) (ctx : ExecutionContext) :
      Transition after { driver with stage := .load, ctx }
  | operates (call : OwnerCall) (ctx : ExecutionContext)
      (entering : driver.stage.isEntry = true) :
      Transition store { driver with stage := .enter call, ctx }
  | cancels {run : WorkflowRun} (found : store.run = some run)
      (unfinished : run.status.terminal = false) (message : String)
      (entering : driver.stage.isEntry = true) :
      Transition store ((driver.restored run).goto (.persist (.cancelled message)))
  | continues {run : WorkflowRun} (found : store.run = some run)
      (ambiguous : run.status = .ambiguous) (entering : driver.stage.isEntry = true) :
      Transition store ((driver.restored run).goto .resolve)
  | resumes {run : WorkflowRun} (found : store.run = some run)
      (unfinished : run.status.terminal = false) (entering : driver.stage.isEntry = true) :
      Transition store ((driver.restored run).goto .load)
  | resolves (at_resolve : driver.stage = .resolve) (after : Store) :
      Transition after
        { driver with stage := .load, run := driver.run.resolved, allowed := fun _ => true }
  | loads (at_load : driver.stage = .load) {run : WorkflowRun} (found : store.run = some run) :
      Transition store ({ driver with run }.goto .head)
  | rejects (at_load : driver.stage = .load) {run : WorkflowRun} (found : store.run = some run)
      (message : String) :
      Transition store ({ driver with run }.goto (.persist (.failed message)))
  | fails (looping : driver.stage.inLoop = true) (message : String) :
      Transition store (driver.goto (.persist (.failed message)))
  | gathers (at_head : driver.stage = .head) (some_wait : waitingIndices store.steps ≠ []) :
      Transition store
        ({ driver with rows := store.steps }.goto
          (.reconcile (waitingIndices store.steps) false))
  | refreshes (looping : driver.stage = .head ∨ driver.stage = .regroup) {update : RunUpdate}
      (settled : refreshRunStatus store.steps = some update) :
      Transition store ({ driver with rows := store.steps }.goto (.persist update))
  | completes (at_head : driver.stage = .head) (none_waiting : waitingIndices store.steps = [])
      (unsettled : refreshRunStatus store.steps = none)
      (settled : allSettled definition store.steps = true) :
      Transition store
        ({ driver with rows := store.steps }.goto (.persist (.completed definition.steps.length)))
  | selects (at_head : driver.stage = .head) {index : Nat}
      (none_waiting : waitingIndices store.steps = [])
      (unsettled : refreshRunStatus store.steps = none)
      (chosen : chooseBatch definition service.maxPendingConfirmations
        (readyIndices definition store.steps) = [index]) :
      Transition store
        { driver with
          rows := store.steps, stage := .persist (.select index), batch := [index] }
  | batches (at_head : driver.stage = .head) {first second : Nat} {rest : List Nat}
      (none_waiting : waitingIndices store.steps = [])
      (unsettled : refreshRunStatus store.steps = none)
      (chosen : chooseBatch definition service.maxPendingConfirmations
        (readyIndices definition store.steps) = first :: second :: rest) :
      Transition store
        { driver with
          rows := store.steps, stage := .budget first (second :: rest)
          batch := first :: second :: rest }
  | awaits {index : Nat} {rest : List Nat} {changed : Bool} {confirmationId : String}
      (at_reconcile : driver.stage = .reconcile (index :: rest) changed)
      (named : driver.rows[index]?.bind WorkflowStepRun.confirmationId = some confirmationId)
      (pending : store.confirmations confirmationId = some .pending) :
      Transition store (driver.goto (.reconcile rest changed))
  | examines (looping : driver.stage.inLoop = true) (stage : Stage)
      (examining : stage.isExamining = true) (fewer : stage.awaited = driver.stage.awaited) :
      Transition store (driver.goto stage)
  | reconciles {index : Nat} {rest : List Nat} {change : WorkflowStepRun → WorkflowStepRun}
      (at_settle : driver.stage = .settle index rest ∨ driver.stage = .skip index rest)
      (changed : ∀ row, (change row).status = .completed ∨ (change row).status = .skipped) :
      Transition { store with steps := store.steps.modify index change }
        (driver.goto (.reconcile rest true))
  | rechecks (at_reconcile : driver.stage = .reconcile [] true) :
      Transition store (driver.goto .head)
  | pauses (at_reconcile : driver.stage = .reconcile [] false) :
      Transition store (driver.goto (.persist (.waiting none)))
  | finishes {update : RunUpdate} {ending : Ending} (at_persist : driver.stage = .persist update)
      (ends : update.ending? = some ending) :
      Transition (store.write driver.run update)
        ({ driver with run := update.apply driver.run }.goto (.release ending))
  | selected {index : Nat} (at_persist : driver.stage = .persist (.select index)) :
      Transition (store.write driver.run (.select index))
        ({ driver with run := RunUpdate.apply (.select index) driver.run }.goto (.reload index))
  | reloads {index : Nat} (at_reload : driver.stage = .reload index) {run : WorkflowRun}
      (found : store.run = some run) :
      Transition store { driver with run, stage := .persist (.running index) }
  | forbids {index : Nat} (at_persist : driver.stage = .persist (.running index))
      (message : String) :
      Transition (store.write driver.run (.running index))
        ({ driver with run := RunUpdate.apply (.running index) driver.run }.goto
          (.persist (.failed message)))
  | diverges {index : Nat} (at_persist : driver.stage = .persist (.running index))
      {step : WorkflowStep} (found : definition.steps[index]? = some step)
      (untrue : evaluateCondition definition driver.rows step = some false) :
      Transition (store.write driver.run (.running index))
        ({ driver with run := RunUpdate.apply (.running index) driver.run }.goto
          (.skipConditional index))
  | dispatches {index : Nat} (at_persist : driver.stage = .persist (.running index))
      {step : WorkflowStep} (found : definition.steps[index]? = some step)
      (permitted : driver.allowed step.action = true)
      (not_untrue : ¬(statusAt driver.rows index = .pending ∧
        evaluateCondition definition driver.rows step = some false)) :
      Transition (store.write driver.run (.running index))
        (({ driver with run := RunUpdate.apply (.running index) driver.run }.goto
          (.step index)).enterWorker index .queued)
  | skipsCondition {index : Nat} (at_skip : driver.stage = .skipConditional index) :
      Transition { store with steps := store.steps.modify index skipConditionalStep }
        (driver.goto .head)
  | classifies {index : Nat} {row : WorkflowStepRun} (at_step : driver.stage = .step index)
      (finished : driver.workers index = .finished row)
      (idle : classify index row = .idle) :
      Transition store (driver.goto .classify)
  | classified {index : Nat} {row : WorkflowStepRun} {update : RunUpdate}
      (at_step : driver.stage = .step index)
      (finished : driver.workers index = .finished row)
      (settled : classify index row = .settled update) :
      Transition store (driver.goto (.persist update))
  | advances (at_classify : driver.stage = .classify) :
      Transition store (driver.goto (.persist (.idle (nextCurrent store.steps))))
  | idles {current : Nat} (at_persist : driver.stage = .persist (.idle current)) :
      Transition (store.write driver.run (.idle current))
        ({ driver with run := RunUpdate.apply (.idle current) driver.run }.goto .head)
  | refuses {first : Nat} {rest : List Nat} (at_budget : driver.stage = .budget first rest)
      {failure : GovernanceFailure} (refused : refusal service reading = some failure) :
      Transition store (driver.goto (.persist (.budgetFailed failure.message)))
  | overspends {message : String} (at_persist : driver.stage = .persist (.budgetFailed message)) :
      Transition (store.write driver.run (.budgetFailed message))
        ({ driver with run := RunUpdate.apply (.budgetFailed message) driver.run }.goto
          .batchRelease)
  | admits {first : Nat} {rest : List Nat} (at_budget : driver.stage = .budget first rest) :
      Transition store (driver.goto (.persist (.submit first rest)))
  | submits {first next : Nat} {rest : List Nat}
      (at_persist : driver.stage = .persist (.submit first (next :: rest))) :
      Transition (store.write driver.run (.submit first (next :: rest)))
        (({ driver with
          run := RunUpdate.apply (.submit first (next :: rest)) driver.run }.enterWorker
            first .queued).goto (.persist (.submit next rest)))
  | joins {first : Nat} (at_persist : driver.stage = .persist (.submit first [])) :
      Transition (store.write driver.run (.submit first []))
        (({ driver with run := RunUpdate.apply (.submit first []) driver.run }.enterWorker
          first .queued).goto .join)
  | regroups (at_batch : driver.stage = .batchRelease ∨
      driver.stage = .join ∧ driver.joined = true) :
      Transition store (driver.goto .regroup)
  | regrouped (at_regroup : driver.stage = .regroup)
      (unsettled : refreshRunStatus store.steps = none) :
      Transition store ({ driver with rows := store.steps }.goto .head)

variable {service definition store driver reading}

theorem startToken_transition (request : StartRequest)
    (at_token : driver.stage = .startToken request) :
    Transition service definition store driver reading
      (startToken service definition store driver request).store
      (startToken service definition store driver request).driver := by
  unfold startToken
  extract_lets known
  split
  next => exact .stops ..
  next =>
    split
    next => exact .stops ..
    next => cases service.governed <;> exact .starts _ rfl (by rw [at_token]; rfl)

theorem startCreate_transition (request : StartRequest)
    (at_create : driver.stage = .startCreate request) :
    Transition service definition store driver reading
      (startCreate service definition store driver request).store
      (startCreate service definition store driver request).driver := by
  unfold startCreate
  split
  next => exact .stops ..
  next => exact .creates request at_create ..

theorem startRejected_transition (request : StartRequest) (code : String) :
    Transition service definition store driver reading
      (startRejected service definition store driver request code).store
      (startRejected service definition store driver request code).driver := by
  unfold startRejected
  split <;> exact .stops ..

theorem operator_transition (call : OwnerCall) (entering : driver.stage.isEntry = true) :
    Transition service definition store driver reading (operator store driver call).store
      (operator store driver call).driver := by
  unfold operator
  split
  next => exact .stops ..
  next =>
    cases call with
    | cancel => exact .operates _ _ entering
    | resolveAmbiguous decision =>
        dsimp only
        split
        next => exact .operates _ _ entering
        next => exact .stops ..

theorem resume_transition (entering : driver.stage.isEntry = true) :
    Transition service definition store driver reading (resume store driver).store
      (resume store driver).driver := by
  unfold resume
  split
  next => exact .stops ..
  next run found =>
    split
    next => exact .stops ..
    next =>
      split
      next => exact .stops ..
      next => exact .stops ..
      next => exact .stops ..
      next => exact .stops ..
      next status => exact .resumes found (by rw [status]; rfl) entering
      next status => exact .resumes found (by rw [status]; rfl) entering
      next status => exact .resumes found (by rw [status]; rfl) entering

theorem enter_transition (call : OwnerCall) (entering : driver.stage.isEntry = true) :
    Transition service definition store driver reading (enter store driver call).store
      (enter store driver call).driver := by
  unfold enter
  split
  next => exact .stops ..
  next run found =>
    split
    next => exact .stops ..
    next =>
      cases call with
      | cancel =>
          dsimp only
          split
          next => exact .stops ..
          next => exact .stops ..
          next => exact .stops ..
          next => exact .stops ..
          next status => exact .cancels found (by rw [status]; rfl) _ entering
          next status => exact .cancels found (by rw [status]; rfl) _ entering
          next status => exact .cancels found (by rw [status]; rfl) _ entering
      | resolveAmbiguous decision =>
          dsimp only
          split
          next => exact .stops ..
          next ambiguous =>
            rw [ne_eq, not_not] at ambiguous
            split
            next => exact .cancels found (by rw [ambiguous]; rfl) _ entering
            next =>
              split
              next => exact .continues found ambiguous entering
              next => exact .stops ..

theorem load_transition (at_load : driver.stage = .load) :
    Transition service definition store driver reading (load store driver reading).store
      (load store driver reading).driver := by
  unfold load
  split
  next => exact .stops ..
  next run found =>
    split
    next => exact .stops ..
    next =>
      dsimp only
      split
      next => exact .rejects at_load found _
      next => exact .rejects at_load found _
      next => exact .loads at_load found

theorem head_transition (at_head : driver.stage = .head) :
    Transition service definition store driver reading
      (head service definition store driver reading).store
      (head service definition store driver reading).driver := by
  have looping : driver.stage.inLoop = true := by
    rw [at_head]
    rfl
  unfold head
  split
  next => exact .fails looping _
  next =>
    dsimp only
    split
    next first rest waiting =>
      rw [← waiting]
      exact .gathers at_head (by simp [waiting])
    next none_waiting =>
      split
      next update settled => exact .refreshes (.inl at_head) settled
      next unsettled =>
        unfold chooseNext
        dsimp only
        split
        next =>
          split
          next settled => exact .completes at_head none_waiting unsettled settled
          next => exact .stops ..
        next =>
          split
          next => exact .stops ..
          next index batch => exact .selects at_head none_waiting unsettled batch
          next first rest several batch =>
            cases rest with
            | nil => exact absurd rfl several
            | cons second rest => exact .batches at_head none_waiting unsettled batch

theorem reconcile_transition {index : Nat} {rest : List Nat} {changed : Bool}
    (at_reconcile : driver.stage = .reconcile (index :: rest) changed) :
    Transition service definition store driver reading
      (reconcile store driver reading index rest changed).store
      (reconcile store driver reading index rest changed).driver := by
  have looping : driver.stage.inLoop = true := by
    rw [at_reconcile]
    rfl
  have awaited : index :: rest = driver.stage.awaited := by
    rw [at_reconcile]
    rfl
  unfold reconcile
  dsimp only
  split
  next => exact .fails looping _
  next confirmationId named =>
    split
    next => exact .fails looping _
    next pending =>
      exact .awaits at_reconcile (Option.filter_eq_some_iff.mp named).1 pending
    next => exact .examines looping (.outcome index rest) rfl awaited
    next =>
      split
      next => exact .examines looping (.skip index rest) rfl awaited
      next => exact .stops ..
    next => exact .fails looping _

theorem dispatchSelected_transition {index : Nat}
    (at_persist : driver.stage = .persist (.running index)) :
    Transition service definition store driver reading (store.write driver.run (.running index))
      (dispatchSelected service definition
        { driver with run := RunUpdate.apply (.running index) driver.run } index).1 := by
  unfold dispatchSelected
  split
  next => exact .stops ..
  next step found =>
    split
    next => exact .forbids at_persist _
    next permitted =>
      rw [Bool.not_eq_true, Bool.not_eq_false'] at permitted
      split
      next untrue => exact .diverges at_persist found untrue.2
      next not_untrue => exact .dispatches at_persist found permitted not_untrue

theorem persist_transition {update : RunUpdate} (at_persist : driver.stage = .persist update) :
    Transition service definition store driver reading
      (persist service definition store driver update).store
      (persist service definition store driver update).driver := by
  unfold persist afterWrite
  cases update with
  | failed | completed | cancelled => exact .finishes at_persist rfl
  | budgetFailed => exact .overspends at_persist
  | ambiguous | waiting => exact .stops ..
  | select => exact .selected at_persist
  | running => exact dispatchSelected_transition at_persist
  | idle => exact .idles at_persist
  | submit first rest =>
      cases rest with
      | nil => exact .joins at_persist
      | cons next rest => exact .submits at_persist

theorem reload_transition {index : Nat} (at_reload : driver.stage = .reload index) :
    Transition service definition store driver reading (reload store driver index).store
      (reload store driver index).driver := by
  unfold reload
  split
  next => exact .stops ..
  next run found =>
    split
    next => exact .stops ..
    next => exact .reloads at_reload found

theorem classifyFinished_transition {index : Nat} (at_step : driver.stage = .step index) :
    Transition service definition store driver reading store (classifyFinished driver index) := by
  unfold classifyFinished
  split
  next row finished =>
    split
    next idle => exact .classifies at_step finished idle
    next update settled => exact .classified at_step finished settled
  next => exact .waits

theorem regroup_transition (at_regroup : driver.stage = .regroup) :
    Transition service definition store driver reading store (regroup store driver) := by
  unfold regroup
  dsimp only
  split
  next update settled => exact .refreshes (.inr at_regroup) settled
  next unsettled => exact .regrouped at_regroup unsettled

variable (service definition store driver reading)

/-- Every transaction of a call is one of the transitions. -/
theorem drive_transition :
    Transition service definition store driver reading
      (drive service definition store driver reading).store
      (drive service definition store driver reading).driver := by
  unfold drive
  cases at_stage : driver.stage with
  | off => exact .waits
  | startToken request => exact startToken_transition request at_stage
  | startClaim request => dsimp only; split <;> exact .starts _ rfl (by rw [at_stage]; rfl)
  | startRejected request code => exact startRejected_transition request code
  | startCreate request => exact startCreate_transition request at_stage
  | operator call => exact operator_transition call (by rw [at_stage]; rfl)
  | enter call => exact enter_transition call (by rw [at_stage]; rfl)
  | resume => exact resume_transition (by rw [at_stage]; rfl)
  | resolve => exact .resolves at_stage _
  | load => exact load_transition at_stage
  | head => exact head_transition at_stage
  | reconcile waiting changed =>
      cases waiting with
      | nil =>
          cases changed with
          | true => exact .rechecks at_stage
          | false => exact .pauses at_stage
      | cons index rest => exact reconcile_transition at_stage
  | outcome index rest =>
      have looping : driver.stage.inLoop = true := by rw [at_stage]; rfl
      unfold readOutcome
      dsimp only
      split
      next => exact .examines looping (.revalidate index rest) rfl (by rw [at_stage]; rfl)
      next => exact .fails looping _
      next => exact .fails looping _
  | revalidate index rest =>
      have looping : driver.stage.inLoop = true := by rw [at_stage]; rfl
      unfold checkPostCondition
      dsimp only
      cases (postCondition service driver.run reading).1 with
      | true => exact .examines looping (.settle index rest) rfl (by rw [at_stage]; rfl)
      | false => exact .fails looping _
  | settle index rest => exact .reconciles (.inl at_stage) fun _ => .inl rfl
  | skip index rest => exact .reconciles (.inr at_stage) fun _ => .inr rfl
  | persist update => exact persist_transition at_stage
  | release ending => exact .stops ..
  | reload index => exact reload_transition at_stage
  | skipConditional index => exact .skipsCondition at_stage
  | step index => exact classifyFinished_transition at_stage
  | classify => exact .advances at_stage
  | budget first rest =>
      dsimp only
      split
      next failure refused => exact .refuses at_stage refused
      next => exact .admits at_stage
  | batchRelease => exact .regroups (.inl at_stage)
  | join =>
      dsimp only
      split
      next joined => exact .regroups (.inr ⟨at_stage, joined⟩)
      next => exact .waits
  | regroup => exact regroup_transition at_stage

variable {service definition store driver reading}

/-- The loop is entered by the first read of `_advance` only. -/
theorem Transition.inLoop {after : Store} {next : Driver}
    (transition : Transition service definition store driver reading after next)
    (looping : next.stage.inLoop = true) : driver.stage.inLoop = true ∨ driver.stage = .load := by
  cases transition with
  | waits => exact .inl looping
  | starts stage starting =>
      cases stage with
      | startClaim | startRejected | startCreate => cases looping
      | _ => cases starting
  | loads at_load => exact .inr at_load
  | stops | creates | operates | cancels | continues | resumes | resolves | rejects | fails
  | finishes | forbids => cases looping
  | examines was_looping => exact .inl was_looping
  | refreshes at_stage =>
      obtain at_stage | at_stage := at_stage <;> exact .inl (by rw [at_stage]; rfl)
  | reconciles at_stage =>
      obtain at_stage | at_stage := at_stage <;> exact .inl (by rw [at_stage]; rfl)
  | regroups at_stage =>
      obtain at_stage | ⟨at_stage, _⟩ := at_stage <;> exact .inl (by rw [at_stage]; rfl)
  | gathers at_stage | completes at_stage | selects at_stage | batches at_stage | awaits at_stage
  | rechecks at_stage | pauses at_stage | selected at_stage | reloads at_stage
  | diverges at_stage | dispatches at_stage | skipsCondition at_stage | classifies at_stage
  | classified at_stage | advances at_stage | idles at_stage | refuses at_stage
  | overspends at_stage | admits at_stage | submits at_stage | joins at_stage
  | regrouped at_stage => exact .inl (by rw [at_stage]; rfl)

/-- A call waits for the worker of the step that it executes alone. -/
theorem drive_step_waits {index : Nat} (at_step : driver.stage = .step index)
    (unfinished : (driver.workers index).isFinished = false) :
    drive service definition store driver reading = { store, driver } := by
  unfold drive
  rw [at_step]
  unfold classifyFinished
  dsimp only
  split
  next row finished =>
    rw [finished] at unfinished
    cases unfinished
  next => rfl

/-- A step that has failed alone takes its call out of the loop. -/
theorem drive_step_failed {index : Nat} {row : WorkflowStepRun}
    (at_step : driver.stage = .step index) (finished : driver.workers index = .finished row)
    (failed : row.status = .failed) :
    (drive service definition store driver reading).driver.stage.inLoop = false := by
  unfold drive
  rw [at_step]
  unfold classifyFinished classify
  dsimp only
  rw [finished]
  dsimp only
  rw [failed]
  rfl

end Transitions

end Era.Workflows
