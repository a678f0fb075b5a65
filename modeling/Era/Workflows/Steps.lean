import Era.Workflows.Machine

/-!
# What one transaction does to the steps

A call selects steps at the head of its loop, submits them one by one to workers, and
reconciles waiting steps.  A worker claims its step, goes on and marks it.  The lists and
predicates below say which steps a call is about to touch; the cases say how one
transaction changes them together with the rows.
-/

namespace Era.Workflows

open Era.Core Era.Lib Era.Services

/-- The steps that a call has selected and not yet submitted. -/
def Stage.unsubmitted : Stage → List Nat
  | .persist (.select index) | .reload index | .persist (.running index)
  | .skipConditional index => [index]
  | .budget first rest | .persist (.submit first rest) => first :: rest
  | _ => []

/-- The waiting steps that a call has yet to reconcile. -/
def Stage.awaited : Stage → List Nat
  | .reconcile waiting _ => waiting
  | .outcome index rest | .revalidate index rest | .settle index rest | .skip index rest =>
      index :: rest
  | _ => []

/-- The steps that a call waits for its workers to execute. -/
def Driver.Executes (driver : Driver) (index : Nat) : Prop :=
  match driver.stage with
  | .step selected => index = selected
  | .persist (.submit _ _) | .join => index ∈ driver.batch
  | _ => False

/-- The stages at which a call waits for workers. -/
def Stage.isExecuting : Stage → Bool
  | .step _ | .persist (.submit _ _) | .join => true
  | _ => false

theorem not_executes_of_stage {driver : Driver} {stage : Stage} (at_stage : driver.stage = stage)
    (idle : stage.isExecuting = false) (index : Nat) : ¬driver.Executes index := by
  subst at_stage
  intro executes
  unfold Driver.Executes at executes
  unfold Stage.isExecuting at idle
  split at executes
  next selected at_step =>
    rw [at_step] at idle
    cases idle
  next first rest at_submit =>
    rw [at_submit] at idle
    cases idle
  next at_join =>
    rw [at_join] at idle
    cases idle
  next => cases executes

/-- A worker that has claimed its step and not yet marked it. -/
def WorkerStage.isActive : WorkerStage → Bool
  | .budget | .overspent _ | .overspentRelease _ | .inspect _ | .request _ | .mark _ => true
  | .idle | .queued | .finished _ => false

def WorkerStage.isQueued : WorkerStage → Bool
  | .queued => true
  | _ => false

/-- A worker that has claimed its step and may still pass its action on. -/
def WorkerStage.mayRequest : WorkerStage → Bool
  | .budget | .overspent _ | .overspentRelease _ | .inspect _ | .request _ => true
  | .idle | .queued | .mark _ | .finished _ => false

/-- A queued or active worker. -/
def WorkerStage.isWorking (stage : WorkerStage) : Bool := stage.isQueued || stage.isActive

theorem WorkerStage.isActive_of_mayRequest {stage : WorkerStage}
    (may : stage.mayRequest = true) : stage.isActive = true := by
  cases stage <;> first | rfl | cases may

@[simp] theorem goto_stage (driver : Driver) (stage : Stage) :
    (driver.goto stage).stage = stage := rfl

@[simp] theorem goto_workers (driver : Driver) (stage : Stage) :
    (driver.goto stage).workers = driver.workers := rfl

@[simp] theorem goto_rows (driver : Driver) (stage : Stage) :
    (driver.goto stage).rows = driver.rows := rfl

@[simp] theorem goto_run (driver : Driver) (stage : Stage) :
    (driver.goto stage).run = driver.run := rfl

@[simp] theorem stop_stage (driver : Driver) : driver.stop.stage = .off := rfl

@[simp] theorem stop_workers (driver : Driver) : driver.stop.workers = driver.workers := rfl

@[simp] theorem enterWorker_stage (driver : Driver) (index : Nat) (stage : WorkerStage) :
    (driver.enterWorker index stage).stage = driver.stage := rfl

@[simp] theorem enterWorker_workers (driver : Driver) (index : Nat) (stage : WorkerStage) :
    (driver.enterWorker index stage).workers = Function.update driver.workers index stage := rfl

@[simp] theorem write_steps (store : Store) (run : WorkflowRun) (update : RunUpdate) :
    (store.write run update).steps = store.steps := rfl

@[simp] theorem await_steps (store : Store) (mark : StepMark) :
    (store.await mark).steps = store.steps := by
  unfold Store.await
  split <;> rfl

@[simp] theorem await_run (store : Store) (mark : StepMark) :
    (store.await mark).run = store.run := by
  unfold Store.await
  split <;> rfl

@[simp] theorem after_store (state : EngineState) (caller : Nat) (move : Move) :
    (state.after caller move).store = move.store := rfl

@[simp] theorem after_drivers_self (state : EngineState) (caller : Nat) (move : Move) :
    (state.after caller move).drivers caller = move.driver :=
  Function.update_self ..

theorem after_drivers_ne (state : EngineState) {caller other : Nat} (move : Move)
    (different : other ≠ caller) :
    (state.after caller move).drivers other = state.drivers other :=
  Function.update_of_ne different ..

section Cases

variable (service : WorkflowService) (definition : WorkflowDefinition)
variable (store : Store) (driver : Driver)

/-- What a transaction of a call does to the rows of the steps and to the steps that the
call is about to touch. -/
inductive DriveCase : Move → Prop where
  | quiet {move : Move} (steps_eq : move.store.steps = store.steps)
      (workers_eq : move.driver.workers = driver.workers)
      (unsubmitted : move.driver.stage.unsubmitted = driver.stage.unsubmitted ∧
          move.driver.batch = driver.batch ∨
        move.driver.stage.unsubmitted = [])
      (awaited : move.driver.stage.awaited = [] ∨
        move.driver.stage.awaited.Sublist driver.stage.awaited ∧
          move.driver.rows = driver.rows) : DriveCase move
  | selects {move : Move} (at_head : driver.stage = .head) (steps_eq : move.store = store)
      (none_waiting : waitingIndices store.steps = [])
      (unsettled : refreshRunStatus store.steps = none)
      (batch_eq : move.driver.batch = chooseBatch definition service.maxPendingConfirmations
        (readyIndices definition store.steps))
      (unsubmitted_eq : move.driver.stage.unsubmitted = move.driver.batch)
      (awaited_eq : move.driver.stage.awaited = [])
      (workers_eq : move.driver.workers = driver.workers) : DriveCase move
  | queues {move : Move} (index : Nat) (steps_eq : move.store.steps = store.steps)
      (batch_eq : move.driver.batch = driver.batch)
      (executes : index ∈ driver.batch → move.driver.Executes index)
      (unsubmitted_eq : driver.stage.unsubmitted = index :: move.driver.stage.unsubmitted)
      (awaited_eq : move.driver.stage.awaited = [])
      (workers_eq : move.driver.workers = Function.update driver.workers index .queued) :
      DriveCase move
  | gathers {move : Move} (at_head : driver.stage = .head) (steps_eq : move.store = store)
      (unsubmitted_eq : move.driver.stage.unsubmitted = [])
      (awaited_eq : move.driver.stage.awaited = waitingIndices store.steps)
      (rows_eq : move.driver.rows = store.steps)
      (workers_eq : move.driver.workers = driver.workers) : DriveCase move
  | settles {move : Move} (index : Nat) (change : WorkflowStepRun → WorkflowStepRun)
      (idle : ∀ other, ¬driver.Executes other)
      (changed : ∀ row, (change row).status = .completed ∨ (change row).status = .skipped)
      (attempt_eq : ∀ row, (change row).attempt = row.attempt)
      (steps_eq : move.store.steps = store.steps.modify index change)
      (unsubmitted_eq : move.driver.stage.unsubmitted = [])
      (awaited_eq : driver.stage.awaited = index :: move.driver.stage.awaited)
      (rows_eq : move.driver.rows = driver.rows)
      (workers_eq : move.driver.workers = driver.workers) : DriveCase move
  | skips {move : Move} (index : Nat) (at_skip : driver.stage = .skipConditional index)
      (steps_eq : move.store.steps = store.steps.modify index skipConditionalStep)
      (unsubmitted_eq : move.driver.stage.unsubmitted = [])
      (awaited_eq : move.driver.stage.awaited = [])
      (workers_eq : move.driver.workers = driver.workers) : DriveCase move
  | resolves {move : Move} (at_resolve : driver.stage = .resolve) (index : Nat)
      (steps_eq : move.store.steps = store.steps.modify index resolveStep)
      (unsubmitted_eq : move.driver.stage.unsubmitted = [])
      (awaited_eq : move.driver.stage.awaited = [])
      (workers_eq : move.driver.workers = driver.workers) : DriveCase move
  | creates {move : Move} (request : StartRequest)
      (at_create : driver.stage = .startCreate request) (run_eq : store.run = none)
      (created : move.store.run.isSome = true)
      (steps_eq : move.store.steps = definition.steps.map fun _ => {})
      (unsubmitted_eq : move.driver.stage.unsubmitted = [])
      (awaited_eq : move.driver.stage.awaited = [])
      (workers_eq : move.driver.workers = driver.workers) : DriveCase move

variable {service definition store driver}

/-- A call that goes on to a stage at which it touches no step. -/
theorem DriveCase.goes {move : Move} (steps_eq : move.store.steps = store.steps)
    (workers_eq : move.driver.workers = driver.workers)
    (unsubmitted : move.driver.stage.unsubmitted = [])
    (awaited : move.driver.stage.awaited = []) :
    DriveCase service definition store driver move :=
  .quiet steps_eq workers_eq (.inr unsubmitted) (.inl awaited)

/-- A call that ends. -/
theorem DriveCase.stops {move : Move} {ended : Driver} (steps_eq : move.store.steps = store.steps)
    (driver_eq : move.driver = ended.stop) (workers_eq : ended.workers = driver.workers) :
    DriveCase service definition store driver move :=
  .goes steps_eq (driver_eq ▸ workers_eq) (driver_eq ▸ rfl) (driver_eq ▸ rfl)

theorem startToken_case (request : StartRequest) :
    DriveCase service definition store driver
      (startToken service definition store driver request) := by
  unfold startToken
  extract_lets known
  split
  next => exact .stops rfl rfl rfl
  next =>
    split
    next => exact .stops rfl rfl rfl
    next => cases service.governed <;> exact .goes rfl rfl rfl rfl

theorem startCreate_case (request : StartRequest)
    (at_create : driver.stage = .startCreate request) :
    DriveCase service definition store driver
      (startCreate service definition store driver request) := by
  unfold startCreate
  split
  next => exact .stops rfl rfl rfl
  next run_eq => exact .creates request at_create run_eq rfl rfl rfl rfl rfl

theorem startRejected_case (request : StartRequest) (code : String) :
    DriveCase service definition store driver
      (startRejected service definition store driver request code) := by
  unfold startRejected
  split <;> exact .stops rfl rfl rfl

theorem operator_case (call : OwnerCall) :
    DriveCase service definition store driver (operator store driver call) := by
  unfold operator
  split
  next => exact .stops rfl rfl rfl
  next =>
    cases call with
    | cancel => exact .goes rfl rfl rfl rfl
    | resolveAmbiguous decision =>
        dsimp only
        split
        next => exact .goes rfl rfl rfl rfl
        next => exact .stops rfl rfl rfl

theorem resume_case :
    DriveCase service definition store driver (resume store driver) := by
  unfold resume
  split
  next => exact .stops rfl rfl rfl
  next =>
    split
    next => exact .stops rfl rfl rfl
    next =>
      split
      all_goals first | exact .stops rfl rfl rfl | exact .goes rfl rfl rfl rfl

theorem enter_case (call : OwnerCall) :
    DriveCase service definition store driver (enter store driver call) := by
  unfold enter
  split
  next => exact .stops rfl rfl rfl
  next =>
    split
    next => exact .stops rfl rfl rfl
    next =>
      cases call with
      | cancel =>
          dsimp only
          split
          all_goals first | exact .stops rfl rfl rfl | exact .goes rfl rfl rfl rfl
      | resolveAmbiguous decision =>
          dsimp only
          split_ifs
          all_goals first | exact .stops rfl rfl rfl | exact .goes rfl rfl rfl rfl

theorem load_case (reading : Reading) :
    DriveCase service definition store driver (load store driver reading) := by
  unfold load
  split
  next => exact .stops rfl rfl rfl
  next =>
    split
    next => exact .stops rfl rfl rfl
    next =>
      dsimp only
      split <;> exact .goes rfl rfl rfl rfl

/-- An update that the rows demand selects no step. -/
theorem unsubmitted_refresh {rows : List WorkflowStepRun} {update : RunUpdate}
    (settled : refreshRunStatus rows = some update) :
    (Stage.persist update).unsubmitted = [] := by
  unfold refreshRunStatus at settled
  split at settled
  next => cases settled; rfl
  next =>
    split at settled
    next => cases settled
    next =>
      split at settled
      next => cases settled
      next => cases settled; rfl

theorem chooseNext_case {move : Move} (at_head : driver.stage = .head)
    (store_eq : move.store = store) (none_waiting : waitingIndices store.steps = [])
    (unsettled : refreshRunStatus store.steps = none)
    (driver_eq : move.driver =
      (chooseNext service definition { driver with rows := store.steps }).1) :
    DriveCase service definition store driver move := by
  have steps_eq : move.store.steps = store.steps := congrArg Store.steps store_eq
  unfold chooseNext at driver_eq
  dsimp only at driver_eq
  split at driver_eq
  next =>
    split at driver_eq
    next =>
      exact .goes steps_eq (driver_eq ▸ rfl) (driver_eq ▸ rfl) (driver_eq ▸ rfl)
    next => exact .stops steps_eq driver_eq rfl
  next =>
    split at driver_eq
    next => exact .stops steps_eq driver_eq rfl
    next index batch =>
      refine .selects at_head store_eq none_waiting unsettled ?_ ?_ ?_ ?_
      · rw [driver_eq]
        exact batch.symm
      · rw [driver_eq]
        rfl
      · rw [driver_eq]
        rfl
      · rw [driver_eq]
    next first rest _ batch =>
      refine .selects at_head store_eq none_waiting unsettled ?_ ?_ ?_ ?_
      · rw [driver_eq]
        exact batch.symm
      · rw [driver_eq]
        rfl
      · rw [driver_eq]
        rfl
      · rw [driver_eq]

theorem head_case (reading : Reading) (at_head : driver.stage = .head) :
    DriveCase service definition store driver
      (head service definition store driver reading) := by
  unfold head
  split
  next => exact .goes rfl rfl rfl rfl
  next =>
    dsimp only
    split
    next first rest waiting => exact .gathers at_head rfl rfl waiting.symm rfl rfl
    next none_waiting =>
      split
      next update settled => exact .goes rfl rfl (unsubmitted_refresh settled) rfl
      next unsettled => exact chooseNext_case at_head rfl none_waiting unsettled rfl

theorem reconcile_case (reading : Reading) {index : Nat} {rest : List Nat} {changed : Bool}
    (awaits : driver.stage.awaited = index :: rest) :
    DriveCase service definition store driver
      (reconcile store driver reading index rest changed) := by
  unfold reconcile
  dsimp only
  split
  next => exact .goes rfl rfl rfl rfl
  next =>
    split
    next => exact .goes rfl rfl rfl rfl
    next =>
      exact .quiet rfl rfl (.inr rfl)
        (.inr ⟨awaits ▸ List.sublist_cons_self index rest, rfl⟩)
    next =>
      exact .quiet rfl rfl (.inr rfl)
        (.inr ⟨awaits ▸ List.Sublist.refl _, rfl⟩)
    next =>
      split
      next =>
        exact .quiet rfl rfl (.inr rfl)
          (.inr ⟨awaits ▸ List.Sublist.refl _, rfl⟩)
      next => exact .stops rfl rfl rfl
    next => exact .goes rfl rfl rfl rfl

theorem readOutcome_case (reading : Reading) {index : Nat} {rest : List Nat}
    (awaits : driver.stage.awaited = index :: rest) :
    DriveCase service definition store driver
      (readOutcome store driver reading index rest) := by
  unfold readOutcome
  split
  next =>
    exact .quiet rfl rfl (.inr rfl) (.inr ⟨awaits ▸ List.Sublist.refl _, rfl⟩)
  next => exact .goes rfl rfl rfl rfl
  next => exact .goes rfl rfl rfl rfl

theorem checkPostCondition_case (reading : Reading) {index : Nat} {rest : List Nat}
    (awaits : driver.stage.awaited = index :: rest) :
    DriveCase service definition store driver
      (checkPostCondition service store driver reading index rest) := by
  unfold checkPostCondition
  dsimp only
  cases (postCondition service driver.run reading).1 with
  | true =>
      exact .quiet rfl rfl (.inr rfl)
        (.inr ⟨awaits ▸ List.Sublist.refl _, rfl⟩)
  | false => exact .goes rfl rfl rfl rfl

theorem dispatchSelected_case {move : Move} {changed : Driver} {index : Nat}
    (steps_eq : move.store.steps = store.steps)
    (driver_eq : move.driver = (dispatchSelected service definition changed index).1)
    (workers_eq : changed.workers = driver.workers) (batch_eq : changed.batch = driver.batch)
    (selected : driver.stage.unsubmitted = [index]) :
    DriveCase service definition store driver move := by
  unfold dispatchSelected at driver_eq
  split at driver_eq
  next => exact .stops steps_eq driver_eq workers_eq
  next =>
    split at driver_eq
    next => exact .goes steps_eq (driver_eq ▸ workers_eq) (driver_eq ▸ rfl) (driver_eq ▸ rfl)
    next =>
      split at driver_eq
      next =>
        refine .quiet steps_eq (driver_eq ▸ workers_eq) (.inl ⟨?_, driver_eq ▸ batch_eq⟩)
          (.inl (driver_eq ▸ rfl))
        · rw [driver_eq, selected]
          rfl
      next =>
        refine .queues index steps_eq (driver_eq ▸ batch_eq) (fun _ => driver_eq ▸ rfl) ?_
          (driver_eq ▸ rfl) ?_
        · rw [driver_eq, selected]
          rfl
        · rw [driver_eq, ← workers_eq]
          rfl

theorem persist_case {update : RunUpdate} (at_persist : driver.stage = .persist update) :
    DriveCase service definition store driver
      (persist service definition store driver update) := by
  unfold persist afterWrite
  cases update with
  | failed | budgetFailed | completed | cancelled | idle => exact .goes rfl rfl rfl rfl
  | ambiguous | waiting => exact .stops rfl rfl rfl
  | select index =>
      exact .quiet rfl rfl (.inl ⟨(congrArg Stage.unsubmitted at_persist).symm, rfl⟩) (.inl rfl)
  | running index =>
      exact dispatchSelected_case rfl rfl rfl rfl (congrArg Stage.unsubmitted at_persist)
  | submit index rest =>
      cases rest with
      | nil => exact .queues index rfl rfl id (congrArg Stage.unsubmitted at_persist) rfl rfl
      | cons next rest =>
          exact .queues index rfl rfl id (congrArg Stage.unsubmitted at_persist) rfl rfl

theorem reload_case {index : Nat} (at_reload : driver.stage = .reload index) :
    DriveCase service definition store driver (reload store driver index) := by
  unfold reload
  split
  next => exact .stops rfl rfl rfl
  next =>
    split
    next => exact .stops rfl rfl rfl
    next =>
      exact .quiet rfl rfl (.inl ⟨(congrArg Stage.unsubmitted at_reload).symm, rfl⟩) (.inl rfl)

/-- The classification of a finished step selects nothing. -/
theorem unsubmitted_classify {index : Nat} {row : WorkflowStepRun} {update : RunUpdate}
    (settled : classify index row = .settled update) :
    (Stage.persist update).unsubmitted = [] := by
  unfold classify at settled
  split at settled
  all_goals first | cases settled; rfl | cases settled

theorem classifyFinished_case {index : Nat} (at_step : driver.stage = .step index) :
    DriveCase service definition store driver
      { store, driver := classifyFinished driver index } := by
  unfold classifyFinished
  split
  next =>
    split
    next => exact .goes rfl rfl rfl rfl
    next update settled => exact .goes rfl rfl (unsubmitted_classify settled) rfl
  next => exact .goes rfl rfl (by rw [at_step]; rfl) (by rw [at_step]; rfl)

theorem regroup_case :
    DriveCase service definition store driver { store, driver := regroup store driver } := by
  unfold regroup
  dsimp only
  split
  next update settled => exact .goes rfl rfl (unsubmitted_refresh settled) rfl
  next => exact .goes rfl rfl rfl rfl

variable (service definition store driver)

/-- Every transaction of a call is one of the cases. -/
theorem drive_case (reading : Reading) :
    DriveCase service definition store driver
      (drive service definition store driver reading) := by
  unfold drive
  cases at_stage : driver.stage with
  | off => exact .goes rfl rfl (by rw [at_stage]; rfl) (by rw [at_stage]; rfl)
  | startToken request => exact startToken_case request
  | startClaim request => dsimp only; split <;> exact .goes rfl rfl rfl rfl
  | startRejected request code => exact startRejected_case request code
  | startCreate request => exact startCreate_case request at_stage
  | operator call => exact operator_case call
  | enter call => exact enter_case call
  | resume => exact resume_case
  | resolve => exact .resolves at_stage _ rfl rfl rfl rfl
  | load => exact load_case reading
  | head => exact head_case reading at_stage
  | reconcile waiting changed =>
      cases waiting with
      | nil => cases changed <;> exact .goes rfl rfl rfl rfl
      | cons index rest => exact reconcile_case reading (congrArg Stage.awaited at_stage)
  | outcome index rest => exact readOutcome_case reading (congrArg Stage.awaited at_stage)
  | revalidate index rest => exact checkPostCondition_case reading (congrArg Stage.awaited at_stage)
  | settle index rest =>
      exact .settles index (settleStep _) (not_executes_of_stage at_stage rfl) (fun _ => .inl rfl)
        (fun _ => rfl) rfl rfl (congrArg Stage.awaited at_stage) rfl rfl
  | skip index rest =>
      exact .settles index skipStep (not_executes_of_stage at_stage rfl) (fun _ => .inr rfl)
        (fun _ => rfl) rfl rfl (congrArg Stage.awaited at_stage) rfl rfl
  | persist update => exact persist_case at_stage
  | release ending => exact .stops rfl rfl rfl
  | reload index => exact reload_case at_stage
  | skipConditional index =>
      exact .skips index at_stage rfl rfl rfl rfl
  | step index => exact classifyFinished_case at_stage
  | classify => exact .goes rfl rfl rfl rfl
  | budget first rest =>
      dsimp only
      split
      next => exact .goes rfl rfl rfl rfl
      next =>
        exact .quiet rfl rfl (.inl ⟨(congrArg Stage.unsubmitted at_stage).symm, rfl⟩) (.inl rfl)
  | batchRelease => exact .goes rfl rfl rfl rfl
  | join =>
      dsimp only
      split
      next => exact .goes rfl rfl rfl rfl
      next => exact .goes rfl rfl (by rw [at_stage]; rfl) (by rw [at_stage]; rfl)
  | regroup => exact regroup_case

/-- A call waits for a worker until the worker has finished. -/
theorem drive_executes (reading : Reading) {index : Nat} (executes : driver.Executes index) :
    (drive service definition store driver reading).driver.Executes index ∨
      (driver.workers index).isFinished = true := by
  unfold Driver.Executes at executes
  unfold drive
  split at executes
  next selected at_stage =>
    subst executes
    rw [at_stage]
    dsimp only
    unfold classifyFinished
    cases stage : driver.workers index with
    | finished row => exact .inr rfl
    | idle | queued | budget | overspent | overspentRelease | inspect | request | mark =>
        left
        rw [Driver.Executes, at_stage]
  next first rest at_stage =>
    left
    rw [at_stage]
    cases rest <;> exact executes
  next at_stage =>
    rw [at_stage]
    dsimp only
    split
    next joined =>
      right
      rw [Driver.joined, List.all_eq_true] at joined
      exact joined index executes
    next =>
      left
      rw [Driver.Executes, at_stage]
      exact executes
  next => cases executes

/-- A call leaves a worker alone or queues it. -/
theorem drive_worker (reading : Reading) (index : Nat) :
    (drive service definition store driver reading).driver.workers index = driver.workers index ∨
      (drive service definition store driver reading).driver.workers index = .queued := by
  cases drive_case service definition store driver reading with
  | queues other steps_eq batch_eq executes unsubmitted_eq awaited_eq workers_eq =>
      rw [workers_eq, Function.update_apply]
      split
      next => exact .inr rfl
      next => exact .inl rfl
  | quiet _ workers_eq | selects _ _ _ _ _ _ _ workers_eq | gathers _ _ _ _ _ workers_eq
  | settles _ _ _ _ _ _ _ _ _ workers_eq | skips _ _ _ _ _ workers_eq
  | resolves _ _ _ _ _ workers_eq | creates _ _ _ _ _ _ _ workers_eq =>
      exact .inl (congrFun workers_eq index)

/-- A row that a call writes is pending, completed, or skipped. -/
theorem drive_row_status (reading : Reading) {index : Nat} {row : WorkflowStepRun}
    (found : (drive service definition store driver reading).store.steps[index]? = some row) :
    store.steps[index]? = some row ∨ row.status = .pending ∨ row.status = .completed ∨
      row.status = .skipped ∨
        row.status = .skippedConditional ∧ ∃ skipped, driver.stage = .skipConditional skipped := by
  have modified {other : Nat} {change : WorkflowStepRun → WorkflowStepRun}
      (stored : (store.steps.modify other change)[index]? = some row) :
      store.steps[index]? = some row ∨ ∃ earlier, row = change earlier := by
    rw [List.getElem?_modify] at stored
    obtain ⟨earlier, before, changed⟩ := Option.map_eq_some_iff.mp stored
    split at changed
    next => exact .inr ⟨earlier, changed.symm⟩
    next => exact .inl (by rw [before, ← changed])
  have cases := drive_case service definition store driver reading
  generalize drive service definition store driver reading = move at found cases
  cases cases with
  | quiet steps_eq | queues _ steps_eq => exact .inl (steps_eq ▸ found)
  | selects _ store_eq | gathers _ store_eq => exact .inl (store_eq ▸ found)
  | settles other change idle changed attempt_eq steps_eq =>
      obtain stored | ⟨earlier, rfl⟩ := modified (steps_eq ▸ found)
      · exact .inl stored
      · obtain completed | skipped := changed earlier
        · exact .inr (.inr (.inl completed))
        · exact .inr (.inr (.inr (.inl skipped)))
  | skips other at_skip steps_eq =>
      rw [steps_eq, List.getElem?_modify] at found
      obtain ⟨earlier, before, changed⟩ := Option.map_eq_some_iff.mp found
      split at changed
      next =>
        unfold skipConditionalStep at changed
        split at changed
        next => exact .inr (.inr (.inr (.inr ⟨changed ▸ rfl, other, at_skip⟩)))
        next => exact .inl (by rw [before, ← changed])
      next => exact .inl (by rw [before, ← changed])
  | resolves at_resolve other steps_eq =>
      rw [steps_eq, List.getElem?_modify] at found
      obtain ⟨earlier, before, changed⟩ := Option.map_eq_some_iff.mp found
      split at changed
      next =>
        unfold resolveStep at changed
        split at changed
        next => exact .inr (.inr (.inl (changed ▸ rfl)))
        next => exact .inl (by rw [before, ← changed])
      next => exact .inl (by rw [before, ← changed])
  | creates _ _ _ _ steps_eq =>
      rw [steps_eq, List.getElem?_map] at found
      obtain ⟨step, _, rfl⟩ := Option.map_eq_some_iff.mp found
      exact .inr (.inl rfl)

/-- A row that a call writes is pending or done. -/
theorem drive_row (reading : Reading) {index : Nat} {row : WorkflowStepRun}
    (found : (drive service definition store driver reading).store.steps[index]? = some row) :
    store.steps[index]? = some row ∨ row.status = .pending ∨ row.status.done = true := by
  obtain stored | pending | completed | skipped | ⟨skipped, _⟩ :=
    drive_row_status service definition store driver reading found
  · exact .inl stored
  · exact .inr (.inl pending)
  · exact .inr (.inr (by rw [completed]; rfl))
  · exact .inr (.inr (by rw [skipped]; rfl))
  · exact .inr (.inr (by rw [skipped]; rfl))

/-- A call never passes the action of a step to the execution service by itself. -/
theorem drive_not_requested (reading : Reading) (index : Nat) (action : Action) :
    EngineEvent.requested index action ∉
      (drive service definition store driver reading).events := by
  unfold drive
  cases driver.stage with
  | off | resolve | settle | skip | skipConditional | step | classify | join | regroup =>
      simp [resolve]
  | release | batchRelease => simp [releaseEvents]
  | startToken =>
      unfold startToken
      dsimp only
      repeat' split
      all_goals simp
  | startClaim | budget =>
      dsimp only
      split <;> simp
  | startRejected =>
      unfold startRejected
      dsimp only
      split <;> simp
  | startCreate =>
      unfold startCreate
      dsimp only
      split <;> simp
  | operator call =>
      unfold operator
      cases call <;> dsimp only <;> repeat' split
      all_goals simp
  | enter call =>
      unfold enter
      cases call <;> dsimp only <;> repeat' split
      all_goals simp
  | resume =>
      unfold resume
      dsimp only
      repeat' split
      all_goals simp
  | load =>
      unfold load
      dsimp only
      repeat' split
      all_goals simp
  | head =>
      unfold head chooseNext
      dsimp only
      repeat' split
      all_goals simp
  | reconcile waiting changed =>
      cases waiting with
      | nil => cases changed <;> simp
      | cons =>
          unfold reconcile
          dsimp only
          repeat' split
          all_goals simp
  | outcome =>
      unfold readOutcome
      dsimp only
      split <;> simp
  | revalidate =>
      unfold checkPostCondition
      dsimp only
      split <;> simp
  | persist update =>
      unfold persist afterWrite dispatchSelected
      cases update <;> dsimp only <;> repeat' split
      all_goals simp
  | reload =>
      unfold reload
      dsimp only
      repeat' split
      all_goals simp

/-- The request of a `start` that has not created its run yet. -/
def Stage.request? : Stage → Option StartRequest
  | .startToken request | .startClaim request | .startRejected request _
  | .startCreate request => some request
  | _ => none

/-- What the row of a run says about the definition and the request that it was created
from. -/
structure CreatedFrom (service : WorkflowService) (definition : WorkflowDefinition)
    (request : StartRequest) (run : WorkflowRun) : Prop where
  workflowName : run.workflowName = definition.name
  workflowVersion : run.workflowVersion = definition.version
  definitionChecksum : run.definitionChecksum = service.checksum definition
  runParams : run.runParams = redactRunParams request.params
  templateName : run.templateName = request.templateName
  templateVersion : nonempty run.templateName = true →
    run.templateVersion = some definition.version

theorem createdFrom_newRun (service : WorkflowService) (definition : WorkflowDefinition)
    (request : StartRequest) (ctx : ExecutionContext) :
    CreatedFrom service definition request (newRun service definition request ctx) :=
  ⟨rfl, rfl, rfl, rfl, rfl, fun named => if_pos named⟩

theorem createdFrom_rejectedRun (service : WorkflowService) (definition : WorkflowDefinition)
    (request : StartRequest) (ctx : ExecutionContext) (code : String) :
    CreatedFrom service definition request (rejectedRun service definition request ctx code) :=
  ⟨rfl, rfl, rfl, rfl, rfl, fun _ => rfl⟩

/-- No write changes what a run was created from. -/
theorem CreatedFrom.updateRun {service : WorkflowService} {definition : WorkflowDefinition}
    {request : StartRequest} {run : WorkflowRun}
    (created : CreatedFrom service definition request run) (loaded changed : WorkflowRun) :
    CreatedFrom service definition request (updateRun loaded changed run) :=
  ⟨created.workflowName, created.workflowVersion, created.definitionChecksum, created.runParams,
    created.templateName, created.templateVersion⟩

/-- What a transaction of a call does to the row of the run. -/
inductive RunCase (service : WorkflowService) (definition : WorkflowDefinition) (store : Store)
    (driver : Driver) : Move → Prop where
  | kept {move : Move} (run_eq : move.store.run = store.run) :
      RunCase service definition store driver move
  | writes {move : Move} (update : RunUpdate) (at_persist : driver.stage = .persist update)
      (run_eq : move.store.run = store.run.map (updateRun driver.run (update.apply driver.run))) :
      RunCase service definition store driver move
  | resolves {move : Move} (at_resolve : driver.stage = .resolve)
      (run_eq : move.store.run = store.run.map (updateRun driver.run driver.run.resolved)) :
      RunCase service definition store driver move
  | creates {move : Move} (run : WorkflowRun) (none_before : store.run = none)
      (status : run.status = .pending ∨ run.status = .failed)
      (run_eq : move.store.run = some run) {request : StartRequest}
      (asked : driver.stage.request? = some request)
      (created : CreatedFrom service definition request run) :
      RunCase service definition store driver move

theorem drive_run (reading : Reading) :
    RunCase service definition store driver (drive service definition store driver reading) := by
  unfold drive
  cases at_stage : driver.stage with
  | off | settle | skip | release | skipConditional | step | classify | batchRelease | join
  | regroup => exact .kept rfl
  | persist update => exact .writes update at_stage rfl
  | resolve => exact .resolves at_stage rfl
  | startCreate request =>
      unfold startCreate
      dsimp only
      split
      next => exact .kept rfl
      next none_before =>
        exact .creates _ none_before (.inl rfl) rfl (by rw [at_stage]; rfl)
          (createdFrom_newRun service definition request driver.ctx)
  | startRejected request code =>
      unfold startRejected
      dsimp only
      split
      next => exact .kept rfl
      next none_before =>
        exact .creates _ none_before (.inr rfl) rfl (by rw [at_stage]; rfl)
          (createdFrom_rejectedRun service definition request driver.ctx code)
  | startToken =>
      unfold startToken
      dsimp only
      repeat' split
      all_goals exact .kept rfl
  | startClaim | budget =>
      dsimp only
      split <;> exact .kept rfl
  | operator call =>
      unfold operator
      cases call <;> dsimp only <;> repeat' split
      all_goals exact .kept rfl
  | enter call =>
      unfold enter
      cases call <;> dsimp only <;> repeat' split
      all_goals exact .kept rfl
  | resume =>
      unfold resume
      dsimp only
      repeat' split
      all_goals exact .kept rfl
  | load =>
      unfold load
      dsimp only
      repeat' split
      all_goals exact .kept rfl
  | head =>
      unfold head
      dsimp only
      repeat' split
      all_goals exact .kept rfl
  | reconcile waiting changed =>
      cases waiting with
      | nil => cases changed <;> exact .kept rfl
      | cons =>
          unfold reconcile
          dsimp only
          repeat' split
          all_goals exact .kept rfl
  | outcome =>
      unfold readOutcome
      dsimp only
      split <;> exact .kept rfl
  | revalidate => exact .kept rfl
  | reload =>
      unfold reload
      dsimp only
      repeat' split
      all_goals exact .kept rfl

/-- The row of a run stays once it is there. -/
theorem RunCase.run_isSome {service : WorkflowService} {definition : WorkflowDefinition}
    {store : Store} {driver : Driver} {move : Move}
    (found : RunCase service definition store driver move) (before : store.run.isSome = true) :
    move.store.run.isSome = true := by
  cases found with
  | kept run_eq => rw [run_eq, before]
  | writes update at_persist run_eq => rw [run_eq, Option.isSome_map, before]
  | resolves at_resolve run_eq => rw [run_eq, Option.isSome_map, before]
  | creates run none_before status run_eq => rw [run_eq, Option.isSome_some]

end Cases

/-! ## Workers -/

section Workers

variable (service : WorkflowService)

theorem renderExpectation_isActive (step : WorkflowStep) (run : WorkflowRun)
    (rendered : Params) : (renderExpectation service step run rendered).isActive = true := by
  unfold renderExpectation
  split <;> rfl

theorem prepare_isActive (step : WorkflowStep) (run : WorkflowRun) :
    (prepare service step run).isActive = true := by
  unfold prepare
  split
  next => rfl
  next =>
    split
    next => rfl
    next => exact renderExpectation_isActive service step run _

theorem acquire_isActive (step : WorkflowStep) (run : WorkflowRun) (reading : Reading)
    (rendered : Params) : (acquire service step run reading rendered).isActive = true := by
  unfold acquire
  split
  next => exact renderExpectation_isActive service step run _
  next =>
    split
    next => rfl
    next => exact renderExpectation_isActive service step run _

variable (definition : WorkflowDefinition) (store : Store) (driver : Driver) (index : Nat)

/-- What a transaction of a worker does to the rows of the steps. -/
inductive WorkCase : Move → Prop where
  | stays : WorkCase { store, driver }
  | claims {row : WorkflowStepRun} (queued : driver.workers index = .queued)
      (free : driver.mayStart index = true) (found : store.steps[index]? = some row) :
      WorkCase
        { store := { store with steps := store.steps.set index (claimStep row) }
          driver := driver.enterWorker index .budget }
  | proceeds {move : Move} (stage : WorkerStage)
      (was_open : (driver.workers index).mayRequest = true) (active : stage.isActive = true)
      (steps_eq : move.store.steps = store.steps) (stage_eq : move.driver.stage = driver.stage)
      (rows_eq : move.driver.rows = driver.rows) (batch_eq : move.driver.batch = driver.batch)
      (workers_eq : move.driver.workers = Function.update driver.workers index stage)
      (quiet : ∀ other action, EngineEvent.requested other action ∉ move.events) : WorkCase move
  | requests {action : Action} (step : WorkflowStep) (reading : Reading)
      (found : definition.steps[index]? = some step)
      (was_request : driver.workers index = .request action) :
      WorkCase
        { store := store.await (markOf step reading.answer)
          driver := driver.enterWorker index (.mark (markOf step reading.answer))
          events := [.requested index action] }
  | marks {mark : StepMark} {row : WorkflowStepRun}
      (was_mark : driver.workers index = .mark mark) (found : store.steps[index]? = some row) :
      WorkCase
        { store := { store with steps := store.steps.set index (mark.apply row) }
          driver := driver.enterWorker index (.finished (mark.apply row)) }

/-- Every transaction of a worker is one of the cases. -/
theorem work_case (reading : Reading) :
    WorkCase definition store driver index
      (work service definition store driver index reading) := by
  unfold work
  cases found : definition.steps[index]? with
  | none => exact .stays
  | some step =>
      cases was : driver.workers index with
      | idle | finished => exact .stays
      | queued =>
          dsimp only
          split
          next => exact .stays
          next row stored =>
            split
            next free => exact .claims was free stored
            next => exact .stays
      | budget =>
          dsimp only
          split
          next =>
            exact .proceeds (.overspent _) (by rw [was]; rfl) rfl rfl rfl rfl rfl rfl (by simp)
          next =>
            exact .proceeds _ (by rw [was]; rfl) (prepare_isActive service step driver.run) rfl rfl
              rfl rfl rfl (by simp)
      | overspent message =>
          exact .proceeds (.overspentRelease message) (by rw [was]; rfl) rfl rfl rfl rfl rfl rfl
            (by simp)
      | overspentRelease message =>
          exact .proceeds (.mark _) (by rw [was]; rfl) rfl rfl rfl rfl rfl rfl
            (by simp [releaseEvents])
      | inspect rendered =>
          exact .proceeds _ (by rw [was]; rfl)
            (acquire_isActive service step driver.run reading rendered) rfl rfl rfl rfl rfl
            (by simp)
      | request action => exact .requests step reading found was
      | mark mark =>
          dsimp only
          split
          next => exact .stays
          next row stored => exact .marks was stored

/-- A worker writes the run only to record that its budget is spent. -/
theorem work_run (reading : Reading) :
    (work service definition store driver index reading).store.run = store.run ∧
        (work service definition store driver index reading).driver.run = driver.run ∨
      ∃ message, driver.workers index = .overspent message ∧
        work service definition store driver index reading =
          { store := store.write driver.run (.budgetFailed message)
            driver := { driver.enterWorker index (.overspentRelease message) with
              run := RunUpdate.apply (.budgetFailed message) driver.run } } := by
  unfold work
  cases definition.steps[index]? with
  | none => exact .inl ⟨rfl, rfl⟩
  | some step =>
      cases driver.workers index with
      | idle | finished | overspentRelease | inspect => exact .inl ⟨rfl, rfl⟩
      | overspent message => exact .inr ⟨message, rfl, rfl⟩
      | request => exact .inl ⟨await_run store _, rfl⟩
      | budget =>
          dsimp only
          split <;> exact .inl ⟨rfl, rfl⟩
      | queued | mark =>
          dsimp only
          repeat' split
          all_goals exact .inl ⟨rfl, rfl⟩

/-- A worker that is neither queued nor active does nothing. -/
theorem work_still (reading : Reading) (not_queued : (driver.workers index).isQueued = false)
    (not_active : (driver.workers index).isActive = false) :
    work service definition store driver index reading = { store, driver } := by
  unfold work
  cases definition.steps[index]? with
  | none => rfl
  | some step =>
      cases worker : driver.workers index with
      | idle | finished => rfl
      | queued =>
          rw [worker] at not_queued
          cases not_queued
      | budget | overspent | overspentRelease | inspect | request | mark =>
          rw [worker] at not_active
          cases not_active

/-- A worker leaves the other workers alone. -/
theorem work_other (reading : Reading) {other : Nat} (different : other ≠ index) :
    (work service definition store driver index reading).driver.workers other =
      driver.workers other := by
  have found := work_case service definition store driver index reading
  generalize work service definition store driver index reading = move at found ⊢
  cases found with
  | stays => rfl
  | claims | requests | marks => rw [enterWorker_workers, Function.update_of_ne different]
  | proceeds _ _ _ _ _ _ _ workers_eq => rw [workers_eq, Function.update_of_ne different]

/-- A finished worker stays finished. -/
theorem work_finished (reading : Reading) {other : Nat} {row : WorkflowStepRun}
    (finished : driver.workers other = .finished row) :
    (work service definition store driver index reading).driver.workers other =
      .finished row := by
  by_cases same : other = index
  · subst same
    rw [work_still service definition store driver other reading (by rw [finished]; rfl)
      (by rw [finished]; rfl)]
    exact finished
  · rw [work_other service definition store driver index reading same]
    exact finished

/-- A row that a worker writes is that of its claim or of its mark. -/
theorem work_row (reading : Reading) {other : Nat} {row : WorkflowStepRun}
    (found : (work service definition store driver index reading).store.steps[other]? =
      some row) :
    store.steps[other]? = some row ∨ other = index ∧ (row.status = .running ∨
      ∃ mark earlier, driver.workers index = .mark mark ∧ row = mark.apply earlier ∧
        (work service definition store driver index reading).driver.workers index =
          .finished row) := by
  have cases := work_case service definition store driver index reading
  generalize work service definition store driver index reading = move at found cases ⊢
  cases cases with
  | stays => exact .inl found
  | proceeds _ _ _ steps_eq => exact .inl (steps_eq ▸ found)
  | requests => exact .inl (await_steps store _ ▸ found)
  | @claims earlier queued free stored =>
      rw [List.getElem?_set] at found
      split at found
      next same =>
        split at found
        next =>
          obtain rfl := Option.some.inj found
          exact .inr ⟨same.symm, .inl rfl⟩
        next => cases found
      next => exact .inl found
  | @marks mark earlier was_mark stored =>
      rw [List.getElem?_set] at found
      split at found
      next same =>
        split at found
        next =>
          obtain rfl := Option.some.inj found
          exact .inr ⟨same.symm, .inr ⟨mark, earlier, was_mark, rfl, Function.update_self ..⟩⟩
        next => cases found
      next => exact .inl found

/-- A worker leaves the stage of its call alone, and all that the call has read or chosen. -/
theorem work_keeps (reading : Reading) :
    (work service definition store driver index reading).driver.stage = driver.stage ∧
      (work service definition store driver index reading).driver.rows = driver.rows ∧
      (work service definition store driver index reading).driver.batch = driver.batch ∧
      (work service definition store driver index reading).driver.allowed = driver.allowed := by
  unfold work
  cases definition.steps[index]? with
  | none => exact ⟨rfl, rfl, rfl, rfl⟩
  | some step =>
      cases driver.workers index with
      | idle | finished | overspent | overspentRelease | inspect | request =>
          exact ⟨rfl, rfl, rfl, rfl⟩
      | queued | budget | mark =>
          dsimp only
          repeat' split
          all_goals exact ⟨rfl, rfl, rfl, rfl⟩

/-- No worker starts by itself. -/
theorem work_isWorking (reading : Reading) {other : Nat}
    (working : ((work service definition store driver index reading).driver.workers
      other).isWorking = true) : (driver.workers other).isWorking = true := by
  have found := work_case service definition store driver index reading
  generalize work service definition store driver index reading = move at found working
  have updated {stage : WorkerStage} (was : (driver.workers index).isWorking = true)
      (workers_eq : move.driver.workers = Function.update driver.workers index stage) :
      (driver.workers other).isWorking = true := by
    by_cases same : other = index
    · rwa [same]
    · rwa [workers_eq, Function.update_of_ne same] at working
  cases found with
  | stays => exact working
  | claims queued free found => exact updated (by rw [queued]; rfl) rfl
  | proceeds stage was_open active steps_eq stage_eq rows_eq batch_eq workers_eq silent =>
      apply updated _ workers_eq
      rw [WorkerStage.isWorking, WorkerStage.isActive_of_mayRequest was_open, Bool.or_true]
  | requests step reading found was_request => exact updated (by rw [was_request]; rfl) rfl
  | marks was_mark found => exact updated (by rw [was_mark]; rfl) rfl

end Workers

end Era.Workflows
