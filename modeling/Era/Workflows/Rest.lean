import Era.Workflows.Absorbing

/-!
# Where a call leaves its run

`_advance` returns from ten places.  It leaves its run finished, ambiguous, or waiting for a
confirmation that is pending, unless nothing is left that it could do while steps are
pending, or a confirmation has been denied for good.
-/

namespace Era.Workflows

open Era.Core Era.Lib Era.Services

/-- A confirmation that is still to be decided. -/
def Store.Pending (store : Store) (confirmationId : Option String) : Prop :=
  ∃ id, confirmationId = some id ∧ store.confirmations id = some .pending

/-- A step waits for a confirmation that is still to be decided. -/
def Store.AwaitsDecision (store : Store) : Prop :=
  ∃ row ∈ store.steps, row.status = .waiting ∧ store.Pending row.confirmationId

/-- A run that is finished, ambiguous, or waiting for a decision. -/
def Store.AtRest (store : Store) : Prop :=
  ∃ run, store.run = some run ∧
    (run.status.terminal = true ∨ run.status = .ambiguous ∨
      run.status = .waiting ∧ store.AwaitsDecision)

/-- Nothing waits, nothing settles the run and nothing is ready, but a step is pending or
running. -/
def stuck (definition : WorkflowDefinition) (rows : List WorkflowStepRun) : Bool :=
  (waitingIndices rows).isEmpty && (refreshRunStatus rows).isNone &&
    (readyIndices definition rows).isEmpty && !allSettled definition rows

/-- A waiting step has been denied and is not skipped then. -/
def deniedForGood (store : Store) (driver : Driver) (reading : Reading) (index : Nat) : Bool :=
  (((driver.rows[index]?.bind WorkflowStepRun.confirmationId).filter (· != "")).bind
      store.confirmations == some .denied) &&
    (reading.stepDef.map WorkflowStep.onDenied != some .skip)

/-- The loop is not stuck, and no waiting step has been denied for good, unless the run is
finished. -/
def GoesOn (definition : WorkflowDefinition) (state : EngineState) : Input → Prop
  | .drive caller reading =>
      match (state.drivers caller).stage with
      | .head => stuck definition state.store.steps = true → reading.deadlinePassed = true ∨
          state.store.ended?.isSome = true
      | .reconcile (index :: _) _ =>
          deniedForGood state.store (state.drivers caller) reading index = true →
            state.store.ended?.isSome = true
      | _ => True
  | .launch .. | .work .. | .crash _ | .decide .. => True

instance (definition : WorkflowDefinition) (state : EngineState) (input : Input) :
    Decidable (GoesOn definition state input) := by
  dsimp only [GoesOn]
  induction input using Input.casesOn with
  | drive caller reading =>
      dsimp only
      generalize (state.drivers caller).stage = stage
      induction stage using Stage.casesOn with
      | reconcile waiting progressed => induction waiting using List.casesOn <;> infer_instance
      | _ => infer_instance
  | work | launch | crash | decide => infer_instance

/-- No call crashes. -/
def CrashFree : Input → Bool
  | .crash _ => false
  | .launch .. | .drive .. | .work .. | .decide .. => true

/-! ## Where a call returns -/

def EngineEvent.isReturned : EngineEvent → Bool
  | .ended .returned => true
  | _ => false

/-- Whether a call returns can be computed. -/
theorem ended_of_any_isReturned {events : List EngineEvent}
    (returned : events.any EngineEvent.isReturned = true) :
    EngineEvent.ended .returned ∈ events := by
  obtain ⟨event, member, is_returned⟩ := List.any_eq_true.mp returned
  unfold EngineEvent.isReturned at is_returned
  split at is_returned
  next => exact member
  next => cases is_returned

section Returns

variable (service : WorkflowService) (definition : WorkflowDefinition)
variable (store : Store) (driver : Driver) (reading : Reading)

/-- The places at which `_advance` returns. -/
inductive Returns : Store → Prop where
  | stuck (at_head : driver.stage = .head) (in_time : reading.deadlinePassed = false)
      (nothing : stuck definition store.steps = true) : Returns store
  | denied {index : Nat} {rest : List Nat} {changed : Bool}
      (at_reconcile : driver.stage = .reconcile (index :: rest) changed)
      (denied : deniedForGood store driver reading index = true) : Returns store
  | pauses {update : RunUpdate} (at_persist : driver.stage = .persist update)
      (pausing : update = .ambiguous ∨ ∃ index, update = .waiting index) :
      Returns (store.write driver.run update)
  | releases (at_release : driver.stage = .release .returned) : Returns store

variable {service definition store driver reading}

theorem chooseNext_returned {after : Driver}
    (returned : EngineEvent.ended .returned ∈ (chooseNext service definition after).2) :
    readyIndices definition after.rows = [] ∧ allSettled definition after.rows = false := by
  unfold chooseNext at returned
  dsimp only at returned
  split at returned
  next nothing =>
    split at returned
    next => cases returned
    next unsettled => exact ⟨nothing, Bool.eq_false_of_not_eq_true unsettled⟩
  next => split at returned <;> simp at returned

theorem head_returned (at_head : driver.stage = .head)
    (returned : EngineEvent.ended .returned ∈
      (head service definition store driver reading).events) :
    Returns definition store driver reading
      (head service definition store driver reading).store := by
  unfold head at returned ⊢
  split at returned
  next => cases returned
  next in_time =>
    rw [if_neg in_time]
    dsimp only at returned ⊢
    split at returned
    next => cases returned
    next none_waiting =>
      split at returned
      next => cases returned
      next unsettled =>
        obtain ⟨nothing, not_settled⟩ := chooseNext_returned returned
        dsimp only at nothing not_settled
        refine .stuck at_head (Bool.eq_false_of_not_eq_true in_time) ?_
        simp [stuck, none_waiting, unsettled, nothing, not_settled]

theorem reconcile_returned {index : Nat} {rest : List Nat} {changed : Bool}
    (at_reconcile : driver.stage = .reconcile (index :: rest) changed)
    (returned : EngineEvent.ended .returned ∈
      (reconcile store driver reading index rest changed).events) :
    Returns definition store driver reading
      (reconcile store driver reading index rest changed).store := by
  unfold reconcile at returned ⊢
  dsimp only at returned ⊢
  split at returned
  next => cases returned
  next confirmationId named =>
    split at returned
    next => cases returned
    next => cases returned
    next => cases returned
    next denied =>
      split at returned
      next => cases returned
      next not_skip =>
        apply Returns.denied at_reconcile
        rw [deniedForGood, named, Option.bind_some, denied]
        simpa using not_skip
    next => cases returned

theorem persist_returned {update : RunUpdate} (at_persist : driver.stage = .persist update)
    (returned : EngineEvent.ended .returned ∈
      (persist service definition store driver update).events) :
    Returns definition store driver reading
      (persist service definition store driver update).store := by
  unfold persist afterWrite at returned ⊢
  cases update with
  | ambiguous => exact .pauses at_persist (.inl rfl)
  | waiting index => exact .pauses at_persist (.inr ⟨index, rfl⟩)
  | running index =>
      unfold dispatchSelected at returned
      dsimp only at returned
      repeat' split at returned
      all_goals simp at returned
  | submit first rest => cases rest <;> cases returned
  | failed | budgetFailed | completed | cancelled | select | idle => cases returned

variable (service definition store driver reading)

/-- `_advance` returns at one of these places. -/
theorem drive_returned (returned : EngineEvent.ended .returned ∈
      (drive service definition store driver reading).events) :
    Returns definition store driver reading
      (drive service definition store driver reading).store := by
  unfold drive at returned ⊢
  cases at_stage : driver.stage with
  | off | resolve | settle | skip | skipConditional | step | classify | join | regroup =>
      simp [at_stage, resolve] at returned
  | batchRelease => simp [at_stage, releaseEvents] at returned
  | startToken =>
      rw [at_stage] at returned
      unfold startToken at returned
      dsimp only at returned
      repeat' split at returned
      all_goals simp at returned
  | startClaim | budget =>
      rw [at_stage] at returned
      dsimp only at returned
      split at returned <;> simp at returned
  | startRejected =>
      rw [at_stage] at returned
      unfold startRejected at returned
      dsimp only at returned
      split at returned <;> simp at returned
  | startCreate =>
      rw [at_stage] at returned
      unfold startCreate at returned
      dsimp only at returned
      split at returned <;> simp at returned
  | operator call =>
      rw [at_stage] at returned
      unfold operator at returned
      cases call <;> dsimp only at returned <;> repeat' split at returned
      all_goals simp at returned
  | enter call =>
      rw [at_stage] at returned
      unfold enter at returned
      cases call <;> dsimp only at returned <;> repeat' split at returned
      all_goals simp at returned
  | resume =>
      rw [at_stage] at returned
      unfold resume at returned
      dsimp only at returned
      repeat' split at returned
      all_goals simp at returned
  | load =>
      rw [at_stage] at returned
      unfold load at returned
      dsimp only at returned
      repeat' split at returned
      all_goals simp at returned
  | head =>
      rw [at_stage] at returned
      exact head_returned at_stage returned
  | reconcile waiting changed =>
      rw [at_stage] at returned
      cases waiting with
      | nil => cases changed <;> simp at returned
      | cons => exact reconcile_returned at_stage returned
  | outcome =>
      rw [at_stage] at returned
      unfold readOutcome at returned
      dsimp only at returned
      split at returned <;> simp at returned
  | revalidate =>
      rw [at_stage] at returned
      unfold checkPostCondition at returned
      dsimp only at returned
      split at returned <;> simp at returned
  | persist update =>
      rw [at_stage] at returned
      exact persist_returned at_stage returned
  | release ending =>
      rw [at_stage] at returned
      cases ending with
      | returned => exact .releases at_stage
      | answered | raised => simp [releaseEvents] at returned
  | reload =>
      rw [at_stage] at returned
      unfold reload at returned
      dsimp only at returned
      repeat' split at returned
      all_goals simp at returned

/-- A call decides no confirmation. -/
theorem drive_confirmations :
    (drive service definition store driver reading).store.confirmations =
      store.confirmations := by
  unfold drive
  cases driver.stage with
  | off | settle | skip | release | skipConditional | step | classify | batchRelease | join
  | regroup | persist | resolve | revalidate => rfl
  | startToken =>
      unfold startToken
      dsimp only
      repeat' split
      all_goals rfl
  | startClaim | budget =>
      dsimp only
      split <;> rfl
  | startRejected =>
      unfold startRejected
      dsimp only
      split <;> rfl
  | startCreate =>
      unfold startCreate
      dsimp only
      split <;> rfl
  | operator call =>
      unfold operator
      cases call <;> dsimp only <;> repeat' split
      all_goals rfl
  | enter call =>
      unfold enter
      cases call <;> dsimp only <;> repeat' split
      all_goals rfl
  | resume =>
      unfold resume
      dsimp only
      repeat' split
      all_goals rfl
  | load =>
      unfold load
      dsimp only
      repeat' split
      all_goals rfl
  | head =>
      unfold head
      dsimp only
      repeat' split
      all_goals rfl
  | reconcile waiting changed =>
      cases waiting with
      | nil => cases changed <;> rfl
      | cons =>
          unfold reconcile
          dsimp only
          repeat' split
          all_goals rfl
  | outcome =>
      unfold readOutcome
      dsimp only
      split <;> rfl
  | reload =>
      unfold reload
      dsimp only
      repeat' split
      all_goals rfl

end Returns

/-! ## The invariant -/

/-- A call in a crash-free sequential history: its object is the stored run, a step that it
leaves waiting waits for a pending confirmation, and it reconciles the steps that wait. -/
structure LeavesAtRest (store : Store) (driver : Driver) : Prop where
  tracks : Tracks store driver
  own : driver.stage.holdsRun = true → store.run = some driver.run
  released : driver.stage = .release .returned → store.ended?.isSome = true
  marked : ∀ index confirmationId, driver.workers index = .mark (.awaiting confirmationId) →
    store.Pending confirmationId
  finished : ∀ index row, driver.stage = .step index → driver.workers index = .finished row →
    store.steps[index]? = some row ∧ (row.status = .waiting → store.Pending row.confirmationId)
  reconciling : ∀ waiting, driver.stage = .reconcile waiting false →
    driver.rows = store.steps ∧ (store.AwaitsDecision ∨
      waiting ≠ [] ∧ ∀ index ∈ waiting, statusAt store.steps index = .waiting)
  waiting : ∀ index, driver.stage = .persist (.waiting index) → store.AwaitsDecision

section Preserved

variable {service : WorkflowService} {definition : WorkflowDefinition}
variable {store : Store} {driver : Driver} {reading : Reading}

theorem Stage.holdsRun_of_inLoop {stage : Stage} (looping : stage.inLoop = true) :
    stage.holdsRun = true := by
  unfold Stage.holdsRun
  split <;> first | rfl | exact looping

theorem write_own (own : store.run = some driver.run) (update : RunUpdate) :
    (store.write driver.run update).run = some (update.apply driver.run) := by
  rw [Store.write]
  dsimp only
  rw [own, Option.map_some, updateRun_fresh]

theorem Transition.own {after : Store} {next : Driver}
    (transition : Transition service definition store driver reading after next)
    (own : driver.stage.holdsRun = true → store.run = some driver.run)
    (holding : next.stage.holdsRun = true) : after.run = some next.run := by
  cases transition with
  | waits => exact own holding
  | stops | creates | operates | resumes | resolves | finishes => cases holding
  | starts stage starting => cases stage <;> first | cases starting; done | cases holding
  | cancels found | continues found | loads _ found | rejects _ found | reloads _ found =>
      exact found
  | fails looping | examines looping => exact own (Stage.holdsRun_of_inLoop looping)
  | refreshes at_stage | reconciles at_stage =>
      obtain at_stage | at_stage := at_stage <;> exact own (by rw [at_stage]; rfl)
  | regroups at_stage =>
      obtain at_stage | ⟨at_stage, _⟩ := at_stage <;> exact own (by rw [at_stage]; rfl)
  | selected at_stage | forbids at_stage | diverges at_stage | dispatches at_stage
  | idles at_stage | overspends at_stage | submits at_stage | joins at_stage =>
      exact write_own (own (by rw [at_stage]; rfl)) _
  | gathers at_stage | completes at_stage | selects at_stage | batches at_stage | awaits at_stage
  | rechecks at_stage | pauses at_stage | skipsCondition at_stage | classifies at_stage
  | classified at_stage | advances at_stage | refuses at_stage | admits at_stage
  | regrouped at_stage => exact own (by rw [at_stage]; rfl)

theorem Transition.released {after : Store} {next : Driver}
    (transition : Transition service definition store driver reading after next)
    (leaves : LeavesAtRest store driver) (at_release : next.stage = .release .returned) :
    after.ended?.isSome = true := by
  cases transition with
  | waits => exact leaves.released at_release
  | starts stage starting => cases stage <;> first | cases starting; done | cases at_release
  | examines looping stage examining =>
      cases stage <;> first | cases examining; done | cases at_release
  | @finishes update ending at_persist ends =>
      have own := write_own (leaves.own (by rw [at_persist]; rfl)) update
      cases at_release
      cases update with
      | failed | completed => rw [Store.ended?_eq_some own rfl, Option.isSome_some]
      | _ => cases ends
  | _ => cases at_release

theorem Transition.finishedRow {after : Store} {next : Driver}
    (transition : Transition service definition store driver reading after next)
    {index : Nat} {row : WorkflowStepRun}
    (at_step : next.stage = .step index) (finished : next.workers index = .finished row) :
    after = store ∧ next = driver := by
  cases transition with
  | waits => exact ⟨rfl, rfl⟩
  | dispatches =>
      cases at_step
      rw [enterWorker_workers, Function.update_self] at finished
      cases finished
  | starts stage starting => cases stage <;> first | cases starting; done | cases at_step
  | examines looping stage examining =>
      cases stage <;> first | cases examining; done | cases at_step
  | _ => cases at_step

/-- A row that waits for a pending confirmation. -/
theorem awaitsDecision_of {index : Nat} {confirmationId : String}
    (waiting : statusAt store.steps index = .waiting)
    (named : store.steps[index]?.bind WorkflowStepRun.confirmationId = some confirmationId)
    (pending : store.confirmations confirmationId = some .pending) : store.AwaitsDecision := by
  obtain ⟨row, found, row_named⟩ := Option.bind_eq_some_iff.mp named
  rw [statusAt, found] at waiting
  exact ⟨row, List.mem_of_getElem? found, waiting, confirmationId, row_named, pending⟩

theorem Transition.reconciling {after : Store} {next : Driver} {waiting : List Nat}
    (transition : Transition service definition store driver reading after next)
    (leaves : LeavesAtRest store driver) (at_reconcile : next.stage = .reconcile waiting false) :
    next.rows = after.steps ∧ (after.AwaitsDecision ∨
      waiting ≠ [] ∧ ∀ index ∈ waiting, statusAt after.steps index = .waiting) := by
  cases transition with
  | waits => exact leaves.reconciling waiting at_reconcile
  | gathers at_head some_wait =>
      cases at_reconcile
      exact ⟨rfl, .inr ⟨some_wait, fun index member => mem_waitingIndices.mp member⟩⟩
  | awaits at_stage named pending =>
      cases at_reconcile
      obtain ⟨rows_eq, decided | ⟨_, all_wait⟩⟩ := leaves.reconciling _ at_stage
      · exact ⟨rows_eq, .inl decided⟩
      · refine ⟨rows_eq, .inl (awaitsDecision_of (all_wait _ List.mem_cons_self) ?_ pending)⟩
        rwa [← rows_eq]
  | starts stage starting => cases stage <;> first | cases starting; done | cases at_reconcile
  | examines looping stage examining =>
      cases stage <;> first | cases examining; done | cases at_reconcile
  | _ => cases at_reconcile

theorem Transition.waiting {after : Store} {next : Driver} {current : Option Nat}
    (transition : Transition service definition store driver reading after next)
    (leaves : LeavesAtRest store driver) (at_persist : next.stage = .persist (.waiting current)) :
    after.AwaitsDecision := by
  cases transition with
  | waits => exact leaves.waiting current at_persist
  | pauses at_reconcile =>
      obtain ⟨_, decided | ⟨some_wait, _⟩⟩ := leaves.reconciling _ at_reconcile
      · exact decided
      · exact absurd rfl some_wait
  | classified at_step finished settled =>
      obtain ⟨found, pending⟩ := leaves.finished _ _ at_step finished
      cases at_persist
      unfold classify at settled
      split at settled
      next => cases settled
      next => cases settled
      next => cases settled
      next waiting => exact ⟨_, List.mem_of_getElem? found, waiting, pending waiting⟩
      all_goals cases settled
  | refreshes looping settled =>
      cases at_persist
      unfold refreshRunStatus at settled
      repeat' split at settled
      all_goals cases settled
  | starts stage starting => cases stage <;> first | cases starting; done | cases at_persist
  | examines looping stage examining =>
      cases stage <;> first | cases examining; done | cases at_persist
  | _ => cases at_persist

theorem LeavesAtRest.drive (leaves : LeavesAtRest store driver) :
    LeavesAtRest (drive service definition store driver reading).store
      (drive service definition store driver reading).driver := by
  have transition := drive_transition service definition store driver reading
  have confirmations_eq := drive_confirmations service definition store driver reading
  refine {
    tracks := leaves.tracks.drive reading
    own := transition.own leaves.own
    released := transition.released leaves
    marked := ?_
    finished := ?_
    reconciling := fun _ => transition.reconciling leaves
    waiting := fun _ => transition.waiting leaves }
  · intro index confirmationId marks
    rw [Store.Pending, confirmations_eq]
    obtain same | queued := drive_worker service definition store driver reading index
    · exact leaves.marked index confirmationId (same ▸ marks)
    · rw [queued] at marks
      cases marks
  · intro index row at_step finished
    obtain ⟨store_eq, driver_eq⟩ := transition.finishedRow at_step finished
    rw [store_eq]
    rw [driver_eq] at at_step finished
    exact leaves.finished index row at_step finished

/-- No call ends in a worker. -/
theorem work_not_ended (index : Nat) (ending : Ending) :
    EngineEvent.ended ending ∉
      (work service definition store driver index reading).events := by
  unfold work
  cases definition.steps[index]? with
  | none => simp
  | some step =>
      cases driver.workers index with
      | idle | finished | overspent | inspect | request => simp
      | overspentRelease => simp [releaseEvents]
      | queued | budget | mark =>
          dsimp only
          repeat' split
          all_goals simp

/-- A worker makes confirmations pending, and leaves all others alone. -/
theorem work_confirmations (index : Nat) :
    (work service definition store driver index reading).store.confirmations =
        store.confirmations ∨
      ∃ id, (work service definition store driver index reading).store.confirmations =
        Function.update store.confirmations id (some .pending) := by
  unfold work
  cases definition.steps[index]? with
  | none => exact .inl rfl
  | some step =>
      cases driver.workers index with
      | idle | finished | overspent | overspentRelease | inspect => exact .inl rfl
      | queued | budget | mark =>
          dsimp only
          repeat' split
          all_goals exact .inl rfl
      | request action =>
          dsimp only
          unfold Store.await
          split
          next id _ => exact .inr ⟨id, rfl⟩
          next => exact .inl rfl

theorem Store.Pending.work {confirmationId : Option String}
    (pending : store.Pending confirmationId) (index : Nat) :
    (work service definition store driver index reading).store.Pending confirmationId := by
  obtain ⟨id, rfl, decided⟩ := pending
  refine ⟨id, rfl, ?_⟩
  obtain same | ⟨other, updated⟩ :=
    @work_confirmations service definition store driver reading index
  · rw [same, decided]
  · rw [updated, Function.update_apply]
    split
    next => rfl
    next => exact decided

/-- A step that is to wait for a confirmation waits for the one that has just been created. -/
theorem awaiting_pending {step : WorkflowStep} {answer : Except PyException StepResponse}
    {confirmationId : Option String} (awaits : markOf step answer = .awaiting confirmationId) :
    (store.await (markOf step answer)).Pending confirmationId := by
  have named : ∃ id, confirmationId = some id := by
    unfold markOf at awaits
    split at awaits
    next exception =>
      have fails := exception.error.failsCoded_mark
      rw [awaits] at fails
      cases fails
    next response created =>
      split at awaits
      next => cases awaits
      next required =>
        cases awaits
        cases named : response.confirmationId with
        | some id => exact ⟨id, rfl⟩
        | none =>
            have not_empty := created required
            rw [named] at not_empty
            cases not_empty
      next => split at awaits <;> cases awaits
      all_goals split at awaits <;> cases awaits
  obtain ⟨id, rfl⟩ := named
  rw [awaits]
  exact ⟨id, rfl, Function.update_self ..⟩

theorem LeavesAtRest.marked_work (leaves : LeavesAtRest store driver) {index other : Nat}
    {confirmationId : Option String}
    (marks : (work service definition store driver index reading).driver.workers other =
      .mark (.awaiting confirmationId)) :
    (work service definition store driver index reading).store.Pending confirmationId := by
  obtain same | fails | ⟨step, action, rfl, found, requests, awaits⟩ :=
    work_mark service definition store driver index reading marks
  · exact (leaves.marked other confirmationId same).work index
  · cases fails
  · unfold Workflows.work
    rw [found, requests]
    exact awaiting_pending awaits.symm

theorem LeavesAtRest.finished_work (leaves : LeavesAtRest store driver) {index other : Nat}
    {row : WorkflowStepRun} (at_step : driver.stage = .step other)
    (finished : (work service definition store driver index reading).driver.workers other =
      .finished row) :
    (work service definition store driver index reading).store.steps[other]? = some row ∧
      (row.status = .waiting →
        (work service definition store driver index reading).store.Pending row.confirmationId) := by
  by_cases executes : driver.Executes index
  · obtain rfl : index = other := by rwa [Driver.Executes, at_step] at executes
    have marked := leaves.marked index
    have before := leaves.finished index row at_step
    have found := work_case service definition store driver index reading
    generalize Workflows.work service definition store driver index reading = move
      at found finished ⊢
    cases found with
    | stays => exact before finished
    | claims | requests =>
        rw [enterWorker_workers, Function.update_self] at finished
        cases finished
    | proceeds stage was_open active steps_eq stage_eq rows_eq batch_eq workers_eq =>
        rw [workers_eq, Function.update_self] at finished
        rw [finished] at active
        cases active
    | @marks mark earlier was_mark found =>
        rw [enterWorker_workers, Function.update_self] at finished
        cases finished
        obtain ⟨bound, _⟩ := List.getElem?_eq_some_iff.mp found
        refine ⟨List.getElem?_set_self bound, fun waiting => ?_⟩
        cases mark with
        | awaiting confirmationId => exact marked confirmationId was_mark
        | completed | skipped | failed | ambiguous => cases waiting
  · have not_working := mt (leaves.tracks.working index) executes
    rw [not_or, Bool.not_eq_true, Bool.not_eq_true] at not_working
    rw [work_still service definition store driver index reading not_working.1 not_working.2]
      at finished ⊢
    exact leaves.finished other row at_step finished

/-- A worker that writes the run writes over the object of its call. -/
theorem work_own {index : Nat} (own : store.run = some driver.run) :
    (work service definition store driver index reading).store.run =
      some (work service definition store driver index reading).driver.run := by
  obtain ⟨run_eq, own_eq⟩ | ⟨message, _, move_eq⟩ :=
    work_run service definition store driver index reading
  · rw [run_eq, own_eq]
    exact own
  · rw [move_eq]
    exact write_own own _

theorem LeavesAtRest.work (leaves : LeavesAtRest store driver) (index : Nat) :
    LeavesAtRest (work service definition store driver index reading).store
      (work service definition store driver index reading).driver := by
  obtain ⟨stage_eq, _⟩ := work_keeps service definition store driver index reading
  by_cases executing : driver.stage.isExecuting = true
  · constructor
    · exact leaves.tracks.work index reading
    · rw [stage_eq]
      exact fun holding => work_own (leaves.own holding)
    · rw [stage_eq]
      intro at_release
      rw [at_release] at executing
      cases executing
    · exact fun other confirmationId => leaves.marked_work
    · rw [stage_eq]
      exact fun other row => leaves.finished_work
    · rw [stage_eq]
      intro waiting at_reconcile
      rw [at_reconcile] at executing
      cases executing
    · rw [stage_eq]
      intro current at_persist
      rw [at_persist] at executing
      cases executing
  · rw [leaves.tracks.work_idle (Bool.eq_false_of_not_eq_true executing)]
    exact leaves

end Preserved

section Rests

variable (service : WorkflowService) (definition : WorkflowDefinition)

/-- A crash-free sequential history in which no call returns early. -/
def ReturnsAtRest (state : EngineState) (input : Input) : Prop :=
  Sequential state input ∧ CrashFree input = true ∧ GoesOn definition state input

theorem restRule :
    SerialRule (fun _ => True) LeavesAtRest service definition (ReturnsAtRest definition) where
  sequential _ _ allowed := allowed.1
  initially := True.intro
  launches store ctx allowed call _ := by
    refine ⟨.launched store ctx allowed call, ?_, ?_, ?_, ?_, ?_, ?_⟩
    · cases call <;> exact nofun
    · cases call <;> exact nofun
    · exact fun _ _ => nofun
    · cases call <;> exact fun _ _ => nofun
    · cases call <;> exact fun _ => nofun
    · cases call <;> exact fun _ => nofun
  decides _ _ _ := True.intro
  drives _ _ _ _ leaves := ⟨fun _ => True.intro, fun _ => leaves.drive⟩
  works _ _ index _ _ leaves := ⟨fun _ => True.intro, fun _ => leaves.work index⟩
  crashes _ _ _ _ := True.intro

/-- Where `_advance` returns, it leaves the run finished, ambiguous, or waiting for a pending
confirmation. -/
def LeavesRest (state : EngineState) (input : Input) : Prop :=
  EngineEvent.ended .returned ∈ (engineStep service definition state input).2 →
    (engineStep service definition state input).1.store.AtRest

variable {service definition}

theorem Store.atRest_of_ended {store : Store} (ended : store.ended?.isSome = true) :
    store.AtRest := by
  obtain ⟨status, found⟩ := Option.isSome_iff_exists.mp ended
  obtain ⟨stored, terminal⟩ := Option.filter_eq_some_iff.mp found
  obtain ⟨run, run_eq, rfl⟩ := Option.map_eq_some_iff.mp stored
  exact ⟨run, run_eq, .inl terminal⟩

theorem LeavesAtRest.atRest {state : EngineState} {caller : Nat} {reading : Reading}
    {after : Store} (leaves : LeavesAtRest state.store (state.drivers caller))
    (goes : GoesOn definition state (.drive caller reading))
    (returns : Returns definition state.store (state.drivers caller) reading after) :
    after.AtRest := by
  cases returns with
  | stuck at_head in_time nothing =>
      rw [GoesOn, at_head] at goes
      obtain late | ended := goes nothing
      · rw [late] at in_time
        cases in_time
      · exact Store.atRest_of_ended ended
  | denied at_reconcile denied =>
      rw [GoesOn, at_reconcile] at goes
      exact Store.atRest_of_ended (goes denied)
  | pauses at_persist pausing =>
      have own := write_own (leaves.own (by rw [at_persist]; rfl))
      obtain rfl | ⟨index, rfl⟩ := pausing
      · exact ⟨_, own .ambiguous, .inr (.inl rfl)⟩
      · exact ⟨_, own (.waiting index), .inr (.inr ⟨rfl, leaves.waiting index at_persist⟩)⟩
  | releases at_release => exact Store.atRest_of_ended (leaves.released at_release)

variable (service definition)

/-- In a crash-free sequential history `_advance` leaves the run finished, ambiguous, or
waiting for a pending confirmation wherever it returns, if its loop is never stuck and no
confirmation is denied for good. -/
theorem leaves_rest {inputs : List Input}
    (admitted : (engine service definition).Admits (ReturnsAtRest definition) initialState
      inputs) :
    (engine service definition).Admits (LeavesRest service definition) initialState inputs := by
  have holds (state : EngineState) (input : Input)
      (serial : Serial (fun _ => True) LeavesAtRest state)
      (allowed : ReturnsAtRest definition state input) :
      LeavesRest service definition state input := by
    intro returned
    cases input with
    | launch caller ctx permitted call =>
        unfold engineStep at returned
        dsimp only at returned
        split at returned <;> cases returned
    | drive caller reading =>
        by_cases ended : (state.drivers caller).stage = .off
        · rw [engineStep, drive_off ended] at returned
          cases returned
        · exact (serial.on_its_way ended).atRest allowed.2.2
            (drive_returned service definition state.store (state.drivers caller) reading returned)
    | work caller index reading =>
        unfold engineStep at returned
        dsimp only at returned
        split at returned
        next => cases returned
        next => exact absurd returned (work_not_ended index .returned)
    | crash caller => cases returned
    | decide confirmationId status =>
        unfold engineStep at returned
        dsimp only at returned
        split at returned <;> cases returned
  exact (restRule service definition).admits holds admitted

end Rests

namespace Demo

/-- Two steps of one parallel block, and a step that depends on the first of them. -/
def dependent : WorkflowDefinition :=
  { together with
    steps := [inspect "first", inspect "second",
      { inspect "third" with dependsOn := ["first"] }] }

/-- The execution service fails what it is asked for. -/
def failed : Reading :=
  { answer := .ok { response := {
      status := .failed, decision := .allow, errorCode := some .providerError } } }

end Demo

/-- Both steps are executed one after the other, and the run is completed. -/
theorem leaves_rest_demo :
    (engine Demo.service Demo.pair).Admits (LeavesRest Demo.service Demo.pair) initialState
      (Demo.start 0 :: Demo.moves 0 7 ++ Demo.works 0 0 4 ++ Demo.moves 0 7 ++
        Demo.works 0 1 4 ++ Demo.moves 0 6) :=
  leaves_rest Demo.service Demo.pair
    ((sequential_of_oneCaller (show (engine Demo.service Demo.pair).Admits
      (fun state input => OneCaller 0 state input = true) initialState
        (Demo.start 0 :: Demo.moves 0 7 ++ Demo.works 0 0 4 ++ Demo.moves 0 7 ++
          Demo.works 0 1 4 ++ Demo.moves 0 6) by decide +kernel)).and (by decide +kernel))

/-- The first member of a batch fails, the step that depends on it is never ready, and the
call returns from a run that has not even started to run. -/
theorem not_leaves_rest :
    Demo.dependent.build Demo.config.platform = .ok () ∧
      validateWorkflowDefinition Demo.config 20 Demo.dependent = .ok () ∧
      ¬∀ inputs, (engine Demo.service Demo.dependent).Admits (fun state input =>
          Sequential state input ∧ CrashFree input = true) initialState inputs →
        (engine Demo.service Demo.dependent).Admits
          (LeavesRest Demo.service Demo.dependent) initialState inputs := by
  refine ⟨by decide +kernel, by decide +kernel, fun leaves => ?_⟩
  have sequential : (engine Demo.service Demo.dependent).Admits (fun state input =>
      OneCaller 0 state input = true) initialState (Demo.batched Demo.failed) := by
    decide +kernel
  have crash_free : (engine Demo.service Demo.dependent).Admits (fun _ input =>
      CrashFree input = true) initialState (Demo.batched Demo.failed) := by
    decide +kernel
  have split : Demo.batched Demo.failed =
      (Demo.batched Demo.failed).dropLast ++ .drive 0 Demo.executed :: [] := rfl
  have rests := leaves _ ((sequential_of_oneCaller sequential).and crash_free) _ _ _ split
  have returned : (engineStep Demo.service Demo.dependent
      ((engine Demo.service Demo.dependent).stateAfter initialState
        (Demo.batched Demo.failed).dropLast) (.drive 0 Demo.executed)).2.any
          EngineEvent.isReturned = true := by
    decide +kernel
  have status : (engineStep Demo.service Demo.dependent
      ((engine Demo.service Demo.dependent).stateAfter initialState
        (Demo.batched Demo.failed).dropLast) (.drive 0 Demo.executed)).1.store.run.map
          WorkflowRun.status = some .pending := by
    decide +kernel
  obtain ⟨run, found, terminal | ambiguous | ⟨waiting, _⟩⟩ :=
    rests (ended_of_any_isReturned returned)
  all_goals rw [found, Option.map_some] at status
  all_goals have pending := Option.some.inj status
  · rw [pending] at terminal
    cases terminal
  · rw [pending] at ambiguous
    cases ambiguous
  · rw [pending] at waiting
    cases waiting

end Era.Workflows
