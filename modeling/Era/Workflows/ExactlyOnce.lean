import Era.Workflows.Steps

/-!
# Exactly once

A step is claimed by a read of its row and a write of `RUNNING` in one transaction, and
its action is passed to the execution service later.  As long as every claim finds the row
pending, a step is claimed once and its action is passed on once, whatever the calls on the
run do and in whatever order.
-/

namespace Era.Workflows

open Era.Core Era.Lib Era.Services

def EngineEvent.isRequest (index : Nat) : EngineEvent → Bool
  | .requested other _ => other == index
  | _ => false

/-- Whether a step is among the dispatched ones can be computed. -/
theorem exists_requested_of_any {index : Nat} {events : List EngineEvent}
    (passed : events.any (EngineEvent.isRequest index) = true) :
    ∃ action, EngineEvent.requested index action ∈ events := by
  obtain ⟨event, member, requests⟩ := List.any_eq_true.mp passed
  cases event with
  | requested other action =>
      rw [EngineEvent.isRequest, beq_iff_eq] at requests
      exact ⟨action, requests ▸ member⟩
  | inspected | slotClaimed | slotReleased | ended => cases requests

/-- How often the action of a step has been passed to the execution service. -/
def requestCount (index : Nat) (events : List EngineEvent) : Nat :=
  events.countP (EngineEvent.isRequest index)

@[simp] theorem requestCount_nil (index : Nat) : requestCount index [] = 0 := rfl

@[simp] theorem requestCount_append (index : Nat) (before after : List EngineEvent) :
    requestCount index (before ++ after) =
      requestCount index before + requestCount index after :=
  List.countP_append

theorem requestCount_eq_zero {events : List EngineEvent}
    (silent : ∀ index action, EngineEvent.requested index action ∉ events) (index : Nat) :
    requestCount index events = 0 := by
  rw [requestCount, List.countP_eq_zero]
  intro event member requests
  cases event with
  | requested other action => exact silent other action member
  | inspected | slotClaimed | slotReleased | ended => cases requests

theorem requestCount_requested (index other : Nat) (action : Action) :
    requestCount index [.requested other action] = if other = index then 1 else 0 := by
  simp [requestCount, EngineEvent.isRequest]

/-! ## Rows that only lose steps to claim -/

/-- Rows that replace others: none has been claimed more often, and none is pending anew. -/
structure Replaces (before after : List WorkflowStepRun) : Prop where
  length_eq : after.length = before.length
  row : ∀ (index : Nat) (row : WorkflowStepRun), after[index]? = some row →
    ∃ earlier : WorkflowStepRun, before[index]? = some earlier ∧
      row.attempt = earlier.attempt ∧ (row.status = .pending → earlier.status = .pending)

theorem Replaces.refl (rows : List WorkflowStepRun) : Replaces rows rows :=
  ⟨rfl, fun _ row found => ⟨row, found, rfl, id⟩⟩

theorem Replaces.modify (rows : List WorkflowStepRun) (index : Nat)
    {change : WorkflowStepRun → WorkflowStepRun}
    (attempt_eq : ∀ row, (change row).attempt = row.attempt)
    (pending : ∀ row, (change row).status = .pending → row.status = .pending) :
    Replaces rows (rows.modify index change) := by
  constructor
  · simp
  · intro other row found
    rw [List.getElem?_modify] at found
    obtain ⟨earlier, stored, rfl⟩ := Option.map_eq_some_iff.mp found
    refine ⟨earlier, stored, ?_⟩
    split
    next => exact ⟨attempt_eq earlier, pending earlier⟩
    next => exact ⟨rfl, id⟩

theorem Replaces.set {rows : List WorkflowStepRun} {index : Nat} {row earlier : WorkflowStepRun}
    (stored : rows[index]? = some earlier) (attempt_eq : row.attempt = earlier.attempt)
    (pending : row.status = .pending → earlier.status = .pending) :
    Replaces rows (rows.set index row) := by
  constructor
  · simp
  · intro other found at_other
    rw [List.getElem?_set] at at_other
    split at at_other
    next same =>
      subst same
      split at at_other
      next =>
        obtain rfl := Option.some.inj at_other
        exact ⟨earlier, stored, attempt_eq, pending⟩
      next => cases at_other
    next => exact ⟨found, at_other, rfl, id⟩

theorem resolveStep_pending (row : WorkflowStepRun)
    (pending : (resolveStep row).status = .pending) : row.status = .pending := by
  unfold resolveStep at pending
  split at pending
  next => cases pending
  next => exact pending

theorem resolveStep_attempt (row : WorkflowStepRun) :
    (resolveStep row).attempt = row.attempt := by
  unfold resolveStep
  split <;> rfl

theorem skipConditionalStep_pending (row : WorkflowStepRun)
    (pending : (skipConditionalStep row).status = .pending) : row.status = .pending := by
  unfold skipConditionalStep at pending
  split at pending
  next => cases pending
  next => exact pending

theorem skipConditionalStep_attempt (row : WorkflowStepRun) :
    (skipConditionalStep row).attempt = row.attempt := by
  unfold skipConditionalStep
  split <;> rfl

/-! ## The invariant -/

/-- A step that is pending has not been claimed and nobody works on it; a claimed step is
worked on by one call, and as long as that call may still pass its action on, nobody has
done so. -/
structure Exclusive (seen : List EngineEvent) (state : EngineState) : Prop where
  unstarted : state.store.run = none → state.store.steps = []
  rowless : state.store.steps = [] → (∀ index, requestCount index seen = 0) ∧
    ∀ caller index, ((state.drivers caller).workers index).isActive = false
  pending : ∀ (index : Nat) (row : WorkflowStepRun), state.store.steps[index]? = some row →
    row.status = .pending →
      row.attempt = 0 ∧ requestCount index seen = 0 ∧
        ∀ caller, ((state.drivers caller).workers index).isActive = false
  attempts : ∀ (index : Nat) (row : WorkflowStepRun), state.store.steps[index]? = some row →
    row.attempt ≤ 1
  single : ∀ caller other index, ((state.drivers caller).workers index).mayRequest = true →
    ((state.drivers other).workers index).mayRequest = true → caller = other
  fresh : ∀ caller index, ((state.drivers caller).workers index).mayRequest = true →
    requestCount index seen = 0
  once : ∀ index, requestCount index seen ≤ 1

theorem exclusive_initial : Exclusive [] initialState := by
  constructor <;> simp [initialState, WorkerStage.isActive, WorkerStage.mayRequest]

/-- A step that passes nothing on, makes no step pending and lets no worker claim one. -/
theorem Exclusive.quiet {seen events : List EngineEvent} {state next : EngineState}
    (exclusive : Exclusive seen state)
    (silent : ∀ index action, EngineEvent.requested index action ∉ events)
    (run_none : next.store.run = none → state.store.run = none)
    (replaces : Replaces state.store.steps next.store.steps)
    (active : ∀ caller index, ((next.drivers caller).workers index).isActive = true →
      (next.drivers caller).workers index = (state.drivers caller).workers index) :
    Exclusive (seen ++ events) next := by
  have count_eq (index : Nat) : requestCount index (seen ++ events) = requestCount index seen := by
    rw [requestCount_append, requestCount_eq_zero silent, Nat.add_zero]
  have inactive (caller index : Nat)
      (earlier : ((state.drivers caller).workers index).isActive = false) :
      ((next.drivers caller).workers index).isActive = false := by
    by_contra still
    rw [Bool.not_eq_false] at still
    rw [active caller index still, earlier] at still
    cases still
  have requesting (caller index : Nat)
      (may : ((next.drivers caller).workers index).mayRequest = true) :
      ((state.drivers caller).workers index).mayRequest = true := by
    rw [← active caller index (WorkerStage.isActive_of_mayRequest may), may]
  constructor
  · intro none_after
    have empty := exclusive.unstarted (run_none none_after)
    have length_eq := replaces.length_eq
    rw [empty] at length_eq
    exact List.eq_nil_of_length_eq_zero length_eq
  · intro empty
    have length_eq := replaces.length_eq
    rw [empty] at length_eq
    obtain ⟨counts, idle⟩ := exclusive.rowless (List.eq_nil_of_length_eq_zero length_eq.symm)
    exact ⟨fun index => by rw [count_eq, counts], fun caller index =>
      inactive caller index (idle caller index)⟩
  · intro index row found pending
    obtain ⟨earlier, stored, attempt_eq, was_pending⟩ := replaces.row index row found
    obtain ⟨attempt, count, idle⟩ := exclusive.pending index earlier stored (was_pending pending)
    exact ⟨attempt_eq.trans attempt, by rw [count_eq, count], fun caller =>
      inactive caller index (idle caller)⟩
  · intro index row found
    obtain ⟨earlier, stored, attempt_eq, _⟩ := replaces.row index row found
    rw [attempt_eq]
    exact exclusive.attempts index earlier stored
  · intro caller other index one another
    exact exclusive.single caller other index (requesting caller index one)
      (requesting other index another)
  · intro caller index may
    rw [count_eq]
    exact exclusive.fresh caller index (requesting caller index may)
  · intro index
    rw [count_eq]
    exact exclusive.once index

/-! ## Steps of the engine -/

section Preserved

variable {service : WorkflowService} {definition : WorkflowDefinition}
variable {seen : List EngineEvent} {state : EngineState}

/-- A call whose workers are as before, idle or newly queued. -/
theorem after_active {caller : Nat} {move : Move}
    (workers : ∀ index, (move.driver.workers index).isActive = true →
      move.driver.workers index = (state.drivers caller).workers index) (other index : Nat)
    (active : (((state.after caller move).drivers other).workers index).isActive = true) :
    ((state.after caller move).drivers other).workers index =
      (state.drivers other).workers index := by
  by_cases same : other = caller
  · subst same
    rw [after_drivers_self] at active ⊢
    exact workers index active
  · rw [after_drivers_ne state move same]

theorem Exclusive.creates {caller : Nat} {move : Move} (exclusive : Exclusive seen state)
    (silent : ∀ index action, EngineEvent.requested index action ∉ move.events)
    (none_before : state.store.run = none) (created : move.store.run.isSome = true)
    (steps_eq : move.store.steps = definition.steps.map fun _ => {})
    (workers_eq : move.driver.workers = (state.drivers caller).workers) :
    Exclusive (seen ++ move.events) (state.after caller move) := by
  obtain ⟨counts, idle⟩ := exclusive.rowless (exclusive.unstarted none_before)
  have count_eq (index : Nat) : requestCount index (seen ++ move.events) = 0 := by
    rw [requestCount_append, requestCount_eq_zero silent, counts]
  have inactive (other index : Nat) :
      (((state.after caller move).drivers other).workers index).isActive = false := by
    by_cases same : other = caller
    · subst same
      rw [after_drivers_self, workers_eq]
      exact idle other index
    · rw [after_drivers_ne state move same]
      exact idle other index
  have closed (other index : Nat)
      (may : (((state.after caller move).drivers other).workers index).mayRequest = true) :
      False := by
    have active := WorkerStage.isActive_of_mayRequest may
    rw [inactive other index] at active
    cases active
  have attempt (index : Nat) (row : WorkflowStepRun)
      (found : (state.after caller move).store.steps[index]? = some row) : row.attempt = 0 := by
    rw [after_store, steps_eq, List.getElem?_map, Option.map_eq_some_iff] at found
    obtain ⟨_, _, rfl⟩ := found
    rfl
  constructor
  · intro none_after
    rw [after_store] at none_after
    rw [none_after] at created
    cases created
  · exact fun _ => ⟨count_eq, inactive⟩
  · exact fun index row found _ =>
      ⟨attempt index row found, count_eq index, fun other => inactive other index⟩
  · intro index row found
    rw [attempt index row found]
    exact Nat.zero_le 1
  · exact fun one _ index may _ => (closed one index may).elim
  · exact fun other index may => (closed other index may).elim
  · intro index
    rw [count_eq]
    exact Nat.zero_le 1

/-- A transaction of a call passes nothing on and claims nothing. -/
theorem Exclusive.drive (exclusive : Exclusive seen state) (caller : Nat) (reading : Reading) :
    Exclusive (seen ++ (drive service definition state.store (state.drivers caller) reading).events)
      (state.after caller
        (drive service definition state.store (state.drivers caller) reading)) := by
  have silent :=
    drive_not_requested service definition state.store (state.drivers caller) reading
  have run_none : (Workflows.drive service definition state.store (state.drivers caller)
      reading).store.run = none → state.store.run = none := by
    intro none_after
    by_contra some_before
    have still := (drive_run service definition state.store (state.drivers caller)
      reading).run_isSome (Option.isSome_iff_ne_none.mpr some_before)
    rw [none_after] at still
    cases still
  have kept {move : Move} (workers_eq : move.driver.workers = (state.drivers caller).workers)
      (index : Nat) (_ : (move.driver.workers index).isActive = true) :
      move.driver.workers index = (state.drivers caller).workers index :=
    congrFun workers_eq index
  revert silent run_none
  cases drive_case service definition state.store (state.drivers caller) reading with
  | quiet steps_eq workers_eq =>
      intro silent run_none
      apply exclusive.quiet silent run_none
      · rw [after_store, steps_eq]
        exact .refl _
      · exact after_active (kept workers_eq)
  | selects at_head store_eq none_waiting unsettled batch_eq unsubmitted_eq awaited_eq workers_eq =>
      intro silent run_none
      apply exclusive.quiet silent run_none
      · rw [after_store, store_eq]
        exact .refl _
      · exact after_active (kept workers_eq)
  | queues index steps_eq batch_eq executes unsubmitted_eq awaited_eq workers_eq =>
      intro silent run_none
      apply exclusive.quiet silent run_none
      · rw [after_store, steps_eq]
        exact .refl _
      · apply after_active
        intro other active
        rw [workers_eq, Function.update_apply] at active ⊢
        split at active
        next => cases active
        next different => rw [if_neg different]
  | gathers at_head store_eq unsubmitted_eq awaited_eq rows_eq workers_eq =>
      intro silent run_none
      apply exclusive.quiet silent run_none
      · rw [after_store, store_eq]
        exact .refl _
      · exact after_active (kept workers_eq)
  | settles index change idle changed attempt_eq steps_eq unsubmitted_eq awaited_eq rows_eq
    workers_eq =>
      intro silent run_none
      apply exclusive.quiet silent run_none
      · rw [after_store, steps_eq]
        apply Replaces.modify _ _ attempt_eq
        intro row pending
        have done := changed row
        rw [pending] at done
        simp at done
      · exact after_active (kept workers_eq)
  | skips index at_skip steps_eq unsubmitted_eq awaited_eq workers_eq =>
      intro silent run_none
      apply exclusive.quiet silent run_none
      · rw [after_store, steps_eq]
        exact .modify _ _ skipConditionalStep_attempt skipConditionalStep_pending
      · exact after_active (kept workers_eq)
  | resolves at_resolve index steps_eq unsubmitted_eq awaited_eq workers_eq =>
      intro silent run_none
      apply exclusive.quiet silent run_none
      · rw [after_store, steps_eq]
        exact .modify _ _ resolveStep_attempt resolveStep_pending
      · exact after_active (kept workers_eq)
  | creates request at_create none_before created steps_eq unsubmitted_eq awaited_eq workers_eq =>
      intro silent _
      exact exclusive.creates silent none_before created steps_eq workers_eq

/-- Only one worker of one call is at a new stage. -/
theorem after_workers {caller index : Nat} {move : Move} {stage : WorkerStage}
    (workers_eq : move.driver.workers =
      Function.update (state.drivers caller).workers index stage) (other place : Nat) :
    ((state.after caller move).drivers other).workers place =
      if other = caller ∧ place = index then stage else (state.drivers other).workers place := by
  by_cases same : other = caller
  · subst same
    rw [after_drivers_self, workers_eq, Function.update_apply]
    simp
  · rw [after_drivers_ne state move same, if_neg fun both => same both.1]

/-- The claim of a pending step. -/
theorem Exclusive.claims (exclusive : Exclusive seen state) {caller index : Nat} {move : Move}
    {row : WorkflowStepRun} (found : state.store.steps[index]? = some row)
    (pending : row.status = .pending) (run_eq : move.store.run = state.store.run)
    (steps_eq : move.store.steps = state.store.steps.set index (claimStep row))
    (workers_eq : move.driver.workers =
      Function.update (state.drivers caller).workers index .budget) :
    Exclusive seen (state.after caller move) := by
  obtain ⟨attempt, count, idle⟩ := exclusive.pending index row found pending
  have stored_cases (place : Nat) (later : WorkflowStepRun)
      (stored : (state.after caller move).store.steps[place]? = some later) :
      place = index ∧ later = claimStep row ∨
        place ≠ index ∧ state.store.steps[place]? = some later := by
    rw [after_store, steps_eq, List.getElem?_set] at stored
    split at stored
    next same =>
      split at stored
      next => exact .inl ⟨same.symm, (Option.some.inj stored).symm⟩
      next => cases stored
    next different => exact .inr ⟨Ne.symm different, stored⟩
  have nonempty_after : (state.after caller move).store.steps ≠ [] := by
    obtain ⟨bound, _⟩ := List.getElem?_eq_some_iff.mp found
    rw [after_store, steps_eq, ← List.length_pos_iff, List.length_set]
    omega
  have worker := after_workers workers_eq
  have earlier (other place : Nat) (elsewhere : ¬(other = caller ∧ place = index)) :
      ((state.after caller move).drivers other).workers place =
        (state.drivers other).workers place := by
    rw [worker, if_neg elsewhere]
  have closed (other : Nat)
      (may : ((state.drivers other).workers index).mayRequest = true) : False := by
    have active := WorkerStage.isActive_of_mayRequest may
    rw [idle other] at active
    cases active
  constructor
  · intro none_after
    rw [after_store, run_eq] at none_after
    rw [exclusive.unstarted none_after] at found
    cases found
  · exact fun empty => absurd empty nonempty_after
  · intro place later stored still
    obtain ⟨rfl, rfl⟩ | ⟨different, stored⟩ := stored_cases place later stored
    · cases still
    · obtain ⟨unclaimed, unrequested, inactive⟩ := exclusive.pending place later stored still
      refine ⟨unclaimed, unrequested, fun other => ?_⟩
      rw [earlier other place fun both => different both.2]
      exact inactive other
  · intro place later stored
    obtain ⟨rfl, rfl⟩ | ⟨different, stored⟩ := stored_cases place later stored
    · simp [claimStep, attempt]
    · exact exclusive.attempts place later stored
  · intro one another place first second
    rw [worker] at first second
    split at first
    next here =>
      obtain ⟨rfl, rfl⟩ := here
      split at second
      next same => exact same.1.symm
      next => exact (closed another second).elim
    next =>
      split at second
      next here =>
        obtain ⟨rfl, rfl⟩ := here
        exact (closed one first).elim
      next => exact exclusive.single one another place first second
  · intro other place may
    rw [worker] at may
    split at may
    next here => exact here.2 ▸ count
    next => exact exclusive.fresh other place may
  · exact exclusive.once

/-- The action of a claimed step is passed on. -/
theorem Exclusive.requests (exclusive : Exclusive seen state) {caller index : Nat} {move : Move}
    {action : Action} {mark : StepMark}
    (was_request : (state.drivers caller).workers index = .request action)
    (run_eq : move.store.run = state.store.run)
    (steps_eq : move.store.steps = state.store.steps)
    (workers_eq : move.driver.workers =
      Function.update (state.drivers caller).workers index (.mark mark)) :
    Exclusive (seen ++ [.requested index action]) (state.after caller move) := by
  have may : ((state.drivers caller).workers index).mayRequest = true := by
    rw [was_request]
    rfl
  have unrequested := exclusive.fresh caller index may
  have claimed : ¬((state.drivers caller).workers index).isActive = false := by
    rw [WorkerStage.isActive_of_mayRequest may]
    simp
  have count_eq (place : Nat) : requestCount place (seen ++ [.requested index action]) =
      if place = index then 1 else requestCount place seen := by
    rw [requestCount_append, requestCount_requested]
    split
    next same =>
      subst same
      rw [if_pos rfl, unrequested]
    next different => rw [if_neg (Ne.symm different), Nat.add_zero]
  have worker := after_workers workers_eq
  constructor
  · rw [after_store, run_eq, steps_eq]
    exact exclusive.unstarted
  · intro empty
    rw [after_store, steps_eq] at empty
    exact absurd ((exclusive.rowless empty).2 caller index) claimed
  · intro place row found pending
    rw [after_store, steps_eq] at found
    obtain ⟨attempt, count, idle⟩ := exclusive.pending place row found pending
    have elsewhere : place ≠ index := by
      rintro rfl
      exact claimed (idle caller)
    refine ⟨attempt, by rw [count_eq, if_neg elsewhere, count], fun other => ?_⟩
    rw [worker, if_neg fun both => elsewhere both.2]
    exact idle other
  · rw [after_store, steps_eq]
    exact exclusive.attempts
  · intro one another place first second
    rw [worker] at first second
    split at first
    next => cases first
    next =>
      split at second
      next => cases second
      next => exact exclusive.single one another place first second
  · intro other place open_
    rw [worker] at open_
    split at open_
    next => cases open_
    next elsewhere =>
      have different : place ≠ index := by
        rintro rfl
        exact elsewhere ⟨exclusive.single other caller place open_ may, rfl⟩
      rw [count_eq, if_neg different]
      exact exclusive.fresh other place open_
  · intro place
    rw [count_eq]
    split
    next => exact Nat.le_refl 1
    next => exact exclusive.once place

/-- A claimed step goes on, or is marked. -/
theorem Exclusive.advances (exclusive : Exclusive seen state) {caller index : Nat} {move : Move}
    {stage : WorkerStage}
    (was_active : ((state.drivers caller).workers index).isActive = true)
    (opens : stage.mayRequest = true →
      ((state.drivers caller).workers index).mayRequest = true)
    (silent : ∀ other action, EngineEvent.requested other action ∉ move.events)
    (run_none : move.store.run = none → state.store.run = none)
    (replaces : Replaces state.store.steps move.store.steps)
    (marked : ∀ row, move.store.steps[index]? = some row → row.status ≠ .pending)
    (workers_eq : move.driver.workers =
      Function.update (state.drivers caller).workers index stage) :
    Exclusive (seen ++ move.events) (state.after caller move) := by
  have count_eq (place : Nat) :
      requestCount place (seen ++ move.events) = requestCount place seen := by
    rw [requestCount_append, requestCount_eq_zero silent, Nat.add_zero]
  have worker := after_workers workers_eq
  have was_open (other place : Nat)
      (may : (((state.after caller move).drivers other).workers place).mayRequest = true) :
      ((state.drivers other).workers place).mayRequest = true := by
    rw [worker] at may
    split at may
    next here =>
      obtain ⟨rfl, rfl⟩ := here
      exact opens may
    next => exact may
  constructor
  · intro none_after
    have empty := exclusive.unstarted (run_none none_after)
    have idle := (exclusive.rowless empty).2 caller index
    rw [was_active] at idle
    cases idle
  · intro empty
    have length_eq := replaces.length_eq
    rw [after_store] at empty
    rw [empty] at length_eq
    have idle := (exclusive.rowless (List.eq_nil_of_length_eq_zero length_eq.symm)).2 caller index
    rw [was_active] at idle
    cases idle
  · intro place row found pending
    rw [after_store] at found
    obtain ⟨earlier, stored, attempt_eq, was_pending⟩ := replaces.row place row found
    obtain ⟨attempt, count, idle⟩ :=
      exclusive.pending place earlier stored (was_pending pending)
    have elsewhere : place ≠ index := by
      rintro rfl
      exact marked row found pending
    refine ⟨attempt_eq.trans attempt, by rw [count_eq, count], fun other => ?_⟩
    rw [worker, if_neg fun both => elsewhere both.2]
    exact idle other
  · intro place row found
    obtain ⟨earlier, stored, attempt_eq, _⟩ := replaces.row place row found
    rw [attempt_eq]
    exact exclusive.attempts place earlier stored
  · intro one another place first second
    exact exclusive.single one another place (was_open one place first)
      (was_open another place second)
  · intro other place may
    rw [count_eq]
    exact exclusive.fresh other place (was_open other place may)
  · intro place
    rw [count_eq]
    exact exclusive.once place

/-- Whether the next transaction of a worker claims its step. -/
def Driver.claims (driver : Driver) (index : Nat) : Bool :=
  match driver.stage with
  | .off => false
  | _ => (driver.workers index).isQueued && driver.mayStart index

/-- A claim finds its step pending. -/
def ClaimsPending (state : EngineState) : Input → Prop
  | .work caller index _ =>
      (state.drivers caller).claims index = true →
        statusAt state.store.steps index = .pending
  | .launch .. | .drive .. | .crash .. | .decide .. => True

theorem Driver.claims_of_queued {driver : Driver} {index : Nat} (running : driver.stage ≠ .off)
    (queued : driver.workers index = .queued) (free : driver.mayStart index = true) :
    driver.claims index = true := by
  unfold Driver.claims
  split
  next off => exact absurd off running
  next =>
    rw [queued, free]
    rfl

instance (state : EngineState) (input : Input) : Decidable (ClaimsPending state input) := by
  unfold ClaimsPending
  split <;> infer_instance

/-- A transaction of a worker that claims nothing but pending steps. -/
theorem Exclusive.work (exclusive : Exclusive seen state) {caller index : Nat} {reading : Reading}
    (running : (state.drivers caller).stage ≠ .off)
    (allowed : ClaimsPending state (.work caller index reading)) :
    Exclusive (seen ++ (work service definition state.store (state.drivers caller) index
        reading).events)
      (state.after caller
        (work service definition state.store (state.drivers caller) index reading)) := by
  have run_none : (Workflows.work service definition state.store (state.drivers caller) index
      reading).store.run = none → state.store.run = none := by
    intro none_after
    obtain ⟨run_eq, _⟩ | ⟨message, _, move_eq⟩ :=
      work_run service definition state.store (state.drivers caller) index reading
    · exact run_eq ▸ none_after
    · rw [move_eq] at none_after
      exact Option.map_eq_none_iff.mp none_after
  have pending {row : WorkflowStepRun} (queued : (state.drivers caller).workers index = .queued)
      (free : (state.drivers caller).mayStart index = true)
      (found : state.store.steps[index]? = some row) : row.status = .pending := by
    have status := allowed (Driver.claims_of_queued running queued free)
    rwa [statusAt, found] at status
  have cases := work_case service definition state.store (state.drivers caller) index reading
  generalize Workflows.work service definition state.store (state.drivers caller) index reading =
    move at run_none cases ⊢
  cases cases with
  | stays =>
      refine exclusive.quiet (by simp) run_none (.refl _) ?_
      exact after_active fun _ _ => rfl
  | claims queued free found =>
      rw [List.append_nil]
      exact exclusive.claims found (pending queued free found) rfl rfl rfl
  | proceeds stage was_open active steps_eq stage_eq rows_eq batch_eq workers_eq silent =>
      have was_active := WorkerStage.isActive_of_mayRequest was_open
      apply exclusive.advances was_active (fun _ => was_open) silent run_none
        (steps_eq ▸ .refl _) _ workers_eq
      intro row found pending
      have idle := (exclusive.pending index row (steps_eq ▸ found) pending).2.2 caller
      rw [was_active] at idle
      cases idle
  | requests step reading found was_request =>
      exact exclusive.requests was_request (await_run ..) (await_steps ..) rfl
  | marks was_mark found =>
      apply exclusive.advances (by rw [was_mark]; rfl) (by simp [WorkerStage.mayRequest])
        (by simp) run_none _ _ rfl
      · apply Replaces.set found (StepMark.apply_attempt ..)
        intro pending
        rw [StepMark.apply_status] at pending
        exact absurd pending (StepMark.status_ne_pending _)
      · intro row stored pending
        obtain ⟨bound, _⟩ := List.getElem?_eq_some_iff.mp found
        rw [List.getElem?_set_self bound] at stored
        obtain rfl := Option.some.inj stored
        rw [StepMark.apply_status] at pending
        exact absurd pending (StepMark.status_ne_pending _)

/-- A step whose claims find their step pending keeps the invariant. -/
theorem Exclusive.step (exclusive : Exclusive seen state) {input : Input}
    (allowed : ClaimsPending state input) :
    Exclusive (seen ++ (engineStep service definition state input).2)
      (engineStep service definition state input).1 := by
  cases input with
  | launch caller ctx permitted call =>
      unfold engineStep
      dsimp only
      split
      next =>
        refine exclusive.quiet (by simp) ?_ (.refl _) (after_active ?_)
        · exact id
        · exact fun _ active => nomatch active
      next => rwa [List.append_nil]
  | drive caller reading => exact exclusive.drive caller reading
  | work caller index reading =>
      unfold engineStep
      dsimp only
      split
      next => rwa [List.append_nil]
      next running => exact exclusive.work running allowed
  | crash caller =>
      refine exclusive.quiet (by simp [engineStep]) ?_ (.refl _) (after_active ?_)
      · exact id
      · exact fun _ _ => rfl
  | decide confirmationId status =>
      unfold engineStep
      dsimp only
      split
      next => rwa [List.append_nil]
      next => exact exclusive.quiet (by simp) id (.refl _) fun _ _ _ => rfl

variable (service definition)

theorem exclusive_stateAfter {inputs : List Input}
    (admitted : (engine service definition).Admits ClaimsPending initialState inputs) :
    Exclusive ((engine service definition).trace id initialState inputs)
      ((engine service definition).stateAfter initialState inputs) :=
  Machine.trace_invariant_of_admits id exclusive_initial
    (fun _ _ _ exclusive allowed => exclusive.step allowed) admitted

/-- As long as every claim finds its step pending, the action of a step is passed to the
execution service at most once. -/
theorem requestCount_le_one {inputs : List Input}
    (admitted : (engine service definition).Admits ClaimsPending initialState inputs)
    (index : Nat) :
    requestCount index ((engine service definition).trace id initialState inputs) ≤ 1 :=
  (exclusive_stateAfter service definition admitted).once index

end Preserved

namespace Demo

/-- A call resumes the run while the call that started it is about to claim the first
step. -/
def overlapping : List Input :=
  start 0 :: moves 0 7 ++ launch 1 .resume :: moves 1 6 ++ works 0 0 3 ++ works 1 0 3

end Demo

theorem requestCount_le_one_demo :
    requestCount 0 ((engine Demo.service Demo.pair).trace id initialState
      (Demo.overlapping.take 18)) ≤ 1 :=
  requestCount_le_one Demo.service Demo.pair (by decide +kernel) 0

/-- Both calls claim the first step and pass its action on. -/
theorem not_requestCount_le_one :
    ¬∀ inputs index, requestCount index ((engine Demo.service Demo.pair).trace id initialState
      inputs) ≤ 1 := by
  intro once
  have twice : requestCount 0 ((engine Demo.service Demo.pair).trace id initialState
      Demo.overlapping) = 2 := by
    decide +kernel
  have bound := once Demo.overlapping 0
  omega

end Era.Workflows
