import Era.Workflows.Pinning

/-!
# The parameters that are executed

Parameters pass a redaction before they are stored, and what is stored is what is executed: a
job of a schedule carries the stored parameters of the schedule, and the action of a step is
rendered from the stored parameters of its run.
-/

namespace Era.Workflows

open Era.Core Era.Lib Era.Security Era.Services

/-! ## Rendered actions -/

/-- The parameters of a step once its target is acquired. -/
inductive Targeted (step : WorkflowStep) (rendered : Params) : Params → Prop where
  | untargeted (none_target : step.target = none) : Targeted step rendered rendered
  | acquired (ref : String) (has_target : step.target.isSome = true) :
      Targeted step rendered (rendered.set "element_ref" (.str ref))

/-- An action is the template of a step, rendered from parameters, with the element and the
post-condition that the step has. -/
inductive Renders (service : WorkflowService) (step : WorkflowStep) (params : Params) :
    Action → Prop where
  | plain {rendered effective : Params}
      (rendered_eq : renderWorkflowParams service.platform step params false = .ok rendered)
      (targeted : Targeted step rendered effective)
      (expect_eq : renderStepExpect service.platform step params false = .ok none) :
      Renders service step params { actionType := step.action, params := effective }
  | expecting {rendered effective expect : Params}
      (rendered_eq : renderWorkflowParams service.platform step params false = .ok rendered)
      (targeted : Targeted step rendered effective)
      (expect_eq : renderStepExpect service.platform step params false = .ok (some expect)) :
      Renders service step params
        { actionType := step.action, params := effective.set "expect" (.dict expect) }

/-- What a worker holds has been rendered from parameters. -/
def RendersFor (service : WorkflowService) (definition : WorkflowDefinition) (params : Params)
    (index : Nat) : WorkerStage → Prop
  | .inspect rendered => ∃ step, definition.steps[index]? = some step ∧
      step.target.isSome = true ∧
      renderWorkflowParams service.platform step params false = .ok rendered
  | .request action => ∃ step, definition.steps[index]? = some step ∧
      Renders service step params action
  | _ => True

section Workers

variable {service : WorkflowService} {definition : WorkflowDefinition} {store : Store}
variable {driver : Driver} {index : Nat} {reading : Reading} {step : WorkflowStep}
variable {run : WorkflowRun}

theorem renderExpectation_renders (found : definition.steps[index]? = some step)
    {rendered effective : Params}
    (rendered_eq : renderWorkflowParams service.platform step run.runParams false = .ok rendered)
    (targeted : Targeted step rendered effective) :
    RendersFor service definition run.runParams index
      (renderExpectation service step run effective) := by
  unfold renderExpectation
  split
  next => trivial
  next expect_eq => exact ⟨step, found, .plain rendered_eq targeted expect_eq⟩
  next expect expect_eq => exact ⟨step, found, .expecting rendered_eq targeted expect_eq⟩

theorem prepare_renders (found : definition.steps[index]? = some step) :
    RendersFor service definition run.runParams index (prepare service step run) := by
  unfold prepare
  split
  next => trivial
  next rendered rendered_eq =>
    split
    next has_target => exact ⟨step, found, has_target, rendered_eq⟩
    next untargeted =>
      apply renderExpectation_renders found rendered_eq
      exact .untargeted (Option.not_isSome_iff_eq_none.mp untargeted)

theorem acquire_renders (found : definition.steps[index]? = some step) {rendered : Params}
    (rendered_eq : renderWorkflowParams service.platform step run.runParams false = .ok rendered)
    (has_target : step.target.isSome = true) :
    RendersFor service definition run.runParams index
      (acquire service step run reading rendered) := by
  unfold acquire
  split
  next untargeted =>
    rw [untargeted] at has_target
    cases has_target
  next =>
    split
    next => trivial
    next ref _ => exact renderExpectation_renders found rendered_eq (.acquired ref has_target)

theorem enterWorker_renders {params : Params}
    (renders : ∀ other, RendersFor service definition params other (driver.workers other))
    {stage : WorkerStage} (entered : RendersFor service definition params index stage)
    (other : Nat) :
    RendersFor service definition params other
      ((driver.enterWorker index stage).workers other) := by
  rw [enterWorker_workers]
  by_cases same : other = index
  · rw [same, Function.update_self]
    exact entered
  · rw [Function.update_of_ne same]
    exact renders other

/-- A worker renders from the parameters of its object of the run. -/
theorem work_renders {params : Params} (own : driver.workers index ≠ .idle →
      driver.run.runParams = params)
    (renders : ∀ other, RendersFor service definition params other (driver.workers other))
    (other : Nat) :
    RendersFor service definition params other
      ((work service definition store driver index reading).driver.workers other) := by
  unfold work
  split
  next => exact renders other
  next => exact renders other
  next => exact renders other
  next =>
    split
    next => exact renders other
    next =>
      split
      next => exact enterWorker_renders renders (by trivial) other
      next => exact renders other
  next step found at_budget =>
    split
    next => exact enterWorker_renders renders (by trivial) other
    next =>
      rw [← own (by rw [at_budget]; nofun)] at renders ⊢
      exact enterWorker_renders renders (prepare_renders found) other
  next => exact enterWorker_renders renders (by trivial) other
  next => exact enterWorker_renders renders (by trivial) other
  next step rendered found at_inspect =>
    rw [← own (by rw [at_inspect]; nofun)] at renders ⊢
    have inspected := renders index
    rw [at_inspect] at inspected
    obtain ⟨same, same_found, has_target, rendered_eq⟩ := inspected
    rw [found] at same_found
    obtain rfl := Option.some.inj same_found
    exact enterWorker_renders renders (acquire_renders found rendered_eq has_target) other
  next => exact enterWorker_renders renders (by trivial) other
  next =>
    split
    next => exact renders other
    next => exact enterWorker_renders renders (by trivial) other

/-- A transaction of a call itself only queues workers. -/
theorem drive_renders {params : Params}
    (renders : ∀ other, RendersFor service definition params other (driver.workers other))
    (other : Nat) :
    RendersFor service definition params other
      ((drive service definition store driver reading).driver.workers other) := by
  cases drive_case service definition store driver reading with
  | queues index _ _ _ _ _ workers_eq =>
      rw [workers_eq]
      by_cases same : other = index
      · rw [same, Function.update_self]
        trivial
      · rw [Function.update_of_ne same]
        exact renders other
  | quiet _ workers_eq | selects _ _ _ _ _ _ _ workers_eq | gathers _ _ _ _ _ workers_eq
  | settles _ _ _ _ _ _ _ _ _ workers_eq | skips _ _ _ _ _ workers_eq
  | resolves _ _ _ _ _ workers_eq | creates _ _ _ _ _ _ _ workers_eq =>
      rw [workers_eq]
      exact renders other

end Workers

/-! ## The parameters of a run -/

/-- The workers of a call have rendered from the parameters of the stored run. -/
def CallRenders (service : WorkflowService) (store : Store) (driver : Driver)
    (definition : WorkflowDefinition) : Prop :=
  ∀ run, store.run = some run → ∀ index,
    RendersFor service definition run.runParams index (driver.workers index)

def TrackedRun.Renders (operations : WorkflowOperations) (tracked : TrackedRun) : Prop :=
  ∀ caller, (tracked.engine.drivers caller).stage ≠ .off →
    CallRenders operations.service tracked.engine.store (tracked.engine.drivers caller)
      (tracked.loaded caller)

theorem runParams_of_identity {earlier later : WorkflowRun}
    (same : later.identity = earlier.identity) : later.runParams = earlier.runParams := by
  have params_eq := congrArg WorkflowRun.runParams same
  exact params_eq

theorem callRenders_of_idle {service : WorkflowService} {store : Store} {driver : Driver}
    {definition : WorkflowDefinition} (idle : ∀ index, driver.workers index = .idle) :
    CallRenders service store driver definition := by
  intro run _ index
  rw [idle index]
  trivial

section Calls

variable {looked : WorkflowDefinition → WorkflowRun → Prop}
variable {service : WorkflowService} {definition : WorkflowDefinition} {starting : Option Origin}
variable {store after : Store} {driver : Driver} {reading : Reading}

/-- A run that is stored keeps its parameters. -/
theorem callRenders_of_later (later : store.Later after) {earlier : WorkflowRun}
    (before : store.run = some earlier)
    (renders : ∀ index, RendersFor service definition earlier.runParams index
      (driver.workers index)) : CallRenders service after driver definition := by
  intro run stored index
  obtain ⟨found, found_eq, same⟩ := later.kept earlier before
  rw [stored] at found_eq
  rw [← Option.some.inj found_eq] at same
  rw [runParams_of_identity same]
  exact renders index

theorem CallRenders.frame (renders : CallRenders service store driver definition)
    (sound : CallSound looked store driver definition starting) (later : store.Later after) :
    CallRenders service after driver definition := by
  cases before : store.run with
  | none => exact callRenders_of_idle (sound.entry (Stage.isEntry_of_isFresh (sound.absent before)))
  | some earlier => exact callRenders_of_later later before (renders earlier before)

theorem CallRenders.drive (renders : CallRenders service store driver definition)
    (sound : CallSound looked store driver definition starting) {next : WorkflowDefinition}
    (kept : driver.stage = .load ∨ next = definition) :
    CallRenders service (Workflows.drive service next store driver reading).store
      (Workflows.drive service next store driver reading).driver next := by
  have held : CallRenders service store driver next := by
    obtain at_load | rfl := kept
    · exact callRenders_of_idle (sound.entry (by rw [at_load]; rfl))
    · exact renders
  cases before : store.run with
  | none =>
      have entering := Stage.isEntry_of_isFresh (sound.absent before)
      apply callRenders_of_idle
      rw [drive_worker_of_not_inLoop service next store driver reading
        (Stage.not_inLoop_of_isEntry entering)]
      exact sound.entry entering
  | some earlier =>
      exact callRenders_of_later (drive_later service next) before
        (drive_renders (held earlier before))

theorem CallRenders.work (renders : CallRenders service store driver definition)
    (sound : CallSound looked store driver definition starting) (index : Nat) :
    CallRenders service (Workflows.work service definition store driver index reading).store
      (Workflows.work service definition store driver index reading).driver definition := by
  cases before : store.run with
  | none =>
      have idle := sound.entry (Stage.isEntry_of_isFresh (sound.absent before))
      exact callRenders_of_idle fun other =>
        work_idle service definition store driver reading index (idle other)
  | some earlier =>
      apply callRenders_of_later (work_later service definition index) before
      apply work_renders _ (renders earlier before)
      intro busy
      apply runParams_of_identity
      apply sound.held _ earlier before
      by_contra fresh
      rw [Bool.not_eq_false] at fresh
      exact busy (sound.entry (Stage.isEntry_of_isFresh fresh) index)

end Calls

section Tracked

variable {operations : WorkflowOperations} {state : OperationsState}
variable {looked : Origin → WorkflowDefinition → WorkflowRun → Prop}
variable {tracked next : TrackedRun}

theorem TrackedRun.Renders.moved (renders : tracked.Renders operations)
    (sound : TrackedSound operations looked tracked) {caller : Nat} {move : Move}
    (engine_eq : next.engine = tracked.engine.after caller move)
    (later : tracked.engine.store.Later move.store)
    (loaded_eq : ∀ other, other ≠ caller → next.loaded other = tracked.loaded other)
    (own : move.driver.stage ≠ .off →
      CallRenders operations.service move.store move.driver (next.loaded caller)) :
    next.Renders operations := by
  intro other running
  rw [engine_eq] at running ⊢
  by_cases same : other = caller
  · subst same
    rw [after_drivers_self] at running ⊢
    exact own running
  · rw [after_drivers_ne _ _ same] at running ⊢
    rw [loaded_eq other same]
    exact (renders other running).frame (sound.calls other running) later

/-- A call that is launched has no worker yet. -/
theorem TrackedRun.Renders.launch (renders : tracked.Renders operations)
    (sound : TrackedSound operations looked tracked) (caller : Nat) (ctx : ExecutionContext)
    (allowed : String → Bool) (call : RunCall) {definition : WorkflowDefinition}
    (engine_eq : next.engine = (tracked.after operations definition
      (.launch caller ctx allowed call)).engine)
    (loaded_eq : ∀ other, other ≠ caller → next.loaded other = tracked.loaded other)
    (busy : (tracked.engine.drivers caller).stage ≠ .off →
      next.loaded caller = tracked.loaded caller) : next.Renders operations := by
  by_cases free : (tracked.engine.drivers caller).stage = .off
  · rw [after_launch free] at engine_eq
    exact renders.moved sound engine_eq (.refl _) loaded_eq
      fun _ => callRenders_of_idle fun _ => rfl
  · have same : next.engine = tracked.engine := by
      rw [engine_eq]
      unfold TrackedRun.after engineStep
      dsimp only
      split
      next off => exact absurd off free
      next => rfl
    intro other running
    rw [same] at running ⊢
    by_cases own : other = caller
    · rw [own, busy free]
      exact renders caller (own ▸ running)
    · rw [loaded_eq other own]
      exact renders other running

theorem TrackedRun.Renders.step (renders : tracked.Renders operations)
    (sound : TrackedSound operations looked tracked) (input : Input) :
    (tracked.step operations state input).Renders operations := by
  cases input with
  | launch caller ctx allowed call =>
      cases call with
      | start request => exact renders
      | resume | owner | admin =>
          exact renders.launch sound caller ctx allowed _ rfl (fun _ _ => rfl) fun _ => rfl
  | drive caller reading =>
      have loaded_eq : (tracked.step operations state (.drive caller reading)).loaded caller =
          (consult operations state tracked caller reading).2 := Function.update_self ..
      refine @TrackedRun.Renders.moved operations looked tracked _ renders sound caller
        (Workflows.drive operations.service (consult operations state tracked caller reading).2
          tracked.engine.store (tracked.engine.drivers caller)
          (consult operations state tracked caller reading).1)
        rfl (drive_later _ _) ?_ ?_
      · exact fun other different => Function.update_of_ne different ..
      · intro running
        have was_running : (tracked.engine.drivers caller).stage ≠ .off := by
          intro ended
          rw [drive_off ended] at running
          exact running ended
        rw [loaded_eq]
        apply (renders caller was_running).drive (sound.calls caller was_running)
        by_cases at_load : (tracked.engine.drivers caller).stage = .load
        · exact .inl at_load
        · exact .inr (consult_of_ne_load at_load)
  | work caller index reading =>
      unfold TrackedRun.step TrackedRun.after engineStep
      dsimp only
      split
      next => exact renders
      next running =>
        exact @TrackedRun.Renders.moved operations looked tracked _ renders sound caller
          (Workflows.work operations.service (tracked.loaded caller) tracked.engine.store
            (tracked.engine.drivers caller) index reading)
          rfl (work_later _ _ _) (fun _ _ => rfl)
          fun _ => (renders caller running).work (sound.calls caller running) index
  | crash caller =>
      exact @TrackedRun.Renders.moved operations looked tracked _ renders sound caller
        ⟨tracked.engine.store, (tracked.engine.drivers caller).stop, []⟩ rfl (.refl _)
        (fun _ _ => rfl) fun running => absurd rfl running
  | decide confirmationId status =>
      unfold TrackedRun.step TrackedRun.after engineStep
      dsimp only
      split <;> exact renders

/-- An input of the services keeps the workers of all calls at what they have rendered. -/
theorem renders_step (sound : AllTracked operations state looked)
    (renders : ∀ key, (state.runs key).Renders operations) (input : OperationsInput)
    (key : RunKey) : ((operationsStep operations state input).1.runs key).Renders operations := by
  have change := (operationsStep_change operations state input).runs key
  generalize (operationsStep operations state input).1.runs key = after at change
  cases change with
  | kept => exact renders key
  | @begins caller ctx allowed source origin free =>
      exact (renders key).launch (sound key) caller ctx allowed (.start origin.request) rfl
        (fun other different => Function.update_of_ne different ..) fun busy => absurd free busy
  | steps engineInput => exact (renders key).step (sound key) engineInput

end Tracked

/-! ## The parameters of a workflow schedule -/

section Schedules

variable (operations : WorkflowOperations)

/-- The schedule and the parameters that an input supplies, if the call succeeds. -/
def suppliedParams? (state : OperationsState) : OperationsInput → Option (String × Params)
  | .createSchedule id request now =>
      match createWorkflowSchedule operations state id request now with
      | .ok _ => some (id, request.params)
      | .error _ => none
  | .updateSchedule id actorId change now =>
      match updateWorkflowSchedule operations state.schedules id actorId change now with
      | .ok (some _) => change.params.map fun params => (id, params)
      | .ok none | .error _ => none
  | _ => none

/-- Every row of a workflow schedule holds the redacted form of the parameters that it was
supplied with. -/
def StoresSupplied (id : String) (params : Params) (state : OperationsState) : Prop :=
  Table.Holds WorkflowSchedule.id id
    (fun schedule => schedule.paramsRedacted = redactRunParams params) state.schedules

variable {operations} {state : OperationsState} {id : String}

/-- What a successful `create` stores. -/
theorem createWorkflowSchedule_ok {request : WorkflowScheduleRequest} {now : String}
    {after : List WorkflowSchedule}
    (created : createWorkflowSchedule operations state id request now = .ok after) :
    Table.find WorkflowSchedule.id state.schedules id = none ∧ ∃ schedule,
      after = state.schedules ++ [schedule] ∧ schedule.id = id ∧
        schedule.paramsRedacted = redactRunParams request.params ∧
        request.toRecurrence.firstRun operations.computeNextRun now = .ok schedule.nextRunAt ∧
        schedule.toRecurrence = request.toRecurrence := by
  unfold createWorkflowSchedule at created
  simp only [bind, Except.bind, pure, Except.pure, throw, throwThe, MonadExceptOf.throw] at created
  split at created
  next => cases created
  next =>
    split at created
    next => cases created
    next =>
      split at created
      next => cases created
      next =>
        split at created
        next => cases created
        next =>
          split at created
          next => cases created
          next nextRunAt first =>
            split at created
            next => cases created
            next =>
              split at created
              next => cases created
              next absent =>
                rw [Option.isSome_iff_ne_none, ne_eq, not_not] at absent
                exact ⟨absent, _, (Except.ok.inj created).symm, rfl, rfl, first, rfl⟩

/-- What a successful `update` stores. -/
theorem updateWorkflowSchedule_ok {table after : List WorkflowSchedule} {actorId : String}
    {change : WorkflowScheduleChange} {now : String}
    (updated : updateWorkflowSchedule operations table id actorId change now = .ok (some after)) :
    ∃ schedule nextRunAt, Table.find WorkflowSchedule.id table id = some schedule ∧
      (after = Table.store WorkflowSchedule.id table
        { changeWorkflowSchedule schedule change with nextRunAt }) ∧
      (changeWorkflowSchedule schedule change).toRecurrence.changedRun operations.computeNextRun
        change.toRecurrenceChange schedule.nextRunAt now = .ok nextRunAt := by
  unfold updateWorkflowSchedule at updated
  split at updated
  next => cases updated
  next schedule found =>
    simp only [bind, Except.bind, pure, Except.pure, throw, throwThe, MonadExceptOf.throw]
      at updated
    split at updated
    next => cases updated
    next =>
      split at updated
      next => cases updated
      next nextRunAt next_run =>
        split at updated
        next => cases updated
        next =>
          exact ⟨schedule, nextRunAt, (Option.filter_eq_some_iff.mp found).1,
            (Option.some.inj (Except.ok.inj updated)).symm, next_run⟩

/-- A workflow schedule is stored with the redacted form of the parameters that it is supplied
with. -/
theorem StoresSupplied.supplied {input : OperationsInput} {params : Params}
    (supplied : suppliedParams? operations state input = some (id, params)) :
    StoresSupplied id params (operationsStep operations state input).1 := by
  unfold suppliedParams? at supplied
  unfold operationsStep
  cases input with
  | createSchedule created request now =>
      dsimp only at supplied ⊢
      cases made : createWorkflowSchedule operations state created request now with
      | error failure =>
          rw [made] at supplied
          cases supplied
      | ok after =>
          rw [made] at supplied
          cases supplied
          obtain ⟨absent, schedule, rfl, _, stored, _⟩ := createWorkflowSchedule_ok made
          unfold StoresSupplied
          exact Table.Holds.insert (.of_absent absent) fun _ => stored
  | updateSchedule updated actorId change now =>
      dsimp only at supplied ⊢
      cases made : updateWorkflowSchedule operations state.schedules updated actorId change now with
      | error failure =>
          rw [made] at supplied
          cases supplied
      | ok written =>
          rw [made] at supplied
          cases written with
          | none => cases supplied
          | some after =>
              obtain ⟨given, change_eq, pair_eq⟩ := Option.map_eq_some_iff.mp supplied
              obtain ⟨rfl, rfl⟩ := Prod.mk.inj pair_eq
              obtain ⟨schedule, nextRunAt, found, rfl, _⟩ := updateWorkflowSchedule_ok made
              have named := (Table.find_eq_some found).2
              unfold StoresSupplied
              refine Table.Holds.of_store named ?_
              simp [changeWorkflowSchedule, change_eq]
  | _ => cases supplied

theorem StoresSupplied.of_schedules {params : Params} {after : OperationsState}
    (stores : StoresSupplied id params state) (same : after.schedules = state.schedules) :
    StoresSupplied id params after := by
  unfold StoresSupplied
  rw [same]
  exact stores

theorem beginRun_schedules (state : OperationsState) (caller : Nat) (ctx : ExecutionContext)
    (allowed : String → Bool) (key : RunKey) (source : Source) (request : StartRequest)
    (schedule : Option WorkflowSchedule) :
    (beginRun operations state caller ctx allowed key source request schedule).schedules =
      state.schedules := by
  unfold beginRun
  dsimp only
  split
  next => rfl
  next => split <;> rfl

/-- An input that supplies a schedule with no parameters leaves its parameters alone. -/
theorem StoresSupplied.step {input : OperationsInput} {params : Params}
    (stores : StoresSupplied id params state)
    (untouched : ∀ other, suppliedParams? operations state input ≠ some (id, other)) :
    StoresSupplied id params (operationsStep operations state input).1 := by
  unfold suppliedParams? at untouched
  unfold operationsStep
  cases input with
  | publish | listDue | run => exact stores
  | register =>
      dsimp only
      split <;> exact stores
  | start => exact stores.of_schedules (beginRun_schedules ..)
  | tick =>
      dsimp only
      split
      next => exact stores
      next =>
        unfold tickSchedule
        dsimp only
        split
        next => exact stores
        next => exact stores.of_schedules (beginRun_schedules ..)
  | deleteSchedule deleted actorId =>
      dsimp only
      unfold StoresSupplied deleteWorkflowSchedule
      dsimp only
      split
      next => exact stores
      next => exact Table.Holds.delete stores deleted
  | createSchedule created request now =>
      dsimp only at untouched ⊢
      split
      next after made =>
        rw [made] at untouched
        obtain ⟨_, schedule, rfl, named, _⟩ := createWorkflowSchedule_ok made
        apply Table.Holds.insert stores
        intro same
        rw [named] at same
        subst same
        exact absurd rfl (untouched _)
      next => exact stores
  | updateSchedule updated actorId change now =>
      dsimp only at untouched ⊢
      split
      next after made =>
        rw [made] at untouched
        obtain ⟨schedule, nextRunAt, found, rfl, _⟩ := updateWorkflowSchedule_ok made
        obtain ⟨in_table, named⟩ := Table.find_eq_some found
        apply Table.Holds.store stores
        intro same_id
        cases given : change.params with
        | some other =>
            have updated_eq : updated = id := named.symm.trans same_id
            rw [given, updated_eq] at untouched
            exact absurd rfl (untouched other)
        | none =>
            simp only [changeWorkflowSchedule, given]
            exact stores schedule in_table same_id
      next => exact stores
      next => exact stores
  | advance schedule now runId =>
      unfold StoresSupplied advanceWorkflowSchedule
      dsimp only
      split
      next => exact stores
      next refreshed found =>
        exact Table.Holds.store stores fun same =>
          stores refreshed (Table.find_eq_some found).1 same

end Schedules

/-! ## What is executed -/

section Supplied

variable {operations : WorkflowOperations} {state : OperationsState}

/-- Every action that is dispatched is rendered from the stored parameters of its run; these
are the ones that `start` was called with exactly if those may be stored.  A tick calls it with
the stored parameters of the schedule. -/
def DispatchesStored (operations : WorkflowOperations) (state : OperationsState)
    (input : OperationsInput) : Prop :=
  ∀ key definition index action,
    .dispatched key definition index action ∈ (operationsStep operations state input).2 →
    ∃ run origin step, (state.runs key).engine.store.run = some run ∧
      (state.runs key).origin = some origin ∧ definition.steps[index]? = some step ∧
      Renders operations.service step run.runParams action ∧
      run.runParams = redactRunParams origin.request.params ∧
      (run.runParams = origin.request.params ↔
        storableRunParams origin.request.params = true) ∧
      ∀ schedule, origin.schedule = some schedule →
        origin.request.params = schedule.paramsRedacted

/-- A run of a schedule has been started with the stored parameters of the schedule. -/
def StartedWithStored (origin : Origin) : Prop :=
  ∀ schedule, origin.schedule = some schedule → origin.request.params = schedule.paramsRedacted

theorem startedWithStored_begun {input : OperationsInput} {source : Source} {origin : Origin}
    (scheduled : ∀ schedule, origin.schedule = some schedule →
      ScheduledStart state input source origin.request schedule) : StartedWithStored origin := by
  intro schedule for_schedule
  obtain ⟨_, _, runId, request_eq⟩ := scheduled schedule for_schedule
  rw [request_eq]

theorem AllTracked.dispatchesStored (all : AllTracked operations state (HasChecksum operations))
    (renders : ∀ key, (state.runs key).Renders operations)
    (origins : ∀ key, OriginsHave StartedWithStored (state.runs key)) (input : OperationsInput) :
    DispatchesStored operations state input := by
  intro key definition index action shown
  obtain ⟨caller, reading, _, dispatched⟩ := dispatchedBy_of_mem shown
  obtain ⟨run, origin, stored, has_origin, created, _⟩ := all.dispatched dispatched
  have rendered := renders key caller dispatched.running run stored index
  rw [dispatched.ready, ← dispatched.loaded] at rendered
  obtain ⟨step, found, rendered⟩ := rendered
  refine ⟨run, origin, step, stored, has_origin, found, rendered, created.runParams, ?_,
    (origins key).origin origin has_origin⟩
  rw [created.runParams]
  exact redactRunParams_eq_self_iff _

/-- What is submitted for a schedule and what is rendered for a run are the supplied
parameters exactly if these may be stored. -/
theorem executes_supplied (operations : WorkflowOperations) (service : ScheduleService) :
    (∀ table call id params middle now submit submission,
      accepted? service table call = some (id, params) →
      (schedules service).Admits
        (fun rows other => ∀ given, accepted? service rows other ≠ some (id, given))
        (scheduleStep service table call).1 middle →
      submission ∈ (scheduleStep service
        ((schedules service).stateAfter (scheduleStep service table call).1 middle)
        (.tick now submit)).2 →
      submission.scheduleId = id →
      (submission.action.params = params ↔
        storableParams (service.secretFields submission.action.actionType) params = true)) ∧
    (∀ inputs, (workflows operations).Admits (DispatchesStored operations) {} inputs) ∧
    ∀ state input id params middle now schedule,
      suppliedParams? operations state input = some (id, params) →
      (workflows operations).Admits
        (fun reached other => ∀ given, suppliedParams? operations reached other ≠ some (id, given))
        (operationsStep operations state input).1 middle →
      schedule ∈ listDue WorkflowSchedule.toRecurrence WorkflowSchedule.nextRunAt
        ((workflows operations).stateAfter (operationsStep operations state input).1
          middle).schedules now 50 →
      schedule.id = id →
      schedule.paramsRedacted = redactRunParams params ∧
        (redactRunParams schedule.paramsRedacted = params ↔ storableRunParams params = true) := by
  refine ⟨?_, ?_, ?_⟩
  · intro table call id params middle now submit submission accepted untouched submitted its_own
    rw [submitted_params accepted untouched submitted its_own]
    exact redactParams_eq_self_iff _ _
  · intro inputs
    have anything : (workflows operations).Admits (fun _ _ => True) {} inputs :=
      fun _ _ _ _ => trivial
    refine Machine.Admits.of_invariant
      (motive := fun state => AllTracked operations state (HasChecksum operations) ∧
        (∀ key, (state.runs key).Renders operations) ∧
        ∀ key, OriginsHave StartedWithStored (state.runs key))
      ⟨allTracked_initial operations _, fun _ _ running => absurd rfl running,
        fun _ => originsHave_initial _⟩ ?_ ?_ anything
    · rintro state input ⟨all, renders, origins⟩ _
      refine ⟨all.checksum_step input, renders_step all renders input, fun key => ?_⟩
      exact (origins key).change ((operationsStep_change operations state input).runs key)
        fun _ _ _ scheduled => startedWithStored_begun scheduled
    · rintro state input ⟨all, renders, origins⟩ _
      exact all.dispatchesStored renders origins input
  · intro state input id params middle now schedule supplied untouched due its_own
    have stores : StoresSupplied id params
        ((workflows operations).stateAfter (operationsStep operations state input).1 middle) :=
      Machine.invariant_of_admits (StoresSupplied.supplied supplied)
        (fun _ _ stores untouched => stores.step untouched) untouched
    have stored := stores schedule (mem_of_mem_listDue due) its_own
    refine ⟨stored, ?_⟩
    rw [stored, redactRunParams_idem]
    exact redactRunParams_eq_self_iff params

end Supplied

namespace Demo

def scheduleService : ScheduleService :=
  { platform := operations.config.platform
    catalog := operations.config.catalog
    computeNextRun := operations.computeNextRun }

/-- Alice schedules an action with one parameter. -/
def scheduled (name : String) : ScheduleCall :=
  .create "schedule"
    { actorId := "alice"
      name := "daily"
      actionType := "browser.inspect"
      actionParams := some [(name, .str "1 Main Street")]
      intervalSeconds := some 60 } "now"

/-- The jobs of the next tick. -/
def submitted (name : String) : List Submission :=
  (scheduleStep scheduleService (scheduleStep scheduleService [] (scheduled name)).1
    (.tick "now" fun _ => .ok "job")).2

/-- A job of the schedule whose values pass a check. -/
def carries (check : Value → Bool) (submission : Submission) : Bool :=
  submission.scheduleId == "schedule" && submission.action.actionType == "browser.inspect" &&
    submission.action.params.all fun field => check field.2

end Demo

theorem executes_supplied_demo :
    ∃ submission ∈ Demo.submitted "street",
      submission.action.params = [("street", .str "1 Main Street")] := by
  have submitted : (Demo.submitted "street").any (Demo.carries fun _ => true) = true := by
    decide +kernel
  obtain ⟨submission, member, carried⟩ := List.any_eq_true.mp submitted
  simp only [Demo.carries, Bool.and_eq_true, beq_iff_eq] at carried
  obtain ⟨⟨its_own, type_eq⟩, _⟩ := carried
  refine ⟨submission, member, ?_⟩
  apply ((executes_supplied Demo.operations Demo.scheduleService).1 [] (Demo.scheduled "street")
    "schedule" [("street", .str "1 Main Street")] [] "now" (fun _ => .ok "job") submission rfl
    (Machine.admits_nil _ _) member its_own).mpr
  rw [type_eq]
  decide +kernel

/-- The name of an ordinary parameter hints at a secret: the marker is executed. -/
theorem not_executes_supplied :
    ¬∀ table call id params middle now submit submission,
      accepted? Demo.scheduleService table call = some (id, params) →
      (schedules Demo.scheduleService).Admits
        (fun rows other => ∀ given, accepted? Demo.scheduleService rows other ≠ some (id, given))
        (scheduleStep Demo.scheduleService table call).1 middle →
      submission ∈ (scheduleStep Demo.scheduleService
        ((schedules Demo.scheduleService).stateAfter
          (scheduleStep Demo.scheduleService table call).1 middle)
        (.tick now submit)).2 →
      submission.scheduleId = id → submission.action.params = params := by
  intro all
  have submitted : (Demo.submitted "shipping_address").any (Demo.carries isMarker) = true := by
    decide +kernel
  obtain ⟨submission, member, carried⟩ := List.any_eq_true.mp submitted
  simp only [Demo.carries, Bool.and_eq_true, beq_iff_eq] at carried
  obtain ⟨⟨its_own, _⟩, marker⟩ := carried
  have same := all [] (Demo.scheduled "shipping_address") "schedule"
    [("shipping_address", .str "1 Main Street")] [] "now" (fun _ => .ok "job") submission rfl
    (Machine.admits_nil _ _) member its_own
  rw [same] at marker
  revert marker
  decide

end Era.Workflows
