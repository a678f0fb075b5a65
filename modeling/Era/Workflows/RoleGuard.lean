import Era.Workflows.Completion

/-!
# The role guard

A call carries the role guard of its principal.  A step that runs alone is checked against
it; the members of a batch are not, and an operator's `continue` goes on without a guard.
-/

namespace Era.Workflows

open Era.Core Era.Lib Era.Services

/-! ## What a call passes on -/

/-- The members of a batch that a call has admitted and not yet submitted. -/
def Stage.submitting : Stage → List Nat
  | .persist (.submit first rest) => first :: rest
  | _ => []

theorem Stage.submitting_eq_nil {stage : Stage} (unsubmitted : stage.unsubmitted = []) :
    stage.submitting = [] := by
  unfold Stage.submitting
  split
  next => cases unsubmitted
  next => rfl

section Guard

variable (definition : WorkflowDefinition) (guard : String → Bool)

/-- The action of a step passes a role guard. -/
def Permits (index : Nat) : Prop :=
  ∀ step, definition.steps[index]? = some step → guard step.action = true

instance (index : Nat) : Decidable (Permits definition guard index) :=
  decidable_of_iff ((definition.steps[index]?.all fun step => guard step.action) = true) <| by
    unfold Permits
    cases definition.steps[index]? <;> simp

/-- Every step of the workflow passes a role guard. -/
def PermitsAll : Prop := ∀ step ∈ definition.steps, guard step.action = true

/-- What a call has passed on, or is about to, passes the guard of its principal. -/
structure Guarded (driver : Driver) : Prop where
  own : driver.allowed = guard ∨ PermitsAll definition guard
  submitting : ∀ index ∈ driver.stage.submitting, Permits definition guard index
  working : ∀ index, (driver.workers index).isWorking = true → Permits definition guard index

/-- What the guard lets pass when a call continues an ambiguous run or admits a batch. -/
def StageLets (stage : Stage) : Prop :=
  match stage with
  | .resolve => PermitsAll definition guard
  | .budget first rest => ∀ index ∈ first :: rest, Permits definition guard index
  | _ => True

instance (stage : Stage) : Decidable (StageLets definition guard stage) := by
  unfold StageLets PermitsAll
  split <;> infer_instance

/-- The guard lets all members of a batch pass, and all steps where an ambiguous run
continues; the call of the principal is the last that the caller makes. -/
def GuardLets (caller : Nat) (state : EngineState) : Input → Prop
  | .launch other .. => other ≠ caller
  | .drive other _ => other = caller → StageLets definition guard (state.drivers caller).stage
  | .work .. | .crash _ | .decide .. => True

instance (caller : Nat) (state : EngineState) (input : Input) :
    Decidable (GuardLets definition guard caller state input) := by
  dsimp only [GuardLets]
  induction input using Input.casesOn <;> infer_instance

variable {definition guard}
variable {service : WorkflowService} {store : Store} {driver : Driver} {reading : Reading}

/-- A call that submits nothing and keeps its guard and its workers. -/
theorem Guarded.goes {next : Driver} (guarded : Guarded definition guard driver)
    (allowed_eq : next.allowed = driver.allowed) (workers_eq : next.workers = driver.workers)
    (submitting : next.stage.submitting = []) : Guarded definition guard next where
  own := allowed_eq ▸ guarded.own
  submitting := by simp [submitting]
  working := workers_eq ▸ guarded.working

/-- A step that passes the guard is queued. -/
theorem Guarded.queues {next : Driver} {index : Nat} (guarded : Guarded definition guard driver)
    (permits : Permits definition guard index) (allowed_eq : next.allowed = driver.allowed)
    (workers_eq : next.workers = Function.update driver.workers index .queued)
    (submitting : ∀ other ∈ next.stage.submitting, Permits definition guard other) :
    Guarded definition guard next where
  own := allowed_eq ▸ guarded.own
  submitting := submitting
  working other works := by
    by_cases same : other = index
    · rwa [same]
    · rw [workers_eq, Function.update_of_ne same] at works
      exact guarded.working other works

/-- A transaction keeps a call guarded if the guard lets pass what is not checked. -/
theorem Guarded.transition {after : Store} {next : Driver}
    (guarded : Guarded definition guard driver)
    (lets : StageLets definition guard driver.stage)
    (transition : Transition service definition store driver reading after next)
    (running : next.stage ≠ .off) : Guarded definition guard next := by
  cases transition with
  | waits => exact guarded
  | stops => exact absurd rfl running
  | starts stage starting =>
      refine guarded.goes rfl rfl ?_
      cases stage <;> first | rfl | cases starting
  | creates | operates | cancels | continues | resumes | loads | rejects | fails | gathers
  | completes | selects | batches | awaits | reconciles | rechecks | pauses | finishes | selected
  | reloads | forbids | diverges | skipsCondition | classifies | advances | idles | refuses
  | overspends | regroups | regrouped => exact guarded.goes rfl rfl rfl
  | resolves at_resolve after =>
      rw [at_resolve] at lets
      exact ⟨.inr lets, by simp [Stage.submitting], guarded.working⟩
  | refreshes looping settled =>
      exact guarded.goes rfl rfl (Stage.submitting_eq_nil (unsubmitted_refresh settled))
  | classified at_step finished settled =>
      exact guarded.goes rfl rfl (Stage.submitting_eq_nil (unsubmitted_classify settled))
  | examines looping stage examining fewer =>
      refine guarded.goes rfl rfl ?_
      cases stage <;> first | rfl | cases examining
  | @dispatches index at_persist step found permitted not_untrue =>
      have permits : Permits definition guard index := by
        intro other same
        obtain rfl := Option.some.inj (found.symm.trans same)
        obtain same_guard | all := guarded.own
        · rwa [← same_guard]
        · exact all step (List.mem_of_getElem? found)
      exact guarded.queues permits rfl rfl (by simp [Stage.submitting])
  | admits at_budget =>
      rw [at_budget] at lets
      exact ⟨guarded.own, lets, guarded.working⟩
  | submits at_persist =>
      have submitting := guarded.submitting
      rw [at_persist] at submitting
      exact guarded.queues (submitting _ (List.mem_cons_self ..)) rfl rfl fun other member =>
        submitting other (List.mem_cons_of_mem _ member)
  | joins at_persist =>
      have submitting := guarded.submitting
      rw [at_persist] at submitting
      exact guarded.queues (submitting _ (List.mem_cons_self ..)) rfl rfl
        (by simp [Stage.submitting])

theorem Guarded.work (guarded : Guarded definition guard driver) (index : Nat) :
    Guarded definition guard (work service definition store driver index reading).driver := by
  obtain ⟨stage_eq, _, _, allowed_eq⟩ := work_keeps service definition store driver index reading
  refine ⟨allowed_eq ▸ guarded.own, stage_eq ▸ guarded.submitting, ?_⟩
  exact fun other working =>
    guarded.working other (work_isWorking service definition store driver index reading working)

/-- While the call of a principal is on its way, it stays guarded. -/
def CallGuarded (definition : WorkflowDefinition) (guard : String → Bool) (caller : Nat)
    (state : EngineState) : Prop :=
  (state.drivers caller).stage ≠ .off → Guarded definition guard (state.drivers caller)

theorem CallGuarded.step {caller : Nat} {state : EngineState} {input : Input}
    (guarded : CallGuarded definition guard caller state)
    (lets : GuardLets definition guard caller state input) :
    CallGuarded definition guard caller (engineStep service definition state input).1 := by
  have elsewhere {other : Nat} (different : other ≠ caller) (move : Move) :
      CallGuarded definition guard caller (state.after other move) := by
    unfold CallGuarded
    rwa [after_drivers_ne state move different.symm]
  cases input with
  | launch other ctx permitted call =>
      unfold engineStep
      dsimp only
      split
      next => exact elsewhere lets _
      next => exact guarded
  | drive other reading =>
      by_cases same : other = caller
      · subst same
        intro running
        rw [engineStep, after_drivers_self] at running ⊢
        have was_running : (state.drivers other).stage ≠ .off := by
          intro off
          rw [drive_off off, off] at running
          exact running rfl
        exact (guarded was_running).transition (lets rfl)
          (drive_transition service definition state.store (state.drivers other) reading) running
      · exact elsewhere same _
  | work other index reading =>
      unfold engineStep
      dsimp only
      split
      next => exact guarded
      next was_running =>
        by_cases same : other = caller
        · subst same
          intro _
          rw [after_drivers_self]
          exact (guarded was_running).work index
        · exact elsewhere same _
  | crash other =>
      by_cases same : other = caller
      · subst same
        intro running
        rw [engineStep, after_drivers_self] at running
        exact absurd rfl running
      · exact elsewhere same _
  | decide confirmationId status =>
      unfold engineStep
      dsimp only
      split <;> exact guarded

variable (service definition guard)

/-- What a worker of a call dispatches passes a role guard. -/
def DispatchesPermitted (caller : Nat) (state : EngineState) (input : Input) : Prop :=
  ∀ index reading action, input = .work caller index reading →
    EngineEvent.requested index action ∈ (engineStep service definition state input).2 →
      Permits definition guard index

theorem Guarded.launched (ctx : ExecutionContext) (call : RunCall) :
    Guarded definition guard { stage := call.stage, ctx, allowed := guard } where
  own := .inl rfl
  submitting := by cases call <;> simp [RunCall.stage, Stage.submitting]
  working index working := nomatch working

/-- From any history on, what the call of a principal dispatches passes the guard with which
the call has been made, wherever the guard lets pass what the engine does not check. -/
theorem dispatches_permitted {before after : List Input} {caller : Nat} {ctx : ExecutionContext}
    {call : RunCall}
    (free : (((engine service definition).stateAfter initialState before).drivers caller).stage =
      .off)
    (lets : (engine service definition).Admits (GuardLets definition guard caller)
      ((engine service definition).stateAfter initialState
        (before ++ [.launch caller ctx guard call])) after) :
    (engine service definition).Admits (DispatchesPermitted definition guard service caller)
      ((engine service definition).stateAfter initialState
        (before ++ [.launch caller ctx guard call])) after := by
  have holds (state : EngineState) (input : Input)
      (guarded : CallGuarded definition guard caller state)
      (_ : GuardLets definition guard caller state input) :
      DispatchesPermitted definition guard service caller state input := by
    rintro index reading action rfl requested
    obtain ⟨running, requests⟩ := requested_by_work requested
    apply (guarded running).working index
    rw [requests]
    rfl
  have launched : CallGuarded definition guard caller
      ((engine service definition).stateAfter initialState
        (before ++ [.launch caller ctx guard call])) := by
    have stepped := launch_step service definition free ctx guard call
    rw [Machine.stateAfter_append, Machine.stateAfter_cons, Machine.stateAfter_nil]
    intro _
    rw [engine_step, stepped, after_drivers_self]
    exact .launched definition guard ctx call
  exact .of_invariant launched (fun _ _ guarded lets => guarded.step lets) holds lets

end Guard

namespace Demo

/-- A role that may do nothing. -/
def nobody (_ : String) : Bool := false

/-- A run whose first call has crashed before its first step. -/
def begun : List Input := start 0 :: moves 0 2 ++ [.crash 0]

/-- Another call comes to the dispatch of the first step of the batch. -/
def dispatching : List Input := moves 1 6 ++ works 1 0 3

end Demo

theorem dispatches_permitted_demo :
    (engine Demo.service Demo.together).Admits
      (DispatchesPermitted Demo.together (fun _ => true) Demo.service 1)
      ((engine Demo.service Demo.together).stateAfter initialState
        (Demo.begun ++ [.launch 1 { actorId := "alice" } (fun _ => true) .resume]))
      Demo.dispatching :=
  dispatches_permitted Demo.together (fun _ => true) Demo.service rfl (by decide +kernel)

/-- A batch is dispatched on behalf of a principal that may do nothing. -/
theorem not_dispatches_permitted :
    ¬∀ (guard : String → Bool) (before after : List Input),
      (((engine Demo.service Demo.together).stateAfter initialState before).drivers 1).stage =
        .off →
      (∀ ctx allowed call, Input.launch 1 ctx allowed call ∉ after) →
      (engine Demo.service Demo.together).Admits
        (DispatchesPermitted Demo.together guard Demo.service 1)
        ((engine Demo.service Demo.together).stateAfter initialState
          (before ++ [.launch 1 { actorId := "alice" } guard .resume])) after := by
  intro permitted
  have passed : (engineStep Demo.service Demo.together
      ((engine Demo.service Demo.together).stateAfter initialState
        (Demo.begun ++ [.launch 1 { actorId := "alice" } Demo.nobody .resume] ++
          Demo.dispatching.take 8)) (.work 1 0 Demo.executed)).2.any
      (EngineEvent.isRequest 0) = true := by
    decide +kernel
  obtain ⟨action, requested⟩ := exists_requested_of_any passed
  have no_launch : ∀ ctx allowed call, Input.launch 1 ctx allowed call ∉ Demo.dispatching := by
    simp [Demo.dispatching, Demo.moves, Demo.works]
  have permits := permitted Demo.nobody Demo.begun Demo.dispatching rfl no_launch
    (Demo.dispatching.take 8) (.work 1 0 Demo.executed) [] rfl 0 Demo.executed action rfl
  rw [← Machine.stateAfter_append] at permits
  exact Bool.false_ne_true (permits requested _ rfl)

end Era.Workflows
