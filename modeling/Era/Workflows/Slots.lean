import Era.Workflows.Governance
import Era.Workflows.Rest
import Era.Workflows.Tracking

/-!
# Who holds a slot

A run holds the slot of its workflow from its admission on until the slot is released.  In a
sequential history in which no budget is refused, one transaction claims the slot, one
releases it, and all others leave it alone.
-/

namespace Era.Workflows

open Era.Core Era.Lib Era.Services

/-- The workflow in whose slot an unfinished run is. -/
def Store.slot? (store : Store) : Option String :=
  (store.run.filter fun run => !run.status.terminal).map WorkflowRun.workflowName

/-- The slot of a run as a call sees it: an admitted run has one before its row is created, and
a finished run has one until it is released. -/
def slotAt (definition : WorkflowDefinition) (store : Store) (driver : Driver) : Option String :=
  match driver.stage with
  | .startCreate _ => some definition.name
  | .release _ => some driver.run.workflowName
  | _ => store.slot?

/-- The stages at which the slot of a run cannot be told from its row. -/
def Stage.isSlotted : Stage → Bool
  | .startCreate _ | .release _ => true
  | _ => false

/-- A worker whose budget has been refused. -/
def WorkerStage.isRefused : WorkerStage → Bool
  | .overspent _ | .overspentRelease _ => true
  | _ => false

/-- A call in a sequential history in which no budget is refused.  All calls that hold the run
hold it as it is stored, and unfinished until they finish it. -/
structure Accounted (actor : String) (store : Store) (driver : Driver) : Prop where
  owned : ∀ run, store.run = some run → run.actorId = actor
  mine : ∀ request, driver.stage.request? = some request → driver.ctx.actorId = actor
  absent : driver.stage.isStarting = true → store.run = none
  own : driver.stage.holdsRun = true → store.run = some driver.run
  loads : driver.stage = .load → ∀ run, store.run = some run → run.status.terminal = false
  unfinished : driver.stage.holdsRun = true → driver.run.status.terminal = false
  released : ∀ ending, driver.stage = .release ending →
    store.run = some driver.run ∧ driver.run.status.terminal = true
  unrefused : driver.stage.isRefused = false
  granted : ∀ index, (driver.workers index).isRefused = false

theorem Store.slot?_none {store : Store} (absent : store.run = none) : store.slot? = none := by
  rw [Store.slot?, absent]
  rfl

theorem Store.slot?_terminal {store : Store} {run : WorkflowRun} (stored : store.run = some run)
    (terminal : run.status.terminal = true) : store.slot? = none := by
  rw [Store.slot?, stored, Option.filter_some, terminal]
  rfl

theorem Store.slot?_unfinished {store : Store} {run : WorkflowRun} (stored : store.run = some run)
    (unfinished : run.status.terminal = false) : store.slot? = some run.workflowName := by
  rw [Store.slot?, stored, Option.filter_some, unfinished]
  rfl

theorem slotAt_unslotted {definition : WorkflowDefinition} {store : Store} {driver : Driver}
    (unslotted : driver.stage.isSlotted = false) :
    slotAt definition store driver = store.slot? := by
  unfold slotAt
  split
  next at_create =>
    rw [at_create] at unslotted
    cases unslotted
  next at_release =>
    rw [at_release] at unslotted
    cases unslotted
  next => rfl

theorem slotAt_off {definition : WorkflowDefinition} {store : Store} {driver : Driver}
    (off : driver.stage = .off) : slotAt definition store driver = store.slot? :=
  slotAt_unslotted (by rw [off]; rfl)

section Calls

variable {service : WorkflowService} {definition : WorkflowDefinition}
variable {store : Store} {driver : Driver} {reading : Reading}

/-! ## One transaction -/

/-- The actor of a run is the caller of the `start` that creates it. -/
theorem drive_actor {run : WorkflowRun}
    (stored : (drive service definition store driver reading).store.run = some run) :
    (∃ earlier, store.run = some earlier ∧ run.actorId = earlier.actorId) ∨
      (∃ request, driver.stage.request? = some request) ∧ run.actorId = driver.ctx.actorId := by
  have kept {earlier : Option WorkflowRun} {loaded changed : WorkflowRun}
      (written : earlier.map (updateRun loaded changed) = some run) :
      ∃ before, earlier = some before ∧ run.actorId = before.actorId := by
    obtain ⟨before, found, rfl⟩ := Option.map_eq_some_iff.mp written
    exact ⟨before, found, rfl⟩
  cases drive_run service definition store driver reading with
  | kept run_eq => exact .inl ⟨run, run_eq ▸ stored, rfl⟩
  | writes update at_persist run_eq => exact .inl (kept (run_eq ▸ stored))
  | resolves at_resolve run_eq => exact .inl (kept (run_eq ▸ stored))
  | @creates created none_before _ run_eq request asked =>
      refine .inr ⟨⟨request, asked⟩, ?_⟩
      unfold drive at stored
      cases at_stage : driver.stage with
      | startCreate =>
          rw [at_stage] at stored
          unfold startCreate at stored
          dsimp only at stored
          split at stored
          next found => rw [none_before] at found; cases found
          next => cases stored; rfl
      | startRejected =>
          rw [at_stage] at stored
          unfold startRejected at stored
          dsimp only at stored
          split at stored
          next found => rw [none_before] at found; cases found
          next => cases stored; rfl
      | startToken =>
          rw [at_stage] at stored
          unfold startToken at stored
          dsimp only at stored
          repeat' split at stored
          all_goals rw [none_before] at stored; cases stored
      | startClaim =>
          rw [at_stage] at stored
          dsimp only at stored
          split at stored
          all_goals rw [none_before] at stored; cases stored
      | _ => rw [at_stage] at asked; cases asked

theorem Transition.ctx {after : Store} {next : Driver} {request : StartRequest}
    (transition : Transition service definition store driver reading after next)
    (asks : next.stage.request? = some request) : next.ctx = driver.ctx := by
  cases transition with
  | waits | starts => rfl
  | examines looping stage examining =>
      cases stage <;> first | cases examining; done | cases asks
  | _ => cases asks

/-- A call that is about to create a run has found none. -/
theorem drive_isStarting
    (starting : (drive service definition store driver reading).driver.stage.isStarting = true)
    (absent : driver.stage.isStarting = true → store.run = none) :
    (drive service definition store driver reading).store.run = none := by
  have transition := drive_transition service definition store driver reading
  have request (stage : Stage) (is_starting : stage.isStarting = true) :
      ∃ request, stage.request? = some request := by
    cases stage <;> first | exact ⟨_, rfl⟩ | cases is_starting
  obtain ⟨asked, asks⟩ := request _ starting
  have was_asked := transition.request? asks
  cases at_stage : driver.stage with
  | startToken =>
      unfold drive at starting ⊢
      rw [at_stage] at starting ⊢
      unfold startToken at starting ⊢
      dsimp only at starting ⊢
      split at starting
      next => cases starting
      next allowed =>
        rw [if_neg allowed]
        split at starting
        next => cases starting
        next none_found => rw [none_found]
  | startClaim =>
      unfold drive
      rw [at_stage]
      dsimp only
      split <;> exact absent (by rw [at_stage]; rfl)
  | startRejected =>
      have none_found := absent (by rw [at_stage]; rfl)
      unfold drive at starting
      rw [at_stage] at starting
      unfold startRejected at starting
      dsimp only at starting
      rw [none_found] at starting
      cases starting
  | startCreate =>
      have none_found := absent (by rw [at_stage]; rfl)
      unfold drive at starting
      rw [at_stage] at starting
      unfold startCreate at starting
      dsimp only at starting
      rw [none_found] at starting
      cases starting
  | _ => rw [at_stage] at was_asked; cases was_asked

theorem Transition.toLoad {after : Store} {next : Driver}
    (transition : Transition service definition store driver reading after next)
    (at_load : next.stage = .load) :
    after = store ∧ driver.stage = .load ∨ (∃ request, driver.stage = .startCreate request) ∨
      driver.stage = .resolve ∨
        after = store ∧ ∃ run, store.run = some run ∧ run.status.terminal = false := by
  cases transition with
  | waits => exact .inl ⟨rfl, at_load⟩
  | creates request at_create => exact .inr (.inl ⟨request, at_create⟩)
  | resolves at_resolve => exact .inr (.inr (.inl at_resolve))
  | resumes found unfinished => exact .inr (.inr (.inr ⟨rfl, _, found, unfinished⟩))
  | starts stage starting => cases stage <;> first | cases starting; done | cases at_load
  | examines looping stage examining =>
      cases stage <;> first | cases examining; done | cases at_load
  | _ => cases at_load

theorem updateRun_resolved (run : WorkflowRun) : updateRun run run.resolved run = run.resolved := by
  simp [updateRun, WorkflowRun.resolved]

/-- `_advance` begins with an unfinished run. -/
theorem Accounted.drive_loads {actor : String} (accounted : Accounted actor store driver)
    (at_load : (drive service definition store driver reading).driver.stage = .load)
    {run : WorkflowRun}
    (stored : (drive service definition store driver reading).store.run = some run) :
    run.status.terminal = false := by
  obtain ⟨same, was_load⟩ | ⟨request, at_create⟩ | at_resolve |
      ⟨same, earlier, found, unfinished⟩ :=
    (drive_transition service definition store driver reading).toLoad at_load
  · exact accounted.loads was_load run (same ▸ stored)
  · unfold drive startCreate at stored
    rw [at_create] at stored
    dsimp only at stored
    rw [accounted.absent (by rw [at_create]; rfl)] at stored
    cases stored
    rfl
  · unfold drive resolve at stored
    rw [at_resolve] at stored
    dsimp only at stored
    rw [accounted.own (by rw [at_resolve]; rfl), Option.map_some, updateRun_resolved] at stored
    cases stored
    rfl
  · rw [same, found] at stored
    cases stored
    exact unfinished

/-- A call holds an unfinished run until it finishes it. -/
theorem Accounted.drive_unfinished {actor : String} (accounted : Accounted actor store driver)
    {after : Store} {next : Driver}
    (transition : Transition service definition store driver reading after next)
    (holding : next.stage.holdsRun = true) : next.run.status.terminal = false := by
  have stored {run : WorkflowRun} (found : store.run = some run)
      (held : driver.stage.holdsRun = true) : run.status.terminal = false := by
    have own := accounted.own held
    rw [found] at own
    cases own
    exact accounted.unfinished held
  have looping {stage : Stage} (at_stage : driver.stage = stage)
      (looping : stage.inLoop = true := by rfl) : driver.run.status.terminal = false :=
    accounted.unfinished (Stage.holdsRun_of_inLoop (at_stage ▸ looping))
  cases transition with
  | waits => exact accounted.unfinished holding
  | stops | creates | operates | resumes | resolves | finishes => cases holding
  | starts stage starting => cases stage <;> first | cases starting; done | cases holding
  | cancels found unfinished => exact unfinished
  | continues found ambiguous =>
      rw [Driver.goto, Driver.restored, ambiguous]
      rfl
  | loads at_load found | rejects at_load found => exact accounted.loads at_load _ found
  | reloads at_reload found =>
      exact stored found (Stage.holdsRun_of_inLoop (by rw [at_reload]; rfl))
  | fails in_loop | examines in_loop => exact looping rfl in_loop
  | refreshes at_stage | reconciles at_stage =>
      obtain at_stage | at_stage := at_stage <;> exact looping at_stage
  | regroups at_stage =>
      obtain at_stage | ⟨at_stage, _⟩ := at_stage <;> exact looping at_stage
  | forbids | diverges | dispatches => rfl
  | overspends at_persist =>
      have unrefused := accounted.unrefused
      rw [at_persist] at unrefused
      cases unrefused
  | gathers at_stage | completes at_stage | selects at_stage | batches at_stage | awaits at_stage
  | rechecks at_stage | pauses at_stage | selected at_stage | skipsCondition at_stage
  | classifies at_stage | classified at_stage | advances at_stage | idles at_stage
  | refuses at_stage | admits at_stage | submits at_stage | joins at_stage
  | regrouped at_stage => exact looping at_stage

/-- A finished run is released by the call that has finished it. -/
theorem Accounted.drive_released {actor : String} (accounted : Accounted actor store driver)
    {after : Store} {next : Driver} {ending : Ending}
    (transition : Transition service definition store driver reading after next)
    (at_release : next.stage = .release ending) :
    after.run = some next.run ∧ next.run.status.terminal = true := by
  cases transition with
  | waits => exact accounted.released ending at_release
  | starts stage starting => cases stage <;> first | cases starting; done | cases at_release
  | examines looping stage examining =>
      cases stage <;> first | cases examining; done | cases at_release
  | @finishes update ending at_persist ends =>
      refine ⟨write_own (accounted.own (by rw [at_persist]; rfl)) update, ?_⟩
      cases update with
      | failed | completed | cancelled => rfl
      | _ => cases ends
  | _ => cases at_release

theorem Accounted.drive {actor : String} (accounted : Accounted actor store driver)
    (granted : ∀ first rest, driver.stage = .budget first rest → refusal service reading = none) :
    Accounted actor (drive service definition store driver reading).store
      (drive service definition store driver reading).driver := by
  have transition := drive_transition service definition store driver reading
  refine {
    owned := ?_
    mine := ?_
    absent := fun starting => drive_isStarting starting accounted.absent
    own := transition.own accounted.own
    loads := fun at_load _ => accounted.drive_loads at_load
    unfinished := accounted.drive_unfinished transition
    released := fun _ => accounted.drive_released transition
    unrefused := transition.unrefused accounted.unrefused granted
    granted := ?_ }
  · intro run stored
    obtain ⟨earlier, found, same⟩ | ⟨⟨request, asked⟩, same⟩ := drive_actor stored
    · exact same.trans (accounted.owned earlier found)
    · exact same.trans (accounted.mine request asked)
  · intro request asks
    rw [transition.ctx asks]
    exact accounted.mine request (transition.request? asks)
  · intro index
    obtain same | queued := drive_worker service definition store driver reading index
    · rw [same]
      exact accounted.granted index
    · rw [queued]
      rfl

/-! ## The slot -/

theorem Transition.toSlotted {after : Store} {next : Driver}
    (transition : Transition service definition store driver reading after next)
    (slotted : next.stage.isSlotted = true) :
    driver.stage.isSlotted = true ∨ (∃ request, driver.stage.request? = some request) ∨
      ∃ update, driver.stage = .persist update ∧ update.ending?.isSome = true := by
  cases transition with
  | waits => exact .inl slotted
  | starts stage starting asked =>
      cases stage with
      | startCreate request => exact .inr (.inl ⟨request, asked.symm⟩)
      | _ => first | cases starting; done | cases slotted
  | finishes at_persist ends => exact .inr (.inr ⟨_, at_persist, by rw [ends]; rfl⟩)
  | examines looping stage examining =>
      cases stage <;> first | cases examining; done | cases slotted
  | _ => cases slotted

/-- A write that does not finish the run leaves it in its slot. -/
theorem Accounted.slot_write {actor : String} (accounted : Accounted actor store driver)
    {update : RunUpdate} (at_persist : driver.stage = .persist update) :
    slotAt definition (Workflows.drive service definition store driver reading).store
        (Workflows.drive service definition store driver reading).driver =
      some driver.run.workflowName := by
  have own := write_own (accounted.own (by rw [at_persist]; rfl)) update
  have unfinished := accounted.unfinished (by rw [at_persist]; rfl)
  have unrefused := accounted.unrefused
  have to_slotted := (drive_transition service definition store driver reading).toSlotted
  have written : (Workflows.drive service definition store driver reading).store =
      store.write driver.run update := by
    unfold Workflows.drive
    rw [at_persist]
    rfl
  have named : (update.apply driver.run).workflowName = driver.run.workflowName := by
    cases update <;> rfl
  rw [at_persist] at unrefused to_slotted
  cases ends : update.ending? with
  | some ending =>
      unfold Workflows.drive
      rw [at_persist]
      cases update with
      | failed | completed | cancelled => rfl
      | _ => cases ends
  | none =>
      rw [slotAt_unslotted, written, Store.slot?_unfinished own, named]
      · rw [RunUpdate.apply_status]
        cases update with
        | failed | completed | cancelled => cases ends
        | budgetFailed => cases unrefused
        | ambiguous | waiting | running => rfl
        | select | idle | submit => exact unfinished
      · by_contra slotted
        rw [Bool.not_eq_false] at slotted
        obtain was_slotted | ⟨request, asked⟩ | ⟨other, same, ending⟩ := to_slotted slotted
        · cases was_slotted
        · cases asked
        · cases same
          rw [ends] at ending
          cases ending

/-- Only the claim and the release of a slot change who holds it. -/
theorem Accounted.slot_kept {actor : String} (accounted : Accounted actor store driver)
    (governed : service.governed = true)
    (not_claim : ∀ request, driver.stage ≠ .startClaim request)
    (not_release : ∀ ending, driver.stage ≠ .release ending) :
    slotAt definition (Workflows.drive service definition store driver reading).store
        (Workflows.drive service definition store driver reading).driver =
      slotAt definition store driver := by
  have found := drive_run service definition store driver reading
  have to_slotted := (drive_transition service definition store driver reading).toSlotted
  cases at_stage : driver.stage with
  | startClaim request => exact absurd at_stage (not_claim request)
  | release ending => exact absurd at_stage (not_release ending)
  | persist update =>
      rw [accounted.slot_write at_stage, slotAt_unslotted (by rw [at_stage]; rfl),
        Store.slot?_unfinished (accounted.own (by rw [at_stage]; rfl))
          (accounted.unfinished (by rw [at_stage]; rfl))]
  | startToken request =>
      rw [@slotAt_unslotted definition store driver (by rw [at_stage]; rfl)]
      unfold Workflows.drive startToken
      rw [at_stage]
      dsimp only
      split
      next => rfl
      next =>
        split
        next => rfl
        next => rfl
  | startRejected request code =>
      have absent := accounted.absent (by rw [at_stage]; rfl)
      rw [@slotAt_unslotted definition store driver (by rw [at_stage]; rfl),
        Store.slot?_none absent]
      unfold Workflows.drive startRejected
      rw [at_stage]
      dsimp only
      rw [absent]
      rfl
  | startCreate request =>
      have absent := accounted.absent (by rw [at_stage]; rfl)
      unfold Workflows.drive startCreate slotAt
      rw [at_stage]
      dsimp only
      rw [absent]
      rfl
  | resolve =>
      have own := accounted.own (by rw [at_stage]; rfl)
      have unfinished := accounted.unfinished (by rw [at_stage]; rfl)
      rw [@slotAt_unslotted definition store driver (by rw [at_stage]; rfl),
        Store.slot?_unfinished own unfinished]
      unfold Workflows.drive resolve slotAt Store.slot?
      rw [at_stage]
      dsimp only
      rw [own, Option.map_some, updateRun_resolved]
      rfl
  | _ =>
      rw [@slotAt_unslotted definition store driver (by rw [at_stage]; rfl), slotAt_unslotted]
      · cases found with
        | kept run_eq => rw [Store.slot?, run_eq, Store.slot?]
        | writes update at_persist => rw [at_stage] at at_persist; cases at_persist
        | resolves at_resolve => rw [at_stage] at at_resolve; cases at_resolve
        | creates run none_before status run_eq asked => rw [at_stage] at asked; cases asked
      · by_contra slotted
        rw [Bool.not_eq_false] at slotted
        rw [at_stage] at to_slotted
        obtain was_slotted | ⟨request, asked⟩ | ⟨other, same, _⟩ := to_slotted slotted
        · cases was_slotted
        · cases asked
        · cases same

/-- Before the claim a run holds no slot, and it holds the slot of its workflow if the claim is
granted. -/
theorem Accounted.slot_claim {actor : String} (accounted : Accounted actor store driver)
    {request : StartRequest} (at_claim : driver.stage = .startClaim request) :
    slotAt definition store driver = none ∧
      slotAt definition (Workflows.drive service definition store driver reading).store
          (Workflows.drive service definition store driver reading).driver =
        if reading.governance.isNone then some definition.name else none := by
  have absent := accounted.absent (by rw [at_claim]; rfl)
  constructor
  · rw [slotAt_unslotted (by rw [at_claim]; rfl), Store.slot?_none absent]
  · unfold Workflows.drive
    rw [at_claim]
    dsimp only
    split
    next granted =>
      rw [granted]
      rfl
    next failure refused =>
      rw [refused, slotAt_unslotted rfl, Store.slot?_none absent]
      rfl

/-- Before its release a run holds the slot of its workflow, and none after it. -/
theorem Accounted.slot_release {actor : String} (accounted : Accounted actor store driver)
    {ending : Ending} (at_release : driver.stage = .release ending) :
    slotAt definition store driver = some driver.run.workflowName ∧
      slotAt definition (Workflows.drive service definition store driver reading).store
        (Workflows.drive service definition store driver reading).driver = none := by
  obtain ⟨stored, terminal⟩ := accounted.released ending at_release
  constructor
  · unfold slotAt
    rw [at_release]
  · unfold Workflows.drive
    rw [at_release]
    exact (slotAt_off rfl).trans (Store.slot?_terminal stored terminal)

/-! ## Workers -/

theorem work_ctx (index : Nat) :
    (work service definition store driver index reading).driver.ctx = driver.ctx := by
  unfold work
  cases definition.steps[index]? with
  | none => rfl
  | some step =>
      cases driver.workers index with
      | queued | budget | mark =>
          dsimp only
          repeat' split
          all_goals rfl
      | _ => rfl

/-- A worker whose budget is granted leaves the run alone. -/
theorem Accounted.work_run {actor : String} (accounted : Accounted actor store driver)
    (index : Nat) :
    (Workflows.work service definition store driver index reading).store.run = store.run ∧
      (Workflows.work service definition store driver index reading).driver.run = driver.run := by
  obtain kept | ⟨message, overspent, _⟩ :=
    Workflows.work_run service definition store driver index reading
  · exact kept
  · have granted := accounted.granted index
    rw [overspent] at granted
    cases granted

/-- A worker whose budget is granted is not refused one. -/
theorem Accounted.work_granted {actor : String} (accounted : Accounted actor store driver)
    {index : Nat}
    (granted : (driver.workers index).isBudget = true → refusal service reading = none)
    (other : Nat) :
    ((Workflows.work service definition store driver index reading).driver.workers
      other).isRefused = false := by
  have before := accounted.granted other
  by_cases same : other = index
  · subst same
    unfold Workflows.work
    cases definition.steps[other]? with
    | none => exact before
    | some step =>
        cases was : driver.workers other with
        | idle | finished => exact before
        | overspent | overspentRelease =>
            rw [was] at before
            cases before
        | queued | mark =>
            dsimp only
            repeat' split
            all_goals first | exact before | rw [enterWorker_workers, Function.update_self]; rfl
        | budget =>
            rw [was] at granted
            dsimp only
            rw [granted rfl]
            rw [enterWorker_workers, Function.update_self]
            unfold prepare renderExpectation
            repeat' split
            all_goals rfl
        | inspect rendered =>
            rw [enterWorker_workers, Function.update_self]
            unfold acquire renderExpectation
            repeat' split
            all_goals rfl
        | request =>
            rw [enterWorker_workers, Function.update_self]
            rfl
  · rw [work_other service definition store driver index reading same]
    exact before

/-- The calls and the slot of a run do not depend on what its workers do. -/
theorem Accounted.work {actor : String} (accounted : Accounted actor store driver) {index : Nat}
    (granted : (driver.workers index).isBudget = true → refusal service reading = none) :
    Accounted actor (Workflows.work service definition store driver index reading).store
        (Workflows.work service definition store driver index reading).driver ∧
      slotAt definition (Workflows.work service definition store driver index reading).store
          (Workflows.work service definition store driver index reading).driver =
        slotAt definition store driver := by
  have granted_after := @work_granted service definition store driver reading actor accounted index
    granted
  obtain ⟨run_eq, own_eq⟩ := @work_run service definition store driver reading actor accounted index
  obtain ⟨stage_eq, _⟩ := work_keeps service definition store driver index reading
  have ctx_eq := @work_ctx service definition store driver reading index
  generalize Workflows.work service definition store driver index reading = move at *
  constructor
  · constructor
    · rw [run_eq]
      exact accounted.owned
    · rw [stage_eq, ctx_eq]
      exact accounted.mine
    · rw [stage_eq, run_eq]
      exact accounted.absent
    · rw [stage_eq, run_eq, own_eq]
      exact accounted.own
    · rw [stage_eq, run_eq]
      exact accounted.loads
    · rw [stage_eq, own_eq]
      exact accounted.unfinished
    · rw [stage_eq, run_eq, own_eq]
      exact accounted.released
    · rw [stage_eq]
      exact accounted.unrefused
    · exact granted_after
  · unfold slotAt Store.slot?
    rw [stage_eq, run_eq, own_eq]

end Calls

/-! ## Runs -/

/-- The slot of a run as one of its calls sees it. -/
def TrackedRun.slotOf (tracked : TrackedRun) (caller : Nat) : Option String :=
  slotAt (tracked.loaded caller) tracked.engine.store (tracked.engine.drivers caller)

/-- A run holds the slot of a workflow. -/
def TrackedRun.HoldsSlot (tracked : TrackedRun) (workflow : String) : Prop :=
  ∃ caller, tracked.slotOf caller = some workflow

/-- A run on which one call at most is on its way. -/
structure OneCall (actor : String) (tracked : TrackedRun) (caller : Nat) : Prop where
  others : ∀ other, other ≠ caller → (tracked.engine.drivers other).stage = .off
  accounted : Accounted actor tracked.engine.store (tracked.engine.drivers caller)

/-- What an input of a run does to its slot, by what it asks of the governance service. -/
inductive SlotMove (actor : String) (tracked : TrackedRun) (input : Input)
    (refused : Option GovernanceFailure) : Option String → Option String → Prop where
  | kept {held : Option String}
      (quiet : ∀ actorId workflowName,
        tracked.governanceCall input ≠ some (.claimStart actorId workflowName) ∧
          tracked.governanceCall input ≠ some (.releaseStart actorId workflowName)) :
      SlotMove actor tracked input refused held held
  | claims {workflow : String}
      (asks : tracked.governanceCall input = some (.claimStart actor workflow))
      (absent : tracked.engine.store.run = none) :
      SlotMove actor tracked input refused none (if refused.isNone then some workflow else none)
  | releases {workflow : String}
      (asks : tracked.governanceCall input = some (.releaseStart actor workflow))
      (stored : tracked.engine.store.run.isSome = true) :
      SlotMove actor tracked input refused (some workflow) none

section Runs

variable {operations : WorkflowOperations} {state : OperationsState}
variable {actor : String} {tracked : TrackedRun} {caller : Nat}

theorem Accounted.of_off {store : Store} {driver : Driver} (off : driver.stage = .off)
    (owned : ∀ run, store.run = some run → run.actorId = actor)
    (granted : ∀ index, (driver.workers index).isRefused = false) :
    Accounted actor store driver := by
  obtain ⟨stage, ctx, allowed, run, rows, batch, workers⟩ := driver
  cases off
  exact ⟨owned, nofun, nofun, nofun, nofun, nofun, nofun, rfl, granted⟩

theorem Accounted.launched {store : Store} {ctx : ExecutionContext} {allowed : String → Bool}
    {call : RunCall} (owned : ∀ run, store.run = some run → run.actorId = actor)
    (owner : ∀ request, call = .start request → ctx.actorId = actor) :
    Accounted actor store { stage := call.stage, ctx, allowed } := by
  cases call with
  | start request =>
      exact ⟨owned, fun _ _ => owner request rfl, nofun, nofun, nofun, nofun, nofun, rfl,
        fun _ => rfl⟩
  | resume | owner | admin =>
      exact ⟨owned, nofun, nofun, nofun, nofun, nofun, nofun, rfl, fun _ => rfl⟩

/-- Nothing of it depends on the confirmations. -/
theorem Accounted.decided {store : Store} {driver : Driver}
    (accounted : Accounted actor store driver) (confirmations : String → Option Status) :
    Accounted actor { store with confirmations } driver :=
  ⟨accounted.owned, accounted.mine, accounted.absent, accounted.own, accounted.loads,
    accounted.unfinished, accounted.released, accounted.unrefused, accounted.granted⟩

theorem oneCall_initial (actor : String) : OneCall actor {} 0 := by
  refine ⟨fun _ _ => rfl, .of_off rfl ?_ fun _ => rfl⟩
  intro run stored
  cases show none = some run from stored

/-- The one call that is on its way sees the slot. -/
theorem OneCall.holdsSlot_iff (one : OneCall actor tracked caller) {workflow : String} :
    tracked.HoldsSlot workflow ↔ tracked.slotOf caller = some workflow := by
  refine ⟨?_, fun holds => ⟨caller, holds⟩⟩
  rintro ⟨other, holds⟩
  by_cases same : other = caller
  · rwa [← same]
  · rw [TrackedRun.slotOf, slotAt_off (one.others other same)] at holds
    rw [TrackedRun.slotOf]
    by_cases slotted : (tracked.engine.drivers caller).stage.isSlotted = true
    · cases at_stage : (tracked.engine.drivers caller).stage with
      | startCreate request =>
          rw [Store.slot?_none (one.accounted.absent (by rw [at_stage]; rfl))] at holds
          cases holds
      | release ending =>
          obtain ⟨stored, terminal⟩ := one.accounted.released ending at_stage
          rw [Store.slot?_terminal stored terminal] at holds
          cases holds
      | _ => rw [at_stage] at slotted; cases slotted
    · rwa [slotAt_unslotted (Bool.eq_false_of_not_eq_true slotted)]

/-- A call that begins when none is on its way. -/
theorem OneCall.launch (one : OneCall actor tracked caller) {next : TrackedRun}
    (all_off : ∀ other, (tracked.engine.drivers other).stage = .off) (launched : Nat)
    (ctx : ExecutionContext) (allowed : String → Bool) (call : RunCall)
    (owner : ∀ request, call = .start request → ctx.actorId = actor)
    (engine_eq : next.engine = tracked.engine.after launched
      { store := tracked.engine.store, driver := { stage := call.stage, ctx, allowed } }) :
    OneCall actor next launched ∧ next.slotOf launched = tracked.slotOf caller := by
  constructor
  · constructor
    · intro other different
      rw [engine_eq, after_drivers_ne _ _ different]
      exact all_off other
    · rw [engine_eq, after_store, after_drivers_self]
      exact .launched one.accounted.owned owner
  · rw [TrackedRun.slotOf, TrackedRun.slotOf, engine_eq, after_store, after_drivers_self,
      slotAt_off (all_off caller), slotAt_unslotted]
    cases call <;> rfl

/-- A move of a call that has ended. -/
theorem EngineState.after_idle (engine : EngineState) (other : Nat) :
    engine.after other { store := engine.store, driver := engine.drivers other } = engine := by
  unfold EngineState.after
  dsimp only
  rw [Function.update_eq_self]

theorem consult_governance (reading : Reading) :
    (consult operations state tracked caller reading).1.governance = reading.governance := by
  unfold consult
  dsimp only
  repeat' split
  all_goals rfl

theorem slotAt_consult (reading : Reading) :
    slotAt (consult operations state tracked caller reading).2 tracked.engine.store
      (tracked.engine.drivers caller) = tracked.slotOf caller := by
  unfold TrackedRun.slotOf
  by_cases at_load : (tracked.engine.drivers caller).stage = .load
  · rw [slotAt_unslotted (by rw [at_load]; rfl), slotAt_unslotted (by rw [at_load]; rfl)]
  · rw [consult_of_ne_load at_load]

theorem governanceCall_drive_off {other : Nat} {reading : Reading}
    (off : (tracked.engine.drivers other).stage = .off) :
    tracked.governanceCall (.drive other reading) = none := by
  unfold TrackedRun.governanceCall
  dsimp only
  rw [off]

theorem governanceCall_work_off {other index : Nat} {reading : Reading}
    (off : (tracked.engine.drivers other).stage = .off) :
    tracked.governanceCall (.work other index reading) = none := by
  unfold TrackedRun.governanceCall
  dsimp only
  rw [off]

theorem driveRun_engine (other : Nat) (reading : Reading) :
    (driveRun operations state tracked other reading).engine = tracked.engine.after other
      (drive operations.service (consult operations state tracked other reading).2
        tracked.engine.store (tracked.engine.drivers other)
        (consult operations state tracked other reading).1) := rfl

/-- A call that has ended does not move. -/
theorem OneCall.drive_off (one : OneCall actor tracked caller) {other : Nat} (reading : Reading)
    (off : (tracked.engine.drivers other).stage = .off) :
    OneCall actor (driveRun operations state tracked other reading) caller ∧
      (driveRun operations state tracked other reading).slotOf caller = tracked.slotOf caller := by
  have engine_eq : (driveRun operations state tracked other reading).engine = tracked.engine := by
    rw [driveRun_engine, Workflows.drive_off off, EngineState.after_idle]
  have loaded_eq : (driveRun operations state tracked other reading).loaded = tracked.loaded := by
    unfold driveRun
    dsimp only
    rw [consult_of_ne_load (by rw [off]; nofun), Function.update_eq_self]
  refine ⟨⟨?_, ?_⟩, ?_⟩
  · rw [engine_eq]
    exact one.others
  · rw [engine_eq]
    exact one.accounted
  · rw [TrackedRun.slotOf, TrackedRun.slotOf, engine_eq, loaded_eq]

/-- A transaction of the one call that is on its way. -/
theorem OneCall.drive_running (governed : operations.governed = true)
    (one : OneCall actor tracked caller) (reading : Reading)
    (granted : (∀ actorId workflowName, tracked.governanceCall (.drive caller reading) ≠
      some (.claimStart actorId workflowName)) → reading.governance = none) :
    OneCall actor (driveRun operations state tracked caller reading) caller ∧
      SlotMove actor tracked (.drive caller reading) reading.governance (tracked.slotOf caller)
        ((driveRun operations state tracked caller reading).slotOf caller) := by
  have slot_after : (driveRun operations state tracked caller reading).slotOf caller =
      slotAt (consult operations state tracked caller reading).2
        (drive operations.service (consult operations state tracked caller reading).2
          tracked.engine.store (tracked.engine.drivers caller)
          (consult operations state tracked caller reading).1).store
        (drive operations.service (consult operations state tracked caller reading).2
          tracked.engine.store (tracked.engine.drivers caller)
          (consult operations state tracked caller reading).1).driver := by
    rw [TrackedRun.slotOf, driveRun_engine, after_store, after_drivers_self]
    unfold driveRun
    dsimp only
    rw [Function.update_self]
  constructor
  · constructor
    · intro other different
      rw [driveRun_engine, after_drivers_ne _ _ different]
      exact one.others other different
    · rw [driveRun_engine, after_store, after_drivers_self]
      apply one.accounted.drive
      intro first rest at_budget
      unfold refusal
      rw [consult_governance, granted, ite_self]
      intro actorId workflowName asks
      unfold TrackedRun.governanceCall at asks
      dsimp only at asks
      rw [at_budget] at asks
      dsimp only at asks
      cases origin : tracked.origin <;> rw [origin] at asks <;> cases asks
  · have accounted := one.accounted
    rw [slot_after, ← @slotAt_consult operations state tracked caller reading]
    cases at_stage : (tracked.engine.drivers caller).stage with
    | startClaim request =>
        obtain ⟨before, after⟩ := @Accounted.slot_claim operations.service
          (consult operations state tracked caller reading).2 tracked.engine.store
          (tracked.engine.drivers caller) (consult operations state tracked caller reading).1 actor
          accounted request at_stage
        rw [before, after, consult_governance, consult_of_ne_load (by rw [at_stage]; nofun)]
        apply SlotMove.claims
        · unfold TrackedRun.governanceCall
          dsimp only
          rw [at_stage, ← accounted.mine request (by rw [at_stage]; rfl)]
        · exact accounted.absent (by rw [at_stage]; rfl)
    | release ending =>
        obtain ⟨before, after⟩ := @Accounted.slot_release operations.service
          (consult operations state tracked caller reading).2 tracked.engine.store
          (tracked.engine.drivers caller) (consult operations state tracked caller reading).1 actor
          accounted ending at_stage
        obtain ⟨stored, _⟩ := accounted.released ending at_stage
        rw [before, after]
        apply SlotMove.releases
        · unfold TrackedRun.governanceCall
          dsimp only
          rw [at_stage, ← accounted.owned _ stored]
        · rw [stored]
          rfl
    | batchRelease =>
        have unrefused := accounted.unrefused
        rw [at_stage] at unrefused
        cases unrefused
    | budget first rest =>
        rw [accounted.slot_kept governed (by rw [at_stage]; nofun) (by rw [at_stage]; nofun)]
        apply SlotMove.kept
        intro actorId workflowName
        unfold TrackedRun.governanceCall
        dsimp only
        rw [at_stage]
        cases tracked.origin <;> exact ⟨nofun, nofun⟩
    | _ =>
        rw [accounted.slot_kept governed (by rw [at_stage]; nofun) (by rw [at_stage]; nofun)]
        apply SlotMove.kept
        intro actorId workflowName
        unfold TrackedRun.governanceCall
        dsimp only
        rw [at_stage]
        exact ⟨nofun, nofun⟩

theorem OneCall.drive (governed : operations.governed = true)
    (one : OneCall actor tracked caller) (other : Nat) (reading : Reading)
    (granted : (∀ actorId workflowName, tracked.governanceCall (.drive other reading) ≠
      some (.claimStart actorId workflowName)) → reading.governance = none) :
    ∃ later, OneCall actor (driveRun operations state tracked other reading) later ∧
      SlotMove actor tracked (.drive other reading) reading.governance (tracked.slotOf caller)
        ((driveRun operations state tracked other reading).slotOf later) := by
  by_cases off : (tracked.engine.drivers other).stage = .off
  · obtain ⟨still, slot_eq⟩ :=
      @drive_off operations state actor tracked caller one other reading off
    refine ⟨caller, still, slot_eq ▸ .kept fun actorId workflowName => ?_⟩
    rw [governanceCall_drive_off off]
    exact ⟨nofun, nofun⟩
  · obtain rfl : other = caller := by
      by_contra different
      exact off (one.others other different)
    exact ⟨other, one.drive_running governed reading granted⟩

/-- A transaction of a worker. -/
theorem OneCall.work (one : OneCall actor tracked caller) (other index : Nat) (reading : Reading)
    (granted : (∀ actorId workflowName, tracked.governanceCall (.work other index reading) ≠
      some (.claimStart actorId workflowName)) → reading.governance = none) :
    OneCall actor (tracked.after operations (tracked.loaded other) (.work other index reading))
        caller ∧
      SlotMove actor tracked (.work other index reading) reading.governance (tracked.slotOf caller)
        ((tracked.after operations (tracked.loaded other) (.work other index reading)).slotOf
          caller) := by
  by_cases off : (tracked.engine.drivers other).stage = .off
  · have same : tracked.after operations (tracked.loaded other) (.work other index reading) =
        tracked := by
      unfold TrackedRun.after engineStep
      dsimp only
      rw [off]
    rw [same]
    refine ⟨one, .kept fun actorId workflowName => ?_⟩
    rw [governanceCall_work_off off]
    exact ⟨nofun, nofun⟩
  · obtain rfl : other = caller := by
      by_contra different
      exact off (one.others other different)
    have quiet (actorId workflowName : String) :
        tracked.governanceCall (.work other index reading) ≠
            some (.claimStart actorId workflowName) ∧
          tracked.governanceCall (.work other index reading) ≠
            some (.releaseStart actorId workflowName) := by
      have not_refused := one.accounted.granted index
      unfold TrackedRun.governanceCall
      dsimp only
      split
      next => exact ⟨nofun, nofun⟩
      next => cases tracked.origin <;> exact ⟨nofun, nofun⟩
      next refused _ =>
        rw [refused] at not_refused
        cases not_refused
      next => exact ⟨nofun, nofun⟩
    have none_refused := granted fun actorId workflowName => (quiet actorId workflowName).1
    have engine_eq : (tracked.after operations (tracked.loaded other)
        (.work other index reading)).engine = tracked.engine.after other
          (Workflows.work operations.service (tracked.loaded other) tracked.engine.store
            (tracked.engine.drivers other) index reading) := by
      unfold TrackedRun.after engineStep
      dsimp only
      split
      next ended => exact absurd ended off
      next => rfl
    obtain ⟨accounted, slot_eq⟩ := @Accounted.work operations.service (tracked.loaded other)
      tracked.engine.store (tracked.engine.drivers other) reading actor one.accounted index
      fun _ => by rw [refusal, none_refused, ite_self]
    have slot_after : (tracked.after operations (tracked.loaded other)
        (.work other index reading)).slotOf other = tracked.slotOf other := by
      rw [TrackedRun.slotOf, engine_eq, after_store, after_drivers_self]
      exact slot_eq
    rw [slot_after]
    refine ⟨⟨?_, ?_⟩, .kept quiet⟩
    · intro later different
      rw [engine_eq, after_drivers_ne _ _ different]
      exact one.others later different
    · rw [engine_eq, after_store, after_drivers_self]
      exact accounted

theorem governanceCall_answered (refused : Option GovernanceFailure) (input : Input) :
    tracked.governanceCall (input.answered refused) = tracked.governanceCall input := by
  cases input <;> rfl

theorem SlotMove.of_answered {refused : Option GovernanceFailure} {input : Input}
    {before after : Option String}
    (moved : SlotMove actor tracked (input.answered refused) refused before after) :
    SlotMove actor tracked input refused before after := by
  cases moved with
  | kept quiet =>
      rw [governanceCall_answered] at quiet
      exact .kept quiet
  | claims asks absent => exact .claims (governanceCall_answered refused input ▸ asks) absent
  | releases asks stored => exact .releases (governanceCall_answered refused input ▸ asks) stored

/-- Where a call begins, none is on its way, and no call dies. -/
def InTurn (tracked : TrackedRun) : Input → Prop
  | .launch .. => ∀ caller, (tracked.engine.drivers caller).stage = .off
  | .crash _ => False
  | .drive .. | .work .. | .decide .. => True

/-- An input of a run that the governance service has answered. -/
theorem OneCall.step (governed : operations.governed = true)
    (one : OneCall actor tracked caller) (input : Input) (refused : Option GovernanceFailure)
    (granted : (∀ actorId workflowName, tracked.governanceCall input ≠
      some (.claimStart actorId workflowName)) → refused = none) (in_turn : InTurn tracked input) :
    ∃ later, OneCall actor (tracked.step operations state (input.answered refused)) later ∧
      SlotMove actor tracked input refused (tracked.slotOf caller)
        ((tracked.step operations state (input.answered refused)).slotOf later) := by
  cases input with
  | launch launched ctx allowed call =>
      have launches (other : ∀ request, call ≠ .start request) :
          OneCall actor (tracked.after operations (tracked.loaded launched)
              (.launch launched ctx allowed call)) launched ∧
            SlotMove actor tracked (.launch launched ctx allowed call) refused
              (tracked.slotOf caller) ((tracked.after operations (tracked.loaded launched)
                (.launch launched ctx allowed call)).slotOf launched) := by
        obtain ⟨still, slot_eq⟩ := one.launch in_turn launched ctx allowed call
          (fun request same => absurd same (other request))
          (@after_launch operations tracked launched (in_turn launched) (tracked.loaded launched)
            ctx allowed call)
        exact ⟨still, slot_eq ▸ .kept fun _ _ => ⟨nofun, nofun⟩⟩
      cases call with
      | start request => exact ⟨caller, one, .kept fun _ _ => ⟨nofun, nofun⟩⟩
      | resume => exact ⟨launched, launches nofun⟩
      | owner call => exact ⟨launched, launches nofun⟩
      | admin call => exact ⟨launched, launches nofun⟩
  | drive other reading =>
      obtain ⟨later, still, moved⟩ := @OneCall.drive operations state actor tracked caller governed
        one other { reading with governance := refused } granted
      exact ⟨later, still, .of_answered moved⟩
  | work other index reading =>
      obtain ⟨still, moved⟩ := @OneCall.work operations actor tracked caller one other index
        { reading with governance := refused } granted
      exact ⟨caller, still, .of_answered moved⟩
  | crash crashed => exact absurd in_turn id
  | decide confirmationId status =>
      have quiet (actorId workflowName : String) :
          tracked.governanceCall (.decide confirmationId status) ≠
              some (.claimStart actorId workflowName) ∧
            tracked.governanceCall (.decide confirmationId status) ≠
              some (.releaseStart actorId workflowName) := ⟨nofun, nofun⟩
      refine ⟨caller, ?_⟩
      unfold TrackedRun.step TrackedRun.after Input.answered engineStep
      dsimp only
      split
      next => exact ⟨one, .kept quiet⟩
      next => exact ⟨⟨one.others, one.accounted.decided _⟩, .kept quiet⟩

end Runs

end Era.Workflows
