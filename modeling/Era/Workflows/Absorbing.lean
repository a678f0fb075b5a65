import Era.Workflows.Completion

/-!
# Finished runs

A call keeps its object of the run over many transactions and writes it back.  The status of
a finished run stays as it is if no call writes over it from an object that is older than the
end of the run, and none reads the row of a finished run and goes on.
-/

namespace Era.Workflows

open Era.Core Era.Lib Era.Services

/-- The status of a finished run. -/
def Store.ended? (store : Store) : Option RunStatus :=
  (store.run.map WorkflowRun.status).filter RunStatus.terminal

/-- A worker that records that its budget is spent. -/
def WorkerStage.isOverspent : WorkerStage → Bool
  | .overspent _ => true
  | _ => false

def WorkerStage.isBudget : WorkerStage → Bool
  | .budget => true
  | _ => false

/-- What a call does to a run that has ended: it reads the row only before its loop, and the
object from which it writes another status, or on behalf of which it claims a step of a
cancelled run, has ended as well.  A budget is refused to steps only that run alone. -/
def Undisturbed (service : WorkflowService) (state : EngineState) : Input → Prop
  | .drive caller reading =>
      let driver := state.drivers caller
      match driver.stage with
      | .load | .reload _ => state.store.ended? = none
      | .resolve => ∀ status ∈ state.store.ended?, driver.run.status = status
      | .persist update =>
          (update.apply driver.run).status ≠ driver.run.status →
            ∀ status ∈ state.store.ended?, driver.run.status = status
      | .budget _ _ => (refusal service reading).isNone = true
      | _ => True
  | .work caller index reading =>
      let driver := state.drivers caller
      (driver.claims index = true → state.store.ended? = some .cancelled →
        driver.run.status = .cancelled) ∧
      ((driver.workers index).isOverspent = true → driver.run.status ≠ .failed →
        ∀ status ∈ state.store.ended?, driver.run.status = status) ∧
      ((driver.workers index).isBudget = true → driver.runsAlone index = true ∨
        (refusal service reading).isNone = true)
  | .launch .. | .crash _ | .decide .. => True

instance (service : WorkflowService) (state : EngineState) (input : Input) :
    Decidable (Undisturbed service state input) := by
  dsimp only [Undisturbed]
  induction input using Input.casesOn with
  | drive caller reading =>
      dsimp only
      generalize (state.drivers caller).stage = stage
      induction stage using Stage.casesOn <;> infer_instance
  | work | launch | crash | decide => infer_instance

/-! ## The objects of calls -/

/-- The stages at which a call is about to write its object of the run, now or later. -/
def Stage.holdsRun : Stage → Bool
  | .resolve | .persist _ => true
  | stage => stage.inLoop

/-- A worker whose step fails, once its budget is spent. -/
def WorkerStage.isFailing : WorkerStage → Bool
  | .overspentRelease _ => true
  | .mark outcome => outcome.status == .failed
  | .finished row => row.status == .failed
  | _ => false

/-- A call that is about to fail its run. -/
def Driver.isFailing (driver : Driver) : Bool :=
  match driver.stage with
  | .step index => (driver.workers index).isFailing
  | .persist (.failed _) => true
  | _ => false

/-- The stages of a call whose budget has been refused to a batch. -/
def Stage.isRefused : Stage → Bool
  | .persist (.budgetFailed _) | .batchRelease => true
  | _ => false

/-- A call waits for its workers, and holds an unfinished run unless it is about to fail it. -/
structure HoldsUnfinished (driver : Driver) : Prop where
  members : ∀ index ∈ driver.stage.unsubmitted, index ∈ driver.batch
  working : ∀ index, (driver.workers index).isWorking = true → driver.Executes index
  overspent : ∀ index, (driver.workers index).isOverspent = true → driver.stage = .step index
  unrefused : driver.stage.isRefused = false
  unfinished : driver.stage.holdsRun = true → driver.run.status.terminal = false ∨
    driver.run.status = .failed ∧ driver.isFailing = true

theorem WorkerStage.isWorking_of_isOverspent {stage : WorkerStage}
    (overspent : stage.isOverspent = true) : stage.isWorking = true := by
  cases stage <;> first | rfl | cases overspent

theorem WorkerStage.isFinished_of_isWorking {stage : WorkerStage}
    (working : stage.isWorking = true) : stage.isFinished = false := by
  cases stage <;> first | rfl | cases working

section Preserved

variable {service : WorkflowService} {definition : WorkflowDefinition}
variable {store : Store} {driver : Driver} {reading : Reading}

/-- A step that has failed alone, or any other outcome that leaves the run unfinished. -/
theorem HoldsUnfinished.finished (holds : HoldsUnfinished driver) {index : Nat}
    {row : WorkflowStepRun} (at_step : driver.stage = .step index)
    (finished : driver.workers index = .finished row) :
    driver.run.status.terminal = false ∨
      driver.run.status = .failed ∧ row.status = .failed := by
  obtain unfinished | ⟨failed, failing⟩ := holds.unfinished (by rw [at_step]; rfl)
  · exact .inl unfinished
  · rw [Driver.isFailing, at_step] at failing
    dsimp only at failing
    rw [finished] at failing
    exact .inr ⟨failed, beq_iff_eq.mp failing⟩

theorem HoldsUnfinished.at_stage (holds : HoldsUnfinished driver) {stage : Stage}
    (at_stage : driver.stage = stage) (looping : stage.inLoop = true)
    (not_step : ∀ index, stage ≠ .step index) : driver.run.status.terminal = false := by
  subst at_stage
  obtain unfinished | ⟨_, failing⟩ := holds.unfinished (by
    unfold Stage.holdsRun
    split <;> first | rfl | exact looping)
  · exact unfinished
  · unfold Driver.isFailing at failing
    split at failing
    next index at_step => exact absurd at_step (not_step index)
    next message at_persist =>
      rw [at_persist] at looping
      cases looping
    next => cases failing

/-- A budget is not refused to a batch unless it was before. -/
theorem Transition.unrefused {after : Store} {next : Driver}
    (transition : Transition service definition store driver reading after next)
    (unrefused : driver.stage.isRefused = false)
    (granted : ∀ first rest, driver.stage = .budget first rest → refusal service reading = none) :
    next.stage.isRefused = false := by
  cases transition with
  | waits => exact unrefused
  | starts stage starting => cases stage <;> first | rfl | cases starting
  | examines looping stage examining => cases stage <;> first | rfl | cases examining
  | refreshes looping settled =>
      unfold refreshRunStatus at settled
      repeat' split at settled
      all_goals cases settled
      all_goals rfl
  | classified at_step finished settled =>
      unfold classify at settled
      split at settled
      all_goals cases settled
      all_goals rfl
  | refuses at_budget refused =>
      rw [granted _ _ at_budget] at refused
      cases refused
  | overspends at_persist =>
      rw [at_persist] at unrefused
      cases unrefused
  | _ => rfl

theorem Transition.unfinished {after : Store} {next : Driver}
    (transition : Transition service definition store driver reading after next)
    (holds : HoldsUnfinished driver)
    (reads : ∀ run, store.run = some run →
      (driver.stage = .load ∨ ∃ index, driver.stage = .reload index) →
        run.status.terminal = false)
    (unrefused : next.stage.isRefused = false)
    (holding : next.stage.holdsRun = true) : next.run.status.terminal = false ∨
      next.run.status = .failed ∧ next.isFailing = true := by
  cases transition with
  | waits => exact holds.unfinished holding
  | stops | creates | operates | resumes | resolves | finishes => cases holding
  | starts stage starting => cases stage <;> first | cases starting; done | cases holding
  | cancels found unfinished => exact .inl unfinished
  | continues found ambiguous =>
      left
      show RunStatus.terminal _ = false
      rw [Driver.goto, Driver.restored, ambiguous]
      rfl
  | loads at_load found | rejects at_load found => exact .inl (reads _ found (.inl at_load))
  | reloads at_reload found => exact .inl (reads _ found (.inr ⟨_, at_reload⟩))
  | fails looping message =>
      obtain unfinished | ⟨failed, _⟩ := holds.unfinished (by
        unfold Stage.holdsRun
        split <;> first | rfl | exact looping)
      · exact .inl unfinished
      · exact .inr ⟨failed, rfl⟩
  | refreshes at_stage =>
      obtain at_stage | at_stage := at_stage
      · exact .inl (holds.at_stage at_stage rfl nofun)
      · exact .inl (holds.at_stage at_stage rfl nofun)
  | examines looping stage examining fewer =>
      left
      apply holds.at_stage rfl looping
      intro index at_step
      rw [at_step] at fewer
      cases stage <;> first | cases examining; done | cases fewer
  | reconciles at_stage =>
      obtain at_stage | at_stage := at_stage
      · exact .inl (holds.at_stage at_stage rfl nofun)
      · exact .inl (holds.at_stage at_stage rfl nofun)
  | regroups at_stage =>
      obtain at_stage | ⟨at_stage, _⟩ := at_stage
      · exact .inl (holds.at_stage at_stage rfl nofun)
      · exact .inl (holds.at_stage at_stage rfl nofun)
  | forbids | diverges | dispatches => exact .inl rfl
  | gathers at_stage | completes at_stage | selects at_stage | batches at_stage | awaits at_stage
  | rechecks at_stage | pauses at_stage | selected at_stage | skipsCondition at_stage
  | advances at_stage | idles at_stage | admits at_stage | submits at_stage | joins at_stage
  | regrouped at_stage => exact .inl (holds.at_stage at_stage rfl nofun)
  | refuses | overspends => cases unrefused
  | classifies at_step finished idle =>
      obtain unfinished | ⟨_, failed⟩ := holds.finished at_step finished
      · exact .inl unfinished
      · simp [classify, failed] at idle
  | classified at_step finished settled =>
      obtain unfinished | ⟨failed, row_failed⟩ := holds.finished at_step finished
      · exact .inl unfinished
      · rw [classify, row_failed] at settled
        cases settled
        exact .inr ⟨failed, rfl⟩

theorem HoldsUnfinished.drive_members (holds : HoldsUnfinished driver) (index : Nat)
    (member : index ∈ (drive service definition store driver reading).driver.stage.unsubmitted) :
    index ∈ (drive service definition store driver reading).driver.batch := by
  have found := drive_case service definition store driver reading
  generalize drive service definition store driver reading = move at found member ⊢
  cases found with
  | quiet steps_eq workers_eq unsubmitted =>
      obtain ⟨same, batch_eq⟩ | none := unsubmitted
      · rw [batch_eq]
        exact holds.members index (same ▸ member)
      · rw [none] at member
        cases member
  | selects _ _ _ _ _ unsubmitted_eq => exact unsubmitted_eq ▸ member
  | queues other steps_eq batch_eq executes unsubmitted_eq =>
      rw [batch_eq]
      exact holds.members index (by simp [unsubmitted_eq, member])
  | gathers _ _ unsubmitted_eq | settles _ _ _ _ _ _ unsubmitted_eq | skips _ _ _ unsubmitted_eq
  | resolves _ _ _ unsubmitted_eq | creates _ _ _ _ _ unsubmitted_eq =>
      rw [unsubmitted_eq] at member
      cases member

theorem HoldsUnfinished.drive_working (holds : HoldsUnfinished driver) (index : Nat)
    (working : ((drive service definition store driver reading).driver.workers index).isWorking =
      true) : (drive service definition store driver reading).driver.Executes index := by
  have still (was_working : (driver.workers index).isWorking = true) :
      (drive service definition store driver reading).driver.Executes index := by
    have executes := drive_executes service definition store driver reading
      (holds.working index was_working)
    apply executes.resolve_right
    rw [WorkerStage.isFinished_of_isWorking was_working]
    simp
  have found := drive_case service definition store driver reading
  generalize drive service definition store driver reading = move at found still working ⊢
  cases found with
  | queues other steps_eq batch_eq executes unsubmitted_eq awaited_eq workers_eq =>
      by_cases same : index = other
      · subst same
        exact executes (holds.members index (by simp [unsubmitted_eq]))
      · rw [workers_eq, Function.update_of_ne same] at working
        exact still working
  | quiet _ workers_eq | selects _ _ _ _ _ _ _ workers_eq | gathers _ _ _ _ _ workers_eq
  | settles _ _ _ _ _ _ _ _ _ workers_eq | skips _ _ _ _ _ workers_eq
  | resolves _ _ _ _ _ workers_eq | creates _ _ _ _ _ _ _ workers_eq =>
      exact still (workers_eq ▸ working)

/-- A transaction of a call that reads no finished run leaves it with an unfinished one. -/
theorem HoldsUnfinished.drive (holds : HoldsUnfinished driver)
    (reads : ∀ run, store.run = some run →
      (driver.stage = .load ∨ ∃ index, driver.stage = .reload index) →
        run.status.terminal = false)
    (granted : ∀ first rest, driver.stage = .budget first rest → refusal service reading = none) :
    HoldsUnfinished (drive service definition store driver reading).driver := by
  have transition := drive_transition service definition store driver reading
  have unrefused := transition.unrefused holds.unrefused granted
  refine ⟨holds.drive_members, holds.drive_working, ?_, unrefused,
    transition.unfinished holds reads unrefused⟩
  intro index overspent
  obtain same | queued := drive_worker service definition store driver reading index
  · rw [same] at overspent
    have at_step := holds.overspent index overspent
    have working := WorkerStage.isWorking_of_isOverspent overspent
    rw [drive_step_waits at_step (WorkerStage.isFinished_of_isWorking working)]
    exact at_step
  · rw [queued] at overspent
    cases overspent

/-- A worker learns that its budget is spent when it claims it. -/
theorem work_isOverspent {index other : Nat}
    (overspent : ((work service definition store driver index reading).driver.workers
      other).isOverspent = true) :
    (driver.workers other).isOverspent = true ∨ other = index ∧
      (driver.workers index).isBudget = true ∧ (refusal service reading).isNone = false := by
  by_cases same : other = index
  · subst same
    revert overspent
    unfold work
    cases definition.steps[other]? with
    | none => exact .inl
    | some step =>
        cases was : driver.workers other with
        | idle | finished => exact fun overspent => .inl (was ▸ overspent)
        | queued | mark =>
            dsimp only
            repeat' split
            all_goals simp [was, WorkerStage.isOverspent]
        | overspent message => exact fun _ => .inl rfl
        | budget =>
            dsimp only
            split
            next failure refused =>
              rw [refused]
              exact fun _ => .inr ⟨rfl, rfl, rfl⟩
            next =>
              rw [enterWorker_workers, Function.update_self]
              unfold prepare renderExpectation
              repeat' split
              all_goals exact nofun
        | inspect rendered =>
            rw [enterWorker_workers, Function.update_self]
            unfold acquire renderExpectation
            repeat' split
            all_goals exact nofun
        | overspentRelease | request =>
            rw [enterWorker_workers, Function.update_self]
            exact nofun
  · rw [work_other service definition store driver index reading same] at overspent
    exact .inl overspent

/-- A worker whose step fails goes on to fail it. -/
theorem work_isFailing {index other : Nat} (failing : (driver.workers other).isFailing = true) :
    ((work service definition store driver index reading).driver.workers other).isFailing =
      true := by
  unfold work
  cases definition.steps[index]? with
  | none => exact failing
  | some step =>
      by_cases same : other = index
      · subst same
        cases was : driver.workers other with
        | idle | queued | budget | overspent | inspect | request =>
            rw [was] at failing
            cases failing
        | finished row =>
            rw [was] at failing
            dsimp only
            rw [was]
            exact failing
        | overspentRelease message =>
            rw [enterWorker_workers, Function.update_self]
            rfl
        | mark outcome =>
            rw [was] at failing
            dsimp only
            split
            next =>
              rw [was]
              exact failing
            next =>
              rw [enterWorker_workers, Function.update_self, WorkerStage.isFailing,
                StepMark.apply_status]
              exact failing
      · cases driver.workers index with
        | idle | finished => exact failing
        | queued | budget | mark =>
            dsimp only
            repeat' split
            all_goals first | exact failing | rwa [enterWorker_workers, Function.update_of_ne same]
        | overspent | overspentRelease | inspect | request =>
            dsimp only
            rwa [enterWorker_workers, Function.update_of_ne same]

/-- A transaction of a worker, whose budget is refused only if its step runs alone. -/
theorem HoldsUnfinished.work (holds : HoldsUnfinished driver) {index : Nat}
    (granted : (driver.workers index).isBudget = true → driver.runsAlone index = true ∨
      (refusal service reading).isNone = true) :
    HoldsUnfinished (work service definition store driver index reading).driver := by
  obtain ⟨stage_eq, _, batch_eq, _⟩ := work_keeps service definition store driver index reading
  have spent := @work_isOverspent service definition store driver reading index
  have fails := @work_isFailing service definition store driver reading index
  refine ⟨?_, ?_, ?_, stage_eq ▸ holds.unrefused, ?_⟩
  · rw [stage_eq, batch_eq]
    exact holds.members
  · intro other working
    have was_working := work_isWorking service definition store driver index reading working
    rw [Driver.Executes, stage_eq, batch_eq]
    exact holds.working other was_working
  · intro other overspent
    rw [stage_eq]
    obtain was_overspent | ⟨rfl, at_budget, refused⟩ := spent overspent
    · exact holds.overspent other was_overspent
    · have alone := (granted at_budget).resolve_right (by simp [refused])
      unfold Driver.runsAlone at alone
      split at alone
      next step at_alone => rwa [← beq_iff_eq.mp alone]
      next => cases alone
  · rw [stage_eq]
    intro holding
    obtain ⟨_, run_eq⟩ | ⟨message, overspent, move_eq⟩ :=
      work_run service definition store driver index reading
    · rw [run_eq]
      obtain unfinished | ⟨failed, failing⟩ := holds.unfinished holding
      · exact .inl unfinished
      · refine .inr ⟨failed, ?_⟩
        unfold Driver.isFailing at failing ⊢
        rw [stage_eq]
        split at failing
        next step at_alone => exact fails failing
        next => rfl
        next => cases failing
    · right
      have alone := holds.overspent index (by rw [overspent]; rfl)
      rw [move_eq]
      refine ⟨rfl, ?_⟩
      rw [Driver.isFailing, enterWorker_stage, alone]
      dsimp only
      rw [enterWorker_workers, Function.update_self]
      rfl

theorem HoldsUnfinished.launched (ctx : ExecutionContext) (allowed : String → Bool)
    (call : RunCall) : HoldsUnfinished { stage := call.stage, ctx, allowed } := by
  constructor
  · cases call <;> exact fun _ => nofun
  · exact fun _ => nofun
  · exact fun _ => nofun
  · cases call <;> rfl
  · cases call <;> exact nofun

end Preserved

section Absorbing

variable (service : WorkflowService) (definition : WorkflowDefinition)

/-- Every call that is on its way holds an unfinished run unless it is about to fail it. -/
def AllHoldUnfinished (state : EngineState) : Prop :=
  ∀ caller, (state.drivers caller).stage ≠ .off → HoldsUnfinished (state.drivers caller)

variable {service definition}

theorem AllHoldUnfinished.after {state : EngineState} (all : AllHoldUnfinished state)
    {caller : Nat} {move : Move}
    (holds : move.driver.stage ≠ .off → HoldsUnfinished move.driver) :
    AllHoldUnfinished (state.after caller move) := by
  intro other running
  by_cases same : other = caller
  · rw [same, after_drivers_self] at running ⊢
    exact holds running
  · rw [after_drivers_ne state move same] at running ⊢
    exact all other running

theorem Store.ended?_eq_some {store : Store} {run : WorkflowRun} (found : store.run = some run)
    (terminal : run.status.terminal = true) : store.ended? = some run.status := by
  rw [Store.ended?, found, Option.map_some, Option.filter_some, if_pos terminal]

theorem Store.unfinished_of_ended? {store : Store} {run : WorkflowRun}
    (none_ended : store.ended? = none) (found : store.run = some run) :
    run.status.terminal = false := by
  by_contra terminal
  rw [Bool.not_eq_false] at terminal
  rw [Store.ended?_eq_some found terminal] at none_ended
  cases none_ended

theorem AllHoldUnfinished.step {state : EngineState} {input : Input}
    (all : AllHoldUnfinished state) (undisturbed : Undisturbed service state input) :
    AllHoldUnfinished (engineStep service definition state input).1 := by
  cases input with
  | launch caller ctx permitted call =>
      unfold engineStep
      dsimp only
      split
      next => exact all.after fun _ => .launched ctx permitted call
      next => exact all
  | drive caller reading =>
      refine all.after fun running => ?_
      by_cases ended : (state.drivers caller).stage = .off
      · rw [drive_off ended] at running
        exact absurd ended running
      · apply (all caller ended).drive
        · rintro run found (at_load | ⟨index, at_reload⟩)
          · rw [Undisturbed, at_load] at undisturbed
            exact Store.unfinished_of_ended? undisturbed found
          · rw [Undisturbed, at_reload] at undisturbed
            exact Store.unfinished_of_ended? undisturbed found
        · intro first rest at_budget
          rw [Undisturbed, at_budget] at undisturbed
          exact Option.isNone_iff_eq_none.mp undisturbed
  | work caller index reading =>
      unfold engineStep
      dsimp only
      split
      next => exact all
      next running => exact all.after fun _ => (all caller running).work undisturbed.2.2
  | crash caller => exact all.after fun running => absurd rfl running
  | decide confirmationId status =>
      unfold engineStep
      dsimp only
      split <;> exact all

variable (service definition)

/-- The status of a finished run stays, and no step of a cancelled run starts. -/
def KeepsFinished (state : EngineState) (input : Input) : Prop :=
  ∀ run, state.store.run = some run → run.status.terminal = true →
    (engineStep service definition state input).1.store.run.map WorkflowRun.status =
        some run.status ∧
      (run.status = .cancelled → ∀ caller index reading, input = .work caller index reading →
        (state.drivers caller).claims index = false)

variable {service definition}

/-- A finished run is written only from an object with its status. -/
theorem status_written {store : Store} {driver : Driver} {run changed : WorkflowRun}
    (found : store.run = some run)
    (same : changed.status ≠ driver.run.status → driver.run.status ≠ run.status → False)
    (unfinished : changed.status ≠ driver.run.status → driver.run.status = run.status → False) :
    (store.run.map (updateRun driver.run changed)).map WorkflowRun.status = some run.status := by
  rw [found, Option.map_some, Option.map_some]
  obtain kept | ⟨_, differs⟩ := updateRun_status driver.run changed run
  · rw [kept]
  · by_cases equal : driver.run.status = run.status
    · exact (unfinished differs equal).elim
    · exact (same differs equal).elim

theorem HoldsUnfinished.drive_status {state : EngineState} {caller : Nat} {reading : Reading}
    (holds : HoldsUnfinished (state.drivers caller))
    (undisturbed : Undisturbed service state (.drive caller reading)) {run : WorkflowRun}
    (found : state.store.run = some run) (terminal : run.status.terminal = true) :
    (Workflows.drive service definition state.store (state.drivers caller) reading).store.run.map
      WorkflowRun.status = some run.status := by
  have ended := Store.ended?_eq_some found terminal
  cases drive_run service definition state.store (state.drivers caller) reading with
  | kept run_eq => rw [run_eq, found, Option.map_some]
  | creates created none_before => rw [none_before] at found; cases found
  | resolves at_resolve run_eq =>
      rw [Undisturbed, at_resolve] at undisturbed
      have same := undisturbed run.status ended
      obtain unfinished | ⟨_, failing⟩ := holds.unfinished (by rw [at_resolve]; rfl)
      · rw [same, terminal] at unfinished
        cases unfinished
      · rw [Driver.isFailing, at_resolve] at failing
        cases failing
  | writes update at_persist run_eq =>
      rw [Undisturbed, at_persist] at undisturbed
      rw [run_eq]
      apply status_written found
      · exact fun differs different => different (undisturbed differs run.status ended)
      · intro differs same
        obtain unfinished | ⟨failed, failing⟩ := holds.unfinished (by rw [at_persist]; rfl)
        · rw [same, terminal] at unfinished
          cases unfinished
        · rw [Driver.isFailing, at_persist] at failing
          cases update with
          | failed message => exact differs failed.symm
          | _ => cases failing

theorem HoldsUnfinished.work_status {state : EngineState} {caller index : Nat}
    {reading : Reading} (holds : HoldsUnfinished (state.drivers caller))
    (undisturbed : Undisturbed service state (.work caller index reading)) {run : WorkflowRun}
    (found : state.store.run = some run) (terminal : run.status.terminal = true) :
    (Workflows.work service definition state.store (state.drivers caller) index
      reading).store.run.map WorkflowRun.status = some run.status := by
  have ended := Store.ended?_eq_some found terminal
  obtain ⟨run_eq, _⟩ | ⟨message, overspent, move_eq⟩ :=
    work_run service definition state.store (state.drivers caller) index reading
  · rw [run_eq, found, Option.map_some]
  · rw [move_eq]
    have is_overspent : ((state.drivers caller).workers index).isOverspent = true := by
      rw [overspent]
      rfl
    have alone := holds.overspent index is_overspent
    apply status_written found
    · intro differs different
      exact different (undisturbed.2.1 is_overspent (fun failed => differs failed.symm) run.status
        ended)
    · intro differs same
      obtain unfinished | ⟨failed, _⟩ := holds.unfinished (by rw [alone]; rfl)
      · rw [same, terminal] at unfinished
        cases unfinished
      · exact differs failed.symm

theorem HoldsUnfinished.not_claims {state : EngineState} {caller index : Nat}
    {reading : Reading} (holds : HoldsUnfinished (state.drivers caller))
    (undisturbed : Undisturbed service state (.work caller index reading))
    (cancelled : state.store.ended? = some .cancelled) :
    (state.drivers caller).claims index = false := by
  by_contra claims
  rw [Bool.not_eq_false] at claims
  have own := undisturbed.1 claims cancelled
  have queued : ((state.drivers caller).workers index).isQueued = true := by
    unfold Driver.claims at claims
    split at claims
    next => cases claims
    next => exact (Bool.and_eq_true_iff.mp claims).1
  have executes := holds.working index (by rw [WorkerStage.isWorking, queued, Bool.true_or])
  have holding : (state.drivers caller).stage.holdsRun = true := by
    by_contra idle
    refine not_executes_of_stage rfl ?_ index executes
    cases stage : (state.drivers caller).stage with
    | step | persist | join =>
        rw [stage] at idle
        exact absurd rfl idle
    | _ => rfl
  obtain unfinished | ⟨failed, _⟩ := holds.unfinished holding
  · rw [own] at unfinished
    cases unfinished
  · rw [own] at failed
    cases failed

variable (service definition)

/-- The status of a finished run stays whatever the calls on the run do, and no step of a
cancelled run starts, if no call writes, claims or goes on behind the back of its end. -/
theorem keepsFinished {inputs : List Input}
    (undisturbed : (engine service definition).Admits (Undisturbed service) initialState
      inputs) :
    (engine service definition).Admits (KeepsFinished service definition) initialState inputs := by
  have holds (state : EngineState) (input : Input) (all : AllHoldUnfinished state)
      (allowed : Undisturbed service state input) :
      KeepsFinished service definition state input := by
    intro run found terminal
    cases input with
    | launch caller ctx permitted call =>
        refine ⟨?_, fun _ _ _ _ => by rintro ⟨⟩⟩
        unfold engineStep
        dsimp only
        split <;> exact congrArg (Option.map _) found
    | drive caller reading =>
        refine ⟨?_, fun _ _ _ _ => by rintro ⟨⟩⟩
        by_cases ended : (state.drivers caller).stage = .off
        · rw [engineStep, drive_off ended]
          exact congrArg (Option.map _) found
        · exact (all caller ended).drive_status allowed found terminal
    | work caller index reading =>
        constructor
        · unfold engineStep
          dsimp only
          split
          next => exact congrArg (Option.map _) found
          next running => exact (all caller running).work_status allowed found terminal
        · rintro cancelled _ _ _ ⟨⟩
          by_cases ended : (state.drivers caller).stage = .off
          · rw [Driver.claims, ended]
          · apply (all caller ended).not_claims allowed
            rw [Store.ended?_eq_some found terminal, cancelled]
    | crash caller => exact ⟨congrArg (Option.map _) found, fun _ _ _ _ => by rintro ⟨⟩⟩
    | decide confirmationId status =>
        refine ⟨?_, fun _ _ _ _ => by rintro ⟨⟩⟩
        unfold engineStep
        dsimp only
        split <;> exact congrArg (Option.map _) found
  exact .of_invariant (fun _ running => absurd rfl running)
    (fun _ _ all allowed => all.step allowed) holds undisturbed

end Absorbing

namespace Demo

/-- The first step of a run has been executed when the run is cancelled. -/
def cancelled : List Input :=
  start 0 :: moves 0 7 ++ works 0 0 4 ++ launch 1 (.owner .cancel) :: moves 1 3

end Demo

/-- The call crashes after the run has been cancelled, and a later call finds the run. -/
theorem keepsFinished_demo :
    (engine Demo.service Demo.pair).Admits (KeepsFinished Demo.service Demo.pair) initialState
      (Demo.cancelled ++ .crash 0 :: Demo.launch 0 .resume :: Demo.moves 0 1) :=
  keepsFinished Demo.service Demo.pair (by decide +kernel)

/-- A call that is on its way when its run is cancelled makes it running again. -/
theorem not_keepsFinished :
    ¬∀ inputs, (engine Demo.service Demo.pair).Admits (KeepsFinished Demo.service Demo.pair)
      initialState inputs := by
  intro keeps
  have kept := keeps (Demo.cancelled ++ Demo.moves 0 6 ++ [.drive 0 Demo.executed])
    (Demo.cancelled ++ Demo.moves 0 6) _ [] rfl
  have before : ((engine Demo.service Demo.pair).stateAfter initialState
      (Demo.cancelled ++ Demo.moves 0 6)).store.run.map WorkflowRun.status = some .cancelled := by
    decide +kernel
  have after : (engineStep Demo.service Demo.pair
      ((engine Demo.service Demo.pair).stateAfter initialState
        (Demo.cancelled ++ Demo.moves 0 6)) (.drive 0 Demo.executed)).1.store.run.map
          WorkflowRun.status = some .running := by
    decide +kernel
  obtain ⟨run, found, was_cancelled⟩ := Option.map_eq_some_iff.mp before
  have same := (kept run found (by rw [was_cancelled]; rfl)).1
  rw [after, was_cancelled] at same
  cases same

end Era.Workflows
