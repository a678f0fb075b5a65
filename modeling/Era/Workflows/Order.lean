import Era.Workflows.Completion

/-!
# The order of steps

The order of the steps is stored nowhere.  It follows from the choice of the first ready
step, as long as no earlier step is left running or failed: neither of these is ready, and
neither keeps a later step from being ready.
-/

namespace Era.Workflows

open Era.Core Era.Lib Era.Services

/-- A definition without parallel blocks, dependencies and conditions. -/
structure Linear (definition : WorkflowDefinition) : Prop where
  unparallel : definition.parallel = []
  independent : ∀ step ∈ definition.steps, step.dependsOn = []
  unconditional : ∀ step ∈ definition.steps, step.condition = none

/-- A step that has been executed or passed over. -/
def Passed (rows : List WorkflowStepRun) (index : Nat) : Prop :=
  statusAt rows index = .completed ∨ statusAt rows index = .skipped

/-- A running or failed step with a pending one after it. -/
def Overtakable (definition : WorkflowDefinition) (rows : List WorkflowStepRun)
    (index : Nat) : Prop :=
  (statusAt rows index = .running ∨ statusAt rows index = .failed) ∧
    ∃ later ∈ List.range definition.steps.length, index < later ∧ statusAt rows later = .pending

instance (definition : WorkflowDefinition) (rows : List WorkflowStepRun) (index : Nat) :
    Decidable (Overtakable definition rows index) := by
  unfold Overtakable
  infer_instance

/-- A call that enters the loop finds no running or failed step before a pending one. -/
def EntersInOrder (definition : WorkflowDefinition) (state : EngineState) : Input → Prop
  | .drive caller _ =>
      match (state.drivers caller).stage with
      | .load => ∀ index ∈ List.range definition.steps.length,
          ¬Overtakable definition state.store.steps index
      | _ => True
  | .launch .. | .work .. | .crash _ | .decide .. => True

instance (definition : WorkflowDefinition) (state : EngineState) (input : Input) :
    Decidable (EntersInOrder definition state input) := by
  dsimp only [EntersInOrder]
  induction input using Input.casesOn with
  | drive caller reading =>
      dsimp only
      generalize (state.drivers caller).stage = stage
      induction stage using Stage.casesOn <;> infer_instance
  | work | launch | crash | decide => infer_instance

/-! ## One step at a time -/

/-- The stages of a call that never executes a batch and never evaluates a condition. -/
def Stage.isSingle : Stage → Bool
  | .skipConditional _ | .budget _ _ | .batchRelease | .join | .regroup => false
  | .persist (.submit _ _) | .persist (.budgetFailed _) => false
  | _ => true

theorem chooseBatch_linear {definition : WorkflowDefinition} (linear : Linear definition)
    (maxPendingConfirmations : Int) (first : Nat) (rest : List Nat) :
    chooseBatch definition maxPendingConfirmations (first :: rest) = [rest.foldl min first] := by
  unfold chooseBatch
  rw [linear.unparallel]
  rfl

theorem isReady_linear {definition : WorkflowDefinition} (linear : Linear definition)
    {rows : List WorkflowStepRun} {index : Nat} {step : WorkflowStep}
    (found : definition.steps[index]? = some step) (pending : statusAt rows index = .pending) :
    isReady definition rows index step = true := by
  unfold isReady
  rw [pending, linear.independent step (List.mem_of_getElem? found)]
  rfl

theorem foldl_min_le {first : Nat} {rest : List Nat} {index : Nat}
    (member : index ∈ first :: rest) : rest.foldl min first ≤ index :=
  (List.min?_eq_some_iff.mp List.min?_cons').2 index member

/-- The step that a call chooses is pending, and no step before it is. -/
theorem chosen_first {definition : WorkflowDefinition} (linear : Linear definition)
    {rows : List WorkflowStepRun} {maxPendingConfirmations : Int} {index : Nat}
    (chosen : chooseBatch definition maxPendingConfirmations (readyIndices definition rows) =
      [index]) :
    index < definition.steps.length ∧ statusAt rows index = .pending ∧
      ∀ earlier < index, statusAt rows earlier ≠ .pending := by
  have member : index ∈ chooseBatch definition maxPendingConfirmations
      (readyIndices definition rows) := by simp [chosen]
  obtain ⟨step, found, ready⟩ := mem_readyIndices.mp (mem_of_mem_chooseBatch member)
  obtain ⟨bound, _⟩ := List.getElem?_eq_some_iff.mp found
  refine ⟨bound, pending_of_isReady ready, fun earlier before pending => ?_⟩
  have found_earlier : definition.steps[earlier]? = some definition.steps[earlier] :=
    List.getElem?_eq_getElem (by omega)
  have also_ready : earlier ∈ readyIndices definition rows :=
    mem_readyIndices.mpr ⟨_, found_earlier, isReady_linear linear found_earlier pending⟩
  cases all_ready : readyIndices definition rows with
  | nil => simp [all_ready] at also_ready
  | cons first rest =>
      rw [all_ready, chooseBatch_linear linear] at chosen
      rw [all_ready] at also_ready
      have least := foldl_min_le also_ready
      rw [List.cons.inj chosen |>.1] at least
      omega

/-! ## The invariant -/

/-- The statuses that the rows of a linear definition never have. -/
def LinearRows (rows : List WorkflowStepRun) : Prop :=
  ∀ row ∈ rows, row.status ≠ .cancelled ∧ row.status ≠ .skippedConditional

/-- In the loop no step can be overtaken, but for one that has just been executed alone; the
steps before a selected one have been passed. -/
structure StaysInOrder (definition : WorkflowDefinition) (store : Store) (driver : Driver) :
    Prop where
  tracks : Tracks store driver
  rows : LinearRows store.steps
  single : driver.stage.isSingle = true
  clear : driver.stage.inLoop = true → ∀ index, Overtakable definition store.steps index →
    driver.stage = .step index
  finished : ∀ index row, driver.stage = .step index → driver.workers index = .finished row →
    statusAt store.steps index = row.status
  passed : ∀ index, index ∈ driver.stage.unsubmitted ∨ driver.stage = .step index →
    ∀ earlier < index, Passed store.steps earlier

theorem LinearRows.statusAt {rows : List WorkflowStepRun} (linear : LinearRows rows)
    (index : Nat) : Workflows.statusAt rows index ≠ .cancelled ∧
      Workflows.statusAt rows index ≠ .skippedConditional := by
  unfold Workflows.statusAt
  cases found : rows[index]? with
  | none => simp
  | some row => exact linear row (List.mem_of_getElem? found)

/-- A step that is settled, waits for nothing and cannot be overtaken has been passed. -/
theorem passed_of_open {rows : List WorkflowStepRun} (linear : LinearRows rows)
    (none_waiting : waitingIndices rows = []) (unsettled : refreshRunStatus rows = none)
    {index : Nat} (not_pending : statusAt rows index ≠ .pending)
    (not_left : ¬(statusAt rows index = .running ∨ statusAt rows index = .failed)) :
    Passed rows index := by
  have not_waiting : statusAt rows index ≠ .waiting := by
    intro waiting
    have member := mem_waitingIndices.mpr waiting
    simp [none_waiting] at member
  have not_ambiguous : statusAt rows index ≠ .ambiguous := by
    unfold statusAt
    cases found : rows[index]? with
    | none => simp
    | some row =>
        exact (refreshRunStatus_eq_none unsettled (List.mem_of_getElem? found)).1
  obtain ⟨not_cancelled, not_conditional⟩ := linear.statusAt index
  rw [not_or] at not_left
  unfold Passed
  cases status : statusAt rows index with
  | completed => exact .inl rfl
  | skipped => exact .inr rfl
  | pending => exact absurd status not_pending
  | running => exact absurd status not_left.1
  | failed => exact absurd status not_left.2
  | waiting => exact absurd status not_waiting
  | ambiguous => exact absurd status not_ambiguous
  | cancelled => exact absurd status not_cancelled
  | skippedConditional => exact absurd status not_conditional

/-- A reconciled step is passed; no other status changes. -/
theorem statusAt_reconciled (rows : List WorkflowStepRun) (index : Nat)
    {change : WorkflowStepRun → WorkflowStepRun}
    (changed : ∀ row, (change row).status = .completed ∨ (change row).status = .skipped)
    (other : Nat) :
    statusAt (rows.modify index change) other = statusAt rows other ∨
      Passed (rows.modify index change) other := by
  unfold Passed statusAt
  rw [List.getElem?_modify]
  cases rows[other]? with
  | none => exact .inl rfl
  | some row =>
      dsimp only [Option.map_eq_map, Option.map_some, Option.getD_some]
      split
      next => exact .inr (changed row)
      next => exact .inl rfl

theorem Overtakable.of_reconciled {definition : WorkflowDefinition}
    {rows : List WorkflowStepRun} {index place : Nat}
    {change : WorkflowStepRun → WorkflowStepRun}
    (changed : ∀ row, (change row).status = .completed ∨ (change row).status = .skipped)
    (overtakable : Overtakable definition (rows.modify place change) index) :
    Overtakable definition rows index := by
  obtain ⟨left, later, bound, after, pending⟩ := overtakable
  have same := statusAt_reconciled rows place changed
  refine ⟨?_, later, bound, after, ?_⟩
  · obtain same | completed | skipped := same index
    · rwa [same] at left
    · simp [completed] at left
    · simp [skipped] at left
  · obtain same | completed | skipped := same later
    · rwa [same] at pending
    · simp [completed] at pending
    · simp [skipped] at pending

section Preserved

variable {service : WorkflowService} {definition : WorkflowDefinition}
variable {store : Store} {driver : Driver} {reading : Reading}

/-- A linear definition is never executed in batches, and its steps are never skipped on a
condition. -/
theorem Transition.single {after : Store} {next : Driver} (linear : Linear definition)
    (transition : Transition service definition store driver reading after next)
    (single : driver.stage.isSingle = true) : next.stage.isSingle = true := by
  cases transition with
  | waits => exact single
  | starts stage starting => cases stage <;> first | rfl | cases starting
  | examines looping stage examining => cases stage <;> first | rfl | cases examining
  | refreshes looping settled =>
      unfold refreshRunStatus at settled
      repeat' split at settled
      all_goals cases settled
      all_goals rfl
  | classified at_step finished settled =>
      unfold classify at settled
      split at settled
      all_goals cases settled
      all_goals rfl
  | batches at_head none_waiting unsettled chosen =>
      cases ready : readyIndices definition store.steps with
      | nil => simp [ready, chooseBatch] at chosen
      | cons first rest => simp [ready, chooseBatch_linear linear] at chosen
  | @diverges index at_persist step found untrue =>
      have unconditional := linear.unconditional step (List.mem_of_getElem? found)
      simp [evaluateCondition, unconditional] at untrue
  | admits at_stage | submits at_stage | joins at_stage | refuses at_stage
  | overspends at_stage | regrouped at_stage =>
      rw [at_stage] at single
      cases single
  | regroups at_batch =>
      obtain at_stage | ⟨at_stage, _⟩ := at_batch <;> rw [at_stage] at single <;> cases single
  | _ => rfl

/-- Outside of the execution of a step no step can be overtaken. -/
theorem StaysInOrder.none_overtakable (stays : StaysInOrder definition store driver)
    {stage : Stage} (at_stage : driver.stage = stage) (looping : stage.inLoop = true)
    (not_step : ∀ index, stage ≠ .step index) (index : Nat) :
    ¬Overtakable definition store.steps index := by
  subst at_stage
  exact fun overtakable => not_step index (stays.clear looping index overtakable)

/-- A step that went well, alone, cannot be overtaken afterwards. -/
theorem StaysInOrder.not_left (stays : StaysInOrder definition store driver) {index : Nat}
    {row : WorkflowStepRun} (at_step : driver.stage = .step index)
    (finished : driver.workers index = .finished row) (not_running : row.status ≠ .running)
    (not_failed : row.status ≠ .failed) (other : Nat) :
    ¬Overtakable definition store.steps other := by
  intro overtakable
  have at_other := stays.clear (by rw [at_step]; rfl) other overtakable
  cases at_step.symm.trans at_other
  obtain running | failed := overtakable.1
  · exact not_running ((stays.finished index row at_step finished).symm.trans running)
  · exact not_failed ((stays.finished index row at_step finished).symm.trans failed)

theorem Transition.clear {after : Store} {next : Driver}
    (transition : Transition service definition store driver reading after next)
    (linear : Linear definition) (stays : StaysInOrder definition store driver)
    (enters : driver.stage = .load → ∀ index ∈ List.range definition.steps.length,
      ¬Overtakable definition store.steps index)
    (looping : next.stage.inLoop = true) (index : Nat)
    (overtakable : Overtakable definition after.steps index) : next.stage = .step index := by
  have single := transition.single linear stays.single
  cases transition with
  | waits => exact stays.clear looping index overtakable
  | starts stage starting => cases stage <;> first | cases looping; done | cases starting
  | stops | creates | operates | cancels | continues | resumes | resolves | rejects | fails
  | finishes | forbids => cases looping
  | loads at_load =>
      have ⟨_, later, bound, after, _⟩ := overtakable
      rw [List.mem_range] at bound
      exact absurd overtakable (enters at_load index (List.mem_range.mpr (by omega)))
  | refreshes at_stage =>
      obtain at_stage | at_stage := at_stage
      · exact absurd overtakable (stays.none_overtakable at_stage rfl nofun index)
      · exact absurd overtakable (stays.none_overtakable at_stage rfl nofun index)
  | examines was_looping stage examining fewer =>
      have at_step := stays.clear was_looping index overtakable
      rw [at_step] at fewer
      cases stage <;> first | cases examining; done | cases fewer
  | reconciles at_stage changed =>
      have before := overtakable.of_reconciled changed
      obtain at_stage | at_stage := at_stage
      · exact absurd before (stays.none_overtakable at_stage rfl nofun index)
      · exact absurd before (stays.none_overtakable at_stage rfl nofun index)
  | gathers at_stage | completes at_stage | selects at_stage | awaits at_stage
  | rechecks at_stage | pauses at_stage | selected at_stage | reloads at_stage
  | dispatches at_stage | advances at_stage | idles at_stage =>
      exact absurd overtakable (stays.none_overtakable at_stage rfl nofun index)
  | @classifies place row at_step finished idle =>
      have not_left : row.status ≠ .running ∧ row.status ≠ .failed := by
        constructor <;> intro status <;> simp [classify, status] at idle
      exact absurd overtakable (stays.not_left at_step finished not_left.1 not_left.2 index)
  | @classified place row update at_step finished settled =>
      have not_left : row.status ≠ .running ∧ row.status ≠ .failed := by
        constructor <;> intro status <;> rw [classify, status] at settled <;> cases settled <;>
          cases looping
      exact absurd overtakable (stays.not_left at_step finished not_left.1 not_left.2 index)
  | batches | diverges | admits | submits | joins | refuses => cases single
  | skipsCondition at_stage | overspends at_stage | regrouped at_stage =>
      have was_single := stays.single
      rw [at_stage] at was_single
      cases was_single
  | regroups => cases single

theorem Transition.passed {after : Store} {next : Driver}
    (transition : Transition service definition store driver reading after next)
    (linear : Linear definition) (stays : StaysInOrder definition store driver) (index : Nat)
    (selected : index ∈ next.stage.unsubmitted ∨ next.stage = .step index) (earlier : Nat)
    (before : earlier < index) : Passed after.steps earlier := by
  have single := transition.single linear stays.single
  cases transition with
  | waits => exact stays.passed index selected earlier before
  | @selects at_head chosen none_waiting unsettled choice =>
      obtain member | at_step := selected
      · obtain rfl := List.mem_singleton.mp member
        obtain ⟨bound, pending, none_pending⟩ := chosen_first linear choice
        refine passed_of_open stays.rows none_waiting unsettled (none_pending earlier before) ?_
        intro left
        exact stays.none_overtakable at_head rfl nofun earlier
          ⟨left, index, List.mem_range.mpr bound, before, pending⟩
      · cases at_step
  | selected at_stage | reloads at_stage =>
      obtain member | at_step := selected
      · refine stays.passed index (.inl ?_) earlier before
        rw [at_stage]
        exact member
      · cases at_step
  | dispatches at_stage =>
      obtain member | at_step := selected
      · cases member
      · refine stays.passed index (.inl ?_) earlier before
        cases at_step
        rw [at_stage]
        exact List.mem_singleton_self _
  | starts stage starting =>
      cases stage <;> first | cases starting; done | simp [Stage.unsubmitted] at selected
  | examines looping stage examining =>
      cases stage <;> first | cases examining; done | simp [Stage.unsubmitted] at selected
  | refreshes looping settled =>
      rw [goto_stage, unsubmitted_refresh settled] at selected
      simp at selected
  | classified at_step finished settled =>
      rw [goto_stage, unsubmitted_classify settled] at selected
      simp at selected
  | batches | diverges | admits | submits | joins | refuses | regroups => cases single
  | _ =>
      obtain member | at_step := selected
      · cases member
      · cases at_step

theorem Transition.finished {after : Store} {next : Driver}
    (transition : Transition service definition store driver reading after next)
    (stays : StaysInOrder definition store driver) {index : Nat} {row : WorkflowStepRun}
    (at_step : next.stage = .step index) (finished : next.workers index = .finished row) :
    statusAt after.steps index = row.status := by
  cases transition with
  | waits => exact stays.finished index row at_step finished
  | dispatches =>
      cases at_step
      rw [enterWorker_workers, Function.update_self] at finished
      cases finished
  | starts stage starting => cases stage <;> first | cases starting; done | cases at_step
  | examines looping stage examining =>
      cases stage <;> first | cases examining; done | cases at_step
  | _ => cases at_step

theorem LinearRows.drive (rows : LinearRows store.steps)
    (single : driver.stage.isSingle = true) :
    LinearRows (drive service definition store driver reading).store.steps := by
  intro row member
  obtain ⟨index, found⟩ := List.getElem?_of_mem member
  obtain stored | pending | completed | skipped | ⟨_, other, at_skip⟩ :=
    drive_row_status service definition store driver reading found
  · exact rows row (List.mem_of_getElem? stored)
  · simp [pending]
  · simp [completed]
  · simp [skipped]
  · rw [at_skip] at single
    cases single

theorem StaysInOrder.drive (stays : StaysInOrder definition store driver)
    (linear : Linear definition)
    (enters : driver.stage = .load → ∀ index ∈ List.range definition.steps.length,
      ¬Overtakable definition store.steps index) :
    StaysInOrder definition (drive service definition store driver reading).store
      (drive service definition store driver reading).driver := by
  have transition := drive_transition service definition store driver reading
  exact {
    tracks := stays.tracks.drive reading
    rows := stays.rows.drive stays.single
    single := transition.single linear stays.single
    clear := transition.clear linear stays enters
    finished := fun _ _ => transition.finished stays
    passed := transition.passed linear stays }

/-- The worker of the step that is executed alone goes on. -/
theorem StaysInOrder.advances {move : Move} {index : Nat}
    (stays : StaysInOrder definition store driver) (at_step : driver.stage = .step index)
    (tracks : Tracks move.store move.driver) (rows : LinearRows move.store.steps)
    (stage_eq : move.driver.stage = driver.stage)
    (others : ∀ other, other ≠ index →
      statusAt move.store.steps other = statusAt store.steps other)
    (claimed : statusAt move.store.steps index ≠ .pending)
    (finished : ∀ row, move.driver.workers index = .finished row →
      statusAt move.store.steps index = row.status) :
    StaysInOrder definition move.store move.driver := by
  refine ⟨tracks, rows, stage_eq ▸ stays.single, ?_, ?_, ?_⟩
  · rintro looping other ⟨left, later, bound, after, pending⟩
    rw [stage_eq]
    by_cases same : other = index
    · rw [same, at_step]
    · have different : later ≠ index := fun same => claimed (same ▸ pending)
      rw [others other same] at left
      rw [others later different] at pending
      exact stays.clear (stage_eq ▸ looping) other ⟨left, later, bound, after, pending⟩
  · intro other row at_other
    cases at_step.symm.trans (stage_eq.symm.trans at_other)
    exact finished row
  · intro other selected earlier before
    rw [stage_eq] at selected
    have passed := stays.passed other selected earlier before
    rw [at_step] at selected
    obtain member | at_other := selected
    · cases member
    · cases at_other
      rwa [Passed, others earlier (by omega)]

theorem StaysInOrder.step_of_isExecuting (stays : StaysInOrder definition store driver)
    (executing : driver.stage.isExecuting = true) : ∃ index, driver.stage = .step index := by
  have single := stays.single
  cases at_stage : driver.stage with
  | step index => exact ⟨index, rfl⟩
  | persist update =>
      rw [at_stage] at executing single
      cases update <;> first | cases executing; done | cases single
  | join =>
      rw [at_stage] at single
      cases single
  | _ =>
      rw [at_stage] at executing
      cases executing

theorem LinearRows.set {rows : List WorkflowStepRun} (linear : LinearRows rows) {index : Nat}
    {row : WorkflowStepRun} (written : row.status ≠ .cancelled ∧ row.status ≠ .skippedConditional) :
    LinearRows (rows.set index row) := by
  intro other member
  obtain stored | rfl := List.mem_or_eq_of_mem_set member
  · exact linear other stored
  · exact written

theorem StaysInOrder.work (stays : StaysInOrder definition store driver) (index : Nat) :
    StaysInOrder definition (work service definition store driver index reading).store
      (work service definition store driver index reading).driver := by
  by_cases executes : driver.Executes index
  · by_cases executing : driver.stage.isExecuting = true
    · obtain ⟨alone, at_step⟩ := stays.step_of_isExecuting executing
      rw [Driver.Executes, at_step] at executes
      subst executes
      have tracks := @Tracks.work service definition store driver stays.tracks index reading
      have found := work_case service definition store driver index reading
      generalize Workflows.work service definition store driver index reading = move
        at found tracks ⊢
      cases found with
      | stays => exact stays
      | claims queued free found =>
          apply stays.advances at_step tracks
          · exact stays.rows.set (by simp [claimStep])
          · rfl
          · exact fun other different => statusAt_set_ne _ _ different
          · simp [statusAt_set_self found, claimStep]
          · intro row finished
            rw [enterWorker_workers, Function.update_self] at finished
            cases finished
      | proceeds stage was_open active steps_eq stage_eq rows_eq batch_eq workers_eq silent =>
          have running := stays.tracks.active index (WorkerStage.isActive_of_mayRequest was_open)
          apply stays.advances at_step tracks (steps_eq ▸ stays.rows) stage_eq
          · simp [steps_eq]
          · simp [steps_eq, running]
          · intro row finished
            rw [workers_eq, Function.update_self] at finished
            rw [finished] at active
            cases active
      | requests step reading found was_request =>
          have running := (stays.tracks.active_of_request was_request).1
          apply stays.advances at_step tracks
          · rw [await_steps]
            exact stays.rows
          · rfl
          · simp
          · simp [running]
          · intro row finished
            rw [enterWorker_workers, Function.update_self] at finished
            cases finished
      | @marks mark row was_mark found =>
          apply stays.advances at_step tracks
          · apply stays.rows.set
            cases mark <;> simp [StepMark.apply]
          · rfl
          · exact fun other different => statusAt_set_ne _ _ different
          · simp [statusAt_set_self found, StepMark.status_ne_pending]
          · intro finished at_worker
            rw [enterWorker_workers, Function.update_self] at at_worker
            cases at_worker
            exact statusAt_set_self found
    · rw [stays.tracks.work_idle (Bool.eq_false_of_not_eq_true executing)]
      exact stays
  · have not_working := mt (stays.tracks.working index) executes
    rw [not_or, Bool.not_eq_true, Bool.not_eq_true] at not_working
    rw [work_still service definition store driver index reading not_working.1 not_working.2]
    exact stays

end Preserved

section Dispatch

variable (service : WorkflowService) (definition : WorkflowDefinition)

/-- In a sequential history whose calls enter the loop in order, the steps before a selected
one have been passed. -/
theorem orderRule (linear : Linear definition) :
    SerialRule (fun store => LinearRows store.steps) (StaysInOrder definition) service definition
      (fun state input => Sequential state input ∧ EntersInOrder definition state input) where
  sequential _ _ allowed := allowed.1
  initially _ member := nomatch member
  launches store ctx allowed call rows := by
    refine ⟨.launched store ctx allowed call, rows, ?_, ?_, ?_, ?_⟩
    · cases call <;> rfl
    · cases call <;> exact nofun
    · cases call <;> exact fun _ _ => nofun
    · cases call <;> exact fun _ => nofun
  decides _ _ rows := rows
  drives state caller reading allowed stays := by
    have stays_after := @StaysInOrder.drive service definition _ _ reading stays linear
      fun at_load => by
        have enters := allowed.2
        rwa [EntersInOrder, at_load] at enters
    exact ⟨fun _ => stays_after.rows, fun _ => stays_after⟩
  works state caller index reading _ stays :=
    ⟨fun _ => (stays.work index).rows, fun _ => stays.work index⟩
  crashes _ _ _ stays := stays.rows

/-- A dispatched step finds every step before it completed or skipped. -/
def DispatchesInOrder (state : EngineState) (input : Input) : Prop :=
  ∀ index action, EngineEvent.requested index action ∈
      (engineStep service definition state input).2 →
    ∀ earlier < index, statusAt state.store.steps earlier = .completed ∨
      statusAt state.store.steps earlier = .skipped

/-- In a sequential history the steps before a dispatched one are completed or skipped, if no
call enters the loop with a running or failed step before a pending one. -/
theorem dispatches_in_order (linear : Linear definition) {inputs : List Input}
    (admitted : (engine service definition).Admits (fun state input =>
      Sequential state input ∧ EntersInOrder definition state input) initialState inputs) :
    (engine service definition).Admits (DispatchesInOrder service definition) initialState
      inputs := by
  have holds (state : EngineState) (input : Input)
      (serial : Serial (fun store => LinearRows store.steps) (StaysInOrder definition) state)
      (_ : Sequential state input ∧ EntersInOrder definition state input) :
      DispatchesInOrder service definition state input := by
    intro index action requested earlier before
    obtain ⟨caller, running, requests⟩ := requested_by requested
    have stays := serial.on_its_way running
    have executes := (stays.tracks.active_of_request requests).2
    have executing : (state.drivers caller).stage.isExecuting = true := by
      by_contra idle
      exact not_executes_of_stage rfl (Bool.eq_false_of_not_eq_true idle) index executes
    obtain ⟨alone, at_step⟩ := stays.step_of_isExecuting executing
    rw [Driver.Executes, at_step] at executes
    subst executes
    exact stays.passed index (.inr at_step) earlier before
  exact (orderRule service definition linear).admits holds admitted

end Dispatch

namespace Demo

theorem pair_linear : Linear pair := by
  constructor
  · rfl
  · decide
  · decide

/-- A call crashes after its first step has been completed; another resumes the run. -/
def continued : List Input :=
  start 0 :: moves 0 7 ++ works 0 0 4 ++ .crash 0 :: launch 0 .resume :: moves 0 6 ++ works 0 1 3

end Demo

theorem dispatches_in_order_demo :
    (engine Demo.service Demo.pair).Admits (DispatchesInOrder Demo.service Demo.pair)
      initialState Demo.continued :=
  dispatches_in_order Demo.service Demo.pair Demo.pair_linear
    ((sequential_of_oneCaller (show (engine Demo.service Demo.pair).Admits
      (fun state input => OneCaller 0 state input = true) initialState Demo.continued by
        decide +kernel)).and (by decide +kernel))

/-- After a crash the second step is dispatched while the outcome of the first is unknown. -/
theorem not_dispatches_in_order :
    Linear Demo.pair ∧ validateWorkflowDefinition Demo.config 20 Demo.pair = .ok () ∧
      ¬∀ inputs, (engine Demo.service Demo.pair).Admits Sequential initialState inputs →
        (engine Demo.service Demo.pair).Admits (DispatchesInOrder Demo.service Demo.pair)
          initialState inputs := by
  refine ⟨Demo.pair_linear, by decide +kernel, fun ordered => ?_⟩
  have sequential : (engine Demo.service Demo.pair).Admits (fun state input =>
      OneCaller 0 state input = true) initialState Demo.crashed := by
    decide +kernel
  have split : Demo.crashed = Demo.crashed.dropLast ++ .work 0 1 Demo.executed :: [] := rfl
  have in_order := ordered _ (sequential_of_oneCaller sequential) _ _ _ split
  have passed : (engineStep Demo.service Demo.pair
      ((engine Demo.service Demo.pair).stateAfter initialState Demo.crashed.dropLast)
      (.work 0 1 Demo.executed)).2.any (EngineEvent.isRequest 1) = true := by
    decide +kernel
  obtain ⟨action, requested⟩ := exists_requested_of_any passed
  have running : statusAt ((engine Demo.service Demo.pair).stateAfter initialState
      Demo.crashed.dropLast).store.steps 0 = .running := by
    decide +kernel
  have done := in_order 1 action requested 0 (by decide)
  rw [running] at done
  simp at done

end Era.Workflows
