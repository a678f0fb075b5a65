import Era.Workflows.ReceiptRoutes
import Era.Workflows.Rest

/-!
# How many steps wait

Steps begin to wait for confirmations only while the one step or the batch that a call has
chosen is executed, and nothing waits when a call chooses.  The size of a batch therefore
bounds the number of steps that wait.
-/

namespace Era.Workflows

open Era.Core Era.Lib Era.Services

/-! ## The size of a batch -/

theorem length_sliceTo_le {α : Type} (items : List α) {stop : Int} (nonneg : 0 ≤ stop) :
    ((sliceTo items stop).length : Int) ≤ stop := by
  unfold sliceTo
  rw [if_pos nonneg]
  have taken := List.length_take_le stop.toNat items
  omega

theorem length_chooseBatch_le (definition : WorkflowDefinition) {maxPendingConfirmations : Int}
    (positive : 1 ≤ maxPendingConfirmations) (ready : List Nat) :
    ((chooseBatch definition maxPendingConfirmations ready).length : Int) ≤
      maxPendingConfirmations := by
  unfold chooseBatch
  split
  next => exact Int.le_trans Int.one_nonneg positive
  next first rest =>
    split
    next block found =>
      have concurrent := List.find?_some found
      rw [Bool.and_eq_true, decide_eq_true_eq] at concurrent
      have nonneg : 0 ≤ min block.maxConcurrency maxPendingConfirmations := by omega
      have bound := length_sliceTo_le (groupIndices definition (first :: rest) block) nonneg
      omega
    next => exact positive

/-- A step that a parallel block names. -/
def WorkflowDefinition.InBlock (definition : WorkflowDefinition) (block : WorkflowParallelBlock)
    (index : Nat) : Prop :=
  ∃ step, definition.steps[index]? = some step ∧ step.id ∈ block.steps

/-- Several steps are chosen together only from one parallel block. -/
theorem chooseBatch_inBlock {definition : WorkflowDefinition} {maxPendingConfirmations : Int}
    {ready rest : List Nat} {first second : Nat}
    (chosen : chooseBatch definition maxPendingConfirmations ready = first :: second :: rest) :
    ∃ block ∈ definition.parallel,
      ∀ index ∈ first :: second :: rest, definition.InBlock block index := by
  unfold chooseBatch at chosen
  split at chosen
  next => cases chosen
  next =>
    split at chosen
    next block found =>
      refine ⟨block, List.mem_of_find?_eq_some found, fun index member => ?_⟩
      rw [← chosen] at member
      have grouped := (sliceTo_sublist _ _).subset member
      unfold groupIndices at grouped
      have named := (List.mem_filter.mp grouped).2
      rw [Option.any_eq_true] at named
      obtain ⟨step, is_step, contained⟩ := named
      exact ⟨step, is_step, List.contains_iff_mem.mp contained⟩
    next => cases chosen

/-- Rows of which no more wait. -/
theorem waitingIndices_length_le {rows later : List WorkflowStepRun}
    (none_more : ∀ index, statusAt later index = .waiting → statusAt rows index = .waiting) :
    (waitingIndices later).length ≤ (waitingIndices rows).length := by
  apply List.Subperm.length_le
  apply List.subperm_of_subset (waitingIndices_nodup later)
  intro index member
  rw [mem_waitingIndices] at member ⊢
  exact none_more index member

/-- Waiting rows that are all of one list are at most as many as its members. -/
theorem waitingIndices_length_le_of_subset {rows : List WorkflowStepRun} {batch : List Nat}
    (within : ∀ index, statusAt rows index = .waiting → index ∈ batch) :
    (waitingIndices rows).length ≤ batch.length := by
  apply List.Subperm.length_le
  apply List.subperm_of_subset (waitingIndices_nodup rows)
  intro index member
  exact within index (mem_waitingIndices.mp member)

/-! ## What a call has chosen -/

/-- The stages of a call from its choice of steps until these have been executed. -/
def Stage.isChosen : Stage → Bool
  | .persist (.select _) | .reload _ | .persist (.running _) | .step _ | .budget _ _
  | .persist (.submit _ _) | .join => true
  | _ => false

/-- The step that a call has chosen alone. -/
def Stage.alone? : Stage → Option Nat
  | .persist (.select index) | .reload index | .persist (.running index) | .step index =>
      some index
  | _ => none

theorem Stage.isChosen_of_isExecuting {stage : Stage} (executing : stage.isExecuting = true) :
    stage.isChosen = true := by
  unfold isExecuting at executing
  split at executing <;> first | rfl | cases executing

theorem Stage.isChosen_persist {update : RunUpdate}
    (unsubmitted : (Stage.persist update).unsubmitted = []) :
    (Stage.persist update).isChosen = false := by
  cases update <;> first | rfl | cases unsubmitted

/-- The steps that wait are few, and all of those that a call has chosen while it executes
them. -/
structure Bounded (bound : Int) (definition : WorkflowDefinition) (store : Store)
    (driver : Driver) : Prop where
  tracks : Tracks store driver
  few : ((waitingIndices store.steps).length : Int) ≤ bound
  within : driver.stage.isChosen = true →
    ∀ index, statusAt store.steps index = .waiting → index ∈ driver.batch
  narrow : driver.stage.isChosen = true → (driver.batch.length : Int) ≤ bound
  alone : ∀ index, driver.stage.alone? = some index → driver.batch = [index]
  together : driver.stage.isChosen = true → driver.stage.alone? = none →
    ∃ block ∈ definition.parallel, ∀ index ∈ driver.batch, definition.InBlock block index

section Preserved

variable {service : WorkflowService} {definition : WorkflowDefinition}
variable {store : Store} {driver : Driver} {reading : Reading} {bound : Int}

/-- A call that has chosen no steps. -/
theorem Bounded.goes {after : Store} {next : Driver} (tracks : Tracks after next)
    (few : ((waitingIndices after.steps).length : Int) ≤ bound)
    (not_chosen : next.stage.isChosen = false) : Bounded bound definition after next where
  tracks := tracks
  few := few
  within chosen := by simp [not_chosen] at chosen
  narrow chosen := by simp [not_chosen] at chosen
  alone index alone := by
    unfold Stage.alone? at alone
    split at alone
    all_goals simp_all [Stage.isChosen]
  together chosen := by simp [not_chosen] at chosen

/-- A call that goes on with the steps that it has chosen. -/
theorem Bounded.keeps {after : Store} {next : Driver}
    (bounded : Bounded bound definition store driver)
    (tracks : Tracks after next) (steps_eq : after.steps = store.steps)
    (batch_eq : next.batch = driver.batch) (chosen : driver.stage.isChosen = true)
    (alone_eq : next.stage.alone? = driver.stage.alone?) :
    Bounded bound definition after next where
  tracks := tracks
  few := by
    rw [steps_eq]
    exact bounded.few
  within _ := by
    rw [steps_eq, batch_eq]
    exact bounded.within chosen
  narrow _ := by
    rw [batch_eq]
    exact bounded.narrow chosen
  alone := by
    rw [alone_eq, batch_eq]
    exact bounded.alone
  together _ := by
    rw [alone_eq, batch_eq]
    exact bounded.together chosen

/-- A transaction of a call makes no step wait. -/
theorem drive_waiting {index : Nat}
    (waits : statusAt (drive service definition store driver reading).store.steps index =
      .waiting) : statusAt store.steps index = .waiting := by
  cases found : (drive service definition store driver reading).store.steps[index]? with
  | none =>
      rw [statusAt, found] at waits
      cases waits
  | some row =>
      rw [statusAt, found, Option.map_some, Option.getD_some] at waits
      obtain before | pending | completed | skipped | ⟨skipped, _⟩ :=
        drive_row_status service definition store driver reading found
      · rw [statusAt, before]
        exact waits
      all_goals simp_all

theorem Bounded.transition {after : Store} {next : Driver} (positive : 1 ≤ bound)
    (same_bound : service.maxPendingConfirmations = bound)
    (bounded : Bounded bound definition store driver) (tracks : Tracks after next)
    (few : ((waitingIndices after.steps).length : Int) ≤ bound)
    (transition : Transition service definition store driver reading after next) :
    Bounded bound definition after next := by
  subst same_bound
  cases transition with
  | waits => exact bounded
  | starts stage starting =>
      apply Bounded.goes tracks few
      cases stage <;> first | rfl | cases starting
  | stops | creates | operates | cancels | continues | resumes | resolves | loads | rejects
  | fails | gathers | completes | awaits | reconciles | rechecks | pauses | finishes
  | forbids | diverges | skipsCondition | classifies | advances | idles | refuses | overspends
  | regroups | regrouped => exact .goes tracks few rfl
  | refreshes looping settled =>
      exact .goes tracks few (Stage.isChosen_persist (unsubmitted_refresh settled))
  | classified at_step finished settled =>
      exact .goes tracks few (Stage.isChosen_persist (unsubmitted_classify settled))
  | examines looping stage examining fewer =>
      apply Bounded.goes tracks few
      cases stage <;> first | rfl | cases examining
  | selects at_head none_waiting unsettled chosen =>
      refine ⟨tracks, few, fun _ index waits => ?_, fun _ => positive, fun index alone => ?_,
        fun _ => nofun⟩
      · rw [← mem_waitingIndices, none_waiting] at waits
        cases waits
      · cases alone
        rfl
  | batches at_head none_waiting unsettled chosen =>
      refine ⟨tracks, few, fun _ index waits => ?_, fun _ => ?_, fun _ => nofun, fun _ _ => ?_⟩
      · rw [← mem_waitingIndices, none_waiting] at waits
        cases waits
      · have narrow := length_chooseBatch_le definition positive
          (readyIndices definition store.steps)
        rwa [chosen] at narrow
      · exact chooseBatch_inBlock chosen
  | selected at_persist | reloads at_persist | dispatches at_persist | admits at_persist
  | submits at_persist | joins at_persist =>
      exact bounded.keeps tracks rfl rfl (by rw [at_persist]; rfl) (by rw [at_persist]; rfl)

theorem Bounded.drive (positive : 1 ≤ service.maxPendingConfirmations)
    (bounded : Bounded service.maxPendingConfirmations definition store driver) :
    Bounded service.maxPendingConfirmations definition
      (drive service definition store driver reading).store
      (drive service definition store driver reading).driver := by
  have fewer := waitingIndices_length_le fun index =>
    @drive_waiting service definition store driver reading index
  have few := bounded.few
  exact bounded.transition positive rfl (bounded.tracks.drive reading) (by omega)
    (drive_transition service definition store driver reading)

/-- Who works on a step has been chosen with it. -/
theorem Bounded.chosen (bounded : Bounded bound definition store driver) {index : Nat}
    (works : (driver.workers index).isQueued = true ∨ (driver.workers index).isActive = true) :
    driver.stage.isChosen = true ∧ index ∈ driver.batch := by
  have executes := bounded.tracks.working index works
  have alone := bounded.alone index
  unfold Driver.Executes at executes
  split at executes
  next selected at_step =>
    subst executes
    rw [at_step] at alone ⊢
    exact ⟨rfl, by simp [alone rfl]⟩
  next first rest at_submit =>
    rw [at_submit]
    exact ⟨rfl, executes⟩
  next at_join =>
    rw [at_join]
    exact ⟨rfl, executes⟩
  next => cases executes

/-- A transaction of a worker makes only the step of the worker wait. -/
theorem work_waiting {worked index : Nat}
    (waits : statusAt (work service definition store driver worked reading).store.steps index =
      .waiting) :
    statusAt store.steps index = .waiting ∨
      index = worked ∧ (driver.workers worked).isActive = true := by
  cases found : (work service definition store driver worked reading).store.steps[index]? with
  | none =>
      rw [statusAt, found] at waits
      cases waits
  | some row =>
      rw [statusAt, found, Option.map_some, Option.getD_some] at waits
      obtain before | ⟨same, running | ⟨mark, earlier, was_mark, _, _⟩⟩ :=
        work_row service definition store driver worked reading found
      · left
        rw [statusAt, before]
        exact waits
      · rw [running] at waits
        cases waits
      · exact .inr ⟨same, by rw [was_mark]; rfl⟩

theorem Bounded.work (bounded : Bounded bound definition store driver) (index : Nat) :
    Bounded bound definition (work service definition store driver index reading).store
      (work service definition store driver index reading).driver := by
  have tracks := @Tracks.work service definition store driver bounded.tracks index reading
  by_cases executing : driver.stage.isExecuting = true
  · obtain ⟨stage_eq, _, batch_eq, _⟩ := work_keeps service definition store driver index reading
    have chosen := Stage.isChosen_of_isExecuting executing
    have within (other : Nat)
        (waits : statusAt (Workflows.work service definition store driver index
          reading).store.steps other = .waiting) : other ∈ driver.batch := by
      obtain before | ⟨rfl, active⟩ := work_waiting waits
      · exact bounded.within chosen other before
      · exact (bounded.chosen (.inr active)).2
    have few := waitingIndices_length_le_of_subset within
    have narrow := bounded.narrow chosen
    refine ⟨tracks, by omega, ?_, ?_, ?_, ?_⟩
    · rw [batch_eq]
      exact fun _ => within
    · rw [batch_eq]
      exact fun _ => narrow
    · rw [stage_eq, batch_eq]
      exact bounded.alone
    · rw [stage_eq, batch_eq]
      exact bounded.together
  · rw [Bool.not_eq_true] at executing
    rw [bounded.tracks.work_idle executing]
    exact bounded

end Preserved

section Bound

variable (service : WorkflowService) (definition : WorkflowDefinition)

theorem boundRule (positive : 1 ≤ service.maxPendingConfirmations) :
    SerialRule
      (fun store => ((waitingIndices store.steps).length : Int) ≤ service.maxPendingConfirmations)
      (Bounded service.maxPendingConfirmations definition) service definition Sequential where
  sequential _ _ sequential := sequential
  initially := Int.le_trans Int.one_nonneg positive
  launches store ctx allowed call few := by
    apply Bounded.goes (.launched store ctx allowed call) few
    cases call <;> rfl
  decides _ _ few := few
  drives _ _ reading _ bounded :=
    have after := bounded.drive positive
    ⟨fun _ => after.few, fun _ => after⟩
  works _ _ index reading _ bounded :=
    have after := bounded.work index
    ⟨fun _ => after.few, fun _ => after⟩
  crashes _ _ _ bounded := bounded.few

/-- A step is dispatched while another waits only if one batch of a parallel block has both. -/
def DispatchesInBatch (state : EngineState) (input : Input) : Prop :=
  ∀ index action other, EngineEvent.requested index action ∈
      (engineStep service definition state input).2 →
    statusAt state.store.steps other = .waiting →
      ∃ caller, index ∈ (state.drivers caller).batch ∧ other ∈ (state.drivers caller).batch ∧
        ∃ block ∈ definition.parallel,
          definition.InBlock block index ∧ definition.InBlock block other

/-- In a sequential history at most as many steps wait as may, and what is dispatched while a
step waits is of the same batch. -/
theorem waits_bounded (positive : 1 ≤ service.maxPendingConfirmations) {inputs : List Input}
    (sequential : (engine service definition).Admits Sequential initialState inputs) :
    ((waitingIndices ((engine service definition).stateAfter initialState
          inputs).store.steps).length : Int) ≤ service.maxPendingConfirmations ∧
      (engine service definition).Admits (DispatchesInBatch service definition) initialState
        inputs := by
  have rule := boundRule service definition positive
  constructor
  · obtain ⟨caller, _, agrees⟩ :=
      Machine.invariant_of_admits rule.serial_initial
        (fun _ _ serial allowed => rule.step serial allowed) sequential
    by_cases off : (((engine service definition).stateAfter initialState
        inputs).drivers caller).stage = .off
    · exact agrees.rest off
    · exact (agrees.busy off).few
  · refine rule.admits (fun state input serial _ => ?_) sequential
    intro index action other requested waits
    obtain ⟨caller, running, requests⟩ := requested_by requested
    have bounded := serial.on_its_way running
    have active : ((state.drivers caller).workers index).isActive = true := by
      rw [requests]
      rfl
    obtain ⟨chosen, member⟩ := bounded.chosen (.inr active)
    have waits_within := bounded.within chosen other waits
    cases alone : (state.drivers caller).stage.alone? with
    | none =>
        obtain ⟨block, declared, named⟩ := bounded.together chosen alone
        exact ⟨caller, member, waits_within, block, declared, named index member,
          named other waits_within⟩
    | some single =>
        rw [bounded.alone single alone, List.mem_singleton] at member waits_within
        rw [waits_within, ← member, bounded.tracks.active index active] at waits
        cases waits

/-- A confirmation of another step is still to be decided. -/
def AwaitsDecision (store : Store) (index : Nat) : Prop :=
  ∃ row confirmationId, store.steps[index]? = some row ∧ row.status = .waiting ∧
    row.confirmationId = some confirmationId ∧
      store.confirmations confirmationId = some .pending

/-- No step is dispatched while another one awaits a decision. -/
def DispatchesAlone (state : EngineState) (input : Input) : Prop :=
  ∀ index action other, EngineEvent.requested index action ∈
      (engineStep service definition state input).2 → ¬AwaitsDecision state.store other

end Bound

namespace Demo

/-- Of two steps in one batch, the first comes to wait for its confirmation, and the second is
about to be dispatched. -/
def halfWaiting : List Input :=
  start 0 :: moves 0 7 ++ List.replicate 4 (.work 0 0 mustConfirm) ++ works 0 1 2

theorem halfWaiting_oneCaller :
    (engine service together).Admits (fun state input => OneCaller 0 state input = true)
      initialState (halfWaiting ++ [.work 0 1 executed]) := by
  decide +kernel

end Demo

theorem waits_bounded_demo :
    ((waitingIndices ((engine Demo.service Demo.together).stateAfter initialState
          (Demo.halfWaiting ++ [.work 0 1 Demo.executed])).store.steps).length : Int) ≤
        Demo.service.maxPendingConfirmations ∧
      (engine Demo.service Demo.together).Admits
        (DispatchesInBatch Demo.service Demo.together) initialState
          (Demo.halfWaiting ++ [.work 0 1 Demo.executed]) :=
  waits_bounded Demo.service Demo.together (by decide)
    (sequential_of_oneCaller Demo.halfWaiting_oneCaller)

/-- A member of a batch is dispatched while the confirmation of the other is pending. -/
theorem not_dispatches_alone :
    Demo.together.build Demo.config.platform = .ok () ∧
      validateWorkflowDefinition Demo.config 20 Demo.together = .ok () ∧
      1 ≤ Demo.service.maxPendingConfirmations ∧
      ¬∀ inputs, (engine Demo.service Demo.together).Admits (fun state input =>
          Sequential state input ∧ CrashFree input = true) initialState inputs →
        ((waitingIndices ((engine Demo.service Demo.together).stateAfter initialState
              inputs).store.steps).length : Int) ≤ Demo.service.maxPendingConfirmations ∧
          (engine Demo.service Demo.together).Admits
            (DispatchesAlone Demo.service Demo.together) initialState inputs := by
  refine ⟨by decide +kernel, by decide +kernel, by decide, fun bounded => ?_⟩
  have crash_free : (engine Demo.service Demo.together).Admits (fun _ input =>
      CrashFree input = true) initialState (Demo.halfWaiting ++ [.work 0 1 Demo.executed]) := by
    decide +kernel
  have passed : (engineStep Demo.service Demo.together
      ((engine Demo.service Demo.together).stateAfter initialState Demo.halfWaiting)
      (.work 0 1 Demo.executed)).2.any (EngineEvent.isRequest 1) = true := by
    decide +kernel
  obtain ⟨action, requested⟩ := exists_requested_of_any passed
  have alone := (bounded _
    ((sequential_of_oneCaller Demo.halfWaiting_oneCaller).and crash_free)).2 Demo.halfWaiting _ []
      rfl 1 action 0 requested
  exact alone ⟨_, "c", rfl, rfl, rfl, rfl⟩

end Era.Workflows
