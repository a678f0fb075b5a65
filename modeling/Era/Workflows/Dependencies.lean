import Era.Workflows.Sequential

/-!
# Dependencies

A step is ready once the steps that it depends on are done, and a step that is done stays
done.  So the dependencies of a dispatched step are done.  The dependencies of its parallel
blocks are never read: they are done where they follow from those of the steps.
-/

namespace Era.Workflows

open Era.Core Era.Lib Era.Services

/-- Every dependency of a step is done. -/
def stepReady (definition : WorkflowDefinition) (rows : List WorkflowStepRun)
    (step : WorkflowStep) : Prop :=
  ∀ id ∈ step.dependsOn, dependencyDone definition rows id = true

/-- Every dependency of the blocks that contain a step is done. -/
def blocksReady (definition : WorkflowDefinition) (rows : List WorkflowStepRun)
    (step : WorkflowStep) : Prop :=
  ∀ block ∈ definition.parallel, step.id ∈ block.steps →
    ∀ id ∈ block.dependsOn, dependencyDone definition rows id = true

/-! ## Steps that are done stay done -/

/-- Rows in which all that was done is still done. -/
def KeepsDone (before after : List WorkflowStepRun) : Prop :=
  ∀ index, (statusAt before index).done = true → (statusAt after index).done = true

theorem KeepsDone.refl (rows : List WorkflowStepRun) : KeepsDone rows rows := fun _ => id

theorem KeepsDone.dependencyDone {before after : List WorkflowStepRun}
    (keeps : KeepsDone before after) {definition : WorkflowDefinition} {id : String}
    (done : dependencyDone definition before id = true) :
    dependencyDone definition after id = true := by
  unfold Workflows.dependencyDone at done ⊢
  split at done
  next => cases done
  next index _ => exact keeps index done

theorem KeepsDone.stepReady {before after : List WorkflowStepRun}
    (keeps : KeepsDone before after) {definition : WorkflowDefinition} {step : WorkflowStep}
    (ready : stepReady definition before step) : stepReady definition after step :=
  fun id member => keeps.dependencyDone (ready id member)

theorem KeepsDone.modify (rows : List WorkflowStepRun) (index : Nat)
    {change : WorkflowStepRun → WorkflowStepRun}
    (keeps : ∀ row : WorkflowStepRun, row.status.done = true → (change row).status.done = true) :
    KeepsDone rows (rows.modify index change) := by
  intro other done
  unfold statusAt at done ⊢
  rw [List.getElem?_modify]
  cases found : rows[other]? with
  | none =>
      rw [found] at done
      cases done
  | some row =>
      rw [found] at done
      simp only [Option.map_eq_map, Option.map_some, Option.getD_some] at done ⊢
      split
      next => exact keeps row done
      next => exact done

/-- A row that is written over a step that is not done. -/
theorem KeepsDone.set (rows : List WorkflowStepRun) {index : Nat} (row : WorkflowStepRun)
    (open_ : (statusAt rows index).done = false) : KeepsDone rows (rows.set index row) := by
  intro other done
  have different : other ≠ index := by
    rintro rfl
    rw [open_] at done
    cases done
  rwa [statusAt_set_ne rows row different]

theorem statusAt_modify_pending (rows : List WorkflowStepRun) (index : Nat)
    {change : WorkflowStepRun → WorkflowStepRun}
    (pending : ∀ row : WorkflowStepRun, row.status = .pending → (change row).status = .pending)
    {other : Nat} (claimed : statusAt (rows.modify index change) other ≠ .pending) :
    statusAt rows other ≠ .pending := by
  intro still
  apply claimed
  unfold statusAt at still ⊢
  rw [List.getElem?_modify]
  cases found : rows[other]? with
  | none => rfl
  | some row =>
      rw [found] at still
      simp only [Option.map_eq_map, Option.map_some, Option.getD_some] at still ⊢
      split
      next => exact pending row still
      next => exact still

/-! ## The invariant -/

/-- The dependencies of every step that has been claimed are done. -/
def Ordered (definition : WorkflowDefinition) (store : Store) : Prop :=
  ∀ index step, definition.steps[index]? = some step →
    statusAt store.steps index ≠ .pending → stepReady definition store.steps step

/-- A step that a call has selected and not yet claimed. -/
def Driver.Selects (driver : Driver) (index : Nat) : Prop :=
  index ∈ driver.stage.unsubmitted ∨ (driver.workers index).isQueued = true

/-- The dependencies of every step that has been selected or claimed are done. -/
structure SelectsReady (definition : WorkflowDefinition) (store : Store) (driver : Driver) :
    Prop where
  tracks : Tracks store driver
  ordered : Ordered definition store
  selected : ∀ index step, definition.steps[index]? = some step → driver.Selects index →
    stepReady definition store.steps step

section Preserved

variable {service : WorkflowService} {definition : WorkflowDefinition}
variable {store : Store} {driver : Driver}

/-- A move that selects no step, claims none that it has not selected and leaves what is done. -/
theorem SelectsReady.keeps {move : Move} (ready : SelectsReady definition store driver)
    (tracks : Tracks move.store move.driver)
    (keeps : KeepsDone store.steps move.store.steps)
    (selects : ∀ index, move.driver.Selects index → driver.Selects index)
    (claimed : ∀ index, statusAt move.store.steps index ≠ .pending →
      statusAt store.steps index ≠ .pending ∨ driver.Selects index) :
    SelectsReady definition move.store move.driver where
  tracks := tracks
  ordered index step found claims := by
    obtain earlier | selected := claimed index claims
    · exact keeps.stepReady (ready.ordered index step found earlier)
    · exact keeps.stepReady (ready.selected index step found selected)
  selected index step found selected :=
    keeps.stepReady (ready.selected index step found (selects index selected))

theorem stepReady_of_isReady {rows : List WorkflowStepRun} {index : Nat} {step : WorkflowStep}
    (ready : isReady definition rows index step = true) : stepReady definition rows step := by
  have done := (Bool.and_eq_true_iff.mp ready).2
  exact List.all_eq_true.mp done

theorem SelectsReady.drive (ready : SelectsReady definition store driver) (reading : Reading) :
    SelectsReady definition (drive service definition store driver reading).store
      (drive service definition store driver reading).driver := by
  have tracks := @Tracks.drive service definition store driver ready.tracks reading
  have found := drive_case service definition store driver reading
  generalize Workflows.drive service definition store driver reading = move at tracks found ⊢
  -- Where no step is selected anew and the workers stay, the selected steps are old ones.
  have fewer (workers_eq : move.driver.workers = driver.workers)
      (unsubmitted : ∀ index ∈ move.driver.stage.unsubmitted, index ∈ driver.stage.unsubmitted)
      (index : Nat) (selects : move.driver.Selects index) : driver.Selects index := by
    obtain member | queued := selects
    · exact .inl (unsubmitted index member)
    · exact .inr (workers_eq ▸ queued)
  cases found with
  | quiet steps_eq workers_eq unsubmitted awaited =>
      apply ready.keeps tracks (steps_eq ▸ .refl _)
      · apply fewer workers_eq
        obtain ⟨same, _⟩ | none := unsubmitted
        · simp [same]
        · simp [none]
      · exact fun index claimed => .inl (steps_eq ▸ claimed)
  | selects at_head store_eq none_waiting unsettled batch_eq unsubmitted_eq awaited_eq workers_eq =>
      refine ⟨tracks, store_eq ▸ ready.ordered, ?_⟩
      intro index step found selected
      rw [store_eq]
      obtain member | queued := selected
      · rw [unsubmitted_eq, batch_eq] at member
        obtain ⟨same, same_found, is_ready⟩ := mem_readyIndices.mp (mem_of_mem_chooseBatch member)
        obtain rfl := Option.some.inj (found.symm.trans same_found)
        exact stepReady_of_isReady is_ready
      · exact ready.selected index step found (.inr (workers_eq ▸ queued))
  | queues index steps_eq batch_eq executes_index unsubmitted_eq awaited_eq workers_eq =>
      apply ready.keeps tracks (steps_eq ▸ .refl _)
      · intro other selects
        obtain member | queued := selects
        · exact .inl (by simp [unsubmitted_eq, member])
        · by_cases same : other = index
          · exact .inl (by simp [unsubmitted_eq, same])
          · rw [workers_eq, Function.update_of_ne same] at queued
            exact .inr queued
      · exact fun other claimed => .inl (steps_eq ▸ claimed)
  | gathers at_head store_eq unsubmitted_eq awaited_eq rows_eq workers_eq =>
      apply ready.keeps tracks (store_eq ▸ .refl _)
      · exact fewer workers_eq (by simp [unsubmitted_eq])
      · exact fun index claimed => .inl (store_eq ▸ claimed)
  | settles index change idle changed attempt_eq steps_eq unsubmitted_eq awaited_eq rows_eq
    workers_eq =>
      have waiting : statusAt store.steps index ≠ .pending :=
        ready.tracks.awaited index (by simp [awaited_eq])
      apply ready.keeps tracks
      · rw [steps_eq]
        apply KeepsDone.modify
        intro row _
        obtain completed | skipped := changed row
        · rw [completed]
          rfl
        · rw [skipped]
          rfl
      · exact fewer workers_eq (by simp [unsubmitted_eq])
      · intro other claimed
        left
        by_cases same : other = index
        · rwa [same]
        · rwa [steps_eq, statusAt_modify_ne _ _ same] at claimed
  | skips index at_skip steps_eq unsubmitted_eq awaited_eq workers_eq =>
      have selected_eq : driver.stage.unsubmitted = [index] := congrArg Stage.unsubmitted at_skip
      apply ready.keeps tracks
      · rw [steps_eq]
        apply KeepsDone.modify
        intro row done
        unfold skipConditionalStep
        split
        next => rfl
        next => exact done
      · exact fewer workers_eq (by simp [unsubmitted_eq])
      · intro other claimed
        by_cases same : other = index
        · exact .inr (.inl (by simp [selected_eq, same]))
        · rw [steps_eq, statusAt_modify_ne _ _ same] at claimed
          exact .inl claimed
  | resolves at_resolve index steps_eq unsubmitted_eq awaited_eq workers_eq =>
      apply ready.keeps tracks
      · rw [steps_eq]
        apply KeepsDone.modify
        intro row done
        unfold resolveStep
        split
        next => rfl
        next => exact done
      · exact fewer workers_eq (by simp [unsubmitted_eq])
      · intro other claimed
        left
        rw [steps_eq] at claimed
        apply statusAt_modify_pending _ _ _ claimed
        intro row pending
        simp [resolveStep, pending]
  | creates request at_create none_before created steps_eq unsubmitted_eq awaited_eq workers_eq =>
      have all_pending (index : Nat) : statusAt move.store.steps index = .pending := by
        rw [statusAt, steps_eq, List.getElem?_map]
        cases definition.steps[index]? <;> rfl
      refine ⟨tracks, ?_, ?_⟩
      · exact fun index step found claimed => absurd (all_pending index) claimed
      · intro index step found selected
        obtain member | queued := selected
        · simp [unsubmitted_eq] at member
        · have idle := not_executes_of_stage at_create rfl
          rw [workers_eq, (ready.tracks.none_working idle index).1] at queued
          cases queued

theorem SelectsReady.work (ready : SelectsReady definition store driver) (index : Nat)
    (reading : Reading) :
    SelectsReady definition (work service definition store driver index reading).store
      (work service definition store driver index reading).driver := by
  have tracks := @Tracks.work service definition store driver ready.tracks index reading
  have found := work_case service definition store driver index reading
  generalize Workflows.work service definition store driver index reading = move at tracks found ⊢
  -- A worker that goes on is not queued any more.
  have fewer {stage : WorkerStage} (stage_eq : move.driver.stage = driver.stage)
      (workers_eq : move.driver.workers = Function.update driver.workers index stage)
      (unqueued : stage.isQueued = false) (other : Nat)
      (selects : move.driver.Selects other) : driver.Selects other := by
    obtain member | queued := selects
    · exact .inl (stage_eq ▸ member)
    · by_cases same : other = index
      · rw [workers_eq, same, Function.update_self, unqueued] at queued
        cases queued
      · rw [workers_eq, Function.update_of_ne same] at queued
        exact .inr queued
  cases found with
  | stays => exact ready
  | @claims row queued free found =>
      have was_queued : (driver.workers index).isQueued = true := by
        rw [queued]
        rfl
      apply ready.keeps tracks
      · apply KeepsDone.set
        rw [ready.tracks.queued index was_queued]
        rfl
      · exact fewer rfl rfl rfl
      · intro other claimed
        by_cases same : other = index
        · exact .inr (.inr (same ▸ was_queued))
        · exact .inl (statusAt_set_ne _ _ same ▸ claimed)
  | proceeds stage was_open active steps_eq stage_eq rows_eq batch_eq workers_eq silent =>
      apply ready.keeps tracks (steps_eq ▸ .refl _)
      · apply fewer stage_eq workers_eq
        cases stage with
        | queued => cases active
        | idle | budget | overspent | overspentRelease | inspect | request | mark | finished => rfl
      · exact fun other claimed => .inl (steps_eq ▸ claimed)
  | requests step reading found was_request =>
      apply ready.keeps tracks
      · rw [await_steps]
        exact .refl _
      · exact fewer rfl rfl rfl
      · intro other claimed
        rw [await_steps] at claimed
        exact .inl claimed
  | @marks mark row was_mark found =>
      have running : statusAt store.steps index = .running := by
        apply ready.tracks.active index
        rw [was_mark]
        rfl
      apply ready.keeps tracks
      · apply KeepsDone.set
        rw [running]
        rfl
      · exact fewer rfl rfl rfl
      · intro other claimed
        left
        by_cases same : other = index
        · rw [same, running]
          simp
        · exact statusAt_set_ne _ _ same ▸ claimed

end Preserved

section Dispatch

variable (service : WorkflowService) (definition : WorkflowDefinition)

/-- In a sequential history the dependencies of selected and claimed steps are done. -/
theorem dependenciesRule :
    SerialRule (Ordered definition) (SelectsReady definition) service definition Sequential where
  sequential _ _ sequential := sequential
  initially index step found claimed := absurd rfl claimed
  launches store ctx allowed call ordered := by
    refine ⟨.launched store ctx allowed call, ordered, ?_⟩
    intro index step found selected
    obtain member | queued := selected
    · cases call <;> cases member
    · cases queued
  decides _ _ ordered := ordered
  drives state caller reading _ ready :=
    ⟨fun _ => (ready.drive reading).ordered, fun _ => ready.drive reading⟩
  works state caller index reading _ ready :=
    ⟨fun _ => (ready.work index reading).ordered, fun _ => ready.work index reading⟩
  crashes _ _ _ ready := ready.ordered

/-- A dispatched step finds its dependencies and those of its blocks done. -/
def RespectsDependencies (state : EngineState) (input : Input) : Prop :=
  ∀ index action step, EngineEvent.requested index action ∈
      (engineStep service definition state input).2 →
    definition.steps[index]? = some step →
      stepReady definition state.store.steps step ∧ blocksReady definition state.store.steps step

/-- A step requires another if it depends on it or on a step that requires it. -/
inductive Requires : WorkflowStep → String → Prop where
  | depends {step : WorkflowStep} {id : String} (member : id ∈ step.dependsOn) : Requires step id
  | through {step earlier : WorkflowStep} {id dependency : String} {index : Nat}
      (member : dependency ∈ step.dependsOn) (known : definition.indexOf dependency = some index)
      (found : definition.steps[index]? = some earlier) (requires : Requires earlier id) :
      Requires step id

/-- Every member of a block requires by itself what the block depends on. -/
def BlocksRequired : Prop :=
  ∀ block ∈ definition.parallel, ∀ step ∈ definition.steps, step.id ∈ block.steps →
    ∀ id ∈ block.dependsOn, Requires definition step id

variable {service definition}

/-- What a step requires is done once its own dependencies are. -/
theorem Requires.done {store : Store} (ordered : Ordered definition store) {step : WorkflowStep}
    {id : String} (requires : Requires definition step id)
    (ready : stepReady definition store.steps step) :
    dependencyDone definition store.steps id = true := by
  induction requires with
  | depends member => exact ready _ member
  | @through step earlier id dependency index member known found requires ih =>
      have done := ready dependency member
      have claimed : statusAt store.steps index ≠ .pending := by
        intro pending
        simp [dependencyDone, known, pending, StepStatus.done] at done
      exact ih (ordered index earlier found claimed)

variable (service definition)

end Dispatch

namespace Demo

/-- A block of two steps that waits on the first step as a whole. -/
def blocked : WorkflowDefinition :=
  { name := "blocked"
    steps := [inspect "first", inspect "second", inspect "third"]
    parallel := [
      { steps := ["second", "third"], dependsOn := ["first"], maxConcurrency := 2 }] }

/-- The members of the block depend on the first step by themselves. -/
def chained : WorkflowDefinition :=
  { blocked with
    steps := [inspect "first", { inspect "second" with dependsOn := ["first"] },
      { inspect "third" with dependsOn := ["first"] }] }

theorem chained_blocksRequired : BlocksRequired chained := by
  intro block is_block step is_step member id needed
  simp only [chained, blocked, List.mem_singleton] at is_block
  subst is_block
  simp only [List.mem_singleton] at needed
  subst needed
  simp only [chained, blocked, List.mem_cons, List.not_mem_nil, or_false] at is_step
  obtain rfl | rfl | rfl := is_step
  · simp [inspect] at member
  · exact .depends (by simp)
  · exact .depends (by simp)

/-- The run comes to the dispatch of the second step. -/
def early : List Input := start 0 :: moves 0 7 ++ works 0 1 2

end Demo

end Era.Workflows
