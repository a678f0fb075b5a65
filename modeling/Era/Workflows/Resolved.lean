import Era.Workflows.Progress

/-!
# Runs that an operator continues

`resolve_ambiguous` with `continue` accepts the unknown outcome of the current step only.
Calls of it settle an ambiguous run if no ambiguous step comes before the current one: each
call takes care of one step and goes on to the next, and the run stays ambiguous as long as
another step is.
-/

namespace Era.Workflows

open Era.Core Era.Lib Era.Services

/-- The definition of the run is found, and the wall-clock budget is not used up. -/
structure Reading.Proceeds (reading : Reading) : Prop where
  found : reading.definition = .found
  inTime : reading.deadlinePassed = false

/-- No step has an unknown outcome. -/
def Unambiguous (rows : List WorkflowStepRun) : Prop :=
  ∀ index, statusAt rows index ≠ .ambiguous

/-- The owner accepts the unknown outcome of the current step: the call up to the head of its
loop. -/
def continueToHead (caller : Nat) (ctx : ExecutionContext) (allowed : String → Bool)
    (reading : Reading) : List Input :=
  .launch caller ctx allowed (.owner (.resolveAmbiguous "continue")) ::
    List.replicate 3 (.drive caller reading)

/-- A call that finds the run ambiguous again. -/
def continueCall (caller : Nat) (ctx : ExecutionContext) (allowed : String → Bool)
    (reading : Reading) : List Input :=
  continueToHead caller ctx allowed reading ++ List.replicate 2 (.drive caller reading)

section Rows

/-- Rows of which some ambiguous ones have been resolved. -/
def Resolves (before after : List WorkflowStepRun) : Prop :=
  ∀ index : Nat, after[index]? = before[index]? ∨ after[index]? = before[index]?.map resolveStep

theorem resolveStep_of_ne {row : WorkflowStepRun} (unambiguous : row.status ≠ .ambiguous) :
    resolveStep row = row := if_neg unambiguous

theorem resolveStep_unambiguous (row : WorkflowStepRun) :
    (resolveStep row).status ≠ .ambiguous := by
  unfold resolveStep
  split
  next => exact nofun
  next unambiguous => exact unambiguous

theorem Resolves.modify (rows : List WorkflowStepRun) (index : Nat) :
    Resolves rows (rows.modify index resolveStep) := by
  intro other
  rw [List.getElem?_modify]
  split
  next => exact .inr rfl
  next => exact .inl (by simp)

theorem Resolves.trans {before middle after : List WorkflowStepRun}
    (first : Resolves before middle) (second : Resolves middle after) : Resolves before after := by
  have twice (row : WorkflowStepRun) : resolveStep (resolveStep row) = resolveStep row :=
    resolveStep_of_ne (resolveStep_unambiguous row)
  intro index
  obtain same | resolved := second index
  · rw [same]
    exact first index
  · right
    obtain same | resolved_before := first index
    · rw [resolved, same]
    · rw [resolved, resolved_before, Option.map_map]
      congr 1
      exact funext twice

/-- Rows none of which is ambiguous any more: exactly the ambiguous ones have been resolved. -/
theorem Resolves.eq_map {before after : List WorkflowStepRun} (resolves : Resolves before after)
    (unambiguous : Unambiguous after) : after = before.map resolveStep := by
  apply List.ext_getElem?
  intro index
  rw [List.getElem?_map]
  obtain same | resolved := resolves index
  · rw [same]
    cases found : before[index]? with
    | none => rfl
    | some row =>
        have status := unambiguous index
        rw [statusAt, same, found] at status
        rw [Option.map_some, resolveStep_of_ne status]
  · exact resolved

theorem statusAt_resolved (rows : List WorkflowStepRun) (index other : Nat) :
    statusAt (rows.modify index resolveStep) other = .ambiguous ↔
      other ≠ index ∧ statusAt rows other = .ambiguous := by
  by_cases same : other = index
  · subst same
    have never : statusAt (rows.modify other resolveStep) other ≠ .ambiguous := by
      cases found : rows[other]? with
      | none =>
          rw [List.modify_eq_self (List.getElem?_eq_none_iff.mp found), statusAt, found]
          rintro ⟨⟩
      | some row =>
          rw [modify_of_found resolveStep found, statusAt_set_self found]
          exact resolveStep_unambiguous row
    simp [never]
  · rw [statusAt_modify_ne rows resolveStep same]
    simp [same]

theorem waitingIndices_resolved (rows : List WorkflowStepRun) (index other : Nat) :
    other ∈ waitingIndices (rows.modify index resolveStep) ↔ other ∈ waitingIndices rows := by
  rw [mem_waitingIndices, mem_waitingIndices]
  by_cases same : other = index
  · subst same
    cases found : rows[other]? with
    | none => rw [List.modify_eq_self (List.getElem?_eq_none_iff.mp found)]
    | some row =>
        rw [modify_of_found resolveStep found, statusAt_set_self found, statusAt, found]
        show (resolveStep row).status = .waiting ↔ row.status = .waiting
        unfold resolveStep
        split
        next ambiguous => simp [ambiguous]
        next => rfl
  · rw [statusAt_modify_ne rows resolveStep same]

theorem refresh_ambiguous_iff {rows : List WorkflowStepRun} :
    refreshRunStatus rows = some .ambiguous ↔ ¬Unambiguous rows := by
  have some_row : (rows.any fun row => row.status == .ambiguous) = true ↔ ¬Unambiguous rows := by
    rw [List.any_eq_true, Unambiguous, not_forall]
    constructor
    · rintro ⟨row, member, ambiguous⟩
      obtain ⟨index, found⟩ := List.getElem?_of_mem member
      refine ⟨index, not_not.mpr ?_⟩
      rw [statusAt, found]
      exact beq_iff_eq.mp ambiguous
    · rintro ⟨index, ambiguous⟩
      rw [not_not, statusAt] at ambiguous
      cases found : rows[index]? with
      | none =>
          rw [found] at ambiguous
          cases ambiguous
      | some row =>
          rw [found] at ambiguous
          exact ⟨row, List.mem_of_getElem? found, beq_iff_eq.mpr ambiguous⟩
  unfold refreshRunStatus
  by_cases ambiguous : (rows.any fun row => row.status == .ambiguous) = true
  · rw [if_pos ambiguous]
    simp [some_row.mp ambiguous]
  · rw [if_neg ambiguous]
    constructor
    · intro refreshed
      repeat' split at refreshed
      all_goals cases refreshed
    · exact fun unsettled => absurd (some_row.mpr unsettled) ambiguous

end Rows

/-! ## One call -/

section Calls

variable {service : WorkflowService} {definition : WorkflowDefinition}

theorem after_after (state : EngineState) (caller : Nat) (first second : Move) :
    (state.after caller first).after caller second = state.after caller second := by
  unfold EngineState.after
  dsimp only
  rw [Function.update_idem]

theorem after_drive (state : EngineState) (caller : Nat) (move : Move) (reading : Reading) :
    ((engine service definition).step (state.after caller move) (.drive caller reading)).1 =
      state.after caller (drive service definition move.store move.driver reading) := by
  rw [engine_step]
  unfold engineStep
  dsimp only
  rw [after_after, after_store, after_drivers_self]

theorem after_drive_events (state : EngineState) (caller : Nat) (move : Move)
    (reading : Reading) :
    ((engine service definition).step (state.after caller move) (.drive caller reading)).2 =
      (drive service definition move.store move.driver reading).events := by
  rw [engine_step]
  unfold engineStep
  dsimp only
  rw [after_store, after_drivers_self]

/-- A run that is ambiguous when an idle caller, its owner, continues it. -/
structure CanContinue (state : EngineState) (caller : Nat) (ctx : ExecutionContext)
    (run : WorkflowRun) : Prop where
  idle : (state.drivers caller).stage = .off
  found : state.store.run = some run
  ambiguous : run.status = .ambiguous
  owner : run.actorId = ctx.actorId

/-- The call that continues a run, at the head of its loop. -/
def continuedDriver (ctx : ExecutionContext) (run : WorkflowRun) : Driver :=
  { stage := .head
    ctx := { ctx with executionScope := pyOr run.executionScope ctx.executionScope }
    allowed := fun _ => true
    run := run.resolved }

/-- The rows once the outcome of the current step has been accepted. -/
def Store.continued (store : Store) (run : WorkflowRun) : Store :=
  { store with
    run := some run.resolved, steps := store.steps.modify run.currentStep resolveStep }

variable {state : EngineState} {caller : Nat} {ctx : ExecutionContext} {run : WorkflowRun}
variable {allowed : String → Bool} {reading : Reading}

/-- The transactions of a call that continues a run, up to the head of its loop. -/
theorem CanContinue.toHead (can : CanContinue state caller ctx run) (proceeds : reading.Proceeds) :
    (engine service definition).stateAfter state (continueToHead caller ctx allowed reading) =
        state.after caller
          { store := state.store.continued run, driver := continuedDriver ctx run } ∧
      (engine service definition).trace id state
        (continueToHead caller ctx allowed reading) = [] := by
  have launch_eq : (engine service definition).step state
      (.launch caller ctx allowed (.owner (.resolveAmbiguous "continue"))) =
        (state.after caller
          { store := state.store
            driver := { stage := .enter (.resolveAmbiguous "continue"), ctx, allowed } }, []) := by
    rw [engine_step]
    unfold engineStep
    dsimp only
    rw [can.idle]
    rfl
  have enter_eq (driver : Driver) (at_enter : driver.stage = .enter (.resolveAmbiguous "continue"))
      (same_ctx : driver.ctx = ctx) :
      drive service definition state.store driver reading =
        { store := state.store, driver := (driver.restored run).goto .resolve } := by
    unfold drive
    rw [at_enter]
    unfold enter
    dsimp only
    rw [can.found]
    dsimp only
    rw [if_neg (by rw [can.owner, same_ctx]; simp), if_neg (by rw [can.ambiguous]; simp),
      if_neg (by decide), if_pos rfl]
  have resolve_eq (driver : Driver) (at_resolve : driver.stage = .resolve)
      (same_run : driver.run = run) :
      drive service definition state.store driver reading =
        { store := state.store.continued run
          driver := { driver with
            stage := .load, run := run.resolved, allowed := fun _ => true } } := by
    unfold drive
    rw [at_resolve]
    unfold resolve Store.continued
    dsimp only
    rw [can.found, same_run, Option.map_some]
    congr 3
    simp [updateRun, WorkflowRun.resolved]
  have load_eq (driver : Driver) (at_load : driver.stage = .load)
      (same_actor : driver.ctx.actorId = ctx.actorId) (same_run : driver.run = run.resolved) :
      drive service definition (state.store.continued run) driver reading =
        { store := state.store.continued run, driver := driver.goto .head } := by
    unfold drive
    rw [at_load]
    unfold load Store.continued
    dsimp only
    rw [if_neg (by rw [same_actor, ← can.owner]; simp [WorkflowRun.resolved]), proceeds.found]
    dsimp only
    rw [← same_run]
  rw [continueToHead, Machine.stateAfter_cons, Machine.trace_cons, launch_eq]
  simp only [List.replicate_succ, List.replicate_zero, Machine.stateAfter_cons,
    Machine.stateAfter_nil, Machine.trace_cons, Machine.trace_nil, after_drive, after_drive_events]
  rw [enter_eq _ rfl rfl, resolve_eq _ rfl rfl, load_eq _ rfl rfl rfl]
  exact ⟨rfl, rfl⟩

/-- The run once it has been found ambiguous again. -/
def WorkflowRun.continued (run : WorkflowRun) : WorkflowRun :=
  RunUpdate.apply .ambiguous run.resolved

/-- A call that finds another ambiguous step, and none that waits, leaves the run ambiguous
with the next step as the current one. -/
theorem CanContinue.again (can : CanContinue state caller ctx run) (proceeds : reading.Proceeds)
    (none_waiting : waitingIndices (state.store.continued run).steps = [])
    (still : ¬Unambiguous (state.store.continued run).steps) :
    (engine service definition).stateAfter state (continueCall caller ctx allowed reading) =
        state.after caller
          { store := { state.store.continued run with run := some run.continued }
            driver := { continuedDriver ctx run with
              stage := .off, rows := (state.store.continued run).steps, run := run.continued } } ∧
      (engine service definition).trace id state
        (continueCall caller ctx allowed reading) = [.ended .returned] := by
  obtain ⟨head_eq, silent⟩ :=
    @CanContinue.toHead service definition state caller ctx run allowed reading can proceeds
  have refreshed : refreshRunStatus (state.store.continued run).steps = some .ambiguous :=
    refresh_ambiguous_iff.mpr still
  have head_drive : drive service definition (state.store.continued run)
      (continuedDriver ctx run) reading =
        { store := state.store.continued run
          driver := { continuedDriver ctx run with
            stage := .persist .ambiguous, rows := (state.store.continued run).steps } } := by
    show head service definition _ _ reading = _
    unfold head
    rw [proceeds.inTime, if_neg (by decide)]
    dsimp only
    rw [none_waiting, refreshed]
    rfl
  have persist_drive (driver : Driver) (at_persist : driver.stage = .persist .ambiguous)
      (same_run : driver.run = run.resolved) :
      drive service definition (state.store.continued run) driver reading =
        { store := { state.store.continued run with run := some run.continued }
          driver := { driver with stage := .off, run := run.continued }
          events := [.ended .returned] } := by
    have own : (state.store.continued run).run = some driver.run := by rw [same_run]; rfl
    have written := write_own own .ambiguous
    unfold drive
    rw [at_persist]
    unfold persist afterWrite
    dsimp only
    rw [same_run] at written ⊢
    rw [WorkflowRun.continued, ← written]
    rfl
  constructor
  · rw [continueCall, Machine.stateAfter_append, head_eq]
    simp only [List.replicate_succ, List.replicate_zero, Machine.stateAfter_cons,
      Machine.stateAfter_nil, after_drive]
    rw [head_drive, persist_drive _ rfl rfl]
    rfl
  · rw [continueCall, Machine.trace_append, silent, head_eq]
    simp only [List.replicate_succ, List.replicate_zero, Machine.trace_cons, Machine.trace_nil,
      after_drive, after_drive_events]
    rw [head_drive, persist_drive _ rfl rfl]
    rfl

theorem CanContinue.next (can : CanContinue state caller ctx run) :
    CanContinue (state.after caller
      { store := { state.store.continued run with run := some run.continued }
        driver := { continuedDriver ctx run with
          stage := .off, rows := (state.store.continued run).steps, run := run.continued } })
      caller ctx run.continued := by
  refine ⟨?_, rfl, rfl, can.owner⟩
  rw [after_drivers_self]

/-- The head of the loop finds a run ambiguous only if nothing waits. -/
theorem drive_head_ambiguous {store : Store} {driver : Driver} (at_head : driver.stage = .head)
    (found : (drive service definition store driver reading).driver.stage = .persist .ambiguous) :
    waitingIndices store.steps = [] ∧ refreshRunStatus store.steps = some .ambiguous := by
  unfold drive at found
  rw [at_head] at found
  unfold head chooseNext at found
  dsimp only at found
  split at found
  next => cases found
  next =>
    split at found
    next => cases found
    next none_waiting =>
      split at found
      next update refreshed =>
        cases found
        exact ⟨none_waiting, refreshed⟩
      next =>
        repeat' split at found
        all_goals cases found

theorem drive_head_store {store : Store} {driver : Driver} (at_head : driver.stage = .head) :
    (drive service definition store driver reading).store = store := by
  unfold drive
  rw [at_head]
  unfold head
  dsimp only
  repeat' split
  all_goals rfl

/-- A run that is not ambiguous becomes so only where the rows say it. -/
theorem drive_ambiguous {store : Store} {driver : Driver} {loaded : WorkflowRun}
    (found : store.run = some loaded) (unambiguous : loaded.status ≠ .ambiguous)
    (ambiguous : (drive service definition store driver reading).store.run.map
      WorkflowRun.status = some .ambiguous) : driver.stage = .persist .ambiguous := by
  cases drive_run service definition store driver reading with
  | kept run_eq =>
      rw [run_eq, found] at ambiguous
      exact absurd (Option.some.inj ambiguous) unambiguous
  | writes update at_persist run_eq =>
      rw [run_eq, found, Option.map_some, Option.map_some] at ambiguous
      have status_eq := Option.some.inj ambiguous
      obtain same | ⟨changed, different⟩ :=
        updateRun_status driver.run (update.apply driver.run) loaded
      · exact absurd (same.symm.trans status_eq) unambiguous
      · rw [changed] at status_eq
        rw [RunUpdate.apply_status] at status_eq different
        rw [at_persist]
        cases update <;> first | rfl | cases status_eq | exact absurd rfl different
  | resolves at_resolve run_eq =>
      rw [run_eq, found, Option.map_some, Option.map_some] at ambiguous
      have status_eq := Option.some.inj ambiguous
      obtain same | ⟨changed, different⟩ :=
        updateRun_status driver.run driver.run.resolved loaded
      · exact absurd (same.symm.trans status_eq) unambiguous
      · rw [changed] at status_eq
        cases status_eq
  | creates created none_before =>
      rw [none_before] at found
      cases found

/-- Where a call leaves the run ambiguous, another step is ambiguous and none waits. -/
theorem CanContinue.still_ambiguous (can : CanContinue state caller ctx run)
    (proceeds : reading.Proceeds)
    (ambiguous : ((engine service definition).stateAfter state
      (continueCall caller ctx allowed reading)).store.run.map WorkflowRun.status =
        some .ambiguous) :
    waitingIndices (state.store.continued run).steps = [] ∧
      ¬Unambiguous (state.store.continued run).steps := by
  obtain ⟨head_eq, _⟩ :=
    @CanContinue.toHead service definition state caller ctx run allowed reading can proceeds
  rw [continueCall, Machine.stateAfter_append, head_eq] at ambiguous
  simp only [List.replicate_succ, List.replicate_zero, Machine.stateAfter_cons,
    Machine.stateAfter_nil, after_drive] at ambiguous
  rw [after_store] at ambiguous
  have at_head : (continuedDriver ctx run).stage = .head := rfl
  rw [drive_head_store at_head] at ambiguous
  have found : (state.store.continued run).run = some run.resolved := rfl
  have persists := drive_ambiguous found nofun ambiguous
  obtain ⟨none_waiting, refreshed⟩ := drive_head_ambiguous at_head persists
  exact ⟨none_waiting, refresh_ambiguous_iff.mp refreshed⟩

end Calls

/-! ## Settling a run -/

section Settling

variable (service : WorkflowService) (definition : WorkflowDefinition) (caller : Nat)
variable (ctx : ExecutionContext) (allowed : String → Bool) (reading : Reading)

/-- Finitely many calls that continue a run, up to the head of the loop of the last: each call
but the last returns with the run ambiguous again, and the last finds no ambiguous step. -/
inductive Settling : EngineState → List Input → Prop
  | last {state : EngineState}
      (settled : Unambiguous ((engine service definition).stateAfter state
        (continueToHead caller ctx allowed reading)).store.steps) :
      Settling state (continueToHead caller ctx allowed reading)
  | again {state : EngineState} {inputs : List Input}
      (ended : (((engine service definition).stateAfter state
        (continueCall caller ctx allowed reading)).drivers caller).stage = .off)
      (ambiguous : ((engine service definition).stateAfter state
        (continueCall caller ctx allowed reading)).store.run.map WorkflowRun.status =
          some .ambiguous)
      (more : Settling ((engine service definition).stateAfter state
        (continueCall caller ctx allowed reading)) inputs) :
      Settling state (continueCall caller ctx allowed reading ++ inputs)

/-- What has come of a run by then: exactly the ambiguous steps are resolved, nothing has been
passed on, and the run goes on.  The resolved steps stay as they are, and are not requested. -/
structure Settled (state : EngineState) (inputs : List Input) : Prop where
  atHead : (((engine service definition).stateAfter state inputs).drivers caller).stage = .head
  running : ((engine service definition).stateAfter state inputs).store.run.map
    WorkflowRun.status = some .running
  resolved : ((engine service definition).stateAfter state inputs).store.steps =
    state.store.steps.map resolveStep
  silent : ∀ event ∈ (engine service definition).trace id state inputs, event.passesOn = false
  onward : ∀ later : List Input, (engine service definition).Admits (fun _ => Alone caller)
      ((engine service definition).stateAfter state inputs) later →
    ∀ index, statusAt state.store.steps index = .ambiguous →
      ((engine service definition).stateAfter state (inputs ++ later)).store.steps[index]? =
          state.store.steps[index]?.map resolveStep ∧
        ∀ action, EngineEvent.requested index action ∉ (engine service definition).trace id
          ((engine service definition).stateAfter state inputs) later

/-- No ambiguous step comes before the current one, and if another step is ambiguous than the
current one, no step waits. -/
def Settleable (rows : List WorkflowStepRun) (current : Nat) : Prop :=
  (∀ index, statusAt rows index = .ambiguous → current ≤ index) ∧
    (waitingIndices rows = [] ∨ ∀ index, statusAt rows index = .ambiguous → index = current)

variable {service definition caller ctx allowed reading}

theorem waitingIndices_continued {store : Store} {run : WorkflowRun} :
    waitingIndices (store.continued run).steps = [] ↔ waitingIndices store.steps = [] := by
  simp only [List.eq_nil_iff_forall_not_mem, Store.continued, waitingIndices_resolved]

theorem unambiguous_continued {store : Store} {run : WorkflowRun} :
    Unambiguous (store.continued run).steps ↔
      ∀ index, statusAt store.steps index = .ambiguous → index = run.currentStep := by
  simp only [Unambiguous, Store.continued, ne_eq, statusAt_resolved, not_and, not_imp_not]

/-- By induction on the calls: each of them takes care of the current step. -/
theorem Settling.settleable {state : EngineState} {inputs : List Input} {run : WorkflowRun}
    (settling : Settling service definition caller ctx allowed reading state inputs)
    (proceeds : reading.Proceeds) (can : CanContinue state caller ctx run) :
    Settleable state.store.steps run.currentStep := by
  induction settling generalizing run with
  | last settled =>
      rw [(can.toHead proceeds).1, after_store] at settled
      have only := unambiguous_continued.mp settled
      exact ⟨fun index ambiguous => (only index ambiguous).ge, .inr only⟩
  | again ended ambiguous more ih =>
      obtain ⟨none_waiting, still⟩ := can.still_ambiguous proceeds ambiguous
      rw [(can.again proceeds none_waiting still).1] at ih
      obtain ⟨from_next, _⟩ := ih can.next
      refine ⟨fun index ambiguous => ?_, .inl (waitingIndices_continued.mp none_waiting)⟩
      by_cases current : index = run.currentStep
      · exact current.ge
      · have next_le := from_next index ((statusAt_resolved _ _ _).mpr ⟨current, ambiguous⟩)
        exact (Nat.le_succ _).trans next_le

/-- By induction on how far the ambiguous steps reach. -/
theorem exists_settling (proceeds : reading.Proceeds) (reach : Nat) {state : EngineState}
    {run : WorkflowRun} (can : CanContinue state caller ctx run)
    (within : ∀ index, statusAt state.store.steps index = .ambiguous →
      run.currentStep ≤ index ∧ index ≤ run.currentStep + reach)
    (settleable : Settleable state.store.steps run.currentStep) :
    ∃ inputs, Settling service definition caller ctx allowed reading state inputs := by
  induction reach generalizing state run with
  | zero =>
      refine ⟨_, .last ?_⟩
      rw [(can.toHead proceeds).1, after_store]
      refine unambiguous_continued.mpr fun index ambiguous => ?_
      have := within index ambiguous
      omega
  | succ reach ih =>
      by_cases settled : Unambiguous (state.store.continued run).steps
      · exact ⟨_, .last (by rwa [(can.toHead proceeds).1, after_store])⟩
      · have none_waiting := settleable.2.resolve_right (mt unambiguous_continued.mpr settled)
        have next_eq := (@CanContinue.again service definition state caller ctx run allowed reading
          can proceeds (waitingIndices_continued.mpr none_waiting) settled).1
        have next_within (index : Nat)
            (ambiguous : statusAt (state.store.continued run).steps index = .ambiguous) :
            run.currentStep + 1 ≤ index ∧ index ≤ run.currentStep + 1 + reach := by
          obtain ⟨other, was_ambiguous⟩ := (statusAt_resolved _ _ _).mp ambiguous
          have := within index was_ambiguous
          omega
        obtain ⟨inputs, more⟩ := ih can.next next_within
          ⟨fun index ambiguous => (next_within index ambiguous).1,
            .inl (waitingIndices_continued.mpr none_waiting)⟩
        refine ⟨_, .again ?_ ?_ (next_eq ▸ more)⟩
        · rw [next_eq, after_drivers_self]
        · rw [next_eq, after_store]
          rfl

/-- The call that continues a run, at the head of its loop. -/
theorem CanContinue.advancing {state : EngineState} {run : WorkflowRun}
    (can : CanContinue state caller ctx run) (all : AllRowed definition state) :
    Advancing definition
      ((engine service definition).stateAfter state
        (continueToHead caller ctx allowed reading)).store
      (((engine service definition).stateAfter state
        (continueToHead caller ctx allowed reading)).drivers caller) := by
  rw [continueToHead, Machine.stateAfter_cons]
  apply (advancingRule service definition caller).invariant
  · rw [engine_step]
    unfold engineStep
    dsimp only
    rw [can.idle]
    dsimp only
    rw [after_store, after_drivers_self]
    exact advancing_launched all ctx allowed _
  · intro before input after split
    have member : input ∈ List.replicate 3 (Input.drive caller reading) := by simp [split]
    rw [List.eq_of_mem_replicate member]
    rfl

/-- Where the calls that settle a run lead: all that `Settled` says of that place, and what
the last call knows there. -/
structure Reaches (service : WorkflowService) (definition : WorkflowDefinition) (caller : Nat)
    (state : EngineState) (inputs : List Input) (final : EngineState) : Prop where
  final_eq : (engine service definition).stateAfter state inputs = final
  advancing : Advancing definition final.store (final.drivers caller)
  atHead : (final.drivers caller).stage = .head
  running : final.store.run.map WorkflowRun.status = some .running
  resolved : final.store.steps = state.store.steps.map resolveStep
  silent : ∀ event ∈ (engine service definition).trace id state inputs, event.passesOn = false

/-- By induction on the calls that settle a run. -/
theorem Settling.reaches {state : EngineState} {inputs : List Input} {run : WorkflowRun}
    (settling : Settling service definition caller ctx allowed reading state inputs)
    (proceeds : reading.Proceeds) (can : CanContinue state caller ctx run)
    (all : AllRowed definition state) :
    ∃ final, Reaches service definition caller state inputs final := by
  induction settling generalizing run with
  | @last state settled =>
      have advancing := @CanContinue.advancing service definition caller ctx allowed reading state
        run can all
      obtain ⟨head_eq, silent⟩ :=
        @CanContinue.toHead service definition state caller ctx run allowed reading can proceeds
      rw [head_eq] at advancing settled
      refine ⟨_, head_eq, advancing, ?_, rfl, (Resolves.modify _ _).eq_map settled, ?_⟩
      · rw [after_drivers_self]
        rfl
      · rw [silent]
        rintro _ ⟨⟩
  | @again state inputs ended ambiguous more ih =>
      obtain ⟨none_waiting, still⟩ := can.still_ambiguous proceeds ambiguous
      obtain ⟨next_eq, returned⟩ := @CanContinue.again service definition state caller ctx run
        allowed reading can proceeds none_waiting still
      have next_all : AllRowed definition ((engine service definition).stateAfter state
          (continueCall caller ctx allowed reading)) :=
        Machine.invariant (motive := AllRowed definition) all (fun _ input all => all.step input) _
      have next_can := can.next
      rw [← next_eq] at next_can
      obtain ⟨final, reaches⟩ := ih next_can next_all
      refine ⟨final, ?_, reaches.advancing, reaches.atHead, reaches.running, ?_, ?_⟩
      · rw [Machine.stateAfter_append, reaches.final_eq]
      · have next_steps : ((engine service definition).stateAfter state
            (continueCall caller ctx allowed reading)).store.steps =
              state.store.steps.modify run.currentStep resolveStep := by
          rw [next_eq, after_store]
          rfl
        have resolved := reaches.resolved
        rw [next_steps] at resolved
        have resolves : Resolves (state.store.steps.modify run.currentStep resolveStep)
            final.store.steps := by
          intro index
          rw [resolved, List.getElem?_map]
          exact .inr rfl
        refine ((Resolves.modify _ _).trans resolves).eq_map fun index => ?_
        rw [resolved, statusAt, List.getElem?_map]
        cases (state.store.steps.modify run.currentStep resolveStep)[index]? with
        | none => rintro ⟨⟩
        | some row => exact resolveStep_unambiguous row
      · intro event member
        rw [Machine.trace_append, returned, List.mem_append] at member
        obtain now | later := member
        · obtain rfl := List.mem_singleton.mp now
          rfl
        · exact reaches.silent event later

theorem Reaches.settled {state final : EngineState} {inputs : List Input}
    (reaches : Reaches service definition caller state inputs final) :
    Settled service definition caller state inputs := by
  obtain ⟨rfl, advancing, at_head, running, resolved, silent⟩ := reaches
  refine ⟨at_head, running, resolved, silent, fun later alone index ambiguous => ?_⟩
  cases found : state.store.steps[index]? with
  | none =>
      rw [statusAt, found] at ambiguous
      cases ambiguous
  | some row =>
      rw [statusAt, found] at ambiguous
      have ambiguous : row.status = .ambiguous := ambiguous
      rw [Machine.stateAfter_append]
      have stored : ((engine service definition).stateAfter state inputs).store.steps[index]? =
          some (resolveStep row) := by
        rw [resolved, List.getElem?_map, found, Option.map_some]
      refine advancing.keeps_settled (by rw [at_head]; rfl) alone stored ?_
      rw [resolveStep, if_pos ambiguous]
      rfl

/-- An ambiguous run is settled by finitely many calls that continue it if and only if no
ambiguous step comes before the current one and, if another step is ambiguous than the current
one, no step waits. -/
theorem continue_settles_iff (service : WorkflowService) (definition : WorkflowDefinition)
    (history : List Input) (caller : Nat) (ctx : ExecutionContext) (allowed : String → Bool)
    (run : WorkflowRun)
    (can : CanContinue ((engine service definition).stateAfter initialState history) caller ctx
      run) :
    (∀ reading : Reading, reading.Proceeds → ∃ inputs,
      Settling service definition caller ctx allowed reading
          ((engine service definition).stateAfter initialState history) inputs ∧
        Settled service definition caller
          ((engine service definition).stateAfter initialState history) inputs) ↔
      Settleable ((engine service definition).stateAfter initialState history).store.steps
        run.currentStep := by
  have all := allRowed service definition history
  generalize (engine service definition).stateAfter initialState history = state at *
  constructor
  · intro settles
    have proceeds : Reading.Proceeds {} := ⟨rfl, rfl⟩
    obtain ⟨inputs, settling, _⟩ := settles {} proceeds
    exact settling.settleable proceeds can
  · intro settleable reading proceeds
    have within (index : Nat) (ambiguous : statusAt state.store.steps index = .ambiguous) :
        run.currentStep ≤ index ∧ index ≤ run.currentStep + state.store.steps.length := by
      refine ⟨settleable.1 index ambiguous, ?_⟩
      by_contra outside
      rw [statusAt, List.getElem?_eq_none_iff.mpr (by omega)] at ambiguous
      cases ambiguous
    obtain ⟨inputs, settling⟩ :=
      exists_settling proceeds state.store.steps.length can within settleable
    obtain ⟨final, reaches⟩ := settling.reaches proceeds can all
    exact ⟨inputs, settling, reaches.settled⟩

end Settling

namespace Demo

/-- A failure that may have had its side effect. -/
def unknown : Reading :=
  { answer := .ok { response := {
      status := .failed, decision := .allow, errorCode := some .sideEffectUnknown } } }

/-- A batch of two steps whose requests end like this. -/
def batchEnding (first second : Reading) : List Input :=
  start 0 :: moves 0 8 ++
    [.work 0 0 executed, .work 0 0 executed, .work 0 0 first, .work 0 0 executed,
      .work 0 1 executed, .work 0 1 executed, .work 0 1 second, .work 0 1 executed] ++
    moves 0 3

/-- The run after a batch with an unknown outcome. -/
def unsettled : WorkflowRun :=
  { newRun service together { runId := "run", params := [] } { actorId := "alice" } with
    status := .ambiguous
    currentStep := 1
    error := some "a step has an unknown outcome; operator resolution required" }

theorem unsettled_second : CanContinue
    ((engine service together).stateAfter initialState (batchEnding executed unknown)) 0
    { actorId := "alice" } unsettled :=
  ⟨rfl, rfl, rfl, rfl⟩

theorem unsettled_first : CanContinue
    ((engine service together).stateAfter initialState (batchEnding unknown executed)) 0
    { actorId := "alice" } unsettled :=
  ⟨rfl, rfl, rfl, rfl⟩

end Demo

/-- The second step of a batch has an unknown outcome. -/
theorem continue_settles_demo :
    (∀ reading : Reading, reading.Proceeds → ∃ inputs,
      Settling Demo.service Demo.together 0 { actorId := "alice" } (fun _ => true) reading
          ((engine Demo.service Demo.together).stateAfter initialState
            (Demo.batchEnding Demo.executed Demo.unknown)) inputs ∧
        Settled Demo.service Demo.together 0
          ((engine Demo.service Demo.together).stateAfter initialState
            (Demo.batchEnding Demo.executed Demo.unknown)) inputs) ↔
      Settleable ((engine Demo.service Demo.together).stateAfter initialState
        (Demo.batchEnding Demo.executed Demo.unknown)).store.steps Demo.unsettled.currentStep :=
  continue_settles_iff Demo.service Demo.together (Demo.batchEnding Demo.executed Demo.unknown) 0
    { actorId := "alice" } (fun _ => true) Demo.unsettled Demo.unsettled_second

/-- The first step of a batch has an unknown outcome, and the current step is the second: no
number of calls settles the run. -/
theorem continue_never_settles :
    CanContinue ((engine Demo.service Demo.together).stateAfter initialState
        (Demo.batchEnding Demo.unknown Demo.executed)) 0 { actorId := "alice" } Demo.unsettled ∧
      ¬∃ inputs, Settling Demo.service Demo.together 0 { actorId := "alice" } (fun _ => true) {}
        ((engine Demo.service Demo.together).stateAfter initialState
          (Demo.batchEnding Demo.unknown Demo.executed)) inputs := by
  refine ⟨Demo.unsettled_first, ?_⟩
  rintro ⟨inputs, settling⟩
  have settleable := settling.settleable ⟨rfl, rfl⟩ Demo.unsettled_first
  exact absurd (settleable.1 0 rfl) (by decide)

end Era.Workflows
