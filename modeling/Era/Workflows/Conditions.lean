import Era.Workflows.Transitions

/-!
# Conditions

The condition of a step that runs alone is evaluated on the rows that the head of the loop
has read.  In a sequential history these are still the rows when the step is dispatched,
up to the claim of the step itself, which no condition can see.
-/

namespace Era.Workflows

open Era.Core Era.Lib Era.Services

/-! ## What conditions see -/

/-- What a condition sees of a row. -/
def visible (row : WorkflowStepRun) : Bool × Option Value :=
  (row.status == .completed, row.resultReceipt)

/-- The URL that is seen on a row. -/
def visibleUrl (seen : Bool × Option Value) : Option String :=
  if seen.1 then
    match seen.2 with
    | some (.dict receipt) =>
        match Params.get receipt "url" with
        | .str url => if url = "" then none else some url
        | _ => none
    | _ => none
  else none

theorem observedUrl_eq (row : WorkflowStepRun) : observedUrl row = visibleUrl (visible row) := by
  unfold observedUrl visibleUrl visible
  by_cases completed : row.status = .completed
  · rw [if_pos completed, completed]
    rfl
  · rw [if_neg completed, if_neg (by simpa using completed)]

theorem recentObservationUrl_eq (rows : List WorkflowStepRun) :
    recentObservationUrl rows = (rows.map visible).reverse.findSome? visibleUrl := by
  unfold recentObservationUrl
  rw [← List.map_reverse, List.findSome?_map]
  congr 1
  funext row
  exact observedUrl_eq row

theorem resultReceipt_congr {rows others : List WorkflowStepRun}
    (same : rows.map visible = others.map visible) (index : Nat) :
    rows[index]?.map WorkflowStepRun.resultReceipt =
      others[index]?.map WorkflowStepRun.resultReceipt := by
  have at_index := congrArg (fun seen => (seen[index]?).map Prod.snd) same
  simp only [List.getElem?_map, Option.map_map] at at_index
  exact at_index

/-- Conditions evaluate alike on rows that look alike. -/
theorem evaluateCondition_congr {definition : WorkflowDefinition}
    {rows others : List WorkflowStepRun} (same : rows.map visible = others.map visible)
    (step : WorkflowStep) :
    evaluateCondition definition rows step = evaluateCondition definition others step := by
  have receipts := resultReceipt_congr same
  have urls : recentObservationUrl rows = recentObservationUrl others := by
    rw [recentObservationUrl_eq, recentObservationUrl_eq, same]
  unfold evaluateCondition
  cases step.condition with
  | none => rfl
  | some condition =>
      dsimp only
      generalize (if nonempty condition.stepId = true then
        condition.stepId.bind definition.indexOf else none) = dependency
      cases condition.kind with
      | urlContains => simp only [urls]
      | stepResult | elementPresent =>
          cases dependency with
          | none => rfl
          | some index =>
              have receipt := receipts index
              cases here : rows[index]? with
              | none =>
                  rw [here, Option.map_none, eq_comm, Option.map_eq_none_iff] at receipt
                  simp [here, receipt]
              | some row =>
                  rw [here, Option.map_some, eq_comm, Option.map_eq_some_iff] at receipt
                  obtain ⟨other, there, receipt_eq⟩ := receipt
                  simp [here, there, receipt_eq]

/-- The claim of a pending step is not seen. -/
theorem visible_claim {rows : List WorkflowStepRun} {index : Nat} {row : WorkflowStepRun}
    (found : rows[index]? = some row) (pending : statusAt rows index = .pending) :
    (rows.set index (claimStep row)).map visible = rows.map visible := by
  have status : row.status = .pending := by
    rw [statusAt, found] at pending
    exact pending
  apply List.ext_getElem?
  intro other
  rw [List.getElem?_map, List.getElem?_map, List.getElem?_set]
  split
  next same =>
    subst same
    obtain ⟨bound, _⟩ := List.getElem?_eq_some_iff.mp found
    rw [if_pos bound, found]
    simp [visible, claimStep, status]
  next => rfl

/-! ## The invariant -/

/-- The stages between the choice of a step that runs alone and its dispatch. -/
def Stage.isChoosing : Stage → Bool
  | .persist (.select _) | .reload _ | .persist (.running _) => true
  | _ => false

theorem Stage.isChoosing_eq_false {stage : Stage} (unsubmitted : stage.unsubmitted = []) :
    stage.isChoosing = false := by
  unfold Stage.isChoosing
  split
  next => cases unsubmitted
  next => cases unsubmitted
  next => cases unsubmitted
  next => rfl

/-- A call that has chosen a step has read the rows as they are, and the condition of a step
that it executes alone is not false. -/
structure Conditioned (definition : WorkflowDefinition) (store : Store) (driver : Driver) :
    Prop where
  tracks : Tracks store driver
  read : driver.stage.isChoosing = true → driver.rows = store.steps
  alone : ∀ index step, driver.stage = .step index → definition.steps[index]? = some step →
    (driver.workers index).isWorking = true →
      evaluateCondition definition store.steps step ≠ some false

section Preserved

variable {service : WorkflowService} {definition : WorkflowDefinition}
variable {store : Store} {driver : Driver} {reading : Reading}

/-- A call that neither chooses a step nor executes one alone. -/
theorem Conditioned.goes {after : Store} {next : Driver} (tracks : Tracks after next)
    (not_choosing : next.stage.isChoosing = false) (not_step : ∀ index, next.stage ≠ .step index) :
    Conditioned definition after next where
  tracks := tracks
  read choosing := by
    rw [not_choosing] at choosing
    cases choosing
  alone index step at_step := absurd at_step (not_step index)

theorem Conditioned.transition {after : Store} {next : Driver}
    (conditioned : Conditioned definition store driver) (tracks : Tracks after next)
    (transition : Transition service definition store driver reading after next) :
    Conditioned definition after next := by
  cases transition with
  | waits => exact conditioned
  | starts stage starting =>
      apply Conditioned.goes tracks
      · cases stage <;> first | rfl | cases starting
      · rintro index rfl
        cases starting
  | stops | creates | operates | cancels | continues | resumes | resolves | loads | rejects
  | fails | gathers | completes | batches | awaits | reconciles | rechecks | pauses | finishes
  | forbids | diverges | skipsCondition | classifies | advances | idles | refuses | overspends
  | admits | submits | joins | regroups | regrouped => exact .goes tracks rfl fun _ => nofun
  | refreshes looping settled =>
      exact .goes tracks (Stage.isChoosing_eq_false (unsubmitted_refresh settled)) fun _ => nofun
  | classified at_step finished settled =>
      exact .goes tracks (Stage.isChoosing_eq_false (unsubmitted_classify settled)) fun _ => nofun
  | examines looping stage examining fewer =>
      apply Conditioned.goes tracks
      · cases stage <;> first | rfl | cases examining
      · rintro index rfl
        cases examining
  | selects => exact ⟨tracks, fun _ => rfl, fun _ _ => nofun⟩
  | selected at_persist =>
      refine ⟨tracks, fun _ => ?_, fun _ _ => nofun⟩
      exact conditioned.read (by rw [at_persist]; rfl)
  | reloads at_reload found =>
      refine ⟨tracks, fun _ => ?_, fun _ _ => nofun⟩
      exact conditioned.read (by rw [at_reload]; rfl)
  | @dispatches index at_persist step found permitted not_untrue =>
      refine ⟨tracks, nofun, ?_⟩
      rintro other same at_step found_same _ untrue
      cases at_step
      obtain rfl := Option.some.inj (found.symm.trans found_same)
      have read := conditioned.read (by rw [at_persist]; rfl)
      have selected := conditioned.tracks.selected index (by simp [at_persist, Stage.unsubmitted])
      rw [read] at not_untrue
      exact not_untrue ⟨selected.1, untrue⟩

theorem Conditioned.work (conditioned : Conditioned definition store driver) (index : Nat) :
    Conditioned definition (work service definition store driver index reading).store
      (work service definition store driver index reading).driver := by
  have tracks := @Tracks.work service definition store driver conditioned.tracks index reading
  obtain ⟨stage_eq, rows_eq, _, _⟩ := work_keeps service definition store driver index reading
  have found := work_case service definition store driver index reading
  generalize Workflows.work service definition store driver index reading = move at *
  -- Who works executes the step that the call waits for.
  have waited (works : (driver.workers index).isQueued = true ∨
      (driver.workers index).isActive = true) :
      driver.stage.isChoosing = false ∧ ∀ other, driver.stage = .step other → other = index := by
    have executes := conditioned.tracks.working index works
    unfold Driver.Executes at executes
    split at executes
    next selected at_step =>
      subst executes
      refine ⟨by rw [at_step]; rfl, fun other same => ?_⟩
      rw [at_step] at same
      cases same
      rfl
    next first rest at_submit =>
      refine ⟨by rw [at_submit]; rfl, fun other same => ?_⟩
      rw [at_submit] at same
      cases same
    next at_join =>
      refine ⟨by rw [at_join]; rfl, fun other same => ?_⟩
      rw [at_join] at same
      cases same
    next => cases executes
  have keeps (works : (driver.workers index).isQueued = true ∨
      (driver.workers index).isActive = true)
      (alone : ∀ step, definition.steps[index]? = some step →
        (move.driver.workers index).isWorking = true →
        evaluateCondition definition store.steps step ≠ some false →
          evaluateCondition definition move.store.steps step ≠ some false) :
      Conditioned definition move.store move.driver := by
    obtain ⟨not_choosing, only⟩ := waited works
    refine ⟨tracks, fun choosing => ?_, fun other step at_step found_step working => ?_⟩
    · rw [stage_eq, not_choosing] at choosing
      cases choosing
    · rw [stage_eq] at at_step
      obtain rfl := only other at_step
      have was_working : (driver.workers other).isWorking = true := by
        rw [WorkerStage.isWorking, Bool.or_eq_true]
        exact works
      exact alone step found_step working
        (conditioned.alone other step at_step found_step was_working)
  cases found with
  | stays => exact conditioned
  | @claims row queued free found =>
      have is_queued : (driver.workers index).isQueued = true := by
        rw [queued]
        rfl
      apply keeps (.inl is_queued)
      intro step _ _ before
      rwa [evaluateCondition_congr
        (visible_claim found (conditioned.tracks.queued index is_queued))]
  | proceeds stage was_open active steps_eq _ _ batch_eq workers_eq silent =>
      apply keeps (.inr (WorkerStage.isActive_of_mayRequest was_open))
      intro step _ _ before
      rwa [steps_eq]
  | requests step reading found was_request =>
      apply keeps (.inr (by rw [was_request]; rfl))
      intro step _ _ before
      rwa [await_steps]
  | marks was_mark found =>
      apply keeps (.inr (by rw [was_mark]; rfl))
      intro step _ working _
      rw [enterWorker_workers, Function.update_self] at working
      cases working

end Preserved

section Dispatch

variable (service : WorkflowService) (definition : WorkflowDefinition)

theorem conditionsRule :
    SerialRule (fun _ => True) (Conditioned definition) service definition Sequential where
  sequential _ _ sequential := sequential
  initially := True.intro
  launches store ctx allowed call _ := by
    apply Conditioned.goes (.launched store ctx allowed call)
    · cases call <;> rfl
    · cases call <;> exact fun _ => nofun
  decides _ _ _ := True.intro
  drives state caller reading _ conditioned :=
    ⟨fun _ => True.intro, fun _ => conditioned.transition (conditioned.tracks.drive reading)
      (drive_transition service definition state.store (state.drivers caller) reading)⟩
  works _ _ index reading _ conditioned := ⟨fun _ => True.intro, fun _ => conditioned.work index⟩
  crashes _ _ _ _ := True.intro

/-- A dispatched step has a condition only if it is true. -/
def ConditionsTrue (state : EngineState) (input : Input) : Prop :=
  ∀ index action step, EngineEvent.requested index action ∈
      (engineStep service definition state input).2 →
    definition.steps[index]? = some step → step.condition.isSome = true →
      evaluateCondition definition state.store.steps step = some true

/-- A step that is dispatched alone has no false condition. -/
def ConditionsNotFalse (state : EngineState) (input : Input) : Prop :=
  ∀ caller index reading action step, input = .work caller index reading →
    EngineEvent.requested index action ∈ (engineStep service definition state input).2 →
    (state.drivers caller).stage = .step index → definition.steps[index]? = some step →
      evaluateCondition definition state.store.steps step ≠ some false

end Dispatch

namespace Demo

/-- The second step runs only where the page of an earlier one has been seen. -/
def conditional : WorkflowDefinition :=
  { name := "conditional"
    steps := [inspect "first",
      { inspect "second" with
        condition := some { kind := .urlContains, value := .str "home" } }] }

/-- The run comes to the dispatch of the second step, and no URL has been recorded. -/
def unknowing : List Input := start 0 :: moves 0 7 ++ works 0 0 4 ++ moves 0 7 ++ works 0 1 2

end Demo

end Era.Workflows
