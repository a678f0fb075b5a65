import Era.Workflows.Completion
import Era.Workflows.Conditions

/-!
# Receipts on the two routes

A step that is executed at once records what the provider has returned.  A step that has
waited for a confirmation records a receipt of its approval instead.  Runs that differ in the
route of one step are compared by what later conditions see of it.
-/

namespace Era.Workflows

open Era.Core Era.Lib Era.Services

/-! ## What a condition reads of one step -/

/-- The URL that the receipt of a completed step shows. -/
def receiptUrl (receipt : Params) : Option String := visibleUrl (true, some (.dict receipt))

/-- A condition that reads the receipt of a step. -/
def WorkflowCondition.Reads (condition : WorkflowCondition) (definition : WorkflowDefinition)
    (index : Nat) : Prop :=
  match condition.kind with
  | .stepResult => nonempty condition.stepId = true ∧
      condition.stepId.bind definition.indexOf = some index
  | .urlContains => True
  | .elementPresent => False

/-- What a condition reads of this receipt it reads of a receipt of an approval as well: the
value that the receipt shows equals that of the condition exactly if `True` does, and its URL
is either not the last one or no other than the one before it to the condition. -/
def WorkflowCondition.RouteBlind (condition : WorkflowCondition) (rows : List WorkflowStepRun)
    (index : Nat) (receipt : Params) : Prop :=
  match condition.kind with
  | .stepResult =>
      (resultValue (.dict receipt)).pyEq condition.value =
        (Value.bool true).pyEq condition.value
  | .urlContains =>
      match condition.value with
      | .str needle =>
          (recentObservationUrl (rows.drop (index + 1))).isSome = true ∨
            ∀ url, receiptUrl receipt = some url →
              ∃ earlier, recentObservationUrl (rows.take index) = some earlier ∧
                textContains needle earlier = textContains needle url
      | _ => True
  | .elementPresent => True

/-- Rows that look alike but for those of one step. -/
def AlikeBut (index : Nat) (rows others : List WorkflowStepRun) : Prop :=
  ∀ other, other ≠ index → rows[other]?.map visible = others[other]?.map visible

/-- The last URL is that of a later step, of the step itself, or of an earlier one. -/
theorem recentObservationUrl_split {rows : List WorkflowStepRun} {index : Nat}
    {row : WorkflowStepRun} (found : rows[index]? = some row) :
    recentObservationUrl rows =
      (recentObservationUrl (rows.drop (index + 1))).or
        ((observedUrl row).or (recentObservationUrl (rows.take index))) := by
  obtain ⟨bound, rfl⟩ := List.getElem?_eq_some_iff.mp found
  have split : rows = rows.take index ++ rows[index] :: rows.drop (index + 1) := by
    rw [← List.drop_eq_getElem_cons bound, List.take_append_drop]
  unfold recentObservationUrl
  conv => lhs; rw [split]
  rw [List.reverse_append, List.reverse_cons, List.append_assoc, List.findSome?_append,
    List.findSome?_append]
  cases shown : observedUrl rows[index] <;> simp [List.findSome?, shown]

theorem AlikeBut.later {index : Nat} {rows others : List WorkflowStepRun}
    (alike : AlikeBut index rows others) :
    recentObservationUrl (rows.drop (index + 1)) =
      recentObservationUrl (others.drop (index + 1)) := by
  rw [recentObservationUrl_eq, recentObservationUrl_eq]
  congr 2
  apply List.ext_getElem?
  intro offset
  rw [List.getElem?_map, List.getElem?_map, List.getElem?_drop, List.getElem?_drop]
  exact alike _ (by omega)

theorem AlikeBut.earlier {index : Nat} {rows others : List WorkflowStepRun}
    (alike : AlikeBut index rows others) :
    recentObservationUrl (rows.take index) = recentObservationUrl (others.take index) := by
  rw [recentObservationUrl_eq, recentObservationUrl_eq]
  congr 2
  apply List.ext_getElem?
  intro offset
  rw [List.getElem?_map, List.getElem?_map, List.getElem?_take, List.getElem?_take]
  split
  next before => exact alike _ (by omega)
  next => rfl

theorem resultValue_approvalReceipt (confirmationId : Option String) :
    resultValue (approvalReceipt confirmationId) = .bool true := by
  cases confirmationId <;> rfl

theorem visibleUrl_approvalReceipt (confirmationId : Option String) :
    visibleUrl (true, some (approvalReceipt confirmationId)) = none := by
  cases confirmationId <;> rfl

/-- One of two values that a test is applied to, behind a third. -/
theorem or_map_eq_iff {Found Seen : Type*} (later found before : Option Found)
    (test : Found → Seen) :
    (later.or (found.or before)).map test = (later.or before).map test ↔
      later.isSome = true ∨ ∀ value, found = some value →
        ∃ other, before = some other ∧ test other = test value := by
  cases later with
  | some value => simp
  | none =>
      cases found with
      | none => simp
      | some value => cases before <;> simp [eq_comm]

/-- Two receipts of one step, of which one is the receipt of an approval, decide a condition
alike exactly if it is blind to the difference. -/
theorem evaluateCondition_alike_iff {definition : WorkflowDefinition}
    {rows others : List WorkflowStepRun} {index : Nat} {row other : WorkflowStepRun}
    {receipt : Params} {confirmationId : Option String} {reader : WorkflowStep}
    {condition : WorkflowCondition} (alike : AlikeBut index rows others)
    (found : rows[index]? = some row) (there : others[index]? = some other)
    (seen : visible row = (true, some (.dict receipt)))
    (approved : visible other = (true, some (approvalReceipt confirmationId)))
    (conditional : reader.condition = some condition) (reads : condition.Reads definition index) :
    evaluateCondition definition rows reader = evaluateCondition definition others reader ↔
      condition.RouteBlind rows index receipt := by
  have receipt_eq : row.resultReceipt = some (.dict receipt) := congrArg Prod.snd seen
  have approved_eq : other.resultReceipt = some (approvalReceipt confirmationId) :=
    congrArg Prod.snd approved
  unfold evaluateCondition
  rw [conditional]
  unfold WorkflowCondition.Reads at reads
  unfold WorkflowCondition.RouteBlind
  dsimp only
  cases kind : condition.kind with
  | elementPresent =>
      rw [kind] at reads
      cases reads
  | stepResult =>
      rw [kind] at reads
      obtain ⟨named, dependency⟩ := reads
      dsimp only
      rw [if_pos named, dependency]
      simp only [Option.bind_eq_bind, Option.bind_some, found, there, receipt_eq, approved_eq,
        resultValue_approvalReceipt, Option.pure_def, Option.some.injEq]
      split
      next => simp
      next => simp
  | urlContains =>
      dsimp only
      cases condition.value with
      | str needle =>
          dsimp only
          rw [recentObservationUrl_split found, recentObservationUrl_split there, ← alike.later,
            ← alike.earlier, observedUrl_eq row, observedUrl_eq other, seen, approved,
            visibleUrl_approvalReceipt, Option.none_or]
          exact or_map_eq_iff _ _ _ _
      | none | bool | int | float | list | dict => simp

/-! ## The routes -/

/-- How a step is executed: at once, with what the provider returns, or on an approval. -/
inductive Route where
  | direct (data : Params)
  | approved

/-- The receipt of a step that is executed at once. -/
def directReceipt (step : WorkflowStep) (data : Params) : Params :=
  captureOutputs (sanitizeFields data) step.outputs

namespace Route

/-- How the execution service answers to the action of the step. -/
def Answers : Route → Except PyException StepResponse → Prop
  | direct data, answer => ∃ given : StepResponse, answer = .ok given ∧
      given.response.status = .executed ∧ responseData given.response = data
  | approved, answer => ∃ given : StepResponse, answer = .ok given ∧
      given.response.status = .confirmationRequired

/-- The receipts that the step records in the end. -/
def Shows (step : WorkflowStep) : Route → Value → Prop
  | direct data, receipt => receipt = .dict (directReceipt step data)
  | approved, receipt => ∃ confirmationId, receipt = approvalReceipt confirmationId

def waits : Route → Bool
  | direct _ => false
  | approved => true

/-- What the row of the step is at any time. -/
structure Fits (route : Route) (step : WorkflowStep) (row : WorkflowStepRun) : Prop where
  shows : row.status = .completed →
    ∃ receipt, row.resultReceipt = some receipt ∧ route.Shows step receipt
  known : row.status ≠ .ambiguous
  waiting : row.status = .waiting → route.waits = true

/-- What a call does with the step at any time. -/
structure Follows (route : Route) (step : WorkflowStep) (index : Nat) (driver : Driver) :
    Prop where
  awaited : index ∈ driver.stage.awaited → route.waits = true
  marks : ∀ mark, driver.workers index = .mark mark → ∀ row, route.Fits step (mark.apply row)

/-- The route of the step in every row and in every call. -/
structure Kept (route : Route) (step : WorkflowStep) (index : Nat) (state : EngineState) :
    Prop where
  stored : ∀ row, state.store.steps[index]? = some row → route.Fits step row
  followed : ∀ caller, route.Follows step index (state.drivers caller)

end Route

namespace Route

variable {route : Route} {step : WorkflowStep}

theorem fits_of_status {row : WorkflowStepRun} (not_completed : row.status ≠ .completed)
    (known : row.status ≠ .ambiguous) (not_waiting : row.status ≠ .waiting) :
    route.Fits step row :=
  ⟨fun completed => absurd completed not_completed, known, fun waits => absurd waits not_waiting⟩

theorem fits_of_failsCoded {mark : StepMark} (fails : mark.failsCoded) (row : WorkflowStepRun) :
    route.Fits step (mark.apply row) := by
  cases mark with
  | failed => exact fits_of_status nofun nofun nofun
  | completed | skipped | ambiguous | awaiting => cases fails

/-- What becomes of an answer that the route gives. -/
theorem fits_markOf {answer : Except PyException StepResponse} (answers : route.Answers answer)
    (row : WorkflowStepRun) : route.Fits step ((markOf step answer).apply row) := by
  cases route with
  | direct data =>
      obtain ⟨⟨response, created⟩, rfl, executed, rfl⟩ := answers
      unfold markOf
      dsimp only at executed ⊢
      rw [executed]
      exact ⟨fun _ => ⟨_, rfl, rfl⟩, nofun, nofun⟩
  | approved =>
      obtain ⟨⟨response, created⟩, rfl, required⟩ := answers
      unfold markOf
      dsimp only at required ⊢
      rw [required]
      exact ⟨nofun, nofun, fun _ => rfl⟩

end Route

section Drive

variable {service : WorkflowService} {definition : WorkflowDefinition}
variable {store : Store} {driver : Driver} {reading : Reading} {index : Nat}

/-- The stages at which a call writes the rows of steps. -/
def Stage.writesSteps : Stage → Bool
  | .startCreate _ | .resolve | .settle _ _ | .skip _ _ | .skipConditional _ => true
  | _ => false

theorem drive_steps (quiet : driver.stage.writesSteps = false) :
    (drive service definition store driver reading).store.steps = store.steps := by
  unfold drive
  cases at_stage : driver.stage with
  | startCreate | resolve | settle | skip | skipConditional =>
      rw [at_stage] at quiet
      cases quiet
  | off | release | step | classify | batchRelease | join | regroup | persist => rfl
  | startToken =>
      unfold startToken
      dsimp only
      repeat' split
      all_goals rfl
  | startClaim | budget =>
      dsimp only
      split <;> rfl
  | startRejected =>
      unfold startRejected
      dsimp only
      split <;> rfl
  | operator call =>
      unfold operator
      cases call <;> dsimp only <;> repeat' split
      all_goals rfl
  | enter call =>
      unfold enter
      cases call <;> dsimp only <;> repeat' split
      all_goals rfl
  | resume =>
      unfold resume
      dsimp only
      repeat' split
      all_goals rfl
  | load =>
      unfold load
      dsimp only
      repeat' split
      all_goals rfl
  | head =>
      unfold head
      dsimp only
      repeat' split
      all_goals rfl
  | reconcile waiting changed =>
      cases waiting with
      | nil => cases changed <;> rfl
      | cons =>
          unfold reconcile
          dsimp only
          repeat' split
          all_goals rfl
  | outcome =>
      unfold readOutcome
      dsimp only
      split <;> rfl
  | revalidate => rfl
  | reload =>
      unfold reload
      dsimp only
      repeat' split
      all_goals rfl

/-- A call completes a step on an approval, or if its outcome is unknown. -/
theorem drive_completed {row : WorkflowStepRun}
    (found : (drive service definition store driver reading).store.steps[index]? = some row)
    (completed : row.status = .completed) :
    store.steps[index]? = some row ∨
      (index ∈ driver.stage.awaited ∧
        ∃ confirmationId, row.resultReceipt = some (approvalReceipt confirmationId)) ∨
      ∃ earlier, store.steps[index]? = some earlier ∧ earlier.status = .ambiguous := by
  by_cases quiet : driver.stage.writesSteps = false
  · left
    rwa [drive_steps quiet] at found
  · unfold drive at found
    cases at_stage : driver.stage with
    | startCreate =>
        rw [at_stage] at found
        dsimp only [startCreate] at found
        split at found
        next => exact .inl found
        next =>
          dsimp only at found
          rw [List.getElem?_map] at found
          obtain ⟨_, _, rfl⟩ := Option.map_eq_some_iff.mp found
          cases completed
    | resolve =>
        rw [at_stage] at found
        dsimp only [resolve] at found
        rw [List.getElem?_modify] at found
        obtain ⟨earlier, before, changed⟩ := Option.map_eq_some_iff.mp found
        split at changed
        next =>
          unfold resolveStep at changed
          split at changed
          next ambiguous => exact .inr (.inr ⟨earlier, before, ambiguous⟩)
          next => exact .inl (by rw [before, ← changed])
        next => exact .inl (by rw [before, ← changed])
    | settle other rest =>
        rw [at_stage] at found
        dsimp only at found
        rw [List.getElem?_modify] at found
        obtain ⟨earlier, before, changed⟩ := Option.map_eq_some_iff.mp found
        split at changed
        next same =>
          subst same
          subst changed
          exact .inr (.inl ⟨List.mem_cons_self, _, rfl⟩)
        next => exact .inl (by rw [before, ← changed])
    | skip =>
        rw [at_stage] at found
        dsimp only at found
        rw [List.getElem?_modify] at found
        obtain ⟨earlier, before, changed⟩ := Option.map_eq_some_iff.mp found
        split at changed
        next =>
          subst changed
          cases completed
        next => exact .inl (by rw [before, ← changed])
    | skipConditional =>
        rw [at_stage] at found
        dsimp only at found
        rw [List.getElem?_modify] at found
        obtain ⟨earlier, before, changed⟩ := Option.map_eq_some_iff.mp found
        split at changed
        next =>
          unfold skipConditionalStep at changed
          split at changed
          next =>
            subst changed
            cases completed
          next => exact .inl (by rw [before, ← changed])
        next => exact .inl (by rw [before, ← changed])
    | _ =>
        rw [at_stage] at quiet
        exact absurd rfl quiet

end Drive

namespace Route

section Moves

variable {service : WorkflowService} {definition : WorkflowDefinition}
variable {store : Store} {driver : Driver} {reading : Reading} {index : Nat}
variable {route : Route} {step : WorkflowStep}

theorem fits_drive (stored : ∀ row, store.steps[index]? = some row → route.Fits step row)
    (follows : route.Follows step index driver) {row : WorkflowStepRun}
    (found : (drive service definition store driver reading).store.steps[index]? = some row) :
    route.Fits step row := by
  obtain before | pending | completed | skipped | ⟨skipped, _⟩ :=
    drive_row_status service definition store driver reading found
  · exact stored row before
  · exact fits_of_status (by simp [pending]) (by simp [pending]) (by simp [pending])
  · obtain before | ⟨awaited, confirmationId, receipt⟩ | ⟨earlier, before, ambiguous⟩ :=
      drive_completed found completed
    · exact stored row before
    · have waits := follows.awaited awaited
      cases route with
      | direct => cases waits
      | approved =>
          refine ⟨fun _ => ⟨_, receipt, confirmationId, rfl⟩, ?_, fun _ => rfl⟩
          simp [completed]
    · exact absurd ambiguous (stored earlier before).known
  · exact fits_of_status (by simp [skipped]) (by simp [skipped]) (by simp [skipped])
  · exact fits_of_status (by simp [skipped]) (by simp [skipped]) (by simp [skipped])

theorem follows_drive (stored : ∀ row, store.steps[index]? = some row → route.Fits step row)
    (follows : route.Follows step index driver) :
    route.Follows step index (drive service definition store driver reading).driver := by
  constructor
  · intro member
    have found := drive_case service definition store driver reading
    generalize Workflows.drive service definition store driver reading = move at found member
    cases found with
    | quiet _ _ _ awaited =>
        obtain none_awaited | ⟨fewer, _⟩ := awaited
        · rw [none_awaited] at member
          cases member
        · exact follows.awaited (fewer.subset member)
    | selects _ _ _ _ _ _ awaited_eq | queues _ _ _ _ _ awaited_eq | skips _ _ _ _ awaited_eq
    | resolves _ _ _ _ awaited_eq | creates _ _ _ _ _ _ awaited_eq =>
        rw [awaited_eq] at member
        cases member
    | gathers _ _ _ awaited_eq =>
        rw [awaited_eq, mem_waitingIndices] at member
        cases before : store.steps[index]? with
        | none =>
            rw [statusAt, before] at member
            cases member
        | some row =>
            rw [statusAt, before] at member
            exact (stored row before).waiting member
    | settles _ _ _ _ _ _ _ awaited_eq =>
        apply follows.awaited
        rw [awaited_eq]
        exact List.mem_cons_of_mem _ member
  · intro mark marks
    obtain same | queued := drive_worker service definition store driver reading index
    · exact follows.marks mark (same.symm.trans marks)
    · rw [queued] at marks
      cases marks

theorem fits_work (stored : ∀ row, store.steps[index]? = some row → route.Fits step row)
    (follows : route.Follows step index driver) {worked : Nat} {row : WorkflowStepRun}
    (found : (work service definition store driver worked reading).store.steps[index]? =
      some row) : route.Fits step row := by
  obtain before | ⟨rfl, running | ⟨mark, earlier, was_mark, rfl, _⟩⟩ :=
    work_row service definition store driver worked reading found
  · exact stored row before
  · exact fits_of_status (by simp [running]) (by simp [running]) (by simp [running])
  · exact follows.marks mark was_mark earlier

theorem follows_work (follows : route.Follows step index driver)
    (is_step : definition.steps[index]? = some step) {worked : Nat}
    (answers : worked = index → ∀ action, driver.workers index = .request action →
      route.Answers reading.answer) :
    route.Follows step index (work service definition store driver worked reading).driver := by
  constructor
  · intro member
    rw [(work_keeps service definition store driver worked reading).1] at member
    exact follows.awaited member
  · intro mark marks
    obtain same | fails | ⟨found_step, action, rfl, found, requests, rfl⟩ :=
      work_mark service definition store driver worked reading marks
    · exact follows.marks mark same
    · exact fits_of_failsCoded fails
    · obtain rfl := Option.some.inj (is_step.symm.trans found)
      exact fits_markOf (answers rfl action requests)

end Moves

end Route

section Runs

variable (service : WorkflowService) (definition : WorkflowDefinition)

/-- Whatever passes the action of a step on is answered like this. -/
def Answered (answers : Except PyException StepResponse → Prop) (index : Nat)
    (state : EngineState) (input : Input) : Prop :=
  ∀ caller reading action, input = .work caller index reading →
    EngineEvent.requested index action ∈ (engineStep service definition state input).2 →
      answers reading.answer

variable {service definition} {index : Nat} {step : WorkflowStep} {route : Route}

theorem requested_of_request {state : EngineState} {caller : Nat} {action : Action}
    {reading : Reading} (running : (state.drivers caller).stage ≠ .off)
    (is_step : definition.steps[index]? = some step)
    (requests : (state.drivers caller).workers index = .request action) :
    EngineEvent.requested index action ∈
      (engineStep service definition state (.work caller index reading)).2 := by
  unfold engineStep
  dsimp only
  split
  next ended => exact absurd ended running
  next =>
    unfold work
    rw [is_step, requests]
    exact List.mem_singleton_self _

theorem Route.Kept.after {state : EngineState} {caller : Nat} {move : Move}
    (kept : route.Kept step index state)
    (stored : ∀ row, move.store.steps[index]? = some row → route.Fits step row)
    (follows : route.Follows step index move.driver) :
    route.Kept step index (state.after caller move) := by
  refine ⟨stored, fun other => ?_⟩
  by_cases same : other = caller
  · rwa [same, after_drivers_self]
  · rw [after_drivers_ne state move same]
    exact kept.followed other

theorem Route.Kept.next (is_step : definition.steps[index]? = some step) {state : EngineState}
    {input : Input} (kept : route.Kept step index state)
    (answered : Answered service definition route.Answers index state input) :
    route.Kept step index (engineStep service definition state input).1 := by
  cases input with
  | launch caller ctx allowed call =>
      unfold engineStep
      dsimp only
      split
      next =>
        refine kept.after kept.stored ⟨fun member => ?_, fun mark => nofun⟩
        cases call <;> cases member
      next => exact kept
  | drive caller reading =>
      exact kept.after (fun row => fits_drive kept.stored (kept.followed caller))
        (follows_drive kept.stored (kept.followed caller))
  | work caller worked reading =>
      have answers (running : (state.drivers caller).stage ≠ .off) (same : worked = index)
          (action : Action) (requests : (state.drivers caller).workers index = .request action) :
          route.Answers reading.answer := by
        subst same
        exact answered caller reading action rfl (requested_of_request running is_step requests)
      unfold engineStep
      dsimp only
      split
      next => exact kept
      next running =>
        exact kept.after (fun row => fits_work kept.stored (kept.followed caller))
          (follows_work (kept.followed caller) is_step (answers running))
  | crash caller =>
      exact kept.after kept.stored ⟨nofun, (kept.followed caller).marks⟩
  | decide confirmationId status =>
      unfold engineStep
      dsimp only
      split <;> exact ⟨kept.stored, kept.followed⟩

/-- In every run that answers a step on its route, a completed step shows the receipt of the
route. -/
theorem Route.shows_of_admits (is_step : definition.steps[index]? = some step)
    {inputs : List Input}
    (answered : (engine service definition).Admits
      (Answered service definition route.Answers index) initialState inputs)
    (completed : statusAt
      ((engine service definition).stateAfter initialState inputs).store.steps index =
        .completed) :
    ∃ row receipt,
      ((engine service definition).stateAfter initialState inputs).store.steps[index]? = some row ∧
        visible row = (true, some receipt) ∧ route.Shows step receipt := by
  have kept : route.Kept step index
      ((engine service definition).stateAfter initialState inputs) :=
    Machine.invariant_of_admits (motive := fun state : EngineState => route.Kept step index state)
      ⟨fun row => nofun, fun caller => ⟨nofun, fun mark => nofun⟩⟩
      (fun state input kept answered => kept.next is_step answered) answered
  generalize (engine service definition).stateAfter initialState inputs = state at *
  cases found : state.store.steps[index]? with
  | none =>
      rw [statusAt, found] at completed
      cases completed
  | some row =>
      rw [statusAt, found] at completed
      have done : row.status = .completed := completed
      obtain ⟨receipt, recorded, shows⟩ := (kept.stored row found).shows done
      exact ⟨row, receipt, rfl, by simp [visible, done, recorded], shows⟩

end Runs

/-! ## Two runs -/

/-- Two runs that differ in one step: the first has executed it at once, and the second on an
approval. -/
structure TwoRoutes (service : WorkflowService) (definition : WorkflowDefinition) (index : Nat)
    (step : WorkflowStep) (data : Params) (direct approved : List Input) : Prop where
  is_step : definition.steps[index]? = some step
  executed : (engine service definition).Admits
    (Answered service definition (Route.direct data).Answers index) initialState direct
  confirmed : (engine service definition).Admits
    (Answered service definition Route.approved.Answers index) initialState approved
  recorded : statusAt
    ((engine service definition).stateAfter initialState direct).store.steps index = .completed
  granted : statusAt
    ((engine service definition).stateAfter initialState approved).store.steps index = .completed
  alike : AlikeBut index
    ((engine service definition).stateAfter initialState direct).store.steps
    ((engine service definition).stateAfter initialState approved).store.steps

/-- A condition that reads a step is decided alike on both routes exactly if it is blind to the
difference between the receipts. -/
theorem conditions_agree_iff {service : WorkflowService} {definition : WorkflowDefinition}
    {index : Nat} {step : WorkflowStep} {data : Params} {direct approved : List Input}
    (routes : TwoRoutes service definition index step data direct approved)
    {reader : WorkflowStep} {condition : WorkflowCondition}
    (conditional : reader.condition = some condition)
    (reads : condition.Reads definition index) :
    evaluateCondition definition
          ((engine service definition).stateAfter initialState direct).store.steps reader =
        evaluateCondition definition
          ((engine service definition).stateAfter initialState approved).store.steps reader ↔
      condition.RouteBlind
        ((engine service definition).stateAfter initialState direct).store.steps index
        (directReceipt step data) := by
  obtain ⟨row, receipt, found, seen, rfl⟩ :=
    Route.shows_of_admits routes.is_step routes.executed routes.recorded
  obtain ⟨other, granted, there, approved, confirmationId, rfl⟩ :=
    Route.shows_of_admits routes.is_step routes.confirmed routes.granted
  exact evaluateCondition_alike_iff routes.alike found there seen approved conditional reads

/-- Inputs of which every one that moves the step is answered like this. -/
theorem answered_of_inputs {service : WorkflowService} {definition : WorkflowDefinition}
    {index : Nat} {answers : Except PyException StepResponse → Prop} {inputs : List Input}
    (all : ∀ caller reading, Input.work caller index reading ∈ inputs → answers reading.answer) :
    (engine service definition).Admits (Answered service definition answers index) initialState
      inputs := by
  rintro before _ after rfl caller reading _ rfl _
  exact all caller reading (by simp)

namespace Demo

def pageUrl : String := "https://example.org/"

/-- The catalog of the steps below. -/
def browsing : Config :=
  { Services.Demo.config with
    catalog := { specs := [
      { actionType := "browser.navigate", riskLevel := .sensitive, capabilityDomain := "browser" },
      { actionType := "browser.inspect", riskLevel := .safe, capabilityDomain := "browser" }] } }

def openPage : WorkflowStep :=
  { id := "open", action := "browser.navigate", params := [("url", .str pageUrl)] }

/-- The second step runs only if the first has come to its page. -/
def arrived : WorkflowStep :=
  { inspect "second" with
    condition := some {
      kind := .stepResult, stepId := some "open", op := some .eq, value := .str pageUrl } }

def routed : WorkflowDefinition := { name := "routed", steps := [openPage, arrived] }

/-- What the provider returns of the page. -/
def pageData : Params := [("url", .str pageUrl), ("title", .str "Example"), ("status", .int 200)]

def navigated : Reading :=
  { answer := .ok { response := {
      status := .executed, decision := .allow, result := some { data := pageData } } } }

def mustConfirm : Reading :=
  { answer := .ok { response := {
      status := .confirmationRequired, decision := .confirm, confirmationId := some "c" } } }

/-- The first step is executed at once. -/
def atOnce : List Input := start 0 :: moves 0 7 ++ List.replicate 4 (.work 0 0 navigated)

/-- The first step waits for a confirmation, is approved, and a resume records that. -/
def onApproval : List Input :=
  start 0 :: moves 0 7 ++ List.replicate 4 (.work 0 0 mustConfirm) ++ moves 0 2 ++
    .decide "c" .used :: launch 0 .resume ::
      List.replicate 7 (.drive 0 { outcomes := [.executed] })

theorem routed_routes : TwoRoutes service routed 0 openPage pageData atOnce onApproval where
  is_step := rfl
  executed := by
    apply answered_of_inputs
    intro caller reading member
    simp [atOnce, start, launch, moves] at member
    obtain ⟨_, rfl⟩ := member
    exact ⟨_, rfl, rfl, rfl⟩
  confirmed := by
    apply answered_of_inputs
    intro caller reading member
    simp [onApproval, start, launch, moves] at member
    obtain ⟨_, rfl⟩ := member
    exact ⟨_, rfl, rfl⟩
  recorded := by decide +kernel
  granted := by decide +kernel
  alike := by
    intro other different
    match other with
    | 0 => exact absurd rfl different
    | 1 => rfl
    | _ + 2 => rfl

end Demo

theorem conditions_agree_demo :
    evaluateCondition Demo.routed
          ((engine Demo.service Demo.routed).stateAfter initialState Demo.atOnce).store.steps
          Demo.arrived =
        evaluateCondition Demo.routed
          ((engine Demo.service Demo.routed).stateAfter initialState Demo.onApproval).store.steps
          Demo.arrived ↔
      WorkflowCondition.RouteBlind
        { kind := .stepResult, stepId := some "open", op := some .eq, value := .str Demo.pageUrl }
        ((engine Demo.service Demo.routed).stateAfter initialState Demo.atOnce).store.steps 0
        (directReceipt Demo.openPage Demo.pageData) :=
  conditions_agree_iff Demo.routed_routes rfl ⟨by decide, by decide +kernel⟩

/-- A condition of a validated definition that is true after the step has been executed at once
and false after it has been approved. -/
theorem not_conditions_agree :
    Demo.routed.build Demo.browsing.platform = .ok () ∧
      validateWorkflowDefinition Demo.browsing 20 Demo.routed = .ok () ∧
      ¬∀ (index : Nat) (step : WorkflowStep) (data : Params) (direct approved : List Input)
        (reader : WorkflowStep) (condition : WorkflowCondition),
        TwoRoutes Demo.service Demo.routed index step data direct approved →
        reader.condition = some condition → condition.Reads Demo.routed index →
          evaluateCondition Demo.routed
              ((engine Demo.service Demo.routed).stateAfter initialState direct).store.steps
              reader =
            evaluateCondition Demo.routed
              ((engine Demo.service Demo.routed).stateAfter initialState approved).store.steps
              reader := by
  refine ⟨by decide +kernel, by decide +kernel, fun agree => ?_⟩
  have same := agree 0 Demo.openPage Demo.pageData Demo.atOnce Demo.onApproval Demo.arrived _
    Demo.routed_routes rfl ⟨by decide, by decide +kernel⟩
  have differ : evaluateCondition Demo.routed
        ((engine Demo.service Demo.routed).stateAfter initialState Demo.atOnce).store.steps
        Demo.arrived ≠
      evaluateCondition Demo.routed
        ((engine Demo.service Demo.routed).stateAfter initialState Demo.onApproval).store.steps
        Demo.arrived := by
    decide +kernel
  exact differ same

end Era.Workflows
