import Era.Workflows.Waiting

/-!
# Denied confirmations

A resume that finds the confirmation of a waiting step denied is to fail the run, or to skip
the step and go on.
-/

namespace Era.Workflows

open Era.Core Era.Lib Era.Services

section Denial

variable (service : WorkflowService) (definition : WorkflowDefinition)
variable (surroundings : Surroundings)

/-! ## A lone resume -/

/-- The next input of a call that is alone on its run. -/
def nextDrive (caller : Nat) (state : EngineState) : Input :=
  .drive caller (surroundings.reading (state.drivers caller))

/-- A resume, and its transactions while nothing else happens. -/
def loneResume (caller : Nat) (ctx : ExecutionContext) (allowed : String → Bool) (moves : Nat)
    (state : EngineState) : List Input :=
  .launch caller ctx allowed .resume ::
    (engine service definition).chosen (nextDrive surroundings caller) moves
      (engineStep service definition state (.launch caller ctx allowed .resume)).1

def EngineEvent.isRequested : EngineEvent → Bool
  | .requested _ _ => true
  | _ => false

def EngineEvent.isReleased : EngineEvent → Bool
  | .slotReleased => true
  | _ => false

/-- The resume ends: it has failed the run, dispatched no step and released the slot once. -/
structure Failed (caller : Nat) (after : EngineState) (events : List EngineEvent) : Prop where
  ended : (after.drivers caller).stage = .off
  failed : after.store.run.map WorkflowRun.status = some .failed
  nothing : events.any EngineEvent.isRequested = false
  released : events.countP EngineEvent.isReleased = (releaseEvents service).length

/-- The resume is back at the head of its loop, where it turns to the steps that are ready, and
it has skipped the step. -/
structure Skipped (caller index : Nat) (before after : EngineState) : Prop where
  again : (after.drivers caller).stage = .head
  skipped : statusAt after.store.steps index = .skipped
  unfinished : after.store.run = before.store.run

/-- A lone resume gets to a state with a property. -/
def ResumesTo (caller : Nat) (ctx : ExecutionContext) (allowed : String → Bool)
    (state : EngineState) (property : EngineState → List EngineEvent → Prop) : Prop :=
  ∃ moves,
    property
      ((engine service definition).stateAfter state
        (loneResume service definition surroundings caller ctx allowed moves state))
      ((engine service definition).trace id state
        (loneResume service definition surroundings caller ctx allowed moves state))

variable {service definition surroundings}

theorem alone_after (state : EngineState) (caller : Nat) (at_pair : Store × Driver) :
    (engine service definition).alone (nextDrive surroundings caller) id
        (state.after caller { store := at_pair.1, driver := at_pair.2 }) =
      (state.after caller
          { store := (driveAlone service definition surroundings at_pair).1.1
            driver := (driveAlone service definition surroundings at_pair).1.2 },
        (driveAlone service definition surroundings at_pair).2) := by
  unfold Machine.alone engine engineStep nextDrive driveAlone
  dsimp only
  rw [after_drivers_self, after_store]
  unfold EngineState.after
  dsimp only
  rw [Function.update_idem]
  rfl

/-- A lone resume is a path of a call that is alone. -/
theorem resumesTo_iff {caller : Nat} {ctx : ExecutionContext} {allowed : String → Bool}
    {state : EngineState} (off : (state.drivers caller).stage = .off)
    (property : EngineState → List EngineEvent → Prop) :
    ResumesTo service definition surroundings caller ctx allowed state property ↔
      ∃ events finish, Path (driveAlone service definition surroundings) (fun _ => True)
          (state.store, { stage := .resume, ctx, allowed }) events finish ∧
        property (state.after caller { store := finish.1, driver := finish.2 }) events := by
  have launched : engineStep service definition state (.launch caller ctx allowed .resume) =
      (state.after caller
        { store := state.store, driver := { stage := .resume, ctx, allowed } }, []) := by
    unfold engineStep
    dsimp only
    rw [off]
    rfl
  have embedded := @alone_after service definition surroundings state caller
  unfold ResumesTo loneResume
  simp only [Machine.stateAfter_cons, Machine.trace_cons]
  have step_eq : (engine service definition).step state (.launch caller ctx allowed .resume) =
      (state.after caller
        { store := state.store, driver := { stage := .resume, ctx, allowed } }, []) := launched
  rw [step_eq, launched]
  constructor
  · rintro ⟨moves, holds⟩
    have path := @Machine.path_chosen _ _ _ _ (engine service definition)
      (nextDrive surroundings caller) id moves (state.after caller
        { store := state.store, driver := { stage := .resume, ctx, allowed } })
    obtain ⟨finish, far_eq, pulled⟩ := @Path.pull _ _ (driveAlone service definition surroundings)
      (state.store, { stage := .resume, ctx, allowed }) _ _ _
      (fun pair => state.after caller { store := pair.1, driver := pair.2 }) _ embedded path
    rw [far_eq] at holds
    exact ⟨_, finish, pulled, holds⟩
  · rintro ⟨events, finish, path, holds⟩
    have lifted : Path ((engine service definition).alone (nextDrive surroundings caller) id)
        (fun _ => True) _ _ _ := path.map embedded fun _ _ => True.intro
    obtain ⟨moves, events_eq, finish_eq⟩ := Machine.exists_chosen lifted
    refine ⟨moves, ?_⟩
    dsimp only at finish_eq events_eq
    rw [finish_eq, events_eq]
    exact holds

/-! ## Its way -/

/-- The run can be resumed by its actor. -/
structure Resumable (store : Store) (ctx : ExecutionContext) (run : WorkflowRun) : Prop where
  stored : store.run = some run
  owned : run.actorId = ctx.actorId
  unfinished : run.status = .pending ∨ run.status = .running ∨ run.status = .waiting

/-- A resume with the run that it has loaded. -/
def resumed (ctx : ExecutionContext) (allowed : String → Bool) (run : WorkflowRun) : Driver :=
  ({ ctx, allowed } : Driver).restored run

variable {store : Store} {ctx : ExecutionContext} {allowed : String → Bool} {run : WorkflowRun}

theorem way_resume (resumable : Resumable store ctx run) :
    Way service definition surroundings (store, { stage := .resume, ctx, allowed }) []
      (store, (resumed ctx allowed run).goto .load) := by
  have moved : drive service definition store { stage := .resume, ctx, allowed }
      (surroundings.reading { stage := .resume, ctx, allowed }) =
        { store, driver := (resumed ctx allowed run).goto .load } := by
    unfold drive resume
    dsimp only
    rw [resumable.stored]
    dsimp only
    rw [if_neg (not_not.mpr resumable.owned)]
    obtain pending | running | waiting := resumable.unfinished
    · rw [pending]
      rfl
    · rw [running]
      rfl
    · rw [waiting]
      rfl
  exact way_one rfl moved

/-- `_advance` goes to its loop, or fails the run. -/
theorem way_load (resumable : Resumable store ctx run) :
    if surroundings.first.definition = .found then
      Way service definition surroundings (store, (resumed ctx allowed run).goto .load) []
        (store, (resumed ctx allowed run).goto .head)
    else ∃ message,
      Way service definition surroundings (store, (resumed ctx allowed run).goto .load) []
        (store, (resumed ctx allowed run).goto (.persist (.failed message))) := by
  have moved : drive service definition store ((resumed ctx allowed run).goto .load)
      (surroundings.reading ((resumed ctx allowed run).goto .load)) =
        load store ((resumed ctx allowed run).goto .load) surroundings.first := rfl
  unfold load at moved
  rw [resumable.stored] at moved
  dsimp only at moved
  have own : ¬run.actorId ≠ ((resumed ctx allowed run).goto .load).ctx.actorId :=
    not_not.mpr resumable.owned
  rw [if_neg own] at moved
  split
  next found =>
    rw [found] at moved
    exact way_one rfl moved
  next lost =>
    cases definition_eq : surroundings.first.definition with
    | found => exact absurd definition_eq lost
    | missing | changed =>
        rw [definition_eq] at moved
        exact ⟨_, way_one rfl moved⟩

/-- `_set_run_failed` fails the run and releases its slot. -/
theorem way_fail {driver : Driver} {message : String}
    (at_persist : driver.stage = .persist (.failed message))
    (own : store.run = some driver.run) :
    ∃ after ended, after.run.map WorkflowRun.status = some .failed ∧ ended.stage = .off ∧
      Way service definition surroundings (store, driver)
        (releaseEvents service ++ [.ended .returned]) (after, ended) := by
  have written : drive service definition store driver (surroundings.reading driver) =
      { store := store.write driver.run (.failed message)
        driver := ({ driver with run := RunUpdate.apply (.failed message) driver.run }).goto
          (.release .returned) } := by
    unfold drive
    rw [at_persist]
    rfl
  refine ⟨store.write driver.run (.failed message), _, ?_, ?_,
    way_silent (by rw [at_persist]; rfl) written (way_one rfl rfl)⟩
  · rw [write_own own]
    rfl
  · rfl

/-- The outcome that stops the first pass over the waiting steps, if one does. -/
def firstStop (service : WorkflowService) (surroundings : Surroundings) (store : Store)
    (run : WorkflowRun) : Option WaitingOutcome :=
  ((waitingIndices store.steps).map fun index =>
    handleWaitingStep service store.confirmations run store.steps (surroundings.step index)
      index).find? WaitingOutcome.stops

/-- A resume that reconciles the waiting steps. -/
def reconciling (ctx : ExecutionContext) (allowed : String → Bool) (run : WorkflowRun)
    (store : Store) : Driver :=
  { resumed ctx allowed run with
    stage := .reconcile (waitingIndices store.steps) false, rows := store.steps }

/-- A state that a resume moves on from, before it is back at its head with a step skipped. -/
def Before (index : Nat) (state : Store × Driver) : Prop :=
  state.2.stage ≠ .off ∧ ¬(state.2.stage = .head ∧ statusAt state.1.steps index = .skipped)

theorem before_of_isBetween {index : Nat} {state : Store × Driver}
    (between : state.2.stage.isBetween = true) : Before index state := by
  refine ⟨fun off => ?_, fun ⟨at_head, _⟩ => ?_⟩
  · rw [off] at between
    cases between
  · rw [at_head] at between
    cases between

/-- The way of a resume up to the first head of its loop. -/
theorem path_head {index : Nat} (resumable : Resumable store ctx run)
    (found : surroundings.first.definition = .found) :
    Path (driveAlone service definition surroundings) (Before index)
      (store, { stage := .resume, ctx, allowed }) []
      (store, (resumed ctx allowed run).goto .head) := by
  have loads := @way_load service definition surroundings store ctx allowed run resumable
  rw [if_pos found] at loads
  have way := (way_resume resumable).trans loads
  exact way.mono fun _ => before_of_isBetween

/-- The first transaction at the head of the loop. -/
theorem path_reconcile {index : Nat} (resumable : Resumable store ctx run)
    (found : surroundings.first.definition = .found)
    (in_time : surroundings.first.deadlinePassed = false)
    (waiting : statusAt store.steps index = .waiting) :
    Path (driveAlone service definition surroundings) (Before index)
      (store, { stage := .resume, ctx, allowed }) []
      (store, reconciling ctx allowed run store) := by
  have before : Before index (store, (resumed ctx allowed run).goto .head) := by
    refine ⟨nofun, fun ⟨_, skipped⟩ => ?_⟩
    rw [waiting] at skipped
    cases skipped
  have some_wait : waitingIndices store.steps ≠ [] := by
    intro none_wait
    have member := mem_waitingIndices.mpr waiting
    rw [none_wait] at member
    cases member
  have moved : driveAlone service definition surroundings
      (store, (resumed ctx allowed run).goto .head) =
        ((store, reconciling ctx allowed run store), []) := by
    have reads : surroundings.reading ((resumed ctx allowed run).goto .head) =
        surroundings.first := rfl
    unfold driveAlone
    dsimp only
    rw [reads]
    unfold drive head
    dsimp only [Driver.goto]
    rw [in_time, if_neg Bool.false_ne_true]
    cases gathered : waitingIndices store.steps with
    | nil => exact absurd gathered some_wait
    | cons first rest =>
        unfold reconciling
        rw [gathered]
  have path := @Path.one _ _ (driveAlone service definition surroundings) _ _ before
  rw [moved] at path
  exact (path_head resumable found).trans path

theorem nothing_of_quiet {events : List EngineEvent}
    (quiet : events.all EngineEvent.isQuiet = true) :
    events.any EngineEvent.isRequested = false := by
  rw [List.any_eq_false]
  intro event member
  have quiet_event := List.all_eq_true.mp quiet event member
  cases event <;> first | exact Bool.false_ne_true | cases quiet_event

theorem released_of_quiet {events : List EngineEvent}
    (quiet : events.all EngineEvent.isQuiet = true) :
    events.countP EngineEvent.isReleased = 0 := by
  rw [List.countP_eq_zero]
  intro event member
  have quiet_event := List.all_eq_true.mp quiet event member
  cases event <;> first | exact Bool.false_ne_true | cases quiet_event

/-- A failure of the run. -/
theorem path_fails {index : Nat} {events : List EngineEvent} {driver : Driver} {after : Store}
    {message : String}
    (path : Path (driveAlone service definition surroundings) (Before index)
      (store, { stage := .resume, ctx, allowed }) events
      (after, driver.goto (.persist (.failed message))))
    (quiet : events.all EngineEvent.isQuiet = true) (own : after.run = some driver.run)
    (state : EngineState) (caller : Nat) :
    ∃ all_events finish, Path (driveAlone service definition surroundings) (Before index)
        (store, { stage := .resume, ctx, allowed }) all_events finish ∧
      Failed service caller (state.after caller { store := finish.1, driver := finish.2 })
        all_events := by
  obtain ⟨failed, ended, status, off, way⟩ :=
    @way_fail service definition surroundings after (driver.goto (.persist (.failed message)))
      message rfl own
  refine ⟨_, (failed, ended), path.trans (way.mono fun _ => before_of_isBetween), ?_⟩
  constructor
  · rw [after_drivers_self]
    exact off
  · exact status
  · rw [List.any_append, nothing_of_quiet quiet]
    unfold releaseEvents
    split <;> rfl
  · rw [List.countP_append, released_of_quiet quiet]
    unfold releaseEvents
    split <;> rfl

/-- What the first pass of a resume comes to. -/
theorem path_pass {index : Nat} (resumable : Resumable store ctx run)
    (found : surroundings.first.definition = .found)
    (in_time : surroundings.first.deadlinePassed = false)
    (waiting : statusAt store.steps index = .waiting) :
    ∃ events, events.all EngineEvent.isQuiet = true ∧
      match firstStop service surroundings store run with
      | none =>
          Path (driveAlone service definition surroundings) (Before index)
            (store, { stage := .resume, ctx, allowed }) events
            (store.markedAll store.steps
                (surroundings.handled service store (reconciling ctx allowed run store))
                (waitingIndices store.steps),
              (reconciling ctx allowed run store).goto (.reconcile []
                ((waitingIndices store.steps).any fun index =>
                  (surroundings.handled service store (reconciling ctx allowed run store)
                    index).changes)))
      | some (.failed message) => ∃ after, after.run = store.run ∧
          Path (driveAlone service definition surroundings) (Before index)
            (store, { stage := .resume, ctx, allowed }) events
            (after, (reconciling ctx allowed run store).goto (.persist (.failed message)))
      | some _ => ∃ after, after.run = store.run ∧
          Path (driveAlone service definition surroundings) (Before index)
            (store, { stage := .resume, ctx, allowed }) (events ++ [.ended .returned])
            (after, (reconciling ctx allowed run store).stop) := by
  have starts := @path_reconcile service definition surroundings store ctx allowed run index
    resumable found in_time waiting
  have extend {events : List EngineEvent} {finish : Store × Driver}
      (way : Way service definition surroundings (store, reconciling ctx allowed run store) events
        finish) : Path (driveAlone service definition surroundings) (Before index)
          (store, { stage := .resume, ctx, allowed }) events finish :=
    starts.trans (way.mono fun _ => before_of_isBetween)
  obtain ⟨events, quiet, passes⟩ := @way_pass service definition surroundings store
    (reconciling ctx allowed run store) (waitingIndices store.steps) false rfl
  refine ⟨events, quiet, ?_⟩
  have same : firstStop service surroundings store run =
      ((waitingIndices store.steps).map
        (surroundings.handled service store (reconciling ctx allowed run store))).find?
          WaitingOutcome.stops := rfl
  rw [same]
  revert passes
  cases ((waitingIndices store.steps).map
      (surroundings.handled service store (reconciling ctx allowed run store))).find?
        WaitingOutcome.stops with
  | none => exact fun way => extend way
  | some outcome =>
      cases outcome with
      | failed message => exact fun ⟨after, run_eq, way⟩ => ⟨after, run_eq, extend way⟩
      | _ => exact fun ⟨after, run_eq, way⟩ => ⟨after, run_eq, extend way⟩

/-- Two ends of a lone resume are one. -/
theorem path_end_unique {index : Nat} {begin finish far : Store × Driver}
    {events further : List EngineEvent}
    (path : Path (driveAlone service definition surroundings) (Before index) begin events finish)
    (off : finish.2.stage = .off)
    (beyond : Path (driveAlone service definition surroundings) (fun _ => True) begin further far)
    (not_before : ¬Before index far) : far = finish := by
  obtain ⟨between, _, rest⟩ := path.past beyond not_before
  have still : driveAlone service definition surroundings finish = (finish, []) := by
    unfold driveAlone
    rw [drive_off off]
  exact (rest.eq_of_still still).1

/-! ## What becomes of the run -/

/-- What fails a run that a resume finds waiting for a denied confirmation: its definition is
missing or has changed, it is late, or another waiting step fails first. -/
def FailsOtherwise (service : WorkflowService) (surroundings : Surroundings) (store : Store)
    (run : WorkflowRun) : Prop :=
  surroundings.first.definition ≠ .found ∨ surroundings.first.deadlinePassed = true ∨
    ∃ message, firstStop service surroundings store run = some (.failed message)

/-- Nothing stops a resume in its first pass over the waiting steps. -/
def GetsThrough (service : WorkflowService) (surroundings : Surroundings) (store : Store)
    (run : WorkflowRun) : Prop :=
  surroundings.first.definition = .found ∧ surroundings.first.deadlinePassed = false ∧
    firstStop service surroundings store run = none

/-- A resume that is lost or late fails the run. -/
theorem resume_fails_early (resumable : Resumable store ctx run) {index : Nat}
    (waiting : statusAt store.steps index = .waiting)
    (early : surroundings.first.definition ≠ .found ∨ surroundings.first.deadlinePassed = true)
    (state : EngineState) (caller : Nat) :
    ∃ events finish, Path (driveAlone service definition surroundings) (Before index)
        (store, { stage := .resume, ctx, allowed }) events finish ∧
      Failed service caller (state.after caller { store := finish.1, driver := finish.2 })
        events := by
  by_cases found : surroundings.first.definition = .found
  · have late := early.resolve_left (not_not.mpr found)
    have before : Before index (store, (resumed ctx allowed run).goto .head) := by
      refine ⟨nofun, fun ⟨_, skipped⟩ => ?_⟩
      rw [waiting] at skipped
      cases skipped
    have moved : driveAlone service definition surroundings
        (store, (resumed ctx allowed run).goto .head) =
          ((store, (resumed ctx allowed run).goto
            (.persist (.failed "workflow wall-clock budget exceeded"))), []) := by
      have reads : surroundings.reading ((resumed ctx allowed run).goto .head) =
          surroundings.first := rfl
      unfold driveAlone
      dsimp only
      rw [reads]
      unfold drive head
      dsimp only [Driver.goto]
      rw [late, if_pos rfl]
    have path := @Path.one _ _ (driveAlone service definition surroundings) _ _ before
    rw [moved] at path
    exact path_fails ((path_head resumable found).trans path) rfl resumable.stored state caller
  · have loads := @way_load service definition surroundings store ctx allowed run resumable
    rw [if_neg found] at loads
    obtain ⟨message, way⟩ := loads
    have path := ((way_resume resumable).trans way).mono
      fun _ => @before_of_isBetween index _
    exact path_fails path rfl resumable.stored state caller

theorem handle_deniedStop {index : Nat} {step : WorkflowStep} {confirmationId : String}
    {reading : Reading} (run : WorkflowRun)
    (named : confirmationAt store.steps index = some confirmationId)
    (denied : store.confirmations confirmationId = some .denied)
    (reads : reading.stepDef = some step) (stops : step.onDenied = .stop) :
    handleWaitingStep service store.confirmations run store.steps reading index = .deniedStop := by
  unfold handleWaitingStep
  rw [named]
  dsimp only
  rw [denied]
  dsimp only
  rw [reads, Option.map_some, stops]

theorem handle_deniedSkip {index : Nat} {step : WorkflowStep} {confirmationId : String}
    {reading : Reading} (run : WorkflowRun)
    (named : confirmationAt store.steps index = some confirmationId)
    (denied : store.confirmations confirmationId = some .denied)
    (reads : reading.stepDef = some step) (skips : step.onDenied = .skip) :
    handleWaitingStep service store.confirmations run store.steps reading index = .deniedSkip := by
  unfold handleWaitingStep
  rw [named]
  dsimp only
  rw [denied]
  dsimp only
  rw [reads, Option.map_some, skips]

/-- A pass that nothing stops takes the resume back to the head of its loop. -/
theorem resume_skips {index : Nat} {step : WorkflowStep} {confirmationId : String}
    (resumable : Resumable store ctx run) (waiting : statusAt store.steps index = .waiting)
    (named : confirmationAt store.steps index = some confirmationId)
    (denied : store.confirmations confirmationId = some .denied)
    (reads : (surroundings.step index).stepDef = some step) (skips : step.onDenied = .skip)
    (through : GetsThrough service surroundings store run) :
    ∃ events finish, Path (driveAlone service definition surroundings) (fun _ => True)
        (store, { stage := .resume, ctx, allowed }) events finish ∧
      finish.2.stage = .head ∧ statusAt finish.1.steps index = .skipped ∧
        finish.1.run = store.run := by
  obtain ⟨found, in_time, not_stopped⟩ := through
  obtain ⟨events, _, passes⟩ := @path_pass service definition surroundings store ctx allowed run
    index resumable found in_time waiting
  rw [not_stopped] at passes
  have handled : surroundings.handled service store (reconciling ctx allowed run store) index =
      .deniedSkip := handle_deniedSkip run named denied reads skips
  have member : index ∈ waitingIndices store.steps := mem_waitingIndices.mpr waiting
  have changed : ((waitingIndices store.steps).any fun index =>
      (surroundings.handled service store (reconciling ctx allowed run store) index).changes) =
        true := List.any_eq_true.mpr ⟨index, member, by rw [handled]; rfl⟩
  rw [changed] at passes
  have rechecks := @way_one service definition surroundings
    (store.markedAll store.steps
      (surroundings.handled service store (reconciling ctx allowed run store))
      (waitingIndices store.steps))
    ((reconciling ctx allowed run store).goto (.reconcile [] true)) _ rfl rfl
  refine ⟨_, _, (passes.mono fun _ _ => True.intro).trans
    (rechecks.mono fun _ _ => True.intro), rfl, ?_, ?_⟩
  · have marked := markedAll_of_mem store store.steps
      (surroundings.handled service store (reconciling ctx allowed run store))
      (waitingIndices_nodup store.steps) member
    have stored : ∃ row, store.steps[index]? = some row := by
      cases row_eq : store.steps[index]? with
      | some row => exact ⟨row, rfl⟩
      | none =>
          rw [statusAt, row_eq] at waiting
          cases waiting
    obtain ⟨row, row_eq⟩ := stored
    rw [handled, row_eq] at marked
    rw [statusAt]
    exact (congrArg (fun row => (row.map WorkflowStepRun.status).getD .pending) marked).trans rfl
  · exact markedAll_run store store.steps _ _

/-- The end of a resume that something stops in its first pass. -/
theorem resume_ends (resumable : Resumable store ctx run) {index : Nat}
    (waiting : statusAt store.steps index = .waiting)
    (stopped : ¬GetsThrough service surroundings store run) (state : EngineState) (caller : Nat) :
    ∃ events finish, Path (driveAlone service definition surroundings) (Before index)
        (store, { stage := .resume, ctx, allowed }) events finish ∧ finish.2.stage = .off ∧
      (FailsOtherwise service surroundings store run →
        Failed service caller (state.after caller { store := finish.1, driver := finish.2 })
          events) ∧
      (¬FailsOtherwise service surroundings store run → finish.1.run = store.run) := by
  have fails {events : List EngineEvent} {finish : Store × Driver}
      (path : Path (driveAlone service definition surroundings) (Before index)
        (store, { stage := .resume, ctx, allowed }) events finish)
      (failed : Failed service caller
        (state.after caller { store := finish.1, driver := finish.2 }) events)
      (otherwise : FailsOtherwise service surroundings store run) :
      finish.2.stage = .off ∧
        (FailsOtherwise service surroundings store run →
          Failed service caller (state.after caller { store := finish.1, driver := finish.2 })
            events) ∧
        (¬FailsOtherwise service surroundings store run → finish.1.run = store.run) := by
    have off := failed.ended
    rw [after_drivers_self] at off
    exact ⟨off, fun _ => failed, fun not_otherwise => absurd otherwise not_otherwise⟩
  by_cases early : surroundings.first.definition ≠ .found ∨
      surroundings.first.deadlinePassed = true
  · obtain ⟨events, finish, path, failed⟩ := @resume_fails_early service definition surroundings
      store ctx allowed run resumable index waiting early state caller
    exact ⟨events, finish, path, fails path failed (early.imp id .inl)⟩
  · rw [not_or, not_not, Bool.not_eq_true] at early
    obtain ⟨found, in_time⟩ := early
    obtain ⟨events, quiet, passes⟩ := @path_pass service definition surroundings store ctx allowed
      run index resumable found in_time waiting
    cases stop : firstStop service surroundings store run with
    | none => exact absurd ⟨found, in_time, stop⟩ stopped
    | some outcome =>
        rw [stop] at passes
        cases outcome with
        | failed message =>
            obtain ⟨after, run_eq, path⟩ := passes
            obtain ⟨all_events, finish, whole, failed⟩ := path_fails path quiet
              (run_eq.trans resumable.stored) state caller
            exact ⟨all_events, finish, whole, fails whole failed (.inr (.inr ⟨message, stop⟩))⟩
        | stillWaiting | next | deniedSkip | deniedStop =>
            obtain ⟨after, run_eq, path⟩ := passes
            refine ⟨_, _, path, rfl, fun otherwise => ?_, fun _ => run_eq⟩
            obtain lost | late | ⟨message, failed⟩ := otherwise
            · exact absurd found lost
            · rw [in_time] at late
              cases late
            · rw [stop] at failed
              cases failed

/-- Something stops the first pass at a step whose denial stops the run. -/
theorem not_getsThrough_of_stop {index : Nat} {step : WorkflowStep} {confirmationId : String}
    (waiting : statusAt store.steps index = .waiting)
    (named : confirmationAt store.steps index = some confirmationId)
    (denied : store.confirmations confirmationId = some .denied)
    (reads : surroundings.first.definition = .found →
      (surroundings.step index).stepDef = some step)
    (stops : step.onDenied = .stop) : ¬GetsThrough service surroundings store run := by
  rintro ⟨found, _, not_stopped⟩
  have handled := @handle_deniedStop service store index step confirmationId _ run named denied
    (reads found) stops
  have passed := List.find?_eq_none.mp not_stopped .deniedStop
    (List.mem_map.mpr ⟨index, mem_waitingIndices.mpr waiting, handled⟩)
  exact passed rfl

/-- A lone resume fails the run of a step whose denial stops it exactly when something else fails
the run. -/
theorem resume_stops_iff {state : EngineState} {caller : Nat} {step : WorkflowStep} {index : Nat}
    {confirmationId : String} (off : (state.drivers caller).stage = .off)
    (resumable : Resumable state.store ctx run)
    (waiting : statusAt state.store.steps index = .waiting)
    (named : confirmationAt state.store.steps index = some confirmationId)
    (denied : state.store.confirmations confirmationId = some .denied)
    (reads : surroundings.first.definition = .found →
      (surroundings.step index).stepDef = some step)
    (stops : step.onDenied = .stop) :
    ResumesTo service definition surroundings caller ctx allowed state (Failed service caller) ↔
      FailsOtherwise service surroundings state.store run := by
  have stopped := @not_getsThrough_of_stop service surroundings state.store run index step
    confirmationId waiting named denied reads stops
  obtain ⟨events, finish, path, ended, failing, kept⟩ := @resume_ends service definition
    surroundings state.store ctx allowed run resumable index waiting stopped state caller
  rw [resumesTo_iff off]
  constructor
  · rintro ⟨further, far, beyond, failed⟩
    by_contra not_otherwise
    have far_off := failed.ended
    rw [after_drivers_self] at far_off
    have status := failed.failed
    rw [path_end_unique path ended beyond fun before => before.1 far_off] at status
    rw [after_store, kept not_otherwise, resumable.stored] at status
    have unfinished := resumable.unfinished
    rw [Option.some.inj status] at unfinished
    simp at unfinished
  · intro otherwise
    exact ⟨events, finish, path.mono fun _ _ => True.intro, failing otherwise⟩

/-- A lone resume skips a step that is to be skipped, and goes on, exactly when nothing else stops
it. -/
theorem resume_skips_iff {state : EngineState} {caller : Nat} {step : WorkflowStep} {index : Nat}
    {confirmationId : String} (off : (state.drivers caller).stage = .off)
    (resumable : Resumable state.store ctx run)
    (waiting : statusAt state.store.steps index = .waiting)
    (named : confirmationAt state.store.steps index = some confirmationId)
    (denied : state.store.confirmations confirmationId = some .denied)
    (reads : surroundings.first.definition = .found →
      (surroundings.step index).stepDef = some step)
    (skips : step.onDenied = .skip) :
    ResumesTo service definition surroundings caller ctx allowed state
        (fun after _ => Skipped caller index state after) ↔
      GetsThrough service surroundings state.store run := by
  rw [resumesTo_iff off]
  constructor
  · rintro ⟨further, far, beyond, skipped⟩
    by_contra stopped
    obtain ⟨events, finish, path, ended, _, _⟩ := @resume_ends service definition surroundings
      state.store ctx allowed run resumable index waiting stopped state caller
    have again := skipped.again
    rw [after_drivers_self] at again
    have far_eq := path_end_unique path ended beyond
      fun before => before.2 ⟨again, skipped.skipped⟩
    rw [far_eq, ended] at again
    cases again
  · intro through
    obtain ⟨events, finish, path, again, skipped, run_eq⟩ := @resume_skips service definition
      surroundings state.store ctx allowed run index step confirmationId resumable waiting named
      denied (reads through.1) skips through
    refine ⟨events, finish, path, ?_, skipped, run_eq⟩
    rw [after_drivers_self]
    exact again

/-- What becomes of a run whose resume finds the confirmation of a waiting step denied. -/
theorem resume_denied {state : EngineState} {caller : Nat} {ctx : ExecutionContext}
    {allowed : String → Bool} {run : WorkflowRun} {index : Nat} {step : WorkflowStep}
    {confirmationId : String} (off : (state.drivers caller).stage = .off)
    (resumable : Resumable state.store ctx run) (step_eq : definition.steps[index]? = some step)
    (waiting : statusAt state.store.steps index = .waiting)
    (named : confirmationAt state.store.steps index = some confirmationId)
    (denied : state.store.confirmations confirmationId = some .denied)
    (reads : surroundings.first.definition = .found →
      (surroundings.step index).stepDef = definition.steps[index]?) :
    (step.onDenied = .stop →
      (ResumesTo service definition surroundings caller ctx allowed state
          (Failed service caller) ↔
        FailsOtherwise service surroundings state.store run)) ∧
    (step.onDenied = .skip →
      (ResumesTo service definition surroundings caller ctx allowed state
          (fun after _ => Skipped caller index state after) ↔
        GetsThrough service surroundings state.store run)) := by
  have reads_step (found : surroundings.first.definition = .found) :
      (surroundings.step index).stepDef = some step := (reads found).trans step_eq
  exact ⟨resume_stops_iff off resumable waiting named denied reads_step,
    resume_skips_iff off resumable waiting named denied reads_step⟩

end Denial

namespace Demo

/-- One step that waits for a confirmation. -/
def confirming (onDenied : OnDenied) : WorkflowDefinition :=
  { name := "confirming", steps := [{ inspect "first" with onDenied }] }

theorem asked_created : ExecutionStatus.confirmationRequired = .confirmationRequired →
    nonempty (some "c") = true := by decide

/-- The execution service asks for a confirmation. -/
def asked : Reading :=
  { answer := .ok
      { response :=
          { status := .confirmationRequired, decision := .confirm, confirmationId := some "c" }
        created := asked_created } }

/-- The run waits, and its confirmation is denied. -/
def refused : List Input :=
  start 0 :: moves 0 7 ++ List.replicate 4 (.work 0 0 asked) ++ moves 0 3 ++
    [.decide "c" .denied]

/-- What a resume finds. -/
def found (definition : WorkflowDefinition) : Surroundings :=
  { first := executed, step := fun index => { executed with stepDef := definition.steps[index]? } }

/-- The state in which the confirmation has been denied. -/
def refusedState (onDenied : OnDenied) : EngineState :=
  (engine service (confirming onDenied)).stateAfter initialState refused

theorem waiting_refused (onDenied : OnDenied) :
    statusAt (refusedState onDenied).store.steps 0 = .waiting := by
  cases onDenied <;> decide +kernel

theorem named_refused (onDenied : OnDenied) :
    confirmationAt (refusedState onDenied).store.steps 0 = some "c" := by
  cases onDenied <;> decide +kernel

theorem denied_refused (onDenied : OnDenied) :
    (refusedState onDenied).store.confirmations "c" = some .denied := by
  cases onDenied <;> decide +kernel

theorem resumable_refused (onDenied : OnDenied) :
    ∃ run, Resumable (refusedState onDenied).store { actorId := "alice" } run := by
  have stored : (refusedState onDenied).store.run.map
      (fun run => (run.actorId, run.status)) = some ("alice", .waiting) := by
    cases onDenied <;> decide +kernel
  obtain ⟨run, found, facts⟩ := Option.map_eq_some_iff.mp stored
  obtain ⟨owned, waiting⟩ := Prod.mk.inj facts
  exact ⟨run, found, owned, .inr (.inr waiting)⟩

end Demo

/-- A denied step that is to be skipped is skipped. -/
theorem resume_denied_demo :
    ResumesTo Demo.service (Demo.confirming .skip) (Demo.found (Demo.confirming .skip)) 1
      { actorId := "alice" } (fun _ => true) (Demo.refusedState .skip)
      (fun after _ => Skipped 1 0 (Demo.refusedState .skip) after) := by
  obtain ⟨run, resumable⟩ := Demo.resumable_refused .skip
  have denial := @resume_denied Demo.service (Demo.confirming .skip)
    (Demo.found (Demo.confirming .skip)) (Demo.refusedState .skip) 1 _ (fun _ => true) run 0 _ "c"
    rfl resumable rfl (Demo.waiting_refused .skip) (Demo.named_refused .skip)
    (Demo.denied_refused .skip) fun _ => rfl
  apply (denial.2 rfl).mpr
  refine ⟨rfl, rfl, ?_⟩
  have only : waitingIndices (Demo.refusedState .skip).store.steps = [0] := by
    decide +kernel
  rw [firstStop, only, List.map_cons, handle_deniedSkip run (Demo.named_refused .skip)
    (Demo.denied_refused .skip) rfl rfl]
  rfl

/-- A run whose only step is denied is not failed by the next resume. -/
theorem not_resume_denied :
    ¬∀ (inputs : List Input) (run : WorkflowRun),
      Resumable ((engine Demo.service (Demo.confirming .stop)).stateAfter initialState inputs).store
        { actorId := "alice" } run →
      statusAt ((engine Demo.service (Demo.confirming .stop)).stateAfter initialState
        inputs).store.steps 0 = .waiting →
      confirmationAt ((engine Demo.service (Demo.confirming .stop)).stateAfter initialState
        inputs).store.steps 0 = some "c" →
      ((engine Demo.service (Demo.confirming .stop)).stateAfter initialState
        inputs).store.confirmations "c" = some .denied →
      ResumesTo Demo.service (Demo.confirming .stop) (Demo.found (Demo.confirming .stop)) 1
        { actorId := "alice" } (fun _ => true)
        ((engine Demo.service (Demo.confirming .stop)).stateAfter initialState inputs)
        (Failed Demo.service 1) := by
  intro fails
  obtain ⟨run, resumable⟩ := Demo.resumable_refused .stop
  have failed := (resume_stops_iff rfl resumable (Demo.waiting_refused .stop)
    (Demo.named_refused .stop) (Demo.denied_refused .stop) (fun _ => rfl) rfl).mp
      (fails Demo.refused run resumable (Demo.waiting_refused .stop) (Demo.named_refused .stop)
        (Demo.denied_refused .stop))
  obtain lost | late | ⟨message, stopped⟩ := failed
  · exact lost rfl
  · cases late
  · have only : waitingIndices (Demo.refusedState .stop).store.steps = [0] := by
      decide +kernel
    change firstStop Demo.service _ (Demo.refusedState .stop).store run = _ at stopped
    rw [firstStop, only, List.map_cons, handle_deniedStop run (Demo.named_refused .stop)
      (Demo.denied_refused .stop) rfl rfl] at stopped
    cases stopped

end Era.Workflows
