import Era.Agents.Resolution
import Era.Workflows.ApprovedSteps

/-!
# Resumes while an approval is in flight

`approve` commits that the confirmation is used, and dispatches outside of that transaction.  A
workflow that is resumed, or an agent run that is continued, in between finds a used confirmation
and no entry of its dispatch.
-/

namespace Era.Workflows

open Era.Agents Era.Core Era.Lib Era.Services

/-! ## One approval and any number of resumes -/

/-- Something that leaves a confirmation and its log alone. -/
structure Elsewhere (id : String) where
  change : ServiceState → ServiceState
  confirmation : ∀ state, (change state).db.confirmations id = state.db.confirmations id
  log : ∀ state, (change state).db.auditFor id = state.db.auditFor id

structure FlightState where
  race : RaceState
  /-- A resume has read that the confirmation is used, and turns to the log next. -/
  approved : Nat → Bool := fun _ => false

inductive FlightInput (id : String) where
  /-- The call of `approve` goes on to the end of its next step. -/
  | approve
  /-- A resume reads the confirmation that its step waits for. -/
  | look (resume : Nat) (reading : Reading)
  /-- A resume that has found a used confirmation reads the log. -/
  | conclude (resume : Nat) (reading : Reading)
  /-- An agent run that is continued resolves the confirmation of its task. -/
  | resolve
  | elsewhere (event : Elsewhere id)

inductive FlightEvent where
  | shown (event : Event)
  /-- What a resume makes of the step. -/
  | step (outcome : WaitingOutcome)
  /-- What the task is resolved to. -/
  | task (resolution : Option ResolutionOutcome)

/-- The step or the task has failed. -/
def FlightEvent.fails : FlightEvent → Bool
  | .step (.failed _) | .task (some .failed) => true
  | _ => false

/-- The step or the task waits on. -/
def FlightEvent.waits : FlightEvent → Bool
  | .shown _ | .step .stillWaiting | .task none => true
  | _ => false

/-- The execution for a confirmation is recorded. -/
def FlightEvent.executes (id : String) : FlightEvent → Bool
  | .shown (.audited entry) => entry.confirmationId == some id && entry.outcome == .executed
  | _ => false

/-- The next step of the only call of `approve`. -/
def nextRaceStep : ApprovePhase → RaceStep
  | .idle => .read 0
  | .read _ => .write 0
  | .written _ => .commit 0
  | .authorized _ _ _ | .ended _ => .dispatch 0

/-- The approval is committed, and its dispatch is not recorded yet. -/
def FlightState.inFlight (state : FlightState) : Bool :=
  match state.race.phases 0 with
  | .authorized _ _ _ => true
  | _ => false

section Flight

variable (config : Config) (session : ApproveSession) (service : WorkflowService)
variable (run : WorkflowRun) (rows : List WorkflowStepRun) (index : Nat)

def flightStep (state : FlightState) :
    FlightInput session.call.confirmationId → FlightState × List FlightEvent
  | .approve =>
      let moved := raceStep config (fun _ => session) state.race
        (nextRaceStep (state.race.phases 0))
      ({ state with race := moved.1 }, moved.2.map .shown)
  | .look resume reading =>
      let db := state.race.service.db
      if db.statusOf session.call.confirmationId = some .used then
        ({ state with approved := Function.update state.approved resume true }, [])
      else (state, [.step (handleWaitingStep service db.statusOf run rows reading index)])
  | .conclude resume reading =>
      if state.approved resume then
        let outcomes := (state.race.service.db.auditPage session.call.confirmationId 50).map
          AuditEntry.outcome
        ({ state with approved := Function.update state.approved resume false },
          [.step (handleWaitingStep service (fun _ => some .used) run rows
            { reading with outcomes } index)])
      else (state, [])
  | .resolve =>
      (state, [.task ((resolveOne state.race.service.db session.call.confirmationId).map
        Prod.fst)])
  | .elsewhere event =>
      match state.race.writer with
      | some _ => (state, [])
      | none =>
          ({ state with race := { state.race with
              service := event.change state.race.service } }, [])

/-- A call of `approve`, resumes and continuations, interleaved transaction by transaction. -/
def flight : Machine FlightState (FlightInput session.call.confirmationId) (List FlightEvent) :=
  { step := flightStep config session service run rows index }

/-- The service gets here from a state without confirmations. -/
def Reached (start : ServiceState) : Prop :=
  ∃ policies auditLog breakers calls,
    (∀ entry ∈ auditLog, entry.confirmationId = none) ∧
      start = (Services.service config).stateAfter
        (Services.initialState policies auditLog breakers) calls

/-- No resume reads the log, and no continuation resolves the confirmation, while the approval is
in flight. -/
def AwaitsRecord (state : FlightState) : FlightInput session.call.confirmationId → Prop
  | .conclude resume _ => state.approved resume = true → state.inFlight = false
  | .resolve => state.inFlight = false
  | .approve | .look _ _ | .elsewhere _ => True

instance (state : FlightState) :
    (input : FlightInput session.call.confirmationId) → Decidable (AwaitsRecord session state input)
  | .conclude resume _ => inferInstanceAs
      (Decidable (state.approved resume = true → state.inFlight = false))
  | .resolve => inferInstanceAs (Decidable (state.inFlight = false))
  | .approve | .look _ _ | .elsewhere _ => isTrue True.intro

/-- While the approval is in flight the step and the task wait, and what fails them is never
followed by the record of an execution. -/
structure StaysWaiting (start : FlightState)
    (inputs : List (FlightInput session.call.confirmationId)) : Prop where
  waits : ∀ before input after, inputs = before ++ input :: after →
    ((flight config session service run rows index).stateAfter start before).inFlight = true →
    ∀ event ∈ ((flight config session service run rows index).step
      ((flight config session service run rows index).stateAfter start before) input).2,
      event.waits = true
  unfailed : ∀ before input after, inputs = before ++ input :: after →
    (∃ event ∈ ((flight config session service run rows index).step
      ((flight config session service run rows index).stateAfter start before) input).2,
      event.fails = true) →
    ∀ event ∈ (flight config session service run rows index).trace id
      ((flight config session service run rows index).stateAfter start (before ++ [input])) after,
      event.executes session.call.confirmationId = false

end Flight

/-! ## The invariant -/

/-- The call has committed nothing yet. -/
def uncommitted : ApprovePhase → Bool
  | .idle | .read _ | .written _ => true
  | .authorized _ _ _ | .ended _ => false

/-- The confirmation is pending and open in the log until the call commits, and used while its
approval is in flight. -/
structure FlightFits (session : ApproveSession) (state : FlightState) : Prop where
  pending : uncommitted (state.race.phases 0) = true →
    state.race.service.db.statusOf session.call.confirmationId = some .pending ∧
      state.race.service.db.Unresolved session.call.confirmationId
  spends : ∀ resolution decision policyVersion ctx,
    state.race.phases 0 = .written resolution →
    resolution.verdict = .authorized decision policyVersion ctx →
      resolution.db.statusOf session.call.confirmationId = some .used
  used : state.inFlight = true →
    state.race.service.db.statusOf session.call.confirmationId = some .used
  looked : ∀ resume, state.approved resume = true → uncommitted (state.race.phases 0) = false

section Invariant

variable {config : Config} {session : ApproveSession} {service : WorkflowService}
variable {run : WorkflowRun} {rows : List WorkflowStepRun} {index : Nat}
variable {state : FlightState}

/-- A call that approves has the confirmation used. -/
theorem statusOf_of_authorizes {row : Option PendingConfirmation} {resolution : Resolution}
    {decision : Decision} {policyVersion : Int} {ctx : ExecutionContext}
    (body : approveBody config session.env session.call row state.race.service.db = .ok resolution)
    (authorizes : resolution.verdict = .authorized decision policyVersion ctx)
    (stored : (state.race.service.db.statusOf session.call.confirmationId).isSome = true) :
    resolution.db.statusOf session.call.confirmationId = some .used := by
  have ends := approveBody_cases body
  cases ends with
  | unknown answered | overruled _ _ answered | redundant _ _ answered
  | closed _ _ _ _ answered | refused _ _ _ _ answered | awaiting _ _ _ answered =>
      obtain ⟨response, other⟩ := answered
      rw [authorizes] at other
      cases other
  | authorized reading after _ accepted granted _ db_eq _ _ _ =>
      unfold Database.statusOf at stored ⊢
      rw [Option.isSome_map] at stored
      obtain ⟨row, found⟩ := Option.isSome_iff_exists.mp stored
      rw [← granted.confirmations_eq] at found
      rw [db_eq, Database.markStatus_confirmations_self found]
      rfl

/-- The call enters another phase, and commits nothing. -/
theorem FlightFits.enter (fits : FlightFits session state) {phase : ApprovePhase}
    {writer : Option Nat} (before : uncommitted (state.race.phases 0) = true)
    (lands : ∀ decision policyVersion ctx, phase ≠ .authorized decision policyVersion ctx)
    (spends : ∀ resolution decision policyVersion ctx, phase = .written resolution →
      resolution.verdict = .authorized decision policyVersion ctx →
        resolution.db.statusOf session.call.confirmationId = some .used) :
    FlightFits session { state with race := { state.race.enter 0 phase with writer } } := by
  have entered : (state.race.enter 0 phase).phases 0 = phase := RaceState.enter_phases_self ..
  refine ⟨fun _ => fits.pending before, fun resolution decision policyVersion ctx written => ?_,
    fun flies => ?_, fun resume saw => ?_⟩
  · dsimp only at written
    rw [entered] at written
    exact spends resolution decision policyVersion ctx written
  · unfold FlightState.inFlight at flies
    dsimp only at flies
    rw [entered] at flies
    cases phase with
    | authorized decision policyVersion ctx => exact absurd rfl (lands decision policyVersion ctx)
    | _ => cases flies
  · have committed := fits.looked resume saw
    rw [before] at committed
    cases committed

/-- The call has ended. -/
theorem FlightFits.ended {race : RaceState} {answer : Except Raised ExecutionResponse}
    (at_end : race.phases 0 = .ended answer) : FlightFits session { state with race } := by
  refine ⟨fun open_call => ?_, fun _ _ _ _ written => ?_, fun flies => ?_, fun _ _ => ?_⟩
  · dsimp only at open_call
    rw [at_end] at open_call
    cases open_call
  · dsimp only at written
    rw [at_end] at written
    cases written
  · unfold FlightState.inFlight at flies
    dsimp only at flies
    rw [at_end] at flies
    cases flies
  · dsimp only
    rw [at_end]
    rfl

/-- The call of `approve` goes on. -/
theorem FlightFits.approve (fits : FlightFits session state) :
    FlightFits session { state with
      race := (raceStep config (fun _ => session) state.race
        (nextRaceStep (state.race.phases 0))).1 } := by
  have ends (answer : Except Raised ExecutionResponse) :
      (state.race.enter 0 (.ended answer)).phases 0 = .ended answer :=
    RaceState.enter_phases_self ..
  cases at_phase : state.race.phases 0 with
  | idle =>
      unfold nextRaceStep raceStep
      dsimp only
      rw [at_phase]
      exact fits.enter (by rw [at_phase]; rfl) (fun _ _ _ => nofun) (fun _ _ _ _ => nofun)
  | read row =>
      have before : uncommitted (state.race.phases 0) = true := by rw [at_phase]; rfl
      have stored : (state.race.service.db.statusOf session.call.confirmationId).isSome = true := by
        rw [(fits.pending before).1]
        rfl
      unfold nextRaceStep raceStep
      dsimp only
      rw [at_phase]
      cases free : state.race.writer with
      | some other => exact fits
      | none =>
          dsimp only
          cases body : approveBody config session.env session.call row state.race.service.db with
          | error failure => exact .ended (ends (.error failure))
          | ok resolution =>
              dsimp only
              refine fits.enter before (fun _ _ _ => nofun) ?_
              rintro _ decision policyVersion ctx ⟨⟩ authorizes
              exact statusOf_of_authorizes body authorizes stored
  | written resolution =>
      unfold nextRaceStep raceStep
      dsimp only
      rw [at_phase]
      dsimp only
      split
      next failure _ => exact .ended (ends (.error failure))
      next =>
        cases verdict : resolution.verdict with
        | answered response => exact .ended (ends (.ok response))
        | authorized decision policyVersion ctx =>
            have entered : (state.race.enter 0 (.authorized decision policyVersion ctx)).phases 0 =
                .authorized decision policyVersion ctx := RaceState.enter_phases_self ..
            refine ⟨fun open_call => ?_, fun _ _ _ _ written => ?_, fun _ => ?_, fun _ _ => ?_⟩
            · dsimp only at open_call
              rw [entered] at open_call
              cases open_call
            · dsimp only at written
              rw [entered] at written
              cases written
            · exact fits.spends resolution decision policyVersion ctx at_phase verdict
            · dsimp only
              rw [entered]
              rfl
  | authorized decision policyVersion ctx =>
      unfold nextRaceStep raceStep
      dsimp only
      rw [at_phase]
      cases free : state.race.writer with
      | some other => exact fits
      | none => exact .ended (ends _)
  | ended answer =>
      unfold nextRaceStep raceStep
      dsimp only
      rw [at_phase]
      exact fits

/-- Every step keeps the invariant. -/
theorem FlightFits.step (fits : FlightFits session state)
    (input : FlightInput session.call.confirmationId) :
    FlightFits session (flightStep config session service run rows index state input).1 := by
  cases input with
  | approve => exact fits.approve
  | resolve => exact fits
  | look resume reading =>
      unfold flightStep
      dsimp only
      split
      next used =>
        refine ⟨fits.pending, fits.spends, fits.used, fun other saw => ?_⟩
        by_contra open_call
        rw [(fits.pending (Bool.eq_true_of_not_eq_false open_call)).1] at used
        cases used
      next => exact fits
  | conclude resume reading =>
      unfold flightStep
      dsimp only
      split
      · refine ⟨fits.pending, fits.spends, fits.used, fun other saw => fits.looked other ?_⟩
        dsimp only at saw
        by_cases same : other = resume
        · rw [same, Function.update_self] at saw
          cases saw
        · rwa [Function.update_of_ne same] at saw
      · exact fits
  | elsewhere event =>
      unfold flightStep
      dsimp only
      split
      · exact fits
      · have status : (event.change state.race.service).db.statusOf session.call.confirmationId =
            state.race.service.db.statusOf session.call.confirmationId := by
          unfold Database.statusOf
          rw [event.confirmation]
        refine ⟨fun open_call => ?_, fits.spends, fun flies => ?_, fits.looked⟩
        · obtain ⟨pending, unresolved⟩ := fits.pending open_call
          refine ⟨status.trans pending, fun entry member => unresolved entry ?_⟩
          dsimp only at member
          rwa [event.log] at member
        · exact status.trans (fits.used flies)

/-! ## What resumes find -/

/-- The call of `approve` has ended. -/
def HasEnded (state : FlightState) : Prop := ∃ answer, state.race.phases 0 = .ended answer

theorem hasEnded_of_committed (committed : uncommitted (state.race.phases 0) = false)
    (landed : state.inFlight = false) : HasEnded state := by
  unfold FlightState.inFlight at landed
  unfold HasEnded
  cases at_phase : state.race.phases 0 with
  | ended answer => exact ⟨answer, rfl⟩
  | idle | read | written =>
      rw [at_phase] at committed
      cases committed
  | authorized =>
      rw [at_phase] at landed
      cases landed

/-- A step whose confirmation is pending waits on. -/
theorem handleWaitingStep_pending {confirmations : String → Option Status} {id : String}
    (waits : confirmationAt rows index = some id) (pending : confirmations id = some .pending)
    (reading : Reading) :
    handleWaitingStep service confirmations run rows reading index = .stillWaiting := by
  unfold handleWaitingStep
  rw [waits]
  dsimp only
  rw [pending]

/-- Nothing settles a step or a task while the approval is in flight. -/
theorem FlightFits.waits (fits : FlightFits session state)
    {input : FlightInput session.call.confirmationId} (awaits : AwaitsRecord session state input)
    (flies : state.inFlight = true) :
    ∀ event ∈ (flightStep config session service run rows index state input).2,
      event.waits = true := by
  intro event shown
  cases input with
  | approve =>
      obtain ⟨_, _, rfl⟩ := List.mem_map.mp shown
      rfl
  | look resume reading =>
      unfold flightStep at shown
      dsimp only at shown
      rw [if_pos (fits.used flies)] at shown
      cases shown
  | conclude resume reading =>
      unfold flightStep at shown
      dsimp only at shown
      split at shown
      next saw =>
        rw [awaits saw] at flies
        cases flies
      next => cases shown
  | resolve =>
      have landed : state.inFlight = false := awaits
      rw [landed] at flies
      cases flies
  | elsewhere event =>
      unfold flightStep at shown
      dsimp only at shown
      split at shown <;> cases shown

/-- What fails a step or a task fails it after the end of the call. -/
theorem FlightFits.hasEnded (fits : FlightFits session state)
    (waits : confirmationAt rows index = some session.call.confirmationId)
    {input : FlightInput session.call.confirmationId} (awaits : AwaitsRecord session state input)
    {event : FlightEvent}
    (shown : event ∈ (flightStep config session service run rows index state input).2)
    (fails : event.fails = true) : HasEnded state := by
  cases input with
  | approve =>
      obtain ⟨_, _, rfl⟩ := List.mem_map.mp shown
      cases fails
  | look resume reading =>
      unfold flightStep at shown
      dsimp only at shown
      split at shown
      next => cases shown
      next unused =>
        obtain rfl := List.mem_singleton.mp shown
        refine hasEnded_of_committed ?_ (Bool.eq_false_of_not_eq_true fun flies =>
          unused (fits.used flies))
        by_contra open_call
        have pending := (fits.pending (Bool.eq_true_of_not_eq_false open_call)).1
        rw [handleWaitingStep_pending waits pending] at fails
        cases fails
  | conclude resume reading =>
      unfold flightStep at shown
      dsimp only at shown
      split at shown
      next saw => exact hasEnded_of_committed (fits.looked resume saw) (awaits saw)
      next => cases shown
  | resolve =>
      obtain rfl := List.mem_singleton.mp shown
      refine hasEnded_of_committed ?_ awaits
      by_contra open_call
      obtain ⟨pending, unresolved⟩ := fits.pending (Bool.eq_true_of_not_eq_false open_call)
      rw [resolveOne_of_unresolved unresolved, pending] at fails
      cases fails
  | elsewhere other =>
      unfold flightStep at shown
      dsimp only at shown
      split at shown <;> cases shown

/-- A call that has ended shows nothing any more. -/
theorem HasEnded.step (ended : HasEnded state) (input : FlightInput session.call.confirmationId) :
    HasEnded (flightStep config session service run rows index state input).1 ∧
      ∀ event, .shown event ∉ (flightStep config session service run rows index state input).2 := by
  obtain ⟨answer, at_end⟩ := ended
  unfold flightStep HasEnded
  cases input with
  | approve =>
      dsimp only
      rw [at_end]
      unfold nextRaceStep raceStep
      dsimp only
      rw [at_end]
      exact ⟨⟨answer, at_end⟩, by simp⟩
  | look resume reading =>
      dsimp only
      split
      · exact ⟨⟨answer, at_end⟩, by simp⟩
      · exact ⟨⟨answer, at_end⟩, by simp⟩
  | conclude resume reading =>
      dsimp only
      split
      · exact ⟨⟨answer, at_end⟩, by simp⟩
      · exact ⟨⟨answer, at_end⟩, by simp⟩
  | resolve => exact ⟨⟨answer, at_end⟩, by simp⟩
  | elsewhere event =>
      dsimp only
      split
      · exact ⟨⟨answer, at_end⟩, by simp⟩
      · exact ⟨⟨answer, at_end⟩, by simp⟩

theorem HasEnded.trace (ended : HasEnded state)
    (inputs : List (FlightInput session.call.confirmationId)) (event : Event) :
    .shown event ∉ (flight config session service run rows index).trace id state inputs := by
  induction inputs generalizing state with
  | nil => exact List.not_mem_nil
  | cons input rest ih =>
      obtain ⟨stays_ended, quiet⟩ :=
        @HasEnded.step config session service run rows index state ended input
      rw [Machine.trace_cons, List.mem_append, not_or]
      exact ⟨quiet event, ih stays_ended⟩

theorem not_staysWaiting_of_fails {start : FlightState}
    {before after : List (FlightInput session.call.confirmationId)}
    {input : FlightInput session.call.confirmationId}
    (failed : ((flight config session service run rows index).step
      ((flight config session service run rows index).stateAfter start before) input).2.any
        FlightEvent.fails = true)
    (executed : ((flight config session service run rows index).trace id
      ((flight config session service run rows index).stateAfter start
        (before ++ [input])) after).any
          (FlightEvent.executes session.call.confirmationId) = true) :
    ¬StaysWaiting config session service run rows index start (before ++ input :: after) := by
  intro stays
  obtain ⟨event, shown, executes⟩ := List.any_eq_true.mp executed
  have unexecuted := stays.unfailed before input after rfl (List.any_eq_true.mp failed) event shown
  rw [executes] at unexecuted
  cases unexecuted

end Invariant

/-- A confirmation that is pending in a state that the service reaches is approved.  Nothing fails
the step or the task that waits for it as long as nobody concludes from the log before the
dispatch is recorded. -/
theorem stays_waiting {config : Config} {session : ApproveSession} {service : WorkflowService}
    {run : WorkflowRun} {rows : List WorkflowStepRun} {index : Nat} {start : ServiceState}
    {inputs : List (FlightInput session.call.confirmationId)} (reached : Reached config start)
    (pending : start.db.statusOf session.call.confirmationId = some .pending)
    (waits : confirmationAt rows index = some session.call.confirmationId)
    (awaits : (flight config session service run rows index).Admits (AwaitsRecord session)
      { race := raceStart start } inputs) :
    StaysWaiting config session service run rows index { race := raceStart start } inputs := by
  have started : FlightFits session { race := raceStart start } := by
    obtain ⟨policies, auditLog, breakers, calls, unrelated, rfl⟩ := reached
    refine ⟨fun _ => ⟨pending, unresolved_of_pending unrelated calls pending⟩,
      fun _ _ _ _ written => ?_, fun flies => ?_, fun _ saw => ?_⟩
    · cases written
    · cases flies
    · cases saw
  have fits (before : List (FlightInput session.call.confirmationId)) :
      FlightFits session ((flight config session service run rows index).stateAfter
        { race := raceStart start } before) :=
    Machine.invariant started (fun _ input fits => fits.step input) before
  refine ⟨fun before input after split flies => ?_,
    fun before input after split failed event shown => ?_⟩
  · exact (fits before).waits (awaits before input after split) flies
  · obtain ⟨verdict, member, fails⟩ := failed
    have ended := (fits before).hasEnded waits (awaits before input after split) member fails
    rw [Machine.stateAfter_append] at shown
    cases event with
    | shown event => exact absurd shown ((ended.step input).1.trace after event)
    | step outcome => rfl
    | task resolution => rfl

namespace Demo

/-- A write has been requested, and its confirmation is pending. -/
def requested : ServiceState :=
  (Services.service Services.Demo.config).stateAfter Services.Demo.start [Services.Demo.request]

def session : ApproveSession := { call := Services.Demo.approve, env := Services.Demo.env }

/-- The approval is committed. -/
def committed : List (FlightInput session.call.confirmationId) := [.approve, .approve, .approve]

/-- A resume finds a used confirmation, but the dispatch is recorded before it reads the log. -/
def resumedLate : List (FlightInput session.call.confirmationId) :=
  committed ++ [.look 0 {}, .approve, .conclude 0 {}, .resolve]

theorem reached_requested : Reached Services.Demo.config requested :=
  ⟨[Services.defaultPolicy], [], fun _ => {}, [Services.Demo.request],
    fun _ member => (by cases member), rfl⟩

end Demo

theorem stays_waiting_demo :
    StaysWaiting Services.Demo.config Demo.session Demo.service Demo.approvedRun Demo.waitingRows 0
      { race := raceStart Demo.requested } Demo.resumedLate :=
  stays_waiting Demo.reached_requested (by decide +kernel) Demo.waits_waitingRows
    (by decide +kernel)

/-- A step that is resumed while the approval is in flight fails, and so does a task that is
continued, although what they wait for is executed afterwards. -/
theorem not_stays_waiting :
    ¬StaysWaiting Services.Demo.config Demo.session Demo.service Demo.approvedRun Demo.waitingRows 0
        { race := raceStart Demo.requested }
        ((Demo.committed ++ [.look 0 {}]) ++ .conclude 0 {} :: [.approve]) ∧
      ¬StaysWaiting Services.Demo.config Demo.session Demo.service Demo.approvedRun Demo.waitingRows
        0 { race := raceStart Demo.requested } (Demo.committed ++ .resolve :: [.approve]) :=
  ⟨not_staysWaiting_of_fails (by decide +kernel) (by decide +kernel),
    not_staysWaiting_of_fails (by decide +kernel) (by decide +kernel)⟩

end Era.Workflows
