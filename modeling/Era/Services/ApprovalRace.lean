import Era.Services.System

/-!
# Concurrent approvals

`approve` reads the confirmation with a plain `SELECT`, validates what it has
read, and later updates the row by its primary key.  Other calls may read, and
may commit, in between.  Reads see committed rows, and only one transaction at
a time holds the write lock.
-/

namespace Era.Services

open Era.Core Era.Lib

/-- One of the concurrent calls of `approve`. -/
structure ApproveSession where
  call : ApproveCall
  env : CallEnv

/-- How far a call has come. -/
inductive ApprovePhase where
  | idle
  | read (row : Option PendingConfirmation)
  | written (resolution : Resolution)
  | authorized (decision : Decision) (policyVersion : Int) (ctx : ExecutionContext)
  | ended (answer : Except Raised ExecutionResponse)

/-- The status that a call has read and not yet acted upon. -/
def ApprovePhase.reading : ApprovePhase → Option Status
  | .read row => row.map PendingConfirmation.status
  | .idle | .written _ | .authorized _ _ _ | .ended _ => none

/-- The committed state, the call that holds the write lock and the phase of
each call. -/
structure RaceState where
  service : ServiceState
  writer : Option Nat
  phases : Nat → ApprovePhase

/-- One step of one call. -/
inductive RaceStep where
  | read (caller : Nat)
  | write (caller : Nat)
  | commit (caller : Nat)
  | dispatch (caller : Nat)

def RaceState.enter (state : RaceState) (caller : Nat) (phase : ApprovePhase) : RaceState :=
  { state with phases := Function.update state.phases caller phase }

@[simp] theorem RaceState.enter_service (state : RaceState) (caller : Nat)
    (phase : ApprovePhase) : (state.enter caller phase).service = state.service := rfl

@[simp] theorem RaceState.enter_writer (state : RaceState) (caller : Nat)
    (phase : ApprovePhase) : (state.enter caller phase).writer = state.writer := rfl

@[simp] theorem RaceState.enter_phases_self (state : RaceState) (caller : Nat)
    (phase : ApprovePhase) : (state.enter caller phase).phases caller = phase := by
  simp [RaceState.enter]

/-- Only the phase of the caller changes. -/
theorem RaceState.phases_of_enter {state : RaceState} {caller other : Nat}
    {phase found : ApprovePhase} (entered : (state.enter caller phase).phases other = found) :
    (other = caller ∧ phase = found) ∨ state.phases other = found := by
  by_cases same : other = caller
  · subst other
    rw [enter_phases_self] at entered
    exact .inl ⟨rfl, entered⟩
  · simp only [enter, Function.update_of_ne same] at entered
    exact .inr entered

section Race

variable (config : Config) (sessions : Nat → ApproveSession)

/-- A call that is not ready for a step, or that waits for the write lock, stays
where it is. -/
def raceStep (state : RaceState) : RaceStep → RaceState × List Event
  | .read caller =>
      match state.phases caller with
      | .idle =>
          (state.enter caller (.read (state.service.db.confirmations
            (sessions caller).call.confirmationId)), [])
      | _ => (state, [])
  | .write caller =>
      match state.phases caller, state.writer with
      | .read row, none =>
          match approveBody config (sessions caller).env (sessions caller).call row
              state.service.db with
          | .error failure => (state.enter caller (.ended (.error failure)), [])
          | .ok resolution =>
              ({ state.enter caller (.written resolution) with writer := some caller }, [])
      | _, _ => (state, [])
  | .commit caller =>
      match state.phases caller with
      | .written resolution =>
          match (sessions caller).env.transactionFailure with
          | some failure =>
              ({ state.enter caller (.ended (.error failure)) with writer := none }, [])
          | none =>
              let next : ApprovePhase :=
                match resolution.verdict with
                | .answered response => .ended (.ok response)
                | .authorized decision policyVersion ctx => .authorized decision policyVersion ctx
              ({ state.enter caller next with
                service := { state.service with
                  db := resolution.db.appendAudit resolution.entry }
                writer := none }, [.audited resolution.entry])
      | _ => (state, [])
  -- The provider runs outside the transaction; its record waits for the lock.
  | .dispatch caller =>
      match state.phases caller, state.writer with
      | .authorized decision policyVersion ctx, none =>
          let done := dispatchAndRecord config (sessions caller).env.dispatch
            (sessions caller).env.recordFailure state.service
            { action := (sessions caller).call.action
              confirmationId := some (sessions caller).call.confirmationId
              decision } ctx policyVersion
          ({ state.enter caller (.ended done.2.answer) with service := done.1 }, done.2.events)
      | _, _ => (state, [])

/-- Any number of calls of `approve`, interleaved step by step. -/
def approvalRace : Machine RaceState RaceStep (List Event) := { step := raceStep config sessions }

/-- No call has begun. -/
def raceStart (service : ServiceState) : RaceState :=
  { service, writer := none, phases := fun _ => .idle }

/-- What an interleaving shows. -/
def raceEvents (service : ServiceState) (schedule : List RaceStep) : List Event :=
  (approvalRace config sessions).trace (fun shown => shown) (raceStart service) schedule

/-- A dispatch on behalf of a confirmation. -/
def Event.dispatchesFor (id : String) : Event → Bool
  | .dispatched dispatch => dispatch.confirmationId = some id
  | .audited _ | .validateCalled _ | .executeCalled _ _ => false

/-- At most one of the calls dispatches the action of the confirmation. -/
def SingleUse (service : ServiceState) (id : String) (schedule : List RaceStep) : Prop :=
  (raceEvents config sessions service schedule).countP (Event.dispatchesFor id) ≤ 1

/-- A call that has read the confirmation as `PENDING` finds it `PENDING` when it
comes to write.  The update itself does not check this. -/
def WritesOnCurrentReading (id : String) (state : RaceState) (step : RaceStep) : Prop :=
  ∀ caller, step = .write caller → (sessions caller).call.confirmationId = id →
    state.writer = none → (state.phases caller).reading = some .pending →
    state.service.db.statusOf id = some .pending

end Race

/-! ## A call that runs alone -/

/-! ## What one step can do -/

section Moves

variable {config : Config} {sessions : Nat → ApproveSession} {state : RaceState}

/-- The ways in which one step changes the race. -/
inductive RaceMove (config : Config) (sessions : Nat → ApproveSession) (state : RaceState) :
    RaceStep → RaceState × List Event → Prop where
  | waits (step : RaceStep) : RaceMove config sessions state step (state, [])
  | reads (caller : Nat) (row : Option PendingConfirmation) :
      state.phases caller = .idle →
      RaceMove config sessions state (.read caller) (state.enter caller (.read row), [])
  | fails (caller : Nat) (row : Option PendingConfirmation) (failure : Raised) :
      state.phases caller = .read row →
      RaceMove config sessions state (.write caller)
        (state.enter caller (.ended (.error failure)), [])
  | writes (caller : Nat) (row : Option PendingConfirmation) (resolution : Resolution) :
      state.phases caller = .read row → state.writer = none →
      approveBody config (sessions caller).env (sessions caller).call row state.service.db =
        .ok resolution →
      RaceMove config sessions state (.write caller)
        ({ state.enter caller (.written resolution) with writer := some caller }, [])
  | rollsBack (caller : Nat) (resolution : Resolution) (failure : Raised) :
      state.phases caller = .written resolution →
      RaceMove config sessions state (.commit caller)
        ({ state.enter caller (.ended (.error failure)) with writer := none }, [])
  | commits (caller : Nat) (resolution : Resolution) (next : ApprovePhase) :
      state.phases caller = .written resolution →
      (∀ resolution, next ≠ .written resolution) →
      (∀ decision policyVersion ctx, next = .authorized decision policyVersion ctx →
        resolution.verdict = .authorized decision policyVersion ctx) →
      RaceMove config sessions state (.commit caller)
        ({ state.enter caller next with
          service := { state.service with db := resolution.db.appendAudit resolution.entry }
          writer := none }, [.audited resolution.entry])
  | dispatches (caller : Nat) (decision : Decision) (policyVersion : Int)
      (ctx : ExecutionContext) (done : ServiceState × CallResult) :
      state.phases caller = .authorized decision policyVersion ctx → state.writer = none →
      Dispatched config state.service {
        action := (sessions caller).call.action
        confirmationId := some (sessions caller).call.confirmationId
        decision } done →
      RaceMove config sessions state (.dispatch caller)
        ({ state.enter caller (.ended done.2.answer) with service := done.1 }, done.2.events)

theorem raceStep_move (config : Config) (sessions : Nat → ApproveSession) (state : RaceState)
    (step : RaceStep) :
    RaceMove config sessions state step (raceStep config sessions state step) := by
  cases step with
  | read caller =>
      simp only [raceStep]
      split
      next idle => exact .reads caller _ idle
      · exact .waits _
  | write caller =>
      simp only [raceStep]
      split
      next row reading free =>
        split
        next failure _ => exact .fails caller row failure reading
        next resolution body => exact .writes caller row resolution reading free body
      · exact .waits _
  | commit caller =>
      simp only [raceStep]
      split
      next resolution written =>
        split
        next failure _ => exact .rollsBack caller resolution failure written
        · refine .commits caller resolution _ written ?_ ?_
          · cases resolution.verdict <;> simp
          · cases resolution.verdict <;> simp
      · exact .waits _
  | dispatch caller =>
      simp only [raceStep]
      split
      next decision policyVersion ctx authorized free =>
        exact .dispatches caller decision policyVersion ctx _ authorized free
          (dispatchAndRecord_dispatched ..)
      · exact .waits _

end Moves

/-! ## Spent confirmations -/

/-- The confirmation has been resolved. -/
def Database.Spent (db : Database) (id : String) : Prop :=
  ∃ row, db.confirmations id = some row ∧ row.status ≠ .pending

section Spent

variable {config : Config} {env : CallEnv} {call : ApproveCall} {db : Database}
variable {row : Option PendingConfirmation} {resolution : Resolution} {id : String}

theorem Database.Spent.congr {after : Database} (spent : db.Spent id)
    (same : after.confirmations = db.confirmations) : after.Spent id := by
  obtain ⟨stored, found, status⟩ := spent
  exact ⟨stored, by rw [same, found], status⟩

theorem Database.spent_markStatus {marked : String} {status : Status} {now : Instant}
    (final : status ≠ .pending)
    (spent : db.Spent id ∨ (id = marked ∧ (db.confirmations id).isSome)) :
    (db.markStatus marked status now).Spent id := by
  by_cases same : id = marked
  · subst id
    obtain ⟨stored, found⟩ : ∃ stored, db.confirmations marked = some stored := by
      cases spent with
      | inl spent => exact ⟨_, spent.choose_spec.1⟩
      | inr known => exact Option.isSome_iff_exists.mp known.2
    exact ⟨_, Database.markStatus_confirmations_self found status now, final⟩
  · obtain ⟨stored, found, resolved⟩ := spent.resolve_right fun known => same known.1
    exact ⟨stored, by rw [Database.markStatus_confirmations_ne _ _ _ same, found], resolved⟩

/-- Whatever a call has read, what it writes leaves spent confirmations spent. -/
theorem approveBody_spent (body : approveBody config env call row db = .ok resolution)
    (spent : db.Spent id) : resolution.db.Spent id := by
  have cases := approveBody_cases body
  cases cases with
  | unknown _ db_eq | redundant _ _ _ db_eq => rwa [db_eq]
  | overruled _ _ _ db_eq =>
      rw [db_eq]
      exact Database.spent_markStatus (by decide) (.inl spent)
  | closed _ status _ final _ db_eq =>
      rw [db_eq]
      refine Database.spent_markStatus ?_ (.inl spent)
      rintro rfl
      simp at final
  | refused _ after _ granted _ db_eq =>
      rw [db_eq]
      exact Database.spent_markStatus (by decide) (.inl (spent.congr granted.confirmations_eq))
  | awaiting _ _ granted _ => exact spent.congr granted.confirmations_eq
  | authorized _ after _ _ granted _ db_eq _ _ _ =>
      rw [db_eq]
      exact Database.spent_markStatus (by decide) (.inl (spent.congr granted.confirmations_eq))

/-- A call that authorises has read `PENDING`, and spends a confirmation that is
there. -/
theorem approveBody_authorizes {decision : Decision} {policyVersion : Int}
    {ctx : ExecutionContext} (body : approveBody config env call row db = .ok resolution)
    (authorizes : resolution.verdict = .authorized decision policyVersion ctx) :
    (∃ reading, row = some reading ∧ reading.status = .pending) ∧
      ((db.confirmations call.confirmationId).isSome →
        resolution.db.Spent call.confirmationId) := by
  have cases := approveBody_cases body
  cases cases with
  | unknown answered | overruled _ _ answered | redundant _ _ answered
  | closed _ _ _ _ answered | refused _ _ _ _ answered | awaiting _ _ _ answered =>
      obtain ⟨response, other⟩ := answered
      simp [authorizes] at other
  | authorized reading after _ accepted granted _ db_eq _ _ _ =>
      refine ⟨⟨reading, rfl, accepted.valid.pending⟩, fun known => ?_⟩
      rw [db_eq]
      refine Database.spent_markStatus (by decide) (.inr ⟨rfl, ?_⟩)
      rw [granted.confirmations_eq]
      exact known

/-- A dispatch shows itself once. -/
theorem Dispatched.countP_events {state : ServiceState} {dispatch : Dispatch}
    {done : ServiceState × CallResult} (dispatched : Dispatched config state dispatch done) :
    done.2.events.countP (Event.dispatchesFor id) =
      if dispatch.confirmationId = some id then 1 else 0 := by
  obtain ⟨calls, records, events, called, recorded, _⟩ := dispatched.events_eq
  have silent : (calls ++ records).countP (Event.dispatchesFor id) = 0 := by
    rw [List.countP_eq_zero]
    intro event member
    cases List.mem_append.mp member with
    | inl call =>
        have provider := called event call
        cases event <;> simp [Event.providerCall?, Event.dispatchesFor] at provider ⊢
    | inr record =>
        obtain ⟨entry, rfl, _⟩ := recorded event record
        simp [Event.dispatchesFor]
  rw [events, List.countP_cons, silent]
  simp [Event.dispatchesFor]

end Spent

/-! ## The invariant of current readings -/

section SingleUse

variable {config : Config} {sessions : Nat → ApproveSession} {state : RaceState}
variable {id : String} {shown : Nat}

/-- A call has committed its use of the confirmation and has not dispatched yet. -/
def HoldsUse (sessions : Nat → ApproveSession) (id : String) (state : RaceState)
    (caller : Nat) : Prop :=
  (sessions caller).call.confirmationId = id ∧ ∃ decision policyVersion ctx,
    state.phases caller = .authorized decision policyVersion ctx

/-- What holds as long as calls write on current readings; `shown` dispatches of
the confirmation have been shown. -/
structure UsedOnce (config : Config) (sessions : Nat → ApproveSession) (id : String)
    (shown : Nat) (state : RaceState) : Prop where
  written : ∀ caller resolution, state.phases caller = .written resolution →
    state.writer = some caller ∧ ∃ row, approveBody config (sessions caller).env
      (sessions caller).call row state.service.db = .ok resolution
  current : ∀ caller resolution decision policyVersion ctx,
    state.phases caller = .written resolution →
    resolution.verdict = .authorized decision policyVersion ctx →
    (sessions caller).call.confirmationId = id →
    state.service.db.statusOf id = some .pending
  unique : ∀ caller other, HoldsUse sessions id state caller → HoldsUse sessions id state other →
    caller = other
  unshown : ∀ caller, HoldsUse sessions id state caller → shown = 0
  bounded : shown ≤ 1
  spent : (∃ caller, HoldsUse sessions id state caller) ∨ 0 < shown →
    state.service.db.Spent id

theorem usedOnce_start (service : ServiceState) :
    UsedOnce config sessions id 0 (raceStart service) := by
  have idle : ∀ caller, ¬HoldsUse sessions id (raceStart service) caller := by
    rintro caller ⟨_, _, _, _, authorized⟩
    simp [raceStart] at authorized
  exact {
    written := by simp [raceStart]
    current := by simp [raceStart]
    unique := fun caller _ holds => absurd holds (idle caller)
    unshown := fun caller holds => absurd holds (idle caller)
    bounded := Nat.zero_le 1
    spent := by
      rintro (⟨caller, holds⟩ | positive)
      · exact absurd holds (idle caller)
      · omega }

/-- A call that neither holds the write lock nor a use may have ended or begun. -/
theorem UsedOnce.enter (used : UsedOnce config sessions id shown state) (caller : Nat)
    (phase : ApprovePhase) {writer : Option Nat}
    (quiet : (∀ resolution, phase ≠ .written resolution) ∧
      ∀ decision policyVersion ctx, phase ≠ .authorized decision policyVersion ctx)
    (lock : writer = state.writer ∨ ∃ resolution, state.phases caller = .written resolution) :
    UsedOnce config sessions id shown { state.enter caller phase with writer } := by
  have holds : ∀ other, HoldsUse sessions id { state.enter caller phase with writer } other →
      HoldsUse sessions id state other := by
    rintro other ⟨same, decision, policyVersion, ctx, authorized⟩
    cases RaceState.phases_of_enter authorized with
    | inl entered => exact absurd entered.2 (quiet.2 _ _ _)
    | inr before => exact ⟨same, decision, policyVersion, ctx, before⟩
  exact {
    written := by
      intro other resolution written
      cases RaceState.phases_of_enter written with
      | inl entered => exact absurd entered.2 (quiet.1 resolution)
      | inr before =>
          obtain ⟨holder, row, body⟩ := used.written other resolution before
          refine ⟨?_, row, body⟩
          cases lock with
          | inl same => rw [← holder]; exact same
          | inr writing =>
              obtain ⟨own, ownWritten⟩ := writing
              have same : other = caller :=
                Option.some.inj (holder.symm.trans (used.written caller own ownWritten).1)
              subst other
              rw [show phase = .written resolution by simpa using written] at quiet
              exact absurd rfl (quiet.1 resolution)
    current := by
      intro other resolution decision policyVersion ctx written
      cases RaceState.phases_of_enter written with
      | inl entered => exact absurd entered.2 (quiet.1 resolution)
      | inr before => exact used.current other resolution decision policyVersion ctx before
    unique := fun first second firstHolds secondHolds =>
      used.unique first second (holds first firstHolds) (holds second secondHolds)
    unshown := fun other otherHolds => used.unshown other (holds other otherHolds)
    bounded := used.bounded
    spent := fun some => used.spent (some.imp_left fun held => held.imp holds) }

theorem UsedOnce.writes (used : UsedOnce config sessions id shown state) {caller : Nat}
    {row : Option PendingConfirmation} {resolution : Resolution}
    (reading : state.phases caller = .read row) (free : state.writer = none)
    (body : approveBody config (sessions caller).env (sessions caller).call row
      state.service.db = .ok resolution)
    (currentReading : WritesOnCurrentReading sessions id state (.write caller)) :
    UsedOnce config sessions id shown
      { state.enter caller (.written resolution) with writer := some caller } := by
  have nobody : ∀ other earlier, state.phases other ≠ .written earlier := by
    intro other earlier written
    have holder := (used.written other earlier written).1
    simp [free] at holder
  have holds : ∀ other, HoldsUse sessions id
      { state.enter caller (.written resolution) with writer := some caller } other →
      HoldsUse sessions id state other := by
    rintro other ⟨same, decision, policyVersion, ctx, authorized⟩
    cases RaceState.phases_of_enter authorized with
    | inl entered => simp at entered
    | inr before => exact ⟨same, decision, policyVersion, ctx, before⟩
  exact {
    written := by
      intro other found written
      cases RaceState.phases_of_enter written with
      | inl entered =>
          obtain ⟨rfl, same⟩ := entered
          obtain rfl := ApprovePhase.written.inj same
          exact ⟨rfl, row, body⟩
      | inr before => exact absurd before (nobody other found)
    current := by
      intro other found decision policyVersion ctx written authorizes same
      cases RaceState.phases_of_enter written with
      | inl entered =>
          obtain ⟨rfl, foundEq⟩ := entered
          obtain rfl := ApprovePhase.written.inj foundEq
          obtain ⟨⟨stale, rfl, pending⟩, _⟩ := approveBody_authorizes body authorizes
          have read : (state.phases other).reading = some .pending := by
            simp [reading, ApprovePhase.reading, pending]
          exact currentReading other rfl same free read
      | inr before => exact absurd before (nobody other found)
    unique := fun first second firstHolds secondHolds =>
      used.unique first second (holds first firstHolds) (holds second secondHolds)
    unshown := fun other otherHolds => used.unshown other (holds other otherHolds)
    bounded := used.bounded
    spent := fun some => used.spent (some.imp_left fun held => held.imp holds) }

/-- A committed use is the first one, because the row was still pending. -/
theorem UsedOnce.commits (used : UsedOnce config sessions id shown state) {caller : Nat}
    {resolution : Resolution} {next : ApprovePhase}
    (written : state.phases caller = .written resolution)
    (notWritten : ∀ resolution, next ≠ .written resolution)
    (authorized : ∀ decision policyVersion ctx,
      next = .authorized decision policyVersion ctx →
      resolution.verdict = .authorized decision policyVersion ctx) :
    UsedOnce config sessions id shown { state.enter caller next with
      service := { state.service with db := resolution.db.appendAudit resolution.entry }
      writer := none } := by
  obtain ⟨holder, row, body⟩ := used.written caller resolution written
  have nobody : ∀ other found, (state.enter caller next).phases other ≠ .written found := by
    intro other found otherWritten
    cases RaceState.phases_of_enter otherWritten with
    | inl entered => exact notWritten found entered.2
    | inr before =>
        have same : other = caller :=
          Option.some.inj ((used.written other found before).1.symm.trans holder)
        subst other
        rw [RaceState.enter_phases_self] at otherWritten
        exact notWritten found otherWritten
  by_cases uses : HoldsUse sessions id (state.enter caller next) caller
  · obtain ⟨same, decision, policyVersion, ctx, entered⟩ := uses
    rw [RaceState.enter_phases_self] at entered
    have authorizes := authorized decision policyVersion ctx entered
    have pending := used.current caller resolution decision policyVersion ctx written authorizes
      same
    have unused : ¬((∃ other, HoldsUse sessions id state other) ∨ 0 < shown) := by
      intro some
      obtain ⟨stored, found, resolved⟩ := used.spent some
      simp [Database.statusOf, found] at pending
      exact resolved pending
    have first : ∀ other, HoldsUse sessions id (state.enter caller next) other →
        other = caller := by
      rintro other ⟨otherSame, _, _, _, otherEntered⟩
      cases RaceState.phases_of_enter otherEntered with
      | inl here => exact here.1
      | inr before => exact absurd (.inl ⟨other, otherSame, _, _, _, before⟩) unused
    have spent : resolution.db.Spent id := by
      rw [← same]
      refine (approveBody_authorizes body authorizes).2 ?_
      rw [same]
      cases stored : state.service.db.confirmations id <;>
        simp [Database.statusOf, stored] at pending ⊢
    exact {
      written := fun other found otherWritten => absurd otherWritten (nobody other found)
      current := fun other found _ _ _ otherWritten => absurd otherWritten (nobody other found)
      unique := fun one other oneHolds otherHolds =>
        (first one oneHolds).trans (first other otherHolds).symm
      unshown := fun _ _ => by
        have none := not_or.mp unused
        omega
      bounded := used.bounded
      spent := fun _ => spent }
  · have holds : ∀ other, HoldsUse sessions id (state.enter caller next) other →
        HoldsUse sessions id state other := by
      intro other otherHolds
      have held := otherHolds
      obtain ⟨same, decision, policyVersion, ctx, entered⟩ := held
      cases RaceState.phases_of_enter entered with
      | inl here =>
          rw [here.1] at otherHolds
          exact absurd otherHolds uses
      | inr before => exact ⟨same, decision, policyVersion, ctx, before⟩
    exact {
      written := fun other found otherWritten => absurd otherWritten (nobody other found)
      current := fun other found _ _ _ otherWritten => absurd otherWritten (nobody other found)
      unique := fun one other oneHolds otherHolds =>
        used.unique one other (holds one oneHolds) (holds other otherHolds)
      unshown := fun other otherHolds => used.unshown other (holds other otherHolds)
      bounded := used.bounded
      spent := fun some =>
        approveBody_spent body (used.spent (some.imp_left fun held => held.imp holds)) }

/-- A use is given up when it is dispatched. -/
theorem UsedOnce.dispatches (used : UsedOnce config sessions id shown state) {caller : Nat}
    {decision : Decision} {policyVersion : Int} {ctx : ExecutionContext}
    {done : ServiceState × CallResult}
    (authorized : state.phases caller = .authorized decision policyVersion ctx)
    (free : state.writer = none)
    (dispatched : Dispatched config state.service {
      action := (sessions caller).call.action
      confirmationId := some (sessions caller).call.confirmationId
      decision } done) :
    UsedOnce config sessions id (shown + done.2.events.countP (Event.dispatchesFor id))
      { state.enter caller (.ended done.2.answer) with service := done.1 } := by
  have nobody : ∀ other found,
      (state.enter caller (.ended done.2.answer)).phases other ≠ .written found := by
    intro other found written
    cases RaceState.phases_of_enter written with
    | inl entered => simp at entered
    | inr before =>
        have holder := (used.written other found before).1
        simp [free] at holder
  have holds : ∀ other, HoldsUse sessions id (state.enter caller (.ended done.2.answer)) other →
      other ≠ caller ∧ HoldsUse sessions id state other := by
    rintro other ⟨same, _, _, _, entered⟩
    cases RaceState.phases_of_enter entered with
    | inl here => simp at here
    | inr before =>
        refine ⟨?_, same, _, _, _, before⟩
        rintro rfl
        simp at entered
  rw [dispatched.countP_events]
  by_cases same : (sessions caller).call.confirmationId = id
  · have own : HoldsUse sessions id state caller := ⟨same, _, _, _, authorized⟩
    have none : ∀ other,
        ¬HoldsUse sessions id (state.enter caller (.ended done.2.answer)) other := by
      intro other otherHolds
      exact (holds other otherHolds).1 (used.unique other caller (holds other otherHolds).2 own)
    have unshown := used.unshown caller own
    exact {
      written := fun other found written => absurd written (nobody other found)
      current := fun other found _ _ _ written => absurd written (nobody other found)
      unique := fun one _ oneHolds => absurd oneHolds (none one)
      unshown := fun one oneHolds => absurd oneHolds (none one)
      bounded := by simp [same, unshown]
      spent := fun _ => (used.spent (.inl ⟨caller, own⟩)).congr dispatched.confirmations_eq }
  · have other : ¬(some (sessions caller).call.confirmationId = some id) := by simpa using same
    rw [if_neg other]
    exact {
      written := fun other found written => absurd written (nobody other found)
      current := fun other found _ _ _ written => absurd written (nobody other found)
      unique := fun one two oneHolds twoHolds =>
        used.unique one two (holds one oneHolds).2 (holds two twoHolds).2
      unshown := fun one oneHolds => used.unshown one (holds one oneHolds).2
      bounded := used.bounded
      spent := fun some =>
        (used.spent (some.imp_left fun held => held.imp fun one h => (holds one h).2)).congr
          dispatched.confirmations_eq }

/-- One step keeps the invariant, if it writes on a current reading. -/
theorem usedOnce_step {step : RaceStep} (used : UsedOnce config sessions id shown state)
    (current : WritesOnCurrentReading sessions id state step) :
    UsedOnce config sessions id
      (shown + (raceStep config sessions state step).2.countP (Event.dispatchesFor id))
      (raceStep config sessions state step).1 := by
  have move := raceStep_move config sessions state step
  generalize raceStep config sessions state step = next at move
  cases move with
  | waits => simpa using used
  | reads caller row _ => exact used.enter caller (.read row) (by simp) (.inl rfl)
  | fails caller _ failure _ =>
      exact used.enter caller (.ended (.error failure)) (by simp) (.inl rfl)
  | rollsBack caller resolution failure written =>
      exact used.enter caller (.ended (.error failure)) (by simp) (.inr ⟨resolution, written⟩)
  | writes caller row resolution reading free body =>
      exact used.writes reading free body current
  | commits caller resolution next written notWritten authorized =>
      have counted : [Event.audited resolution.entry].countP (Event.dispatchesFor id) = 0 := by
        simp [Event.dispatchesFor]
      rw [counted]
      exact used.commits written notWritten authorized
  | dispatches caller decision policyVersion ctx done authorized free dispatched =>
      exact used.dispatches authorized free dispatched

/-- In every interleaving in which the calls write on current readings, at most
one of them dispatches. -/
theorem singleUse_of_currentReadings (config : Config) (sessions : Nat → ApproveSession)
    (service : ServiceState) (id : String) (schedule : List RaceStep)
    (current : (approvalRace config sessions).Admits (WritesOnCurrentReading sessions id)
      (raceStart service) schedule) :
    SingleUse config sessions service id schedule := by
  suffices used : UsedOnce config sessions id
      ((raceEvents config sessions service schedule).countP (Event.dispatchesFor id))
      ((approvalRace config sessions).stateAfter (raceStart service) schedule) from used.bounded
  induction schedule using List.reverseRecOn with
  | nil => exact usedOnce_start service
  | append_singleton before step ih =>
      have kept := usedOnce_step (ih current.left) (current before step [] rfl)
      have events : raceEvents config sessions service (before ++ [step]) =
          raceEvents config sessions service before ++ (raceStep config sessions
            ((approvalRace config sessions).stateAfter (raceStart service) before) step).2 := by
        simp [raceEvents, Machine.trace, Machine.outputs, approvalRace]
      rw [events, List.countP_append, Machine.stateAfter_append]
      exact kept

end SingleUse

/-! ## Two calls that read before either writes -/

namespace Demo

/-- Alice approves her write twice at the same time. -/
def bothApprove : Nat → ApproveSession := fun _ => { call := approve, env }

def requested : ServiceState := (step config start request).1

def overlapping : List RaceStep :=
  [.read 0, .read 1, .write 0, .commit 0, .dispatch 0, .write 1, .commit 1, .dispatch 1]

end Demo

theorem not_singleUse :
    ¬SingleUse Demo.config Demo.bothApprove Demo.requested "confirmation" Demo.overlapping := by
  unfold SingleUse
  decide +kernel

/-- One after the other, the same two calls use the confirmation once. -/
theorem singleUse_of_currentReadings_demo :
    SingleUse Demo.config Demo.bothApprove Demo.requested "confirmation"
      [.read 0, .write 0, .commit 0, .dispatch 0, .read 1, .write 1, .commit 1, .dispatch 1] := by
  apply singleUse_of_currentReadings
  simp only [Machine.admits_cons, Machine.admits_nil, and_true]
  refine ⟨?_, ?_, ?_, ?_, ?_, ?_, ?_, ?_⟩
  case refine_2 =>
    intro caller _ _ _ _
    decide +kernel
  case refine_6 =>
    intro caller writes _ _ reading
    obtain rfl := RaceStep.write.inj writes
    exact absurd reading (by decide +kernel)
  -- The other steps write nothing.
  all_goals
    intro caller writes
    cases writes

end Era.Services
