import Mathlib.Logic.Function.Basic
import Era.Core.BreakerReference

/-!
# Breakers that share a durable row

Every worker has a breaker of its own over one row.  A call loads the row in one transaction,
changes the breaker in memory and saves it as a whole in another transaction, and the calls of
other workers may load and save in between.
-/

namespace Era.Core

open Era.Lib

/-! ## Workers -/

/-- A call that has changed the breaker of its worker and has not saved it yet, with the row
that it has loaded. -/
structure UnsavedCall where
  event : BreakerEvent
  loaded : Option CircuitBreaker

/-- The breaker of one worker. -/
structure BreakerWorker where
  breaker : CircuitBreaker := {}
  unsaved : Option UnsavedCall := none

/-- The row of a provider, once there is one, and its workers.  A row holds what a breaker
has saved, so it says when an open breaker has opened. -/
structure SharedBreaker where
  row : Option CircuitBreaker
  workers : Nat → BreakerWorker

inductive SharedStep where
  /-- A call begins: `_refresh`, and what the event does to the breaker in memory. -/
  | load (worker : Nat) (event : BreakerEvent)
  /-- `_persist`. -/
  | save (worker : Nat)

/-- A call that has returned, with the decision on a request. -/
structure CompletedCall where
  event : BreakerEvent
  decision : Option Bool

section Shared

variable (config : CircuitBreakerConfig)

/-- Whether an event makes a breaker persist itself. -/
def persists (breaker : CircuitBreaker) : BreakerEvent → Bool
  | .allowRequest now =>
      breaker.state = .open && (breaker.allowRequest config now).1
  | .recordSuccess => breaker.state ≠ .open
  | .recordFailure now code =>
      (BreakerEvent.recordFailure now code).fails config && breaker.state ≠ .open

/-- The breaker of a worker that has loaded the row.  A failure with an ineligible code is
dropped before the row is loaded. -/
def BreakerWorker.refreshed (worker : BreakerWorker) (row : Option CircuitBreaker)
    (event : BreakerEvent) : CircuitBreaker :=
  if event.matters config then row.getD worker.breaker else worker.breaker

/-- The decision of a call that has saved its breaker; a request does so only if it becomes a
probe. -/
def BreakerEvent.savedDecision : BreakerEvent → Option Bool
  | .allowRequest _ => some true
  | .recordSuccess | .recordFailure _ _ => none

def SharedBreaker.put (shared : SharedBreaker) (worker : Nat) (state : BreakerWorker) :
    SharedBreaker :=
  { shared with workers := Function.update shared.workers worker state }

/-- One step.  A worker carries out one call at a time. -/
def sharedStep (shared : SharedBreaker) : SharedStep → SharedBreaker × Option CompletedCall
  | .load worker event =>
      let before := shared.workers worker
      match before.unsaved with
      | some _ => (shared, none)
      | none =>
          let breaker := before.refreshed config shared.row event
          let done := breakerStep config breaker event
          if persists config breaker event then
            (shared.put worker {
              breaker := done.1, unsaved := some { event, loaded := shared.row } },
              none)
          else (shared.put worker { breaker := done.1 }, some { event, decision := done.2 })
  | .save worker =>
      let before := shared.workers worker
      match before.unsaved with
      | none => (shared, none)
      | some call =>
          ({ shared.put worker { breaker := before.breaker } with row := some before.breaker },
            some {
              event := call.event
              decision := call.event.savedDecision })

def sharedBreaker : Machine SharedBreaker SharedStep (Option CompletedCall) :=
  { step := sharedStep config }

/-- No worker has begun; the row may be there from earlier on. -/
def sharedStart (row : Option CircuitBreaker) : SharedBreaker := { row, workers := fun _ => {} }

/-- What the row says; without a row, what a new breaker says. -/
def SharedBreaker.persisted (shared : SharedBreaker) : CircuitBreaker := shared.row.getD {}

/-- The calls that return during a schedule, in order. -/
def completedCalls (shared : SharedBreaker) (schedule : List SharedStep) : List CompletedCall :=
  (sharedBreaker config).trace Option.toList shared schedule

/-- The shared row loses no failure and forgets no isolation. -/
structure LosesNoFailure (row : Option CircuitBreaker) (schedule : List SharedStep) : Prop where
  /-- An open row becomes half open for a request after the cooldown. -/
  leaves : ∀ before step after, schedule = before ++ step :: after →
    let earlier := (sharedBreaker config).stateAfter (sharedStart row) before
    let later := (sharedBreaker config).stateAfter (sharedStart row) (before ++ [step])
    earlier.persisted.state = .open → later.persisted.state ≠ .open →
    later.persisted.state = .halfOpen ∧ ∃ now since,
      completedCalls config earlier [step] =
        [{ event := .allowRequest now, decision := some true }] ∧
      earlier.persisted.openedAt = some since ∧ config.cooldownSeconds ≤ now - since
  /-- A row becomes closed by the success of a probe. -/
  closes : ∀ before step after, schedule = before ++ step :: after →
    let earlier := (sharedBreaker config).stateAfter (sharedStart row) before
    let later := (sharedBreaker config).stateAfter (sharedStart row) (before ++ [step])
    earlier.persisted.state ≠ .closed → later.persisted.state = .closed →
    earlier.persisted.state = .halfOpen ∧
      completedCalls config earlier [step] = [{ event := .recordSuccess, decision := none }]
  /-- As many eligible failures as the threshold, without a success among them, leave the row
  open. -/
  counts : ∀ before stretch after, schedule = before ++ (stretch ++ after) →
    let earlier := (sharedBreaker config).stateAfter (sharedStart row) before
    let calls := completedCalls config earlier stretch
    (∀ call ∈ calls, call.event.succeeds = false) →
    config.failureThreshold ≤ calls.countP (fun call => call.event.fails config) →
    (∃ call, calls.getLast? = some call ∧ call.event.fails config = true) →
    ((sharedBreaker config).stateAfter (sharedStart row) (before ++ stretch)).persisted.state =
      .open

/-- A call saves what it has made of the row as it is: nobody has changed the row since the
call loaded it. -/
def SavesCurrentRow (shared : SharedBreaker) (step : SharedStep) : Prop :=
  ∀ worker call, step = .save worker → (shared.workers worker).unsaved = some call →
    call.loaded = shared.row

/-! ## Failures in a row -/

variable {config}

/-- An event that does not make a breaker persist itself does not change it. -/
theorem breakerStep_of_not_persists {breaker : CircuitBreaker} {event : BreakerEvent}
    (silent : persists config breaker event = false) :
    (breakerStep config breaker event).1 = breaker := by
  have move : BreakerMove config breaker event _ := breakerStep_move breaker event
  generalize (breakerStep config breaker event).1 = after at move ⊢
  cases move with
  | admits | blocks | ignores | sleeps => rfl
  | probes now since state opened late =>
      unfold persists at silent
      dsimp only at silent
      rw [state, (allowRequest_probes state opened late).1] at silent
      cases silent
  | resets not_open =>
      unfold persists at silent
      simp [not_open] at silent
  | counts now code state eligible =>
      unfold persists at silent
      dsimp only at silent
      rw [eligible, state] at silent
      cases silent
  | trips now code eligible state =>
      unfold persists at silent
      dsimp only at silent
      rw [eligible] at silent
      obtain half | ⟨closed, _⟩ := state
      · rw [half] at silent
        cases silent
      · rw [closed] at silent
        cases silent

theorem persists_of_not_matters {breaker : CircuitBreaker} {event : BreakerEvent}
    (irrelevant : event.matters config = false) : persists config breaker event = false := by
  have quiet := BreakerEvent.quiet_of_not_matters irrelevant
  cases event with
  | allowRequest now => cases irrelevant
  | recordSuccess => cases irrelevant
  | recordFailure now code =>
      unfold persists
      dsimp only
      rw [quiet.2, Bool.false_and]

/-- Without a success a closed breaker has counted every eligible failure. -/
theorem counted_without_success (breaker : CircuitBreaker) (events : List BreakerEvent)
    (unsuccessful : ∀ event ∈ events, event.succeeds = false)
    (closed : ((breakerMachine config).stateAfter breaker events).state = .closed) :
    events.countP (BreakerEvent.fails config) ≤
      ((breakerMachine config).stateAfter breaker events).consecutiveFailures := by
  induction events using List.reverseRecOn with
  | nil => exact Nat.zero_le _
  | append_singleton earlier event ih =>
      have earlier_unsuccessful : ∀ event ∈ earlier, event.succeeds = false :=
        fun event member => unsuccessful event (List.mem_append_left _ member)
      have event_unsuccessful := unsuccessful event (by simp)
      rw [Machine.stateAfter_append] at closed ⊢
      rw [List.countP_append, List.countP_singleton]
      change ((breakerStep config ((breakerMachine config).stateAfter breaker earlier)
        event).1).state = .closed at closed
      change _ ≤ ((breakerStep config ((breakerMachine config).stateAfter breaker earlier)
        event).1).consecutiveFailures
      generalize (breakerMachine config).stateAfter breaker earlier = before at ih closed ⊢
      have move : BreakerMove config before event _ := breakerStep_move before event
      generalize (breakerStep config before event).1 = after at move closed ⊢
      cases move with
      | admits now not_open =>
          rw [if_neg (by simp [BreakerEvent.fails])]
          exact ih earlier_unsuccessful closed
      | blocks now since state | sleeps _ state =>
          rw [state] at closed
          cases closed
      | probes now since state opened late _ probing =>
          rw [probing] at closed
          cases closed
      | ignores _ irrelevant =>
          rw [(BreakerEvent.quiet_of_not_matters irrelevant).2, if_neg (by decide)]
          exact ih earlier_unsuccessful closed
      | resets => cases event_unsuccessful
      | counts now code state eligible below _ _ counted =>
          rw [eligible, if_pos rfl, counted]
          exact Nat.add_le_add_right (ih earlier_unsuccessful state) 1
      | trips now code eligible state _ tripped =>
          rw [tripped] at closed
          cases closed

/-- As many eligible failures as the threshold open a breaker, unless there is a success among
them. -/
theorem open_of_failures (breaker : CircuitBreaker) (earlier : List BreakerEvent)
    (last : BreakerEvent) (unsuccessful : ∀ event ∈ earlier ++ [last], event.succeeds = false)
    (enough : config.failureThreshold ≤ (earlier ++ [last]).countP (BreakerEvent.fails config))
    (failed : last.fails config = true) :
    ((breakerMachine config).stateAfter breaker (earlier ++ [last])).state = .open := by
  have counted := @counted_without_success config breaker (earlier ++ [last]) unsuccessful
  rw [Machine.stateAfter_append] at counted ⊢
  change ((breakerStep config ((breakerMachine config).stateAfter breaker earlier)
    last).1).state = .open
  change (((breakerStep config ((breakerMachine config).stateAfter breaker earlier)
    last).1).state = .closed → _ ≤ ((breakerStep config
      ((breakerMachine config).stateAfter breaker earlier) last).1).consecutiveFailures) at counted
  generalize (breakerMachine config).stateAfter breaker earlier = before at counted ⊢
  have move : BreakerMove config before last _ := breakerStep_move before last
  generalize (breakerStep config before last).1 = after at move counted ⊢
  cases move with
  | admits | blocks | probes => cases failed
  | ignores _ irrelevant =>
      rw [(BreakerEvent.quiet_of_not_matters irrelevant).2] at failed
      cases failed
  | sleeps _ state => exact state
  | resets => cases failed
  | counts now code state eligible below _ closed recorded =>
      have at_most := counted closed
      omega
  | trips _ _ _ _ _ tripped => exact tripped

/-! ## Schedules that save current rows -/

/-- What an unsaved call has done to the breaker that it has loaded. -/
structure Unsaved (config : CircuitBreakerConfig) (worker : BreakerWorker) (call : UnsavedCall) :
    Prop where
  persists : persists config (call.loaded.getD {}) call.event = true
  breaker_eq : worker.breaker = (breakerStep config (call.loaded.getD {}) call.event).1

/-- Workers hold what they have made of the rows that they have loaded; before there is a row,
idle workers hold new breakers. -/
structure Coherent (config : CircuitBreakerConfig) (shared : SharedBreaker) : Prop where
  unsaved : ∀ worker call, (shared.workers worker).unsaved = some call →
    Unsaved config (shared.workers worker) call
  fresh : shared.row = none → ∀ worker, (shared.workers worker).unsaved = none →
    (shared.workers worker).breaker = {}

theorem coherent_start (row : Option CircuitBreaker) : Coherent config (sharedStart row) :=
  { unsaved := nofun
    fresh := fun _ _ _ => rfl }

@[simp] theorem SharedBreaker.put_row (shared : SharedBreaker) (worker : Nat)
    (state : BreakerWorker) : (shared.put worker state).row = shared.row := rfl

@[simp] theorem SharedBreaker.put_workers_self (shared : SharedBreaker) (worker : Nat)
    (state : BreakerWorker) : (shared.put worker state).workers worker = state :=
  Function.update_self ..

theorem SharedBreaker.put_workers_ne (shared : SharedBreaker) {worker other : Nat}
    (state : BreakerWorker) (different : other ≠ worker) :
    (shared.put worker state).workers other = shared.workers other :=
  Function.update_of_ne different ..

theorem Coherent.put {shared : SharedBreaker} (coherent : Coherent config shared) (worker : Nat)
    {state : BreakerWorker}
    (own : ∀ call, state.unsaved = some call → Unsaved config state call)
    (fresh : shared.row = none → state.unsaved = none → state.breaker = {}) :
    Coherent config (shared.put worker state) := by
  constructor
  · intro other call unsaved
    by_cases same : other = worker
    · subst other
      rw [SharedBreaker.put_workers_self] at unsaved ⊢
      exact own call unsaved
    · rw [SharedBreaker.put_workers_ne _ _ same] at unsaved ⊢
      exact coherent.unsaved other call unsaved
  · intro missing other idle
    by_cases same : other = worker
    · subst other
      rw [SharedBreaker.put_workers_self] at idle ⊢
      exact fresh missing idle
    · rw [SharedBreaker.put_workers_ne _ _ same] at idle ⊢
      exact coherent.fresh missing other idle

/-- An event that makes a breaker persist itself is decided so. -/
theorem decision_of_persists {breaker : CircuitBreaker} {event : BreakerEvent}
    (persisting : persists config breaker event = true) :
    (breakerStep config breaker event).2 = event.savedDecision := by
  cases event with
  | allowRequest now =>
      unfold persists at persisting
      rw [Bool.and_eq_true] at persisting
      exact congrArg some persisting.2
  | recordSuccess => rfl
  | recordFailure now code =>
      unfold breakerStep
      dsimp only
      split <;> rfl

/-- A call that matters loads what is persisted. -/
theorem refreshed_eq {shared : SharedBreaker} (coherent : Coherent config shared) {worker : Nat}
    {event : BreakerEvent} (idle : (shared.workers worker).unsaved = none)
    (relevant : event.matters config = true) :
    (shared.workers worker).refreshed config shared.row event = shared.persisted := by
  unfold BreakerWorker.refreshed SharedBreaker.persisted
  rw [if_pos relevant]
  cases stored : shared.row with
  | some row => rfl
  | none => exact coherent.fresh stored worker idle

/-- What one step makes of the row. -/
inductive SerialStep (config : CircuitBreakerConfig) (shared after : SharedBreaker) :
    Option CompletedCall → Prop where
  | goesOn (same : after.persisted = shared.persisted) : SerialStep config shared after none
  | returns (call : CompletedCall)
      (stepped : breakerStep config shared.persisted call.event =
        (after.persisted, call.decision)) :
      SerialStep config shared after (some call)

theorem load_serial {shared : SharedBreaker} (coherent : Coherent config shared) (worker : Nat)
    (event : BreakerEvent) :
    Coherent config (sharedStep config shared (.load worker event)).1 ∧
      SerialStep config shared (sharedStep config shared (.load worker event)).1
        (sharedStep config shared (.load worker event)).2 := by
  unfold sharedStep
  dsimp only
  cases idle : (shared.workers worker).unsaved with
  | some call => exact ⟨coherent, .goesOn rfl⟩
  | none =>
      dsimp only
      by_cases relevant : event.matters config = true
      · rw [refreshed_eq coherent idle relevant]
        by_cases persisting : persists config shared.persisted event = true
        · rw [if_pos persisting]
          refine ⟨coherent.put worker ?_ nofun, .goesOn rfl⟩
          intro call unsaved
          obtain rfl := Option.some.inj unsaved
          exact ⟨persisting, rfl⟩
        · have unchanged := breakerStep_of_not_persists (Bool.eq_false_of_not_eq_true persisting)
          rw [if_neg persisting, unchanged]
          refine ⟨coherent.put worker nofun ?_, .returns _ ?_⟩
          · intro missing _
            unfold SharedBreaker.persisted
            rw [missing]
            rfl
          · exact Prod.ext unchanged rfl
      · have irrelevant : event.matters config = false := Bool.eq_false_of_not_eq_true relevant
        have kept : (shared.workers worker).refreshed config shared.row event =
            (shared.workers worker).breaker := if_neg relevant
        rw [kept, persists_of_not_matters irrelevant, if_neg (by decide),
          breakerStep_of_not_matters irrelevant]
        refine ⟨coherent.put worker nofun fun missing _ => coherent.fresh missing worker idle,
          .returns _ ?_⟩
        exact breakerStep_of_not_matters irrelevant

theorem save_serial {shared : SharedBreaker} (coherent : Coherent config shared) {worker : Nat}
    (current : SavesCurrentRow shared (.save worker)) :
    Coherent config (sharedStep config shared (.save worker)).1 ∧
      SerialStep config shared (sharedStep config shared (.save worker)).1
        (sharedStep config shared (.save worker)).2 := by
  unfold sharedStep
  dsimp only
  cases saving : (shared.workers worker).unsaved with
  | none => exact ⟨coherent, .goesOn rfl⟩
  | some call =>
      have unsaved := coherent.unsaved worker call saving
      have loaded : call.loaded.getD {} = shared.persisted := by
        rw [current worker call rfl saving]
        rfl
      dsimp only
      constructor
      · constructor
        · intro other unsaved_call still
          change ((shared.put worker _).workers other).unsaved = some unsaved_call at still
          change Unsaved config ((shared.put worker _).workers other) unsaved_call
          by_cases same : other = worker
          · subst other
            rw [SharedBreaker.put_workers_self] at still
            cases still
          · rw [SharedBreaker.put_workers_ne _ _ same] at still ⊢
            exact coherent.unsaved other unsaved_call still
        · exact nofun
      · refine .returns _ ?_
        rw [← loaded]
        exact Prod.ext unsaved.breaker_eq.symm (decision_of_persists unsaved.persists)

theorem sharedStep_serial {shared : SharedBreaker} {step : SharedStep}
    (coherent : Coherent config shared) (current : SavesCurrentRow shared step) :
    Coherent config (sharedStep config shared step).1 ∧
      SerialStep config shared (sharedStep config shared step).1
        (sharedStep config shared step).2 := by
  cases step with
  | load worker event => exact load_serial coherent worker event
  | save worker => exact save_serial coherent current

/-- In a schedule that saves current rows, the calls that return are the events of one
breaker, the row. -/
theorem persisted_stateAfter {shared : SharedBreaker} (coherent : Coherent config shared)
    {schedule : List SharedStep}
    (current : (sharedBreaker config).Admits SavesCurrentRow shared schedule) :
    Coherent config ((sharedBreaker config).stateAfter shared schedule) ∧
      ((sharedBreaker config).stateAfter shared schedule).persisted =
        (breakerMachine config).stateAfter shared.persisted
          ((completedCalls config shared schedule).map CompletedCall.event) := by
  induction schedule generalizing shared with
  | nil => exact ⟨coherent, rfl⟩
  | cons step rest ih =>
      obtain ⟨first, others⟩ := Machine.admits_cons.mp current
      obtain ⟨still, stepped⟩ := sharedStep_serial coherent first
      obtain ⟨finally_coherent, finally_persisted⟩ := ih still others
      refine ⟨finally_coherent, ?_⟩
      unfold completedCalls
      rw [Machine.trace_cons, List.map_append, Machine.stateAfter_append, Machine.stateAfter_cons]
      change _ = (breakerMachine config).stateAfter ((breakerMachine config).stateAfter _
        ((sharedStep config shared step).2.toList.map CompletedCall.event))
        ((completedCalls config (sharedStep config shared step).1 rest).map CompletedCall.event)
      rw [show (sharedBreaker config).step shared step = sharedStep config shared step from rfl,
        finally_persisted]
      generalize (sharedStep config shared step).2 = returned at stepped ⊢
      cases stepped with
      | goesOn same => rw [same]; rfl
      | returns call stepped =>
          have moved : (breakerStep config shared.persisted call.event).1 =
              (sharedStep config shared step).1.persisted := congrArg Prod.fst stepped
          rw [← moved]
          rfl

/-- An open breaker is left half open by a request after its cooldown. -/
theorem left_open {breaker after : CircuitBreaker} {event : BreakerEvent} {decision : Option Bool}
    (stepped : breakerStep config breaker event = (after, decision))
    (was_open : breaker.state = .open) (left : after.state ≠ .open) :
    after.state = .halfOpen ∧ ∃ now since, event = .allowRequest now ∧ decision = some true ∧
      breaker.openedAt = some since ∧ config.cooldownSeconds ≤ now - since := by
  have move : BreakerMove config breaker event _ := breakerStep_move breaker event
  have decided : (breakerStep config breaker event).2 = decision := congrArg Prod.snd stepped
  rw [stepped] at move
  cases move with
  | admits | blocks | ignores | sleeps => exact absurd was_open left
  | probes now since state opened late _ probing =>
      refine ⟨probing, now, since, rfl, ?_, opened, not_lt.mp late⟩
      rw [← decided]
      exact congrArg some (allowRequest_probes state opened late).1
  | resets not_open => exact absurd was_open not_open
  | counts now code state =>
      rw [was_open] at state
      cases state
  | trips now code eligible state =>
      rw [was_open] at state
      obtain half | ⟨closed, _⟩ := state
      · cases half
      · cases closed

/-- A breaker that was not closed is closed by the success of its probe. -/
theorem became_closed {breaker after : CircuitBreaker} {event : BreakerEvent}
    {decision : Option Bool} (stepped : breakerStep config breaker event = (after, decision))
    (not_closed : breaker.state ≠ .closed) (closed : after.state = .closed) :
    breaker.state = .halfOpen ∧ event = .recordSuccess ∧ decision = none := by
  have move : BreakerMove config breaker event _ := breakerStep_move breaker event
  have decided : (breakerStep config breaker event).2 = decision := congrArg Prod.snd stepped
  rw [stepped] at move
  cases move with
  | admits | blocks | ignores | sleeps => exact absurd closed not_closed
  | probes now since state opened late _ probing =>
      rw [probing] at closed
      cases closed
  | resets not_open =>
      refine ⟨?_, rfl, decided.symm⟩
      cases state : breaker.state with
      | closed => exact absurd state not_closed
      | «open» => exact absurd state not_open
      | halfOpen => rfl
  | counts now code state => exact absurd state not_closed
  | trips now code eligible state _ tripped =>
      rw [tripped] at closed
      cases closed

variable (config)

/-- A schedule in which every call saves what it has made of the current row loses no failure
and forgets no isolation. -/
theorem losesNoFailure_of_savesCurrentRow (row : Option CircuitBreaker)
    (schedule : List SharedStep)
    (current : (sharedBreaker config).Admits SavesCurrentRow (sharedStart row) schedule) :
    LosesNoFailure config row schedule := by
  have one_step : ∀ before step after, schedule = before ++ step :: after →
      SerialStep config ((sharedBreaker config).stateAfter (sharedStart row) before)
        ((sharedBreaker config).stateAfter (sharedStart row) (before ++ [step]))
        (sharedStep config ((sharedBreaker config).stateAfter (sharedStart row) before)
          step).2 := by
    rintro before step after rfl
    obtain ⟨coherent, _⟩ := persisted_stateAfter (coherent_start row) current.left
    rw [Machine.stateAfter_append]
    exact (sharedStep_serial coherent (Machine.admits_cons.mp current.right).1).2
  have returned_eq : ∀ before step call,
      (sharedStep config ((sharedBreaker config).stateAfter (sharedStart row) before) step).2 =
        some call →
      completedCalls config ((sharedBreaker config).stateAfter (sharedStart row) before) [step] =
        [call] := by
    intro before step call returned
    unfold completedCalls
    rw [Machine.trace_cons]
    change (sharedStep config _ step).2.toList ++ _ = _
    rw [returned]
    rfl
  constructor
  · intro before step after split earlier later was_open left
    have stepped := one_step before step after split
    have returned := returned_eq before step
    change SerialStep config earlier later _ at stepped
    generalize (sharedStep config _ step).2 = output at stepped returned
    cases stepped with
    | goesOn same => exact absurd (same ▸ was_open) left
    | returns call stepped =>
        have shown := returned call rfl
        obtain ⟨event, decision⟩ := call
        obtain ⟨probing, now, since, rfl, rfl, opened, late⟩ :=
          left_open stepped was_open left
        exact ⟨probing, now, since, shown, opened, late⟩
  · intro before step after split earlier later not_closed closed
    have stepped := one_step before step after split
    have returned := returned_eq before step
    change SerialStep config earlier later _ at stepped
    generalize (sharedStep config _ step).2 = output at stepped returned
    cases stepped with
    | goesOn same => exact absurd (same ▸ closed) not_closed
    | returns call stepped =>
        have shown := returned call rfl
        obtain ⟨event, decision⟩ := call
        obtain ⟨half, rfl, rfl⟩ := became_closed stepped not_closed closed
        exact ⟨half, shown⟩
  · rintro before stretch after rfl earlier calls unsuccessful enough ⟨last, is_last, failed⟩
    obtain ⟨coherent, _⟩ := persisted_stateAfter (coherent_start row) current.left
    obtain ⟨_, persisted⟩ := persisted_stateAfter coherent current.right.left
    rw [Machine.stateAfter_append, persisted]
    have calls_eq : calls = calls.dropLast ++ [last] := by
      rw [List.getLast?_eq_some_iff] at is_last
      obtain ⟨others, split⟩ := is_last
      rw [split, List.dropLast_concat]
    change ((breakerMachine config).stateAfter _ (calls.map CompletedCall.event)).state = .open
    have events_eq : calls.map CompletedCall.event =
        calls.dropLast.map CompletedCall.event ++ [last.event] := by
      rw [calls_eq, List.map_append, List.dropLast_concat]
      rfl
    rw [events_eq]
    refine open_of_failures _ _ _ ?_ ?_ failed
    · rw [← events_eq]
      intro event member
      obtain ⟨call, among, rfl⟩ := List.mem_map.mp member
      exact unsuccessful call among
    · rw [← events_eq, List.countP_map]
      exact enough

theorem savesCurrentRow_load (shared : SharedBreaker) (worker : Nat) (event : BreakerEvent) :
    SavesCurrentRow shared (.load worker event) := nofun

theorem savesCurrentRow_save {shared : SharedBreaker} {worker : Nat}
    (current : ∀ call, (shared.workers worker).unsaved = some call → call.loaded = shared.row) :
    SavesCurrentRow shared (.save worker) := by
  intro other call same unsaved
  obtain rfl := SharedStep.save.inj same
  exact current call unsaved

end Shared

/-! ## Two failures at once -/

namespace Demo

def twoFailures : CircuitBreakerConfig := { failureThreshold := 2 }

def unavailable : BreakerEvent := .recordFailure 0 (.member .unavailable)

/-- Two workers load the row before either saves it. -/
def overlapping : List SharedStep :=
  [.load 0 unavailable, .load 1 unavailable, .save 0, .save 1]

/-- One worker after the other. -/
def inTurn : List SharedStep := [.load 0 unavailable, .save 0, .load 1 unavailable, .save 1]

end Demo

theorem losesNoFailure_inTurn : LosesNoFailure Demo.twoFailures none Demo.inTurn := by
  apply losesNoFailure_of_savesCurrentRow
  unfold Demo.inTurn
  rw [Machine.admits_cons, Machine.admits_cons, Machine.admits_cons, Machine.admits_cons]
  refine ⟨savesCurrentRow_load _ _ _, savesCurrentRow_save ?_, savesCurrentRow_load _ _ _,
    savesCurrentRow_save ?_, Machine.admits_nil _ _⟩
  · rintro call ⟨⟩
    rfl
  · rintro call ⟨⟩
    rfl

theorem not_losesNoFailure : ¬LosesNoFailure Demo.twoFailures none Demo.overlapping := by
  intro none_lost
  have opened := none_lost.counts [] Demo.overlapping [] rfl (by decide +kernel) (by decide +kernel)
    ⟨{ event := Demo.unavailable, decision := none }, rfl, by decide +kernel⟩
  have closed : ((sharedBreaker Demo.twoFailures).stateAfter (sharedStart none)
      Demo.overlapping).persisted.state = .closed := by decide +kernel
  rw [List.nil_append, closed] at opened
  cases opened

end Era.Core
