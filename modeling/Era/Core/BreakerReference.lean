import Era.Core.CircuitBreaker
import Era.Lib.Refinement

/-!
# The breaker and its reference machine

A breaker without a store is asked for admission and told how dispatches have ended.  It is
compared with a reference machine whose states are what they are called: closed with fewer
failures than the threshold, open since a time, or half open.
-/

namespace Era.Core

open Era.Lib

/-! ## Events -/

/-- The members of the taxonomy. -/
def ProviderErrorCode.all : List ProviderErrorCode :=
  [.validation, .auth, .forbidden, .notFound, .conflict, .timeout, .sideEffectUnknown,
    .unavailable, .notImplemented, .providerError, .internal, .unknown]

/-- `ProviderErrorCode(text)`. -/
def ProviderErrorCode.ofValue? (text : String) : Option ProviderErrorCode :=
  all.find? fun code => code.value == text

/-- A failure is reported with a member of the taxonomy or with any text. -/
inductive ReportedCode where
  | member (code : ProviderErrorCode)
  | text (value : String)

/-- The member of the taxonomy that a code stands for. -/
def ReportedCode.resolve : ReportedCode → Option ProviderErrorCode
  | .member code => some code
  | .text value => ProviderErrorCode.ofValue? value

inductive BreakerEvent where
  | allowRequest (now : ℚ)
  | recordSuccess
  | recordFailure (now : ℚ) (code : ReportedCode)

section Breaker

variable (config : CircuitBreakerConfig)

/-- An eligible failure is reported. -/
def BreakerEvent.fails : BreakerEvent → Bool
  | .recordFailure _ code => code.resolve.any config.isEligible
  | .allowRequest _ | .recordSuccess => false

def BreakerEvent.succeeds : BreakerEvent → Bool
  | .recordSuccess => true
  | .allowRequest _ | .recordFailure _ _ => false

/-- Whether an event can change the breaker: everything but a failure with an ineligible
code. -/
def BreakerEvent.matters : BreakerEvent → Bool
  | .recordFailure _ code => code.resolve.any config.isEligible
  | .allowRequest _ | .recordSuccess => true

/-- One event; a request is admitted or blocked. -/
def breakerStep (breaker : CircuitBreaker) : BreakerEvent → CircuitBreaker × Option Bool
  | .allowRequest now =>
      let asked := breaker.allowRequest config now
      (asked.2, some asked.1)
  | .recordSuccess => (breaker.recordSuccess, none)
  | .recordFailure now code =>
      match code.resolve with
      | none => (breaker, none)
      | some code => (breaker.recordFailure config now code, none)

def breakerMachine : Machine CircuitBreaker BreakerEvent (Option Bool) :=
  { step := breakerStep config }

/-- A breaker after events from its construction on. -/
def breakerAfter (events : List BreakerEvent) : CircuitBreaker :=
  (breakerMachine config).stateAfter {} events

/-! ## The reference machine -/

inductive ReferenceBreaker (threshold : Nat) where
  | closed (failures : Fin threshold)
  | open (since : ℚ)
  | halfOpen

/-- An eligible failure of the reference machine. -/
def ReferenceBreaker.fail {threshold : Nat} (now : ℚ) :
    ReferenceBreaker threshold → ReferenceBreaker threshold
  | .closed failures =>
      if below : failures + 1 < threshold then .closed ⟨failures + 1, below⟩ else .open now
  | .open since => .open since
  | .halfOpen => .open now

/-- A closed machine without failures. -/
def ReferenceBreaker.start : ReferenceBreaker config.failureThreshold :=
  .closed ⟨0, config.failureThreshold_pos⟩

def referenceStep (reference : ReferenceBreaker config.failureThreshold) :
    BreakerEvent → ReferenceBreaker config.failureThreshold × Option Bool
  | .allowRequest now =>
      match reference with
      | .open since =>
          if now - since < config.cooldownSeconds then (reference, some false)
          else (.halfOpen, some true)
      | .closed _ | .halfOpen => (reference, some true)
  | .recordSuccess =>
      match reference with
      | .open _ => (reference, none)
      | .closed _ | .halfOpen => (.start config, none)
  | .recordFailure now code =>
      if code.resolve.any config.isEligible then (reference.fail now, none) else (reference, none)

def referenceMachine :
    Machine (ReferenceBreaker config.failureThreshold) BreakerEvent (Option Bool) :=
  { step := referenceStep config }

/-- What a breaker stands for. -/
inductive StandsFor (breaker : CircuitBreaker) :
    ReferenceBreaker config.failureThreshold → Prop where
  | closed (failures : Fin config.failureThreshold) (state : breaker.state = .closed)
      (counted : breaker.consecutiveFailures = failures) : StandsFor breaker (.closed failures)
  | open (since : ℚ) (state : breaker.state = .open) (opened : breaker.openedAt = some since) :
      StandsFor breaker (.open since)
  | halfOpen (state : breaker.state = .halfOpen) : StandsFor breaker .halfOpen

variable {config}

/-! ## The gate -/

theorem allowRequest_admits {breaker : CircuitBreaker} {now : ℚ}
    (not_open : breaker.state ≠ .open) :
    breaker.allowRequest config now = (true, breaker) := by
  unfold CircuitBreaker.allowRequest
  split
  next state _ => exact absurd state not_open
  next state _ => exact absurd state not_open
  next => rfl
  next => rfl

theorem allowRequest_blocks {breaker : CircuitBreaker} {now since : ℚ}
    (state : breaker.state = .open) (opened : breaker.openedAt = some since)
    (early : now - since < config.cooldownSeconds) :
    breaker.allowRequest config now = (false, breaker) := by
  obtain ⟨_, failures, _, _⟩ := breaker
  subst state opened
  unfold CircuitBreaker.allowRequest
  dsimp only
  rw [if_neg (not_le.mpr early)]

theorem allowRequest_probes {breaker : CircuitBreaker} {now since : ℚ}
    (state : breaker.state = .open) (opened : breaker.openedAt = some since)
    (late : ¬now - since < config.cooldownSeconds) :
    (breaker.allowRequest config now).1 = true ∧
      (breaker.allowRequest config now).2.state = .halfOpen := by
  obtain ⟨_, failures, _, _⟩ := breaker
  subst state opened
  unfold CircuitBreaker.allowRequest
  dsimp only
  rw [if_pos (not_lt.mp late)]
  exact ⟨rfl, rfl⟩

/-! ## The refinement -/

theorem recordFailure_eq_self {breaker : CircuitBreaker} {now : ℚ} {code : ProviderErrorCode}
    (ineligible : config.isEligible code = false) :
    breaker.recordFailure config now code = breaker := by
  unfold CircuitBreaker.recordFailure
  rw [ineligible]
  rfl

/-- A failure that is reported with an ineligible code changes nothing. -/
theorem breakerStep_of_not_matters {breaker : CircuitBreaker} {event : BreakerEvent}
    (ignored : event.matters config = false) :
    breakerStep config breaker event = (breaker, none) := by
  cases event with
  | allowRequest now => cases ignored
  | recordSuccess => cases ignored
  | recordFailure now code =>
      unfold BreakerEvent.matters at ignored
      unfold breakerStep
      dsimp only at ignored ⊢
      cases resolved : code.resolve with
      | none => rfl
      | some known =>
          rw [resolved] at ignored
          dsimp only
          rw [recordFailure_eq_self ignored]

/-- An event that changes nothing is no report that counts. -/
theorem BreakerEvent.quiet_of_not_matters {event : BreakerEvent}
    (ignored : event.matters config = false) :
    event.succeeds = false ∧ event.fails config = false := by
  cases event with
  | allowRequest now => exact ⟨rfl, rfl⟩
  | recordSuccess => cases ignored
  | recordFailure now code => exact ⟨rfl, ignored⟩

theorem standsFor_start : StandsFor config {} (.start config) :=
  .closed _ rfl rfl

/-- An eligible failure does to the breaker what it does to the reference machine. -/
theorem standsFor_fail {breaker : CircuitBreaker}
    {reference : ReferenceBreaker config.failureThreshold} {now : ℚ} {code : ProviderErrorCode}
    (eligible : config.isEligible code = true) (stands : StandsFor config breaker reference) :
    StandsFor config (breaker.recordFailure config now code) (reference.fail now) := by
  unfold CircuitBreaker.recordFailure
  rw [if_pos eligible]
  cases stands with
  | closed failures state counted =>
      rw [state]
      dsimp only
      unfold ReferenceBreaker.fail
      dsimp only
      rw [counted]
      by_cases below : failures + 1 < config.failureThreshold
      · rw [if_neg (not_le.mpr below), dif_pos below]
        exact .closed _ rfl rfl
      · rw [if_pos (not_lt.mp below), dif_neg below]
        exact .open now rfl rfl
  | «open» since state opened =>
      rw [state]
      exact .open since state opened
  | halfOpen state =>
      rw [state]
      exact .open now rfl rfl

theorem breaker_refines_step {breaker : CircuitBreaker}
    {reference : ReferenceBreaker config.failureThreshold} (event : BreakerEvent)
    (stands : StandsFor config breaker reference) :
    (breakerStep config breaker event).2 = (referenceStep config reference event).2 ∧
      StandsFor config (breakerStep config breaker event).1
        (referenceStep config reference event).1 := by
  cases event with
  | allowRequest now =>
      unfold breakerStep referenceStep
      dsimp only
      cases stands with
      | closed failures state counted =>
          rw [allowRequest_admits (by rw [state]; decide)]
          exact ⟨rfl, .closed failures state counted⟩
      | «open» since state opened =>
          dsimp only
          by_cases early : now - since < config.cooldownSeconds
          · rw [allowRequest_blocks state opened early, if_pos early]
            exact ⟨rfl, .open since state opened⟩
          · obtain ⟨admitted, probing⟩ := allowRequest_probes state opened early
            rw [admitted, if_neg early]
            exact ⟨rfl, .halfOpen probing⟩
      | halfOpen state =>
          rw [allowRequest_admits (by rw [state]; decide)]
          exact ⟨rfl, .halfOpen state⟩
  | recordSuccess =>
      unfold breakerStep referenceStep CircuitBreaker.recordSuccess
      cases stands with
      | closed failures state counted =>
          rw [state]
          exact ⟨rfl, standsFor_start⟩
      | «open» since state opened =>
          rw [state]
          exact ⟨rfl, .open since state opened⟩
      | halfOpen state =>
          rw [state]
          exact ⟨rfl, standsFor_start⟩
  | recordFailure now code =>
      unfold breakerStep referenceStep
      dsimp only
      cases resolved : code.resolve with
      | none => exact ⟨rfl, stands⟩
      | some known =>
          dsimp only [Option.any_some]
          by_cases eligible : config.isEligible known = true
          · rw [if_pos eligible]
            exact ⟨rfl, standsFor_fail eligible stands⟩
          · rw [if_neg eligible, recordFailure_eq_self (Bool.eq_false_of_not_eq_true eligible)]
            exact ⟨rfl, stands⟩

variable (config)

theorem breaker_refines :
    Refines (breakerMachine config) (referenceMachine config) (StandsFor config) :=
  { output_eq := fun _ _ event stands => (breaker_refines_step event stands).1
    step_related := fun _ _ event stands => (breaker_refines_step event stands).2 }

/-! ## What the breaker does -/

/-- The eligible failures since the last success. -/
def failureStreak (events : List BreakerEvent) : Nat :=
  (events.reverse.takeWhile fun event => !event.succeeds).countP (BreakerEvent.fails config)

/-- A breaker behaves as the reference machine, as far as these events take it. -/
structure FollowsReference (events : List BreakerEvent) : Prop where
  decisions : (breakerMachine config).outputs {} events =
    (referenceMachine config).outputs (.start config) events
  stands : StandsFor config (breakerAfter config events)
    ((referenceMachine config).stateAfter (.start config) events)
  below : (breakerAfter config events).state = .closed →
    (breakerAfter config events).consecutiveFailures < config.failureThreshold
  opens : ∀ event, (breakerAfter config events).state ≠ .open →
    ((breakerAfter config (events ++ [event])).state = .open ↔
      event.fails config = true ∧ ((breakerAfter config events).state = .halfOpen ∨
        (breakerAfter config events).state = .closed ∧
          failureStreak config (events ++ [event]) = config.failureThreshold))
  openedAt : ∀ now code, (breakerAfter config events).state ≠ .open →
    (breakerAfter config (events ++ [.recordFailure now code])).state = .open →
    (breakerAfter config (events ++ [.recordFailure now code])).openedAt = some now
  blocks : ∀ now, (breakerAfter config events).state = .open →
    ∃ since, (breakerAfter config events).openedAt = some since ∧
      (((breakerAfter config events).allowRequest config now).1 = false ↔
        now - since < config.cooldownSeconds)
  closes : (breakerAfter config events).state = .halfOpen →
    (breakerAfter config (events ++ [.recordSuccess])).state = .closed
  resets : (breakerAfter config events).state ≠ .open →
    (breakerAfter config (events ++ [.recordSuccess])).consecutiveFailures = 0
  ignores : ∀ later, (breakerMachine config).outputs (breakerAfter config events) later =
    (breakerMachine config).outputs
      (breakerAfter config (events.filter (BreakerEvent.matters config))) later

variable {config}

theorem breakerAfter_concat (events : List BreakerEvent) (event : BreakerEvent) :
    breakerAfter config (events ++ [event]) =
      (breakerStep config (breakerAfter config events) event).1 := by
  unfold breakerAfter
  rw [Machine.stateAfter_append]
  rfl

theorem failureStreak_concat (events : List BreakerEvent) (event : BreakerEvent) :
    failureStreak config (events ++ [event]) =
      if event.succeeds = true then 0
      else failureStreak config events + if event.fails config = true then 1 else 0 := by
  unfold failureStreak
  rw [List.reverse_append, List.reverse_singleton, List.singleton_append, List.takeWhile_cons]
  cases succeeded : event.succeeds with
  | true => rfl
  | false =>
      rw [Bool.not_false, if_pos rfl, if_neg (by decide), List.countP_cons]

/-- The ways in which an event changes a breaker. -/
inductive BreakerMove (config : CircuitBreakerConfig) (breaker : CircuitBreaker) :
    BreakerEvent → CircuitBreaker → Prop where
  | admits (now : ℚ) (not_open : breaker.state ≠ .open) :
      BreakerMove config breaker (.allowRequest now) breaker
  | blocks (now since : ℚ) (state : breaker.state = .open)
      (opened : breaker.openedAt = some since) (early : now - since < config.cooldownSeconds) :
      BreakerMove config breaker (.allowRequest now) breaker
  | probes (now since : ℚ) (state : breaker.state = .open)
      (opened : breaker.openedAt = some since) (late : ¬now - since < config.cooldownSeconds)
      (after : CircuitBreaker) (probing : after.state = .halfOpen) :
      BreakerMove config breaker (.allowRequest now) after
  | ignores (event : BreakerEvent) (irrelevant : event.matters config = false) :
      BreakerMove config breaker event breaker
  | sleeps (event : BreakerEvent) (state : breaker.state = .open)
      (reports : event.succeeds = true ∨ event.fails config = true) :
      BreakerMove config breaker event breaker
  | resets (not_open : breaker.state ≠ .open) (after : CircuitBreaker)
      (closed : after.state = .closed) (counted : after.consecutiveFailures = 0) :
      BreakerMove config breaker .recordSuccess after
  | counts (now : ℚ) (code : ReportedCode) (state : breaker.state = .closed)
      (eligible : (BreakerEvent.recordFailure now code).fails config = true)
      (below : breaker.consecutiveFailures + 1 < config.failureThreshold)
      (after : CircuitBreaker) (closed : after.state = .closed)
      (counted : after.consecutiveFailures = breaker.consecutiveFailures + 1) :
      BreakerMove config breaker (.recordFailure now code) after
  | trips (now : ℚ) (code : ReportedCode)
      (eligible : (BreakerEvent.recordFailure now code).fails config = true)
      (state : breaker.state = .halfOpen ∨ breaker.state = .closed ∧
        config.failureThreshold ≤ breaker.consecutiveFailures + 1)
      (after : CircuitBreaker) (tripped : after.state = .open)
      (opened : after.openedAt = some now) :
      BreakerMove config breaker (.recordFailure now code) after

theorem allowRequest_move (breaker : CircuitBreaker) (now : ℚ) :
    BreakerMove config breaker (.allowRequest now) (breaker.allowRequest config now).2 := by
  by_cases state : breaker.state = .open
  · obtain ⟨since, opened⟩ := Option.isSome_iff_exists.mp (breaker.opened_of_open state)
    by_cases early : now - since < config.cooldownSeconds
    · rw [allowRequest_blocks state opened early]
      exact .blocks now since state opened early
    · exact .probes now since state opened early _ (allowRequest_probes state opened early).2
  · rw [allowRequest_admits state]
    exact .admits now state

theorem recordSuccess_move (breaker : CircuitBreaker) :
    BreakerMove config breaker .recordSuccess breaker.recordSuccess := by
  unfold CircuitBreaker.recordSuccess
  cases state : breaker.state with
  | «open» => exact .sleeps _ state (.inl rfl)
  | closed => exact .resets (by rw [state]; decide) _ rfl rfl
  | halfOpen => exact .resets (by rw [state]; decide) _ rfl rfl

theorem recordFailure_move (breaker : CircuitBreaker) (now : ℚ) (code : ReportedCode) :
    BreakerMove config breaker (.recordFailure now code)
      (breakerStep config breaker (.recordFailure now code)).1 := by
  by_cases eligible : (BreakerEvent.recordFailure now code).fails config = true
  · have failed := eligible
    unfold BreakerEvent.fails at failed
    unfold breakerStep
    dsimp only at failed ⊢
    cases resolved : code.resolve with
    | none =>
        rw [resolved] at failed
        cases failed
    | some known =>
        rw [resolved, Option.any_some] at failed
        unfold CircuitBreaker.recordFailure
        dsimp only
        rw [if_pos failed]
        cases state : breaker.state with
        | «open» => exact .sleeps _ state (.inr eligible)
        | halfOpen => exact .trips now code eligible (.inl state) _ rfl rfl
        | closed =>
            dsimp only
            by_cases reached : config.failureThreshold ≤ breaker.consecutiveFailures + 1
            · rw [if_pos reached]
              exact .trips now code eligible (.inr ⟨state, reached⟩) _ rfl rfl
            · rw [if_neg reached]
              exact .counts now code state eligible (not_le.mp reached) _ rfl rfl
  · have irrelevant : (BreakerEvent.recordFailure now code).matters config = false :=
      Bool.eq_false_of_not_eq_true eligible
    rw [breakerStep_of_not_matters irrelevant]
    exact .ignores _ irrelevant

/-- Every event makes one of the moves. -/
theorem breakerStep_move (breaker : CircuitBreaker) (event : BreakerEvent) :
    BreakerMove config breaker event (breakerStep config breaker event).1 := by
  cases event with
  | allowRequest now => exact allowRequest_move breaker now
  | recordSuccess => exact recordSuccess_move breaker
  | recordFailure now code => exact recordFailure_move breaker now code

/-- While a breaker is closed it counts the eligible failures since the last success. -/
theorem counted_of_closed (events : List BreakerEvent)
    (closed : (breakerAfter config events).state = .closed) :
    (breakerAfter config events).consecutiveFailures = failureStreak config events ∧
      (breakerAfter config events).consecutiveFailures < config.failureThreshold := by
  induction events using List.reverseRecOn with
  | nil => exact ⟨rfl, config.failureThreshold_pos⟩
  | append_singleton before event ih =>
      rw [failureStreak_concat]
      rw [breakerAfter_concat] at closed ⊢
      have move : BreakerMove config _ event _ :=
        breakerStep_move (breakerAfter config before) event
      generalize (breakerStep config (breakerAfter config before) event).1 = after at closed move ⊢
      cases move with
      | admits now not_open =>
          rw [if_neg (by simp [BreakerEvent.succeeds]), if_neg (by simp [BreakerEvent.fails])]
          exact ih closed
      | blocks now since state | sleeps _ state =>
          rw [state] at closed
          cases closed
      | probes now since state opened late _ probing =>
          rw [probing] at closed
          cases closed
      | ignores _ irrelevant =>
          obtain ⟨no_success, no_failure⟩ := BreakerEvent.quiet_of_not_matters irrelevant
          rw [no_success, no_failure, if_neg (by decide), if_neg (by decide)]
          exact ih closed
      | resets not_open _ _ counted =>
          rw [counted]
          exact ⟨rfl, config.failureThreshold_pos⟩
      | counts now code state eligible below _ _ counted =>
          rw [counted, eligible, if_neg (by simp [BreakerEvent.succeeds]), if_pos rfl,
            ← (ih state).1]
          exact ⟨rfl, below⟩
      | trips now code eligible state _ tripped =>
          rw [tripped] at closed
          cases closed

/-- What opens a breaker that is not open. -/
theorem opens_iff (events : List BreakerEvent) (event : BreakerEvent)
    (not_open : (breakerAfter config events).state ≠ .open) :
    (breakerAfter config (events ++ [event])).state = .open ↔
      event.fails config = true ∧ ((breakerAfter config events).state = .halfOpen ∨
        (breakerAfter config events).state = .closed ∧
          failureStreak config (events ++ [event]) = config.failureThreshold) := by
  have counted := @counted_of_closed config events
  rw [failureStreak_concat, breakerAfter_concat]
  have move : BreakerMove config _ event _ := breakerStep_move (breakerAfter config events) event
  generalize (breakerStep config (breakerAfter config events) event).1 = after at move ⊢
  cases move with
  | admits now _ =>
      refine ⟨fun opened => absurd opened not_open, ?_⟩
      rintro ⟨failed, _⟩
      cases failed
  | blocks now since state | sleeps _ state => exact absurd state not_open
  | probes now since state => exact absurd state not_open
  | ignores _ irrelevant =>
      refine ⟨fun opened => absurd opened not_open, ?_⟩
      rintro ⟨failed, _⟩
      rw [(BreakerEvent.quiet_of_not_matters irrelevant).2] at failed
      cases failed
  | resets _ _ closed _ =>
      rw [closed]
      constructor
      · rintro ⟨⟩
      · rintro ⟨failed, _⟩
        cases failed
  | counts now code state eligible below _ closed _ =>
      rw [closed, eligible, if_neg (by simp [BreakerEvent.succeeds]), if_pos rfl, state,
        ← (counted state).1]
      refine ⟨by rintro ⟨⟩, ?_⟩
      rintro ⟨_, half | ⟨_, reached⟩⟩
      · cases half
      · omega
  | trips now code eligible state _ tripped _ =>
      rw [eligible, if_neg (by simp [BreakerEvent.succeeds]), if_pos rfl]
      refine ⟨fun _ => ⟨rfl, ?_⟩, fun _ => tripped⟩
      obtain half | ⟨closed, reached⟩ := state
      · exact .inl half
      · obtain ⟨streak, below⟩ := counted closed
        exact .inr ⟨closed, by omega⟩

variable (config)

/-- Without a store a breaker is the reference machine, whatever is reported and whatever its
clock says. -/
theorem breaker_follows_reference (events : List BreakerEvent) : FollowsReference config events :=
  { decisions := (breaker_refines config).outputs_eq standsFor_start events
    stands := (breaker_refines config).stateAfter standsFor_start events
    below := fun closed => (counted_of_closed events closed).2
    opens := opens_iff events
    openedAt := by
      intro now code not_open opened
      rw [breakerAfter_concat] at opened ⊢
      have move : BreakerMove config _ (.recordFailure now code) _ :=
        breakerStep_move (breakerAfter config events) (.recordFailure now code)
      generalize (breakerStep config (breakerAfter config events) (.recordFailure now code)).1 =
        after at opened move ⊢
      cases move with
      | ignores => exact absurd opened not_open
      | sleeps _ state => exact absurd state not_open
      | counts _ _ state eligible below _ closed =>
          rw [closed] at opened
          cases opened
      | trips _ _ eligible state _ tripped stamped => exact stamped
    blocks := by
      intro now state
      obtain ⟨since, opened⟩ :=
        Option.isSome_iff_exists.mp ((breakerAfter config events).opened_of_open state)
      refine ⟨since, opened, ?_⟩
      by_cases early : now - since < config.cooldownSeconds
      · rw [allowRequest_blocks state opened early]
        exact iff_of_true rfl early
      · rw [(allowRequest_probes state opened early).1]
        exact iff_of_false (by decide) early
    closes := by
      intro half
      rw [breakerAfter_concat]
      unfold breakerStep CircuitBreaker.recordSuccess
      rw [half]
    resets := by
      intro not_open
      rw [breakerAfter_concat]
      unfold breakerStep CircuitBreaker.recordSuccess
      cases state : (breakerAfter config events).state with
      | «open» => exact absurd state not_open
      | closed => rfl
      | halfOpen => rfl
    ignores := by
      intro later
      have ignored : ∀ breaker event, event.matters config = false →
          ((breakerMachine config).step breaker event).1 = breaker := by
        intro breaker event irrelevant
        exact congrArg Prod.fst (breakerStep_of_not_matters irrelevant)
      unfold breakerAfter
      rw [Machine.stateAfter_filter ignored] }

end Breaker

end Era.Core
