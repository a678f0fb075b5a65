import Era.Core.Retry

/-!
# Per-provider circuit breaker

The breaker can only block a dispatch.  It is consulted before provider work and
told the outcome afterwards.
-/

namespace Era.Core

inductive CircuitState where
  | closed
  | open
  | halfOpen
  deriving DecidableEq, Repr

theorem defaultFailureThreshold_pos : 1 ≤ 5 := by decide

theorem defaultCooldownSeconds_nonneg : (0 : ℚ) ≤ 30 := by norm_num

/-- Bounded configuration; the checks of `__post_init__` are fields. -/
structure CircuitBreakerConfig where
  failureThreshold : Nat := 5
  cooldownSeconds : ℚ := 30
  tripCodes : List ProviderErrorCode := defaultRetryableCodes
  failureThreshold_pos : 1 ≤ failureThreshold := by
    first | exact defaultFailureThreshold_pos | decide
  cooldownSeconds_nonneg : 0 ≤ cooldownSeconds := by
    first | exact defaultCooldownSeconds_nonneg | norm_num

/-- True only for codes that may count toward opening the circuit. -/
def CircuitBreakerConfig.isEligible (config : CircuitBreakerConfig)
    (code : ProviderErrorCode) : Bool :=
  code ∈ config.tripCodes

theorem opened_of_closed : CircuitState.closed = .open → (none : Option ℚ).isSome := nofun

/-- State of one breaker.  The source asserts that an open breaker knows when it
opened; a breaker that does not cannot be built here. -/
structure CircuitBreaker where
  state : CircuitState := .closed
  consecutiveFailures : Nat := 0
  openedAt : Option ℚ := none
  opened_of_open : state = .open → openedAt.isSome := by
    first | exact opened_of_closed | decide

namespace CircuitBreaker

/-- Whether a provider may be called now.  After the cooldown an open breaker
becomes half open and admits the request as a probe. -/
def allowRequest (config : CircuitBreakerConfig) (now : ℚ) (breaker : CircuitBreaker) :
    Bool × CircuitBreaker :=
  match breaker.state, breaker.openedAt with
  | .open, some openedAt =>
      if config.cooldownSeconds ≤ now - openedAt then
        (true, { breaker with state := .halfOpen, opened_of_open := nofun })
      else (false, breaker)
  | .open, none => (false, breaker)
  | .closed, _ | .halfOpen, _ => (true, breaker)

/-- Report a successful `execute`. -/
def recordSuccess (breaker : CircuitBreaker) : CircuitBreaker :=
  match breaker.state with
  | .open => breaker
  | .closed | .halfOpen => { state := .closed, consecutiveFailures := 0, openedAt := none }

/-- Report a failed `execute`; ineligible codes change nothing. -/
def recordFailure (config : CircuitBreakerConfig) (now : ℚ) (code : ProviderErrorCode)
    (breaker : CircuitBreaker) : CircuitBreaker :=
  if config.isEligible code then
    match breaker.state with
    | .open => breaker
    | .halfOpen =>
        { state := .open, consecutiveFailures := 1, openedAt := some now,
          opened_of_open := fun _ => rfl }
    | .closed =>
        let failures := breaker.consecutiveFailures + 1
        if config.failureThreshold ≤ failures then
          { state := .open, consecutiveFailures := failures, openedAt := some now,
            opened_of_open := fun _ => rfl }
        else
          { state := .closed, consecutiveFailures := failures, openedAt := breaker.openedAt,
            opened_of_open := nofun }
  else breaker

end CircuitBreaker

end Era.Core
