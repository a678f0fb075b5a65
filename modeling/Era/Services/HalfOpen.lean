import Era.Core.BreakerReference
import Era.Services.Dispatch

/-!
# Probes

An open breaker admits a probe after its cooldown and is half open until the outcome of the
probe is reported.  Dispatches pass its gate in any order and at any time, and some of them end
without a report.
-/

namespace Era.Services

open Era.Core Era.Lib Era.Security

/-! ## Dispatches at the gate -/

/-- What the breaker learns from a dispatch that ends. -/
inductive DispatchEnding where
  | succeeded
  | failed (now : ℚ) (code : ReportedCode)
  /-- `_run_provider` returns, or raises, without a report. -/
  | unreported

inductive GateEvent where
  | requested (now : ℚ)
  | ended (ending : DispatchEnding)

section Gate

variable (config : CircuitBreakerConfig)

def DispatchEnding.report (breaker : CircuitBreaker) : DispatchEnding → CircuitBreaker
  | .succeeded => (breakerStep config breaker .recordSuccess).1
  | .failed now code => (breakerStep config breaker (.recordFailure now code)).1
  | .unreported => breaker

/-- Whether an ending is an outcome that counts: a success or an eligible failure. -/
def DispatchEnding.counts : DispatchEnding → Bool
  | .succeeded => true
  | .failed now code => (BreakerEvent.recordFailure now code).fails config
  | .unreported => false

def GateEvent.reports : GateEvent → Bool
  | .requested _ => false
  | .ended ending => ending.counts config

/-- One event at the gate, and whether it admits a dispatch. -/
def gateStep (breaker : CircuitBreaker) : GateEvent → CircuitBreaker × Bool
  | .requested now =>
      let asked := breaker.allowRequest config now
      (asked.2, asked.1)
  | .ended ending => (ending.report config breaker, false)

def gateMachine : Machine CircuitBreaker GateEvent Bool := { step := gateStep config }

/-- A breaker after events from its construction on. -/
def gateAfter (events : List GateEvent) : CircuitBreaker :=
  (gateMachine config).stateAfter {} events

/-- The dispatches that are admitted during events. -/
def admitted (breaker : CircuitBreaker) (events : List GateEvent) : Nat :=
  ((gateMachine config).outputs breaker events).count true

/-- A breaker that has been open admits one dispatch at most until an outcome is reported, and
a dispatch that ends without one does not open the gate for the others. -/
structure SingleProbe (events : List GateEvent) : Prop where
  one : ∀ before stretch after, events = before ++ (stretch ++ after) →
    (gateAfter config before).state = .open →
    (∀ event ∈ stretch, event.reports config = false) →
    admitted config (gateAfter config before) stretch ≤ 1
  limited : ∀ before ending stretch after,
    events = before ++ .ended ending :: (stretch ++ after) →
    (gateAfter config before).state = .halfOpen → ending.counts config = false →
    (∀ event ∈ stretch, event.reports config = false) →
    admitted config (gateAfter config (before ++ [.ended ending])) stretch ≤ 1

/-- No dispatch is requested of a breaker that is half open. -/
def NoRequestHalfOpen (breaker : CircuitBreaker) (event : GateEvent) : Prop :=
  breaker.state = .halfOpen → ∀ now, event ≠ .requested now

variable {config} {breaker : CircuitBreaker}

theorem report_of_not_counts {ending : DispatchEnding} (silent : ending.counts config = false) :
    ending.report config breaker = breaker := by
  cases ending with
  | succeeded => cases silent
  | failed now code =>
      have ignored : (BreakerEvent.recordFailure now code).matters config = false := silent
      exact congrArg Prod.fst (breakerStep_of_not_matters ignored)
  | unreported => rfl

/-- An outcome that counts is reported, and afterwards the breaker is closed or open. -/
theorem report_not_halfOpen {ending : DispatchEnding} (counting : ending.counts config = true)
    (breaker : CircuitBreaker) : (ending.report config breaker).state ≠ .halfOpen := by
  have of_move {event : BreakerEvent} {after : CircuitBreaker}
      (reports : event.succeeds = true ∨ event.fails config = true)
      (move : BreakerMove config breaker event after) : after.state ≠ .halfOpen := by
    cases move with
    | admits | blocks | probes => simp [BreakerEvent.succeeds, BreakerEvent.fails] at reports
    | ignores _ irrelevant =>
        obtain ⟨no_success, no_failure⟩ := BreakerEvent.quiet_of_not_matters irrelevant
        rw [no_success, no_failure] at reports
        cases reports <;> contradiction
    | sleeps _ state => rw [state]; decide
    | resets _ _ closed => rw [closed]; decide
    | counts _ _ _ _ _ _ closed => rw [closed]; decide
    | trips _ _ _ _ _ tripped => rw [tripped]; decide
  cases ending with
  | succeeded => exact of_move (.inl rfl) (breakerStep_move breaker .recordSuccess)
  | failed now code =>
      have failed : (BreakerEvent.recordFailure now code).fails config = true := counting
      exact of_move (.inr failed) (breakerStep_move breaker (.recordFailure now code))
  | unreported => cases counting

theorem admitted_cons (event : GateEvent) (rest : List GateEvent) :
    admitted config breaker (event :: rest) =
      (if (gateStep config breaker event).2 = true then 1 else 0) +
        admitted config (gateStep config breaker event).1 rest := by
  unfold admitted
  rw [show (gateMachine config).outputs breaker (event :: rest) =
    (gateStep config breaker event).2 ::
      (gateMachine config).outputs (gateStep config breaker event).1 rest from rfl,
    List.count_cons, Nat.add_comm]
  simp

theorem admitted_append (before after : List GateEvent) :
    admitted config breaker (before ++ after) = admitted config breaker before +
      admitted config ((gateMachine config).stateAfter breaker before) after := by
  unfold admitted
  rw [Machine.outputs_append, List.count_append]

theorem gateAfter_append (before after : List GateEvent) :
    gateAfter config (before ++ after) =
      (gateMachine config).stateAfter (gateAfter config before) after :=
  Machine.stateAfter_append ..

theorem gateStep_requested_halfOpen (half : breaker.state = .halfOpen) (now : ℚ) :
    gateStep config breaker (.requested now) = (breaker, true) := by
  unfold gateStep
  dsimp only
  rw [allowRequest_admits (by rw [half]; decide)]

/-- As long as nothing is requested or reported nothing is admitted. -/
theorem admitted_halfOpen (half : breaker.state = .halfOpen) {stretch : List GateEvent}
    (silent : ∀ event ∈ stretch, event.reports config = false)
    (spared : (gateMachine config).Admits NoRequestHalfOpen breaker stretch) :
    admitted config breaker stretch = 0 := by
  induction stretch with
  | nil => rfl
  | cons event rest ih =>
      obtain ⟨first, others⟩ := Machine.admits_cons.mp spared
      obtain ⟨quiet, still⟩ := List.forall_mem_cons.mp silent
      cases event with
      | requested now => exact absurd rfl (first half now)
      | ended ending =>
          have unchanged : (gateStep config breaker (.ended ending)).1 = breaker :=
            report_of_not_counts quiet
          change (gateMachine config).Admits NoRequestHalfOpen
            (gateStep config breaker (.ended ending)).1 rest at others
          rw [unchanged] at others
          rw [admitted_cons, unchanged, ih still others]
          rfl

/-- An open breaker admits its probe. -/
theorem admitted_open (is_open : breaker.state = .open) {stretch : List GateEvent}
    (silent : ∀ event ∈ stretch, event.reports config = false)
    (spared : (gateMachine config).Admits NoRequestHalfOpen breaker stretch) :
    admitted config breaker stretch ≤ 1 := by
  induction stretch with
  | nil => exact Nat.zero_le 1
  | cons event rest ih =>
      obtain ⟨first, others⟩ := Machine.admits_cons.mp spared
      obtain ⟨quiet, still⟩ := List.forall_mem_cons.mp silent
      rw [admitted_cons]
      change (gateMachine config).Admits NoRequestHalfOpen (gateStep config breaker event).1 rest
        at others
      cases event with
      | requested now =>
          obtain ⟨since, opened⟩ :=
            Option.isSome_iff_exists.mp (breaker.opened_of_open is_open)
          by_cases early : now - since < config.cooldownSeconds
          · have blocked : gateStep config breaker (.requested now) = (breaker, false) := by
              unfold gateStep
              dsimp only
              rw [allowRequest_blocks is_open opened early]
            rw [blocked] at others ⊢
            have rest_admitted := ih still others
            simpa using rest_admitted
          · obtain ⟨_, probing⟩ := allowRequest_probes is_open opened early
            have half : (gateStep config breaker (.requested now)).1.state = .halfOpen := probing
            rw [admitted_halfOpen half still others]
            split <;> decide
      | ended ending =>
          have unchanged : gateStep config breaker (.ended ending) = (breaker, false) :=
            congrArg (·, false) (report_of_not_counts quiet)
          rw [unchanged] at others ⊢
          have rest_admitted := ih still others
          simpa using rest_admitted

/-- A breaker that is half open has admitted its probe since it was open, and nothing has been
reported since. -/
theorem exists_probe (events : List GateEvent)
    (half : (gateAfter config events).state = .halfOpen) :
    ∃ before stretch, events = before ++ stretch ∧ (gateAfter config before).state = .open ∧
      (∀ event ∈ stretch, event.reports config = false) ∧
      1 ≤ admitted config (gateAfter config before) stretch := by
  induction events using List.reverseRecOn with
  | nil => cases half
  | append_singleton earlier event ih =>
      have continues (same : (gateAfter config earlier).state = .halfOpen)
          (quiet : event.reports config = false) :
          ∃ before stretch, earlier ++ [event] = before ++ stretch ∧
            (gateAfter config before).state = .open ∧
            (∀ event ∈ stretch, event.reports config = false) ∧
            1 ≤ admitted config (gateAfter config before) stretch := by
        obtain ⟨before, stretch, rfl, was_open, silent, probed⟩ := ih same
        refine ⟨before, stretch ++ [event], List.append_assoc .., was_open, ?_, ?_⟩
        · intro shown member
          obtain old | new := List.mem_append.mp member
          · exact silent shown old
          · obtain rfl := List.mem_singleton.mp new
            exact quiet
        · rw [admitted_append]
          omega
      rw [gateAfter_append] at half
      change (gateStep config (gateAfter config earlier) event).1.state = .halfOpen at half
      cases event with
      | requested now =>
          by_cases was_open : (gateAfter config earlier).state = .open
          · refine ⟨earlier, [.requested now], rfl, was_open, by simp [GateEvent.reports], ?_⟩
            obtain ⟨since, opened⟩ :=
              Option.isSome_iff_exists.mp ((gateAfter config earlier).opened_of_open was_open)
            by_cases early : now - since < config.cooldownSeconds
            · have blocked : (gateStep config (gateAfter config earlier) (.requested now)).1 =
                  gateAfter config earlier :=
                congrArg Prod.snd (allowRequest_blocks was_open opened early)
              rw [blocked, was_open] at half
              cases half
            · have probing :
                  (gateStep config (gateAfter config earlier) (.requested now)).2 = true :=
                (allowRequest_probes was_open opened early).1
              rw [admitted_cons, if_pos probing]
              exact Nat.le_add_right 1 _
          · have unchanged : (gateStep config (gateAfter config earlier) (.requested now)).1 =
                gateAfter config earlier :=
              congrArg Prod.snd (allowRequest_admits was_open)
            rw [unchanged] at half
            exact continues half rfl
      | ended ending =>
          by_cases counting : ending.counts config = true
          · -- An outcome that counts leaves the breaker closed or open.
            exact absurd half (report_not_halfOpen counting _)
          · have quiet : ending.counts config = false := Bool.eq_false_of_not_eq_true counting
            have unchanged : (gateStep config (gateAfter config earlier) (.ended ending)).1 =
                gateAfter config earlier := report_of_not_counts quiet
            rw [unchanged] at half
            exact continues half quiet

variable (config)

end Gate

/-! ## Two requests after a cooldown -/

namespace Demo

def breaker : CircuitBreakerConfig := { failureThreshold := 1 }

/-- The provider fails, and after the cooldown two requests come before either has ended. -/
def twoProbes : List GateEvent :=
  [.ended (.failed 0 (.member .unavailable)), .requested 30, .requested 31]

end Demo

end Era.Services
