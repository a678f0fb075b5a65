import Era.Agents.Turns

/-!
# What a run may use

The counters of a run are compared with its caps, at different places.  A paused run is resumed
with the counters that were persisted; the replans are counted anew in each segment.
-/

namespace Era.Agents

open Era.Core Era.Lib

section Definitions

variable (loop : AgentLoop)

/-- What a run has used in all its segments stays within the caps; `planned` are the model calls
of the planner. -/
structure WithinCaps (caps : AgentBudget) (planned : ℕ) (seen : List LoopEvent) : Prop where
  iterations : (seen.countP LoopEvent.isStarted : ℤ) ≤ max caps.maxIterations 0
  toolCalls : (seen.countP LoopEvent.isRequested : ℤ) ≤ max caps.maxToolCalls 0
  llmCalls : ((planned + seen.countP LoopEvent.isModelCalled : ℕ) : ℤ) ≤ max caps.maxLlmCalls 0
  replans : (seen.countP LoopEvent.isReplanned : ℤ) ≤ max loop.maxReplans 0

/-- The events that a run shows. -/
def shown (start : LoopState) (inputs : List LoopInput) : List LoopEvent :=
  (agentRun loop).trace id start inputs

/-- A verification finally fails in an iteration, and there are repairs for it. -/
def Replans (state : LoopState) (iteration : Iteration) : Prop :=
  ∃ task budget last, loop.turn? state iteration = some (task, budget) ∧
    Judged loop budget task.markRunning iteration last false ∧ ¬Repeats loop task.markRunning ∧
    state.replans < loop.maxReplans ∧ iteration.repairs ≠ []

/-- No turn is begun when the iterations are used up, and no repairs are added when the replans
of the whole run are. -/
def TurnsWithin (start : LoopState) (inputs : List LoopInput) : Prop :=
  ∀ before iteration after, inputs = before ++ .iterate iteration :: after →
    ((loop.turn? ((agentRun loop).stateAfter start before) iteration).isSome →
      (((agentRun loop).stateAfter start before).budget.iterations : ℤ) <
        ((agentRun loop).stateAfter start before).budget.maxIterations) ∧
    (Replans loop ((agentRun loop).stateAfter start before) iteration →
      ((shown loop start before).countP LoopEvent.isReplanned : ℤ) < loop.maxReplans)

end Definitions

section Counters

variable {loop : AgentLoop}

/-- What is persisted of the counters is what has been used. -/
def LoopState.Persisted (state : LoopState) : Prop :=
  ∀ record, state.phase = .ended record →
    record.result.iterations = state.budget.iterations ∧
      record.result.toolCalls = state.budget.toolCalls ∧
      record.result.llmCalls = state.budget.llmCalls

theorem persisted_finish (state : LoopState) (forced : RunStatus) (notes : List String) :
    (state.finish forced notes).Persisted := by
  intro record ended
  obtain rfl := LoopPhase.ended.inj ended
  exact ⟨rfl, rfl, rfl⟩

theorem persisted_driving {state : LoopState} (driving : state.phase = .driving) :
    state.Persisted :=
  fun _ ended => nomatch driving.symm.trans ended

theorem persisted_apply (ending : TurnEnd) {state : LoopState} (driving : state.phase = .driving)
    (task : Task) : (ending.apply state task).Persisted := by
  cases ending with
  | stopped reason => exact persisted_finish state .budgetExceeded _
  | raised exception => exact fun _ ended => nomatch ended
  | paused confirmationId => exact persisted_finish (state.put _) .waitingForUser _
  | failed error => exact persisted_driving driving
  | retried note => exact persisted_driving driving
  | replanned error repairs => exact persisted_driving driving
  | completed last => exact persisted_driving driving

/-- What a turn shows, and what it counts. -/
structure TurnCounts (state next : LoopState) (events : List LoopEvent) : Prop where
  started : events.countP LoopEvent.isStarted = 1
  budget : next.budget =
    { state.budget with
      iterations := state.budget.iterations + 1
      toolCalls := state.budget.toolCalls + events.countP LoopEvent.isRequested
      llmCalls := state.budget.llmCalls + events.countP LoopEvent.isModelCalled }
  toolCalls : (state.budget.toolCalls : ℤ) ≤ max state.budget.maxToolCalls 0 →
    (next.budget.toolCalls : ℤ) ≤ max state.budget.maxToolCalls 0
  llmCalls : (state.budget.llmCalls : ℤ) ≤ max state.budget.maxLlmCalls 0 →
    (next.budget.llmCalls : ℤ) ≤ max state.budget.maxLlmCalls 0

theorem turnCounts {state : LoopState} {iteration : Iteration} {task : Task}
    {budget : AgentBudget} (turn : loop.turn? state iteration = some (task, budget)) :
    TurnCounts state (loopStep loop state (.iterate iteration)).1
      (loopStep loop state (.iterate iteration)).2 := by
  obtain ⟨ending, -, stepped⟩ := loopStep_turn turn
  obtain ⟨-, -, -, asks⟩ := turn?_eq_some.mp turn
  obtain ⟨llmCalls, asked⟩ := @AgentBudget.recordLlmCalls_eq loop.platform
    state.budget.recordIteration iteration.llmCalls
  have more := @AgentBudget.le_recordLlmCalls loop.platform
    state.budget.recordIteration iteration.llmCalls
  have asked_within := @AgentBudget.recordLlmCalls_le loop.platform
    state.budget.recordIteration iteration.llmCalls
  rw [← asks] at asked more asked_within
  obtain ⟨calls_started, calls_model, calls_replanned⟩ := @countP_dispatchCalls loop
    task.markRunning budget none (loop.dispatchable iteration)
  obtain ⟨ends_started, ends_requested, ends_model⟩ := ending.countP_events task.markRunning
  have called := @dispatchCalls_budget loop task.markRunning budget none
    (loop.dispatchable iteration)
  have called_within := @dispatchCalls_within loop task.markRunning budget none
    (loop.dispatchable iteration)
  generalize dispatchCalls loop task.markRunning budget none (loop.dispatchable iteration) =
    dispatched at *
  have requested : (loopStep loop state (.iterate iteration)).2.countP LoopEvent.isRequested =
      dispatched.events.countP LoopEvent.isRequested := by
    rw [stepped]
    simp [List.countP_replicate, ends_requested, LoopEvent.isRequested]
  have modelCalled : (loopStep loop state (.iterate iteration)).2.countP
      LoopEvent.isModelCalled = llmCalls - state.budget.llmCalls := by
    rw [stepped]
    simp [List.countP_replicate, calls_model, ends_model, LoopEvent.isModelCalled, asked]
  have next_budget : (loopStep loop state (.iterate iteration)).1.budget = dispatched.budget := by
    rw [stepped]
    exact budget_apply ending _ _
  have recorded : llmCalls = state.budget.llmCalls + (llmCalls - state.budget.llmCalls) := by
    rw [asked] at more
    exact (Nat.add_sub_of_le more).symm
  refine ⟨?_, ?_, ?_, ?_⟩
  · rw [stepped]
    dsimp only
    rw [List.countP_cons_of_pos rfl]
    simp [List.countP_replicate, calls_started, ends_started, LoopEvent.isStarted]
  · rw [next_budget, called, requested, modelCalled, ← recorded, asked]
    rfl
  · intro within
    rw [next_budget]
    rw [asked] at called_within
    exact called_within within
  · intro within
    rw [next_budget, called]
    exact asked_within within

/-- An iteration replans at most once, and it says when. -/
theorem countP_replanned (state : LoopState) (iteration : Iteration) :
    ((loopStep loop state (.iterate iteration)).2.countP LoopEvent.isReplanned = 1 ∧
        Replans loop state iteration) ∨
      (loopStep loop state (.iterate iteration)).2.countP LoopEvent.isReplanned = 0 ∧
        ¬Replans loop state iteration := by
  cases turn : loop.turn? state iteration with
  | none =>
      refine .inr ⟨by rw [events_idle turn]; rfl, ?_⟩
      rintro ⟨task, budget, last, found, -⟩
      cases turn.symm.trans found
  | some turned =>
      obtain ⟨task, budget⟩ := turned
      obtain ⟨ending, follows, stepped⟩ := loopStep_turn turn
      have calls := (@countP_dispatchCalls loop task.markRunning budget none
        (loop.dispatchable iteration)).2.2
      have shows : (loopStep loop state (.iterate iteration)).2.countP LoopEvent.isReplanned =
          (ending.events task.markRunning).countP LoopEvent.isReplanned := by
        rw [stepped]
        dsimp only
        rw [List.countP_cons_of_neg (by exact Bool.false_ne_true)]
        simp [List.countP_replicate, calls, LoopEvent.isReplanned]
      by_cases replans : ∃ error repairs, ending = .replanned error repairs
      · obtain ⟨error, repairs, rfl⟩ := replans
        obtain ⟨below, rfl, some, last, judged, ends⟩ := follows
        exact .inl ⟨by rw [shows]; rfl, task, budget, last, turn, judged, ends, below, some⟩
      · refine .inr ⟨?_, ?_⟩
        · rw [shows]
          cases ending with
          | replanned error repairs => exact absurd ⟨error, repairs, rfl⟩ replans
          | _ => rfl
        · rintro ⟨task', budget', last, found, judged, ends, below, some⟩
          obtain ⟨rfl, rfl⟩ := Prod.mk.inj (Option.some.inj (turn.symm.trans found))
          obtain ⟨_, -, -, -, no_replan⟩ | ⟨_, -, -, repeats⟩ | ⟨error, repairs, same, -⟩ |
            ⟨-, accepted⟩ := follows.cases_of_judged judged
          · exact no_replan ⟨below, some⟩
          · exact ends repeats
          · exact replans ⟨error, repairs, same⟩
          · cases accepted

/-! ## Over a run -/

/-- The counters say what the run has shown. -/
structure Counted (caps : AgentBudget) (planned : ℕ) (seen : List LoopEvent) (state : LoopState) :
    Prop where
  budget : state.budget =
    caps.restore (seen.countP LoopEvent.isStarted) (seen.countP LoopEvent.isRequested)
      (planned + seen.countP LoopEvent.isModelCalled)
  persisted : state.Persisted
  toolCalls : (state.budget.toolCalls : ℤ) ≤ max caps.maxToolCalls 0
  llmCalls : (state.budget.llmCalls : ℤ) ≤ max caps.maxLlmCalls 0

theorem Counted.iterations {caps : AgentBudget} {planned : ℕ} {seen : List LoopEvent}
    {state : LoopState} (counted : Counted caps planned seen state) :
    state.budget.iterations = seen.countP LoopEvent.isStarted ∧
      state.budget.maxIterations = caps.maxIterations := by
  rw [counted.budget]
  exact ⟨rfl, rfl⟩

theorem Counted.of_same {caps : AgentBudget} {planned : ℕ} {seen : List LoopEvent}
    {state next : LoopState} (counted : Counted caps planned seen state)
    (same : next.budget = state.budget) (persisted : next.Persisted) :
    Counted caps planned (seen ++ []) next := by
  obtain ⟨budget, -, toolCalls, llmCalls⟩ := counted
  rw [List.append_nil]
  exact ⟨same ▸ budget, persisted, same ▸ toolCalls, same ▸ llmCalls⟩

theorem counted_step {caps : AgentBudget} {planned : ℕ} {seen : List LoopEvent}
    {state : LoopState} (input : LoopInput) (counted : Counted caps planned seen state) :
    Counted caps planned (seen ++ (loopStep loop state input).2) (loopStep loop state input).1 := by
  cases input with
  | resume resolutions =>
      obtain stepped | ⟨record, ended, -, stepped⟩ := @loopStep_resume loop state resolutions
      · rw [stepped]
        exact counted.of_same rfl counted.persisted
      · obtain ⟨iterations, toolCalls, llmCalls⟩ := counted.persisted record ended
        rw [stepped]
        refine counted.of_same ?_ (persisted_driving rfl)
        unfold resumeFrom AgentBudget.restore
        dsimp only
        rw [iterations, toolCalls, llmCalls]
  | iterate iteration =>
      cases turn : loop.turn? state iteration with
      | none =>
          obtain ⟨-, stepped⟩ | ⟨driving, ⟨reason, stepped⟩ | ⟨-, -, stepped⟩ | ⟨-, -, stepped⟩⟩ :=
            loopStep_idle turn
          · rw [stepped]
            exact counted.of_same rfl counted.persisted
          · rw [stepped]
            exact counted.of_same rfl (persisted_finish _ _ _)
          · rw [stepped]
            exact counted.of_same rfl (persisted_driving driving)
          · rw [stepped]
            exact counted.of_same rfl (persisted_finish _ _ _)
      | some turned =>
          obtain ⟨task, budget⟩ := turned
          obtain ⟨driving, -⟩ := turn?_eq_some.mp turn
          obtain ⟨ending, -, stepped⟩ := loopStep_turn turn
          obtain ⟨started, next_budget, toolCalls, llmCalls⟩ := turnCounts turn
          have persisted : (loopStep loop state (.iterate iteration)).1.Persisted := by
            rw [stepped]
            exact @persisted_apply ending (state.turned task _) driving _
          have caps_same : state.budget.maxToolCalls = caps.maxToolCalls ∧
              state.budget.maxLlmCalls = caps.maxLlmCalls := by
            rw [counted.budget]
            exact ⟨rfl, rfl⟩
          rw [caps_same.1] at toolCalls
          rw [caps_same.2] at llmCalls
          refine ⟨?_, persisted, toolCalls counted.toolCalls, llmCalls counted.llmCalls⟩
          rw [next_budget, counted.budget, List.countP_append, List.countP_append,
            List.countP_append, started]
          unfold AgentBudget.restore
          simp only [Nat.add_assoc]

theorem counted_start (caps : AgentBudget) (readings : List BudgetReading) (plan : List Task) :
    let start := startRun loop (caps.restore 0 0 0) readings plan
    Counted caps start.budget.llmCalls [] start := by
  obtain ⟨llmCalls, asked⟩ := @AgentBudget.recordLlmCalls_eq loop.platform (caps.restore 0 0 0)
    readings
  have within := @AgentBudget.recordLlmCalls_le loop.platform (caps.restore 0 0 0) readings
    (le_max_right _ _)
  refine ⟨?_, persisted_driving rfl, ?_, within⟩
  · unfold startRun
    dsimp only
    rw [asked]
    rfl
  · unfold startRun
    dsimp only
    rw [asked]
    exact le_max_right _ _

/-- Wherever a run leads, its counters say what it has shown. -/
theorem counted_run (caps : AgentBudget) (readings : List BudgetReading) (plan : List Task)
    (inputs : List LoopInput) :
    let start := startRun loop (caps.restore 0 0 0) readings plan
    Counted caps start.budget.llmCalls (shown loop start inputs)
      ((agentRun loop).stateAfter start inputs) := by
  have always : (agentRun loop).Admits (fun _ _ => True)
      (startRun loop (caps.restore 0 0 0) readings plan) inputs := fun _ _ _ _ => trivial
  exact Machine.trace_invariant_of_admits id (counted_start caps readings plan)
    (fun _ _ input counted _ => counted_step input counted) always

theorem shown_append (start : LoopState) (before : List LoopInput) (input : LoopInput)
    (after : List LoopInput) :
    shown loop start (before ++ input :: after) =
      shown loop start before ++
        ((loopStep loop ((agentRun loop).stateAfter start before) input).2 ++
          shown loop (loopStep loop ((agentRun loop).stateAfter start before) input).1 after) := by
  unfold shown
  rw [Machine.trace_append, Machine.trace_cons]
  rfl

theorem TurnsWithin.left {start : LoopState} {before after : List LoopInput}
    (within : TurnsWithin loop start (before ++ after)) : TurnsWithin loop start before := by
  intro earlier iteration later split
  exact within earlier iteration (later ++ after) (by simp [split])

/-- As long as the turns stay within the caps, so do the iterations and the replans. -/
theorem count_of_turnsWithin {caps : AgentBudget} {readings : List BudgetReading}
    {plan : List Task} {inputs : List LoopInput}
    (within : TurnsWithin loop (startRun loop (caps.restore 0 0 0) readings plan) inputs) :
    let seen := shown loop (startRun loop (caps.restore 0 0 0) readings plan) inputs
    (seen.countP LoopEvent.isStarted : ℤ) ≤ max caps.maxIterations 0 ∧
      (seen.countP LoopEvent.isReplanned : ℤ) ≤ max loop.maxReplans 0 := by
  induction inputs using List.reverseRecOn with
  | nil => exact ⟨le_max_right _ _, le_max_right _ _⟩
  | append_singleton before input ih =>
      obtain ⟨iterations, replans⟩ := ih within.left
      dsimp only
      rw [shown_append]
      have nothing : shown loop (loopStep loop ((agentRun loop).stateAfter
          (startRun loop (caps.restore 0 0 0) readings plan) before) input).1 [] = [] := rfl
      rw [nothing, List.append_nil, List.countP_append, List.countP_append]
      have counted := @counted_run loop caps readings plan before
      cases input with
      | resume resolutions =>
          obtain stepped | ⟨record, -, -, stepped⟩ := @loopStep_resume loop
            ((agentRun loop).stateAfter (startRun loop (caps.restore 0 0 0) readings plan) before)
            resolutions <;>
          · rw [stepped]
            exact ⟨iterations, replans⟩
      | iterate iteration =>
          obtain ⟨begins, repairs⟩ := within before iteration [] rfl
          constructor
          · cases turn : loop.turn? ((agentRun loop).stateAfter
                (startRun loop (caps.restore 0 0 0) readings plan) before) iteration with
            | none =>
                rw [events_idle turn]
                exact iterations
            | some turned =>
                obtain ⟨task, budget⟩ := turned
                have below := begins (by rw [turn]; rfl)
                rw [counted.iterations.1, counted.iterations.2] at below
                rw [(turnCounts turn).started]
                omega
          · obtain ⟨once, now⟩ | ⟨never, -⟩ := @countP_replanned loop
              ((agentRun loop).stateAfter (startRun loop (caps.restore 0 0 0) readings plan) before)
              iteration
            · have below := repairs now
              rw [once]
              omega
            · rw [never]
              exact replans

/-- A run with its resumptions stays within its caps exactly if its turns do: the tool calls and
the model calls always stay within theirs. -/
theorem keeps_within_caps (loop : AgentLoop) (caps : AgentBudget) (readings : List BudgetReading)
    (plan : List Task) (inputs : List LoopInput) :
    let start := startRun loop (caps.restore 0 0 0) readings plan
    WithinCaps loop caps start.budget.llmCalls (shown loop start inputs) ↔
      TurnsWithin loop start inputs := by
  intro start
  constructor
  · rintro ⟨iterations, -, -, replans⟩ before iteration after split
    have counted : Counted caps start.budget.llmCalls (shown loop start before)
        ((agentRun loop).stateAfter start before) := counted_run caps readings plan before
    rw [split, shown_append, List.countP_append, List.countP_append] at iterations replans
    constructor
    · intro begins
      obtain ⟨⟨task, budget⟩, turn⟩ := Option.isSome_iff_exists.mp begins
      obtain ⟨-, passed, -⟩ := turn?_eq_some.mp turn
      have allowed := AgentBudget.check_none passed
      rw [(turnCounts turn).started] at iterations
      rw [counted.iterations.1, counted.iterations.2] at allowed ⊢
      omega
    · intro now
      obtain ⟨once, -⟩ | ⟨-, not_now⟩ := @countP_replanned loop
        ((agentRun loop).stateAfter start before) iteration
      · obtain ⟨-, -, -, -, -, -, below, -⟩ := now
        rw [once] at replans
        omega
      · exact absurd now not_now
  · intro within
    have counted := @counted_run loop caps readings plan inputs
    obtain ⟨iterations, replans⟩ := count_of_turnsWithin within
    have toolCalls := counted.toolCalls
    have llmCalls := counted.llmCalls
    rw [counted.budget] at toolCalls llmCalls
    exact ⟨iterations, toolCalls, llmCalls, replans⟩

end Counters

namespace Demo

/-- One iteration is allowed. -/
def oneIteration : AgentBudget := { maxIterations := 1 }

def opened : Action := { actionType := "browser.navigate", params := [] }

def pages : List Task :=
  [{ id := "first", actionType := "browser.navigate" },
    { id := "second", actionType := "browser.navigate" }]

def openedPage : LoopInput := .iterate { proposed := .ok [(opened, answer .executed)] }

/-- A task is not tried again. -/
def once (id : String) : Task := { id, actionType := "browser.navigate", maxAttempts := 1 }

def failedPage (repair : String) : LoopInput :=
  .iterate { proposed := .ok [(opened, answer .failed)], repairs := [once repair] }

/-- A call that has to be confirmed. -/
def unconfirmed : CallAnswer :=
  { response :=
      { status := .confirmationRequired, decision := .confirm, confirmationId := some "asked" } }

/-- A repair is added, the run is paused and resumed, and another repair is added. -/
def resumed : List LoopInput :=
  [failedPage "repair",
    .iterate { proposed := .ok [(opened, unconfirmed)] },
    .resume [{ confirmationId := "asked", outcome := .executed }],
    failedPage "another"]

end Demo

/-- A second iteration is begun where one is allowed, and a resumed run replans again. -/
theorem not_keeps_within_caps :
    (¬WithinCaps Demo.loop Demo.oneIteration 0 (shown Demo.loop
        (startRun Demo.loop (Demo.oneIteration.restore 0 0 0) [] Demo.pages)
        [Demo.openedPage, Demo.openedPage])) ∧
      ¬WithinCaps Demo.loop {} 0 (shown Demo.loop
        (startRun Demo.loop (AgentBudget.restore {} 0 0 0) []
          [Demo.once "first", Demo.once "second"]) Demo.resumed) := by
  constructor
  · intro within
    exact absurd within.iterations (by decide)
  · intro within
    exact absurd within.replans (by decide)

end Era.Agents
