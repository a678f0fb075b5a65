import Mathlib.Data.List.Induction
import Mathlib.Tactic.TypeStar

/-!
# Deterministic machines and their runs

A machine reads one input at a time, moves to its next state and answers with
an output.  Whatever a real system leaves open (clocks, replies of remote
parties, failures) is part of the input, so a list of inputs is one history of
the system and quantifying over lists quantifies over all of its histories.

The rules below turn facts about one step into facts about whole runs.
-/

namespace Era.Lib

universe u v w

/-- One transition of a system that answers every input. -/
structure Machine (State : Type u) (Input : Type v) (Output : Type w) where
  step : State → Input → State × Output

namespace Machine

variable {State : Type u} {Input : Type v} {Output : Type w}
variable (machine : Machine State Input Output)

/-- The state in which a list of inputs leaves the machine. -/
def stateAfter (start : State) (inputs : List Input) : State :=
  inputs.foldl (fun state input => (machine.step state input).1) start

/-- The answers to a list of inputs, in order. -/
def outputs : State → List Input → List Output
  | _, [] => []
  | state, input :: rest =>
      (machine.step state input).2 :: outputs (machine.step state input).1 rest

@[simp] theorem stateAfter_nil (start : State) :
    machine.stateAfter start [] = start := rfl

@[simp] theorem stateAfter_cons (start : State) (input : Input) (rest : List Input) :
    machine.stateAfter start (input :: rest) =
      machine.stateAfter (machine.step start input).1 rest := rfl

@[simp] theorem stateAfter_append (start : State) (before after : List Input) :
    machine.stateAfter start (before ++ after) =
      machine.stateAfter (machine.stateAfter start before) after :=
  List.foldl_append

@[simp] theorem outputs_nil (start : State) : machine.outputs start [] = [] := rfl

@[simp] theorem outputs_append (start : State) (before after : List Input) :
    machine.outputs start (before ++ after) =
      machine.outputs start before ++
        machine.outputs (machine.stateAfter start before) after := by
  induction before generalizing start with
  | nil => rfl
  | cons input before ih => simp [outputs, ih]

theorem outputs_singleton (start : State) (input : Input) :
    machine.outputs start [input] = [(machine.step start input).2] := rfl

/-- Every step of the run satisfies a condition on the state it starts from and
the input it reads. -/
def Admits (condition : State → Input → Prop) (start : State)
    (inputs : List Input) : Prop :=
  ∀ before input after, inputs = before ++ input :: after →
    condition (machine.stateAfter start before) input

/-- Induction on a run, one input at a time from the left.  The motive sees the
inputs read so far, so it can speak about the history of the state. -/
theorem run_induction {motive : List Input → State → Prop} (start : State)
    (base : motive [] start)
    (step : ∀ before input, motive before (machine.stateAfter start before) →
      motive (before ++ [input])
        (machine.step (machine.stateAfter start before) input).1)
    (inputs : List Input) : motive inputs (machine.stateAfter start inputs) := by
  induction inputs using List.reverseRecOn with
  | nil => exact base
  | append_singleton before input ih =>
      rw [stateAfter_append]
      exact step before input ih

variable {machine}

theorem Admits.left {condition : State → Input → Prop} {start : State}
    {before after : List Input}
    (admitted : machine.Admits condition start (before ++ after)) :
    machine.Admits condition start before := by
  intro earlier input later split
  exact admitted earlier input (later ++ after) (by simp [split])

theorem Admits.right {condition : State → Input → Prop} {start : State}
    {before after : List Input}
    (admitted : machine.Admits condition start (before ++ after)) :
    machine.Admits condition (machine.stateAfter start before) after := by
  intro earlier input later split
  have reached := admitted (before ++ earlier) input later (by simp [split])
  simpa using reached

@[simp] theorem admits_nil (condition : State → Input → Prop) (start : State) :
    machine.Admits condition start [] := by
  intro before input after split
  simp at split

theorem admits_cons {condition : State → Input → Prop} {start : State} {input : Input}
    {rest : List Input} :
    machine.Admits condition start (input :: rest) ↔
      condition start input ∧ machine.Admits condition (machine.step start input).1 rest := by
  constructor
  · intro admitted
    have split : machine.Admits condition start ([input] ++ rest) := admitted
    exact ⟨admitted [] input rest rfl, split.right⟩
  · rintro ⟨first, tail⟩ before chosen after split
    cases before with
    | nil =>
        obtain ⟨rfl, rfl⟩ := List.cons.inj split
        exact first
    | cons head before =>
        obtain ⟨rfl, rfl⟩ := List.cons.inj split
        exact tail before chosen after rfl

theorem admits_congr {first second : State → Input → Prop}
    (same : ∀ state input, first state input ↔ second state input) {start : State}
    {inputs : List Input} :
    machine.Admits first start inputs ↔ machine.Admits second start inputs :=
  forall_congr' fun _ => forall_congr' fun _ => forall_congr' fun _ =>
    imp_congr_right fun _ => same _ _

theorem Admits.and {first second : State → Input → Prop} {start : State} {inputs : List Input}
    (one : machine.Admits first start inputs) (other : machine.Admits second start inputs) :
    machine.Admits (fun state input => first state input ∧ second state input) start inputs :=
  fun before input after split => ⟨one before input after split, other before input after split⟩

/-- Whether a run is admitted can be computed where the condition can. -/
instance decidableAdmits (condition : State → Input → Prop)
    [∀ state input, Decidable (condition state input)] :
    (start : State) → (inputs : List Input) → Decidable (machine.Admits condition start inputs)
  | start, [] => isTrue (admits_nil condition start)
  | start, input :: rest =>
      have := decidableAdmits condition (machine.step start input).1 rest
      decidable_of_iff (condition start input ∧
        machine.Admits condition (machine.step start input).1 rest) admits_cons.symm

theorem admits_append {condition : State → Input → Prop} {start : State}
    {before after : List Input} :
    machine.Admits condition start (before ++ after) ↔
      machine.Admits condition start before ∧
        machine.Admits condition (machine.stateAfter start before) after := by
  constructor
  · exact fun admitted => ⟨admitted.left, admitted.right⟩
  · rintro ⟨first, second⟩
    induction before generalizing start with
    | nil => exact second
    | cons input before ih =>
        rw [admits_cons] at first
        exact admits_cons.mpr ⟨first.1, ih first.2 second⟩

/-- A property that every admitted step keeps holds wherever an admitted run
leads. -/
theorem invariant_of_admits {motive : State → Prop}
    {condition : State → Input → Prop} {start : State} {inputs : List Input}
    (initially : motive start)
    (preserved : ∀ state input, motive state → condition state input →
      motive (machine.step state input).1)
    (admitted : machine.Admits condition start inputs) :
    motive (machine.stateAfter start inputs) := by
  induction inputs generalizing start with
  | nil => exact initially
  | cons input rest ih =>
      obtain ⟨first, tail⟩ := admits_cons.mp admitted
      exact ih (preserved start input initially first) tail

/-- What follows of a step from an invariant holds of every step of an admitted run. -/
theorem Admits.of_invariant {motive : State → Prop} {condition property : State → Input → Prop}
    {start : State} {inputs : List Input} (initially : motive start)
    (preserved : ∀ state input, motive state → condition state input →
      motive (machine.step state input).1)
    (holds : ∀ state input, motive state → condition state input → property state input)
    (admitted : machine.Admits condition start inputs) :
    machine.Admits property start inputs := by
  intro before input after split
  have reached : machine.Admits condition start before := (split ▸ admitted).left
  have holds_here := invariant_of_admits initially preserved reached
  exact holds _ input holds_here (admitted before input after split)

/-- A property that every step keeps holds wherever a run leads. -/
theorem invariant {motive : State → Prop} {start : State} (initially : motive start)
    (preserved : ∀ state input, motive state → motive (machine.step state input).1)
    (inputs : List Input) : motive (machine.stateAfter start inputs) := by
  have admitted : machine.Admits (fun _ _ => True) start inputs := fun _ _ _ _ => True.intro
  exact invariant_of_admits initially
    (fun state input holds _ => preserved state input holds) admitted

/-- A run whose steps decrease a measure as long as it goes on does not go on forever. -/
theorem exists_stateAfter_not {goes : State → Prop} {Measure : Type*}
    {less : Measure → Measure → Prop} (wellFounded : WellFounded less)
    (measure : State → Measure) {inputs : ℕ → Input}
    (decreases : ∀ state index, goes state → goes (machine.step state (inputs index)).1 →
      less (measure (machine.step state (inputs index)).1) (measure state))
    (start : State) :
    ∃ count, ¬goes (machine.stateAfter start ((List.range count).map inputs)) := by
  generalize measured : measure start = value
  induction value using wellFounded.induction generalizing start inputs with
  | _ value ih =>
      by_cases going : goes start
      · by_cases goes_on : goes (machine.step start (inputs 0)).1
        · have less_now := decreases start 0 going goes_on
          rw [measured] at less_now
          obtain ⟨count, stopped⟩ := @ih _ less_now (fun index => inputs (index + 1))
            (fun state index => decreases state (index + 1)) _ rfl
          refine ⟨count + 1, ?_⟩
          rw [List.range_succ_eq_map, List.map_cons, List.map_map]
          exact stopped
        · exact ⟨1, goes_on⟩
      · exact ⟨0, going⟩

/-! ## Counted steps -/

/-- How many steps of a run satisfy a condition on the state that they start from and the
input that they read. -/
def countSteps (machine : Machine State Input Output) (counts : State → Input → Bool) :
    State → List Input → Nat
  | _, [] => 0
  | state, input :: rest =>
      (counts state input).toNat + countSteps machine counts (machine.step state input).1 rest

@[simp] theorem countSteps_nil (counts : State → Input → Bool) (start : State) :
    machine.countSteps counts start [] = 0 := rfl

theorem countSteps_cons (counts : State → Input → Bool) (start : State) (input : Input)
    (rest : List Input) :
    machine.countSteps counts start (input :: rest) =
      (counts start input).toNat +
        machine.countSteps counts (machine.step start input).1 rest := rfl

/-- Steps that are paid for from a potential are at most as many as the potential is worth. -/
theorem countSteps_le {motive : State → Prop} {condition : State → Input → Prop}
    (counts : State → Input → Bool) (potential : State → Nat) {start : State}
    {inputs : List Input} (initially : motive start)
    (preserved : ∀ state input, motive state → condition state input →
      motive (machine.step state input).1)
    (pays : ∀ state input, motive state → condition state input →
      (counts state input).toNat + potential (machine.step state input).1 ≤ potential state)
    (admitted : machine.Admits condition start inputs) :
    machine.countSteps counts start inputs + potential (machine.stateAfter start inputs) ≤
      potential start := by
  induction inputs generalizing start with
  | nil => simp
  | cons input rest ih =>
      obtain ⟨first, tail⟩ := admits_cons.mp admitted
      have paid := pays start input initially first
      have later := ih (preserved start input initially first) tail
      rw [countSteps_cons, stateAfter_cons]
      omega

/-- An input that lowers a measure down to a floor, read again and again. -/
theorem stateAfter_replicate_le {motive : State → Prop} (measure : State → Nat) {input : Input}
    {floor : Nat}
    (preserved : ∀ state, motive state → motive (machine.step state input).1)
    (lowers : ∀ state, motive state →
      measure (machine.step state input).1 ≤ max floor (measure state - 1))
    (count : Nat) {start : State} (initially : motive start) :
    motive (machine.stateAfter start (List.replicate count input)) ∧
      measure (machine.stateAfter start (List.replicate count input)) ≤
        max floor (measure start - count) := by
  induction count generalizing start with
  | zero => exact ⟨initially, Nat.le_max_right _ _⟩
  | succ count ih =>
      have lowered := lowers start initially
      obtain ⟨kept, bound⟩ := ih (preserved start initially)
      rw [List.replicate_succ, stateAfter_cons]
      exact ⟨kept, by omega⟩

/-! ## Traces -/

section Trace

variable {Event : Type*} (events : Output → List Event)

/-- What a run shows: the events of its outputs, in order. -/
def trace (start : State) (inputs : List Input) : List Event :=
  (machine.outputs start inputs).flatMap events

@[simp] theorem trace_nil (start : State) : machine.trace events start [] = [] := rfl

theorem trace_cons (start : State) (input : Input) (rest : List Input) :
    machine.trace events start (input :: rest) =
      events (machine.step start input).2 ++
        machine.trace events (machine.step start input).1 rest := rfl

theorem trace_append (start : State) (before after : List Input) :
    machine.trace events start (before ++ after) =
      machine.trace events start before ++
        machine.trace events (machine.stateAfter start before) after := by
  simp [trace]

/-- A property of the events shown so far and of the state that every admitted step keeps
holds wherever an admitted run leads. -/
theorem trace_invariant_of_admits {motive : List Event → State → Prop}
    {condition : State → Input → Prop} {start : State} {inputs : List Input}
    (initially : motive [] start)
    (preserved : ∀ seen state input, motive seen state → condition state input →
      motive (seen ++ events (machine.step state input).2) (machine.step state input).1)
    (admitted : machine.Admits condition start inputs) :
    motive (machine.trace events start inputs) (machine.stateAfter start inputs) := by
  have generalized : ∀ seen, motive seen start →
      motive (seen ++ machine.trace events start inputs) (machine.stateAfter start inputs) := by
    clear initially
    induction inputs generalizing start with
    | nil => simp
    | cons input rest ih =>
        intro seen holds
        obtain ⟨first, tail⟩ := admits_cons.mp admitted
        rw [trace_cons, ← List.append_assoc]
        exact ih tail _ (preserved seen start input holds first)
  exact generalized [] initially

/-- What leaves a mark that stays, and is not shown where the mark is, is shown once at most. -/
theorem countP_trace_le_one {motive marked : State → Prop} {shows : Event → Bool} {start : State}
    (initially : motive start)
    (preserved : ∀ state input, motive state → motive (machine.step state input).1)
    (stays : ∀ state input, marked state → marked (machine.step state input).1)
    (once : ∀ state input, motive state →
      (events (machine.step state input).2).countP shows ≤ 1)
    (marks : ∀ state input, motive state →
      0 < (events (machine.step state input).2).countP shows →
        ¬marked state ∧ marked (machine.step state input).1)
    (inputs : List Input) : (machine.trace events start inputs).countP shows ≤ 1 := by
  have generalized : (machine.trace events start inputs).countP shows ≤ 1 ∧
      (marked start → (machine.trace events start inputs).countP shows = 0) := by
    induction inputs generalizing start with
    | nil => simp
    | cons input rest ih =>
        obtain ⟨at_most, none_after⟩ := ih (preserved start input initially)
        have now := once start input initially
        have shown := marks start input initially
        rw [trace_cons, List.countP_append]
        constructor
        · by_cases showing : 0 < (events (machine.step start input).2).countP shows
          · have later := none_after (shown showing).2
            omega
          · omega
        · intro already
          have later := none_after (stays start input already)
          by_cases showing : 0 < (events (machine.step start input).2).countP shows
          · exact absurd already (shown showing).1
          · omega
  exact generalized.1

/-- The step of a run that shows an event, and the event's place in it. -/
structure ShownAt (start : State) (inputs : List Input) (before : List Event) (event : Event)
    (after : List Event) (earlier : List Input) (input : Input) (later : List Input)
    (stepBefore stepAfter : List Event) : Prop where
  inputs_eq : inputs = earlier ++ input :: later
  step_eq : events (machine.step (machine.stateAfter start earlier) input).2 =
    stepBefore ++ event :: stepAfter
  before_eq : before = machine.trace events start earlier ++ stepBefore
  after_eq : after = stepAfter ++
    machine.trace events (machine.stateAfter start (earlier ++ [input])) later

/-- Every event of a run is shown by one of its steps. -/
theorem exists_shownAt {start : State} {inputs : List Input} {before after : List Event}
    {event : Event} (split : machine.trace events start inputs = before ++ event :: after) :
    ∃ earlier input later stepBefore stepAfter,
      machine.ShownAt events start inputs before event after earlier input later stepBefore
        stepAfter := by
  induction inputs generalizing start before with
  | nil => simp at split
  | cons input rest ih =>
      rw [trace_cons] at split
      obtain ⟨middle, before_eq, rest_eq⟩ | ⟨middle, step_eq, rest_eq⟩ :=
        List.append_eq_append_iff.mp split
      · obtain ⟨earlier, chosen, later, stepBefore, stepAfter, shown⟩ := ih rest_eq
        refine ⟨input :: earlier, chosen, later, stepBefore, stepAfter, ?_⟩
        refine ⟨by rw [shown.inputs_eq]; rfl, shown.step_eq, ?_, shown.after_eq⟩
        rw [before_eq, shown.before_eq, trace_cons, List.append_assoc]
      · cases middle with
        | nil =>
            obtain ⟨earlier, chosen, later, stepBefore, stepAfter, shown⟩ :=
              ih (show _ = [] ++ event :: after by simpa using rest_eq.symm)
            refine ⟨input :: earlier, chosen, later, stepBefore, stepAfter, ?_⟩
            refine ⟨by rw [shown.inputs_eq]; rfl, shown.step_eq, ?_, shown.after_eq⟩
            have nothing := shown.before_eq
            rw [trace_cons, List.append_assoc, ← nothing]
            simpa using step_eq.symm
        | cons head middle =>
            obtain ⟨rfl, rfl⟩ := List.cons.inj rest_eq
            exact ⟨[], input, rest, before, middle, rfl, step_eq, rfl, rfl⟩

end Trace

end Machine

end Era.Lib
