import Era.Lib.Machine

/-!
# Refinement of machines

A machine refines another one through a relation between their states if related states answer
every input alike and stay related.  Whatever the inputs, both then give the same outputs.
-/

namespace Era.Lib

universe u v w

variable {State : Type u} {Reference : Type*} {Input : Type v} {Output : Type w}

/-- Related states answer alike and stay related. -/
structure Refines (machine : Machine State Input Output)
    (reference : Machine Reference Input Output) (related : State → Reference → Prop) : Prop where
  output_eq : ∀ state abstract input, related state abstract →
    (machine.step state input).2 = (reference.step abstract input).2
  step_related : ∀ state abstract input, related state abstract →
    related (machine.step state input).1 (reference.step abstract input).1

namespace Refines

variable {machine : Machine State Input Output} {reference : Machine Reference Input Output}
variable {related : State → Reference → Prop} {state : State} {abstract : Reference}

theorem stateAfter (refines : Refines machine reference related)
    (initially : related state abstract) (inputs : List Input) :
    related (machine.stateAfter state inputs) (reference.stateAfter abstract inputs) := by
  induction inputs generalizing state abstract with
  | nil => exact initially
  | cons input rest ih => exact ih (refines.step_related state abstract input initially)

theorem outputs_eq (refines : Refines machine reference related)
    (initially : related state abstract) (inputs : List Input) :
    machine.outputs state inputs = reference.outputs abstract inputs := by
  induction inputs generalizing state abstract with
  | nil => rfl
  | cons input rest ih =>
      unfold Machine.outputs
      rw [refines.output_eq state abstract input initially,
        ih (refines.step_related state abstract input initially)]

end Refines

/-! ## Inputs without effect -/

/-- Inputs that never change the state can be left out of a run. -/
theorem Machine.stateAfter_filter {machine : Machine State Input Output} {matters : Input → Bool}
    (ignored : ∀ state input, matters input = false → (machine.step state input).1 = state)
    (start : State) (inputs : List Input) :
    machine.stateAfter start (inputs.filter matters) = machine.stateAfter start inputs := by
  induction inputs generalizing start with
  | nil => rfl
  | cons input rest ih =>
      cases relevant : matters input with
      | true =>
          rw [List.filter_cons_of_pos relevant, Machine.stateAfter_cons, Machine.stateAfter_cons]
          exact ih _
      | false =>
          rw [List.filter_cons_of_neg (by rw [relevant]; decide), Machine.stateAfter_cons,
            ignored start input relevant]
          exact ih start

/-! ## Inputs without influence -/

namespace Machine

variable (machine : Machine State Input Output) (matters : State → Input → Bool)

/-- The inputs of a run that matter where they are read. -/
def purged : State → List Input → List Input
  | _, [] => []
  | state, input :: rest =>
      if matters state input then input :: purged (machine.step state input).1 rest
      else purged (machine.step state input).1 rest

/-- What the inputs that matter are answered. -/
def answers : State → List Input → List Output
  | _, [] => []
  | state, input :: rest =>
      if matters state input then
        (machine.step state input).2 :: answers (machine.step state input).1 rest
      else answers (machine.step state input).1 rest

variable {machine matters} {View : Type*} (view : Output → View)
variable (related : State → State → Prop)

/-- Two related states are led to related states if the inputs that do not matter are left out,
and the others are answered alike. -/
theorem related_purged
    (ignored : ∀ state other input, related state other → matters state input = false →
      related (machine.step state input).1 other)
    (kept : ∀ state other input, related state other → matters state input = true →
      related (machine.step state input).1 (machine.step other input).1 ∧
        view (machine.step state input).2 = view (machine.step other input).2)
    {state other : State} (initially : related state other) (inputs : List Input) :
    related (machine.stateAfter state inputs)
        (machine.stateAfter other (machine.purged matters state inputs)) ∧
      (machine.answers matters state inputs).map view =
        (machine.outputs other (machine.purged matters state inputs)).map view := by
  induction inputs generalizing state other with
  | nil => exact ⟨initially, rfl⟩
  | cons input rest ih =>
      unfold purged answers
      by_cases relevant : matters state input = true
      · obtain ⟨after, same⟩ := kept state other input initially relevant
        obtain ⟨states, views⟩ := ih after
        rw [if_pos relevant, if_pos relevant]
        refine ⟨states, ?_⟩
        rw [List.map_cons, outputs, List.map_cons, views, same]
      · have after := ignored state other input initially (Bool.not_eq_true _ ▸ relevant)
        rw [if_neg relevant, if_neg relevant]
        exact ih after

end Machine

end Era.Lib
