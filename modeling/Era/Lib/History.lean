import Mathlib.Data.List.Basic
import Mathlib.Data.List.Induction

/-!
# Laws about every event of a history

A law relates an event to the events before it.  A history obeys the law when each of its
events does, so a history that grows by one event has one new obligation.
-/

namespace Era.Lib

variable {Event : Type*}

/-- Every event of a history obeys a law about the events before it. -/
def EachEvent (law : List Event → Event → Prop) (events : List Event) : Prop :=
  ∀ before event after, events = before ++ event :: after → law before event

@[simp] theorem eachEvent_nil (law : List Event → Event → Prop) : EachEvent law [] := by
  intro before event after split
  simp at split

theorem eachEvent_concat {law : List Event → Event → Prop} {events : List Event}
    {event : Event} :
    EachEvent law (events ++ [event]) ↔ EachEvent law events ∧ law events event := by
  constructor
  · intro each
    refine ⟨fun before other after split => ?_, each events event [] rfl⟩
    exact each before other (after ++ [event]) (by simp [split])
  · rintro ⟨each, last⟩ before other after split
    cases List.eq_nil_or_concat after with
    | inl nil =>
        subst nil
        obtain ⟨rfl, same⟩ := List.append_inj' split rfl
        obtain rfl : event = other := by simpa using same
        exact last
    | inr more =>
        obtain ⟨rest, final, rfl⟩ := more
        rw [List.concat_eq_append, ← List.cons_append, ← List.append_assoc] at split
        exact each before other rest (List.append_inj' split rfl).1

theorem EachEvent.imp {law weaker : List Event → Event → Prop} {events : List Event}
    (each : EachEvent law events) (implies : ∀ before event, law before event →
      weaker before event) : EachEvent weaker events :=
  fun before event after split => implies before event (each before event after split)

/-- An event that never comes after itself is there once at most. -/
theorem EachEvent.count_le_one [DecidableEq Event] {event : Event} {events : List Event}
    (once : EachEvent (fun before other => other = event → event ∉ before) events) :
    events.count event ≤ 1 := by
  induction events using List.reverseRecOn with
  | nil => simp
  | append_singleton events last ih =>
      obtain ⟨earlier, now⟩ := eachEvent_concat.mp once
      have atMost := ih earlier
      rw [List.count_append]
      by_cases same : last = event
      · have absent := List.count_eq_zero_of_not_mem (now same)
        have one : [last].count event ≤ 1 := List.count_le_length
        omega
      · have none : [last].count event = 0 := by simp [same]
        omega

end Era.Lib
