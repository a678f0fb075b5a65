import Era.Lib.Machine

/-!
# Logs of a run

The steps of a run enter what they do in a log.  A log that is closed by its first entries, and
that nothing is entered in any more once it is closed, has no entry twice.
-/

namespace Era.Lib.Machine

universe u v w

variable {State : Type u} {Input : Type v} {Output : Type w} {Entry : Type*}
variable (machine : Machine State Input Output) (entries : State → Input → List Entry)

/-- What the steps of a run enter, in order. -/
def log : State → List Input → List Entry
  | _, [] => []
  | state, input :: rest => entries state input ++ log (machine.step state input).1 rest

variable {machine entries} {start : State} {inputs : List Input}

/-- A log that is closed stays empty. -/
theorem log_eq_nil (closed : State → Prop) (closed_start : closed start)
    (stays : ∀ state input, closed state → closed (machine.step state input).1)
    (silent : ∀ state input, closed state → entries state input = []) :
    machine.log entries start inputs = [] := by
  induction inputs generalizing start with
  | nil => rfl
  | cons input rest ih =>
      rw [log, silent start input closed_start, ih (stays start input closed_start)]
      rfl

/-- A log that every step with entries closes has no entry twice if no step has. -/
theorem nodup_log (motive closed : State → Prop) {condition : State → Input → Prop}
    (initially : motive start)
    (preserved : ∀ state input, motive state → motive (machine.step state input).1)
    (distinct : ∀ state input, motive state → condition state input → (entries state input).Nodup)
    (closes : ∀ state input, motive state → condition state input → entries state input ≠ [] →
      closed (machine.step state input).1)
    (stays : ∀ state input, motive state → closed state → closed (machine.step state input).1)
    (silent : ∀ state input, motive state → closed state → entries state input = [])
    (admitted : machine.Admits condition start inputs) :
    (machine.log entries start inputs).Nodup := by
  induction inputs generalizing start with
  | nil => exact List.nodup_nil
  | cons input rest ih =>
      obtain ⟨first, tail⟩ := admits_cons.mp admitted
      have later := ih (preserved start input initially) tail
      rw [log]
      by_cases nothing : entries start input = []
      · rw [nothing]
        exact later
      · have closed_next := closes start input initially first nothing
        have empty : machine.log entries (machine.step start input).1 rest = [] :=
          log_eq_nil (fun state => motive state ∧ closed state)
            ⟨preserved start input initially, closed_next⟩
            (fun state input both =>
              ⟨preserved state input both.1, stays state input both.1 both.2⟩)
            fun state input both => silent state input both.1 both.2
        rw [empty, List.append_nil]
        exact distinct start input initially first

end Era.Lib.Machine
