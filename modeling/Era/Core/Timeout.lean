import Mathlib.Tactic.NormNum
import Era.Core.Result

/-!
# Hard wall-clock timeout around provider work

With a positive budget the call runs in a worker thread that is joined for at
most the budget: an overrun becomes `TIMEOUT` and every exception that is not a
`ToolError` becomes `INTERNAL`.  With a budget of zero or less the call runs in
place and its exceptions are the caller's.
-/

namespace Era.Core

/-- `threading.TIMEOUT_MAX` in seconds; `Thread.join` refuses a longer timeout. -/
def threadingTimeoutMax : ℚ := 9223372036

/-- The exception `Thread.join(timeout=budget)` raises for a positive or NaN
budget it cannot wait for. -/
def joinError (budget : PyFloat) : Option Raised :=
  match budget with
  | .nan => some (.exception "ValueError" "Invalid value NaN (not a number)")
  | budget =>
      if budget.le (.finite threadingTimeoutMax) then none
      else some (.exception "OverflowError" "timeout value is too large")

/-- A refused join is no `ToolError`. -/
theorem joinError_code {budget : PyFloat} {failure : Raised}
    (refused : joinError budget = some failure) : failure.code? = none := by
  unfold joinError at refused
  split at refused
  · cases refused
    rfl
  · split at refused
    · simp at refused
    · cases refused
      rfl

/-- Which stage of which dispatch is bounded, for the error texts. -/
structure TimeoutTexts where
  stage : String
  formatSeconds : PyFloat → String

def TimeoutTexts.timedOut (texts : TimeoutTexts) (budget : PyFloat) : Raised :=
  .toolError .timeout
    ("provider " ++ texts.stage ++ " timed out after " ++ texts.formatSeconds budget ++ "s")

def TimeoutTexts.workerError (texts : TimeoutTexts) (failure : Raised) : Raised :=
  .toolError .internal ("provider " ++ texts.stage ++ " error: " ++ failure.typeName)

/-- Run a call under the budget.  `overrun` says whether the worker is still
alive when the join returns; `call` is what the call itself comes to. -/
def runWithTimeout {α : Type} (texts : TimeoutTexts) (budget : PyFloat) (overrun : Bool)
    (call : Except Raised α) : Except Raised α :=
  if budget.le (.finite 0) then call
  else
    match joinError budget with
    | some failure => .error failure
    | none =>
        if overrun then .error (texts.timedOut budget)
        else
          match call with
          | .ok value => .ok value
          | .error (.toolError code message) => .error (.toolError code message)
          | .error failure => .error (texts.workerError failure)

/-- The budget lets `run_with_timeout` start and join a worker. -/
def UsableTimeout (budget : PyFloat) : Prop :=
  budget.le (.finite 0) = false ∧ joinError budget = none

instance (budget : PyFloat) : Decidable (UsableTimeout budget) :=
  inferInstanceAs (Decidable (_ ∧ _))

section

variable {α : Type} {texts : TimeoutTexts} {budget : PyFloat} {overrun : Bool}
variable {call : Except Raised α}

theorem runWithTimeout_disabled (disabled : budget.le (.finite 0) = true) :
    runWithTimeout texts budget overrun call = call := by
  simp [runWithTimeout, disabled]

theorem runWithTimeout_unusable {failure : Raised}
    (enabled : budget.le (.finite 0) = false) (refused : joinError budget = some failure) :
    runWithTimeout texts budget overrun call = .error failure := by
  simp [runWithTimeout, enabled, refused]

theorem runWithTimeout_overrun (usable : UsableTimeout budget) :
    runWithTimeout texts budget true call = .error (texts.timedOut budget) := by
  simp [runWithTimeout, usable.1, usable.2]

theorem runWithTimeout_completed (usable : UsableTimeout budget) :
    runWithTimeout texts budget false call =
      match call with
      | .ok value => .ok value
      | .error (.toolError code message) => .error (.toolError code message)
      | .error failure => .error (texts.workerError failure) := by
  simp [runWithTimeout, usable.1, usable.2]

/-- A usable budget lets nothing but a `ToolError` through. -/
theorem runWithTimeout_error_isToolError {failure : Raised} (usable : UsableTimeout budget)
    (raised : runWithTimeout texts budget overrun call = .error failure) :
    ∃ code message, failure = .toolError code message := by
  cases overrun with
  | true =>
      rw [runWithTimeout_overrun usable] at raised
      cases raised
      exact ⟨_, _, rfl⟩
  | false =>
      rw [runWithTimeout_completed usable] at raised
      split at raised
      · cases raised
      · cases raised
        exact ⟨_, _, rfl⟩
      · cases raised
        exact ⟨_, _, rfl⟩

end

end Era.Core
