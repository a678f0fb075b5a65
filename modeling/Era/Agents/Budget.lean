import Era.Core.Platform

/-!
# The budget of an agent run

The counters of a run are compared with caps.  What the clock and the cost of model calls say
at a check is read from outside.
-/

namespace Era.Agents

open Era.Core

/-- The caps of a run, and what it has used. -/
structure AgentBudget where
  maxIterations : Int := 25
  maxToolCalls : Int := 40
  maxLlmCalls : Int := 20
  timeoutSeconds : PyFloat := .finite 900
  iterations : Nat := 0
  toolCalls : Nat := 0
  llmCalls : Nat := 0

/-- What a check finds out about time and cost; the figures of a cost above the cap. -/
structure BudgetReading where
  timedOut : Bool := false
  costExceeded : Option String := none

namespace AgentBudget

variable (platform : Platform) (budget : AgentBudget) (reading : BudgetReading)

/-- The reason to stop, if a cap is exceeded. -/
def check : Option String :=
  if reading.timedOut then
    some ("run timeout exceeded (" ++ platform.formatSeconds budget.timeoutSeconds ++ "s)")
  else if budget.iterations > budget.maxIterations then
    some ("max iterations exceeded (" ++ toString budget.maxIterations ++ ")")
  else if budget.toolCalls > budget.maxToolCalls then
    some ("max tool calls exceeded (" ++ toString budget.maxToolCalls ++ ")")
  else if budget.llmCalls > budget.maxLlmCalls then
    some ("max LLM calls exceeded (" ++ toString budget.maxLlmCalls ++ ")")
  else reading.costExceeded.map fun figures => "cost cap exceeded (" ++ figures ++ ")"

def canToolCall : Option String :=
  if budget.toolCalls ≥ budget.maxToolCalls then
    some ("max tool calls exceeded (" ++ toString budget.maxToolCalls ++ ")")
  else budget.check platform reading

def canLlmCall : Option String :=
  if budget.llmCalls ≥ budget.maxLlmCalls then
    some ("max LLM calls exceeded (" ++ toString budget.maxLlmCalls ++ ")")
  else budget.check platform reading

def recordToolCall : AgentBudget := { budget with toolCalls := budget.toolCalls + 1 }

def recordLlmCall : AgentBudget := { budget with llmCalls := budget.llmCalls + 1 }

/-- The loop counts an iteration that has a task. -/
def recordIteration : AgentBudget := { budget with iterations := budget.iterations + 1 }

/-- The model calls that a brain or a planner makes; it asks the budget before each. -/
def recordLlmCalls : AgentBudget → List BudgetReading → AgentBudget
  | budget, [] => budget
  | budget, reading :: rest =>
      match budget.canLlmCall platform reading with
      | none => recordLlmCalls budget.recordLlmCall rest
      | some _ => recordLlmCalls budget rest

/-- `restore`, from the counters that are persisted with a run. -/
def restore (iterations toolCalls llmCalls : Nat) : AgentBudget :=
  { budget with iterations, toolCalls, llmCalls }

variable {platform budget reading}

theorem check_none (passed : budget.check platform reading = none) :
    (budget.iterations : Int) ≤ budget.maxIterations := by
  unfold check at passed
  split at passed
  · cases passed
  · split at passed
    · cases passed
    next within => exact not_lt.mp within

theorem canToolCall_none (passed : budget.canToolCall platform reading = none) :
    (budget.toolCalls : Int) < budget.maxToolCalls := by
  unfold canToolCall at passed
  split at passed
  · cases passed
  next within => exact not_le.mp within

theorem canLlmCall_none (passed : budget.canLlmCall platform reading = none) :
    (budget.llmCalls : Int) < budget.maxLlmCalls := by
  unfold canLlmCall at passed
  split at passed
  · cases passed
  next within => exact not_le.mp within

/-- A brain changes nothing but the number of model calls. -/
theorem recordLlmCalls_eq (readings : List BudgetReading) :
    ∃ llmCalls, budget.recordLlmCalls platform readings = { budget with llmCalls } := by
  induction readings generalizing budget with
  | nil => exact ⟨budget.llmCalls, rfl⟩
  | cons reading rest ih =>
      unfold recordLlmCalls
      split
      · obtain ⟨llmCalls, recorded⟩ := @ih budget.recordLlmCall
        exact ⟨llmCalls, recorded⟩
      · exact ih

theorem le_recordLlmCalls (readings : List BudgetReading) :
    budget.llmCalls ≤ (budget.recordLlmCalls platform readings).llmCalls := by
  induction readings generalizing budget with
  | nil => exact le_rfl
  | cons reading rest ih =>
      unfold recordLlmCalls
      split
      · exact (Nat.le_succ _).trans (@ih budget.recordLlmCall)
      · exact ih

/-- No brain makes more model calls than the cap allows. -/
theorem recordLlmCalls_le (readings : List BudgetReading)
    (within : (budget.llmCalls : Int) ≤ max budget.maxLlmCalls 0) :
    ((budget.recordLlmCalls platform readings).llmCalls : Int) ≤ max budget.maxLlmCalls 0 := by
  induction readings generalizing budget with
  | nil => exact within
  | cons reading rest ih =>
      unfold recordLlmCalls
      split
      next passed =>
        have below := canLlmCall_none passed
        apply @ih budget.recordLlmCall
        unfold recordLlmCall
        dsimp only
        omega
      · exact ih within

end AgentBudget

end Era.Agents
