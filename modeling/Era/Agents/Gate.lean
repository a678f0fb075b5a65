import Era.Agents.Turns

/-!
# The gate in front of the execution service

The gate looks at the first call that is proposed for a task.  The calls after it are passed to
the execution service as long as the ones before them are executed.
-/

namespace Era.Agents

open Era.Core Era.Lib Era.Services

/-! ## What passes -/

/-- A call that an agent may make. -/
structure PassesGate (loop : AgentLoop) (call : Action) : Prop where
  catalogued : ∃ spec, loop.catalog.get call.actionType = some spec ∧ spec.riskLevel ≠ .forbidden
  registered : ∃ provider, loop.registry.get call.actionType = some provider
  allowed : ∀ allows, loop.domainGuard = some allows → allows call.actionType = true
  /-- No text is filled in as it stands. -/
  vaulted : call.actionType = "browser.fill" → ∀ text, call.params.get "text" ≠ .str text

theorem gateReject_none_iff {loop : AgentLoop} {call : Action} :
    loop.gateReject call = none ↔ PassesGate loop call := by
  unfold AgentLoop.gateReject
  constructor
  · intro passed
    split at passed
    · cases passed
    next spec known =>
      split at passed
      · cases passed
      next notForbidden =>
        split at passed
        · cases passed
        next registered =>
          split at passed
          · cases passed
          next allowed =>
            refine ⟨⟨spec, known, notForbidden⟩, ?_, ?_, ?_⟩
            · exact Option.ne_none_iff_exists'.mp fun missing => registered (by rw [missing]; rfl)
            · rintro allows guard
              simpa [guard] using allowed
            · intro fills text plain
              rw [if_pos fills, plain] at passed
              cases passed
  · rintro ⟨⟨spec, known, notForbidden⟩, ⟨provider, registered⟩, allowed, vaulted⟩
    have permitted : ¬(loop.domainGuard.any fun allows => !allows call.actionType) = true := by
      cases guard : loop.domainGuard with
      | none => simp
      | some allows => simp [allowed allows guard]
    rw [known, registered]
    dsimp only
    rw [if_neg notForbidden, if_neg (by simp), if_neg permitted]
    split
    next fills =>
      split
      next text plain => exact absurd plain (vaulted fills text)
      · rfl
    · rfl

/-! ## What is passed to the execution service -/

section Requests

variable (loop : AgentLoop)

/-- Every call that is passed to the execution service passes the gate. -/
def DispatchesGated (state : LoopState) (input : LoopInput) : Prop :=
  ∀ task call, .requested task call ∈ (loopStep loop state input).2 → PassesGate loop call

/-- Every proposed call after the first that is reached passes the gate. -/
def LaterCallsGated (state : LoopState) : LoopInput → Prop
  | .iterate iteration =>
      ∀ task budget first rest, loop.turn? state iteration = some (task, budget) →
        loop.dispatchable iteration = first :: rest →
        budget.canToolCall loop.platform first.2.reading = none → first.2.Executes →
        ∀ call, Reaches loop budget.recordToolCall rest call → PassesGate loop call.1
  | .resume _ => True

variable {loop}

/-- The calls that a turn passes to the execution service. -/
theorem requested_mem_loopStep {state : LoopState} {iteration : Iteration} {task : Task}
    {budget : AgentBudget} (turn : loop.turn? state iteration = some (task, budget))
    {other : Task} {call : Action} :
    .requested other call ∈ (loopStep loop state (.iterate iteration)).2 ↔
      other = task.markRunning ∧
        ∃ answer, Reaches loop budget (loop.dispatchable iteration) (call, answer) := by
  obtain ⟨ending, -, stepped⟩ := loopStep_turn turn
  have ends : .requested other call ∉ ending.events task.markRunning := by
    cases ending <;> simp [TurnEnd.events]
  rw [stepped, ← @requested_mem_dispatchCalls loop task.markRunning other call budget none]
  simp [ends, List.mem_replicate]

theorem passesGate_first {iteration : Iteration} {first : Action × CallAnswer}
    {rest : List (Action × CallAnswer)} (calls : loop.dispatchable iteration = first :: rest) :
    PassesGate loop first.1 := by
  unfold AgentLoop.dispatchable at calls
  split at calls
  · cases calls
  · split at calls
    · cases calls
    · split at calls
      · cases calls
      next passed =>
        obtain ⟨rfl, -⟩ := List.cons.inj calls
        exact gateReject_none_iff.mp (Option.not_isSome_iff_eq_none.mp passed)

end Requests

/-! ## Every call through the gate -/

section Gated

variable {loop : AgentLoop}

/-- A step dispatches only what passes the gate exactly if the later calls pass it. -/
theorem dispatchesGated_iff {state : LoopState} {input : LoopInput} :
    DispatchesGated loop state input ↔ LaterCallsGated loop state input := by
  unfold DispatchesGated LaterCallsGated
  cases input with
  | resume resolutions =>
      obtain stepped | ⟨record, -, -, stepped⟩ := @loopStep_resume loop state resolutions <;>
        simp [stepped]
  | iterate iteration =>
      cases turn : loop.turn? state iteration with
      | none => simp [turn, events_idle turn]
      | some turned =>
          obtain ⟨task, budget⟩ := turned
          simp only [requested_mem_loopStep turn]
          constructor
          · rintro gated _ _ first rest found calls guard executed call reached
            obtain ⟨rfl, rfl⟩ := Prod.mk.inj (Option.some.inj (turn.symm.trans found))
            rw [calls] at gated
            exact gated task.markRunning call.1
              ⟨rfl, call.2, guard, .inr ⟨executed, reached⟩⟩
          · rintro gated other call ⟨-, answer, reached⟩
            cases calls : loop.dispatchable iteration with
            | nil =>
                rw [calls] at reached
                exact reached.elim
            | cons first rest =>
                rw [calls] at reached
                obtain ⟨guard, first_call | ⟨executed, later⟩⟩ := reached
                · rw [show call = first.1 from congrArg Prod.fst first_call]
                  exact passesGate_first calls
                · exact gated task budget first rest turn calls guard executed (call, answer) later

/-- In every run, every call that is passed to the execution service passes the gate exactly if,
in every iteration, the calls after the first that are reached pass it. -/
theorem gates_dispatched (start : LoopState) (inputs : List LoopInput) :
    (agentRun loop).Admits (DispatchesGated loop) start inputs ↔
      (agentRun loop).Admits (LaterCallsGated loop) start inputs :=
  Machine.admits_congr fun _ _ => dispatchesGated_iff

end Gated

namespace Demo

def navigate : Action := { actionType := "browser.navigate", params := [] }

/-- A text is typed in as it stands. -/
def fill : Action := { actionType := "browser.fill", params := [("text", .str "hunter2")] }

def openPage : Task := { id := "open", actionType := "browser.navigate" }

/-- The brain proposes two calls, and the first is executed. -/
def twoCalls : Iteration :=
  { proposed := .ok [(navigate, answer .executed), (fill, answer .failed)] }

end Demo

/-- A text that the gate would reject is passed on behind a first call. -/
theorem not_gates_dispatched :
    ¬(agentRun Demo.loop).Admits (DispatchesGated Demo.loop)
      (startRun Demo.loop {} [] [Demo.openPage]) [.iterate Demo.twoCalls] := by
  intro gated
  have passed := gated [] _ [] rfl Demo.openPage.markRunning Demo.fill
    (.tail _ (.tail _ (.head _)))
  exact passed.vaulted rfl "hunter2" rfl

end Era.Agents
