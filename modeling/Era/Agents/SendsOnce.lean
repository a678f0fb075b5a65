import Era.Agents.TaskRows
import Era.Lib.Log

/-!
# What is not to be repeated

The loop tries a task again when its verification fails, unless the type of the task is declared
non-retryable.  The calls that it dispatches for the task come from the brain, and they may be of
any other type.
-/

namespace Era.Agents

open Era.Core Era.Lib Era.Services

section Definitions

variable (loop : AgentLoop)

/-- The provider of a call declares that it is not to be repeated. -/
def AgentLoop.nonRetryable (call : Action) : Bool := !loop.automaticRetryAllowed call.actionType

/-- The calls that are dispatched to their provider, in order: each is executed or fails, and the
first that is not executed is the last. -/
def dispatchedCalls : AgentBudget → List (Action × CallAnswer) → List Action
  | _, [] => []
  | budget, (call, answer) :: rest =>
      match budget.canToolCall loop.platform answer.reading with
      | some _ => []
      | none =>
          match answer.settle with
          | .paused _ | .denied => []
          | .observed observation =>
              match observation.status with
              | .executed => call :: dispatchedCalls budget.recordToolCall rest
              | .failed => [call]
              | .rejected | .denied | .confirmationRequired | .awaitingApproval => []

/-- The calls that a step dispatches for a task and that are not to be repeated. -/
def sentFor (id : String) (state : LoopState) : LoopInput → List Action
  | .iterate iteration =>
      match loop.turn? state iteration with
      | some (task, budget) =>
          if task.id = id then
            (dispatchedCalls loop budget (loop.dispatchable iteration)).filter loop.nonRetryable
          else []
      | none => []
  | .resume _ => []

/-- Nothing that is not to be repeated is dispatched twice for one task. -/
def SendsOnce (start : LoopState) (inputs : List LoopInput) : Prop :=
  ∀ id, ((agentRun loop).log (sentFor loop id) start inputs).Nodup

/-- A turn after which the task is tried again. -/
def TriedAgain (budget : AgentBudget) (task : Task) (iteration : Iteration) : Prop :=
  ∃ last, Judged loop budget task iteration last false ∧ Repeats loop task

/-- The brain proposes nothing twice in one attempt that is not to be repeated, and a task for
which such a call is dispatched is not tried again. -/
def RepeatsNothing (state : LoopState) : LoopInput → Prop
  | .iterate iteration =>
      ∀ task budget, loop.turn? state iteration = some (task, budget) →
        let sent :=
          (dispatchedCalls loop budget (loop.dispatchable iteration)).filter loop.nonRetryable
        sent.Nodup ∧ (sent ≠ [] → ¬TriedAgain loop budget task.markRunning iteration)
  | .resume _ => True

end Definitions

section Sending

variable {loop : AgentLoop} {state : LoopState} {id : String}

/-- The task of a step that dispatches such a call is pending before it. -/
theorem sentFor_eq_nil {task : Task} (found : state.manager.get id = some task)
    (active : task.status ≠ .pending) (input : LoopInput) : sentFor loop id state input = [] := by
  cases input with
  | resume resolutions => rfl
  | iterate iteration =>
      unfold sentFor
      dsimp only
      cases turn : loop.turn? state iteration with
      | none => rfl
      | some turned =>
          obtain ⟨first, budget⟩ := turned
          obtain ⟨pending, tracked, -⟩ := tracked_of_turn turn
          dsimp only
          split
          next same =>
            rw [same, found] at tracked
            cases tracked
            exact absurd pending active
          · rfl

theorem nodup_sentFor {input : LoopInput} (admitted : RepeatsNothing loop state input) :
    (sentFor loop id state input).Nodup := by
  cases input with
  | resume resolutions => exact List.nodup_nil
  | iterate iteration =>
      unfold sentFor
      dsimp only
      cases turn : loop.turn? state iteration with
      | none => exact List.nodup_nil
      | some turned =>
          obtain ⟨task, budget⟩ := turned
          dsimp only
          split
          · exact (admitted task budget turn).1
          · exact List.nodup_nil

/-- A task is no longer pending. -/
def Underway (id : String) (state : LoopState) : Prop :=
  ∃ task, state.manager.get id = some task ∧ task.status ≠ .pending

/-- A step that dispatches such a call leaves the task no longer pending. -/
theorem underway_of_sent {input : LoopInput} (admitted : RepeatsNothing loop state input)
    (sent : sentFor loop id state input ≠ []) : Underway id (loopStep loop state input).1 := by
  cases input with
  | resume resolutions => exact absurd rfl sent
  | iterate iteration =>
      unfold sentFor at sent
      dsimp only at sent
      cases turn : loop.turn? state iteration with
      | none =>
          rw [turn] at sent
          exact absurd rfl sent
      | some turned =>
          obtain ⟨task, budget⟩ := turned
          rw [turn] at sent
          dsimp only at sent
          split at sent
          next same =>
            subst same
            have not_again := (admitted task budget turn).2 sent
            obtain ⟨ending, follows, own, -⟩ := get_turn turn
            refine ⟨_, own, ?_⟩
            cases ending with
            | retried note =>
                obtain ⟨-, nothing | again⟩ := follows
                · rw [nothing] at sent
                  exact absurd rfl sent
                · exact absurd again not_again
            | _ => exact nofun
          · exact absurd rfl sent

/-- In every run of which each step meets the condition, nothing that is not to be repeated is
dispatched twice for one task. -/
theorem sends_once (loop : AgentLoop) (budget : AgentBudget) (readings : List BudgetReading)
    (plan : List Task) (inputs : List LoopInput)
    (admitted : (agentRun loop).Admits (RepeatsNothing loop) (startRun loop budget readings plan)
      inputs) : SendsOnce loop (startRun loop budget readings plan) inputs := by
  intro id
  refine Machine.nodup_log LoopState.Recorded (Underway id) (recorded_driving rfl)
    (fun state input recorded => recorded.step input) ?_
    (fun state input recorded admitted sent => underway_of_sent admitted sent) ?_ ?_ admitted
  · exact fun state input recorded admitted => nodup_sentFor admitted
  · rintro state input recorded ⟨task, found, active⟩
    obtain ⟨later, own, becomes⟩ := @becomes_step loop state id task recorded found input
    exact ⟨later, own, becomes.not_pending active⟩
  · rintro state input - ⟨task, found, active⟩
    exact sentFor_eq_nil found active input

end Sending

namespace Demo

/-- The provider declares that it is not to be repeated. -/
def fillOnce : Action := { actionType := "browser.fill", params := [("value_ref", .str "name")] }

def submit : Task := { id := "submit", actionType := "browser.navigate" }

/-- A field is filled, and then the page of the task is not reached. -/
def filledOnly : Iteration :=
  { proposed := .ok [(fillOnce, answer .executed),
      ({ actionType := "browser.navigate", params := [] }, answer .failed)] }

def filled : Iteration := { proposed := .ok [(fillOnce, answer .executed)] }

end Demo

/-- A field is filled again when the task of its page is tried again. -/
theorem not_sendsOnce :
    ¬∀ (loop : AgentLoop) (budget : AgentBudget) (readings : List BudgetReading)
      (plan : List Task) (inputs : List LoopInput),
      SendsOnce loop (startRun loop budget readings plan) inputs := by
  intro once
  have distinct := once Demo.loop {} [] [Demo.submit] [.iterate Demo.filledOnly,
    .iterate Demo.filledOnly] "submit"
  have twice : (agentRun Demo.loop).log (sentFor Demo.loop "submit")
      (startRun Demo.loop {} [] [Demo.submit])
      [.iterate Demo.filledOnly, .iterate Demo.filledOnly] = [Demo.fillOnce, Demo.fillOnce] := rfl
  rw [twice] at distinct
  exact (List.nodup_cons.mp distinct).1 (.head _)

/-- A field is filled, and its task is completed. -/
theorem sends_once_demo :
    (agentRun Demo.loop).log (sentFor Demo.loop "submit")
        (startRun Demo.loop {} [] [Demo.submit]) [.iterate Demo.filled] = [Demo.fillOnce] ∧
      SendsOnce Demo.loop (startRun Demo.loop {} [] [Demo.submit]) [.iterate Demo.filled] := by
  refine ⟨rfl, sends_once Demo.loop {} [] [Demo.submit] [.iterate Demo.filled] ?_⟩
  refine Machine.admits_cons.mpr ⟨?_, Machine.admits_nil _ _⟩
  rintro task budget ⟨⟩
  refine ⟨List.nodup_singleton _, fun _ => ?_⟩
  rintro ⟨last, ⟨-, observed, verdict, verified, refused⟩, -⟩
  cases observed
  cases verified
  cases refused

end Era.Agents
