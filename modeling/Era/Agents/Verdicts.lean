import Era.Agents.Turns

/-!
# What makes a task completed

A task is completed when its verification accepts.  Some kinds of verification look at files of
the workspace only, and accept whatever the calls of the turn have come to.
-/

namespace Era.Agents

open Era.Core Era.Lib

section Definitions

variable (loop : AgentLoop)

/-- The last call that is passed to the execution service in a turn: nothing is left behind it,
or it is not executed. -/
def LastReached : AgentBudget → List (Action × CallAnswer) → Action × CallAnswer → Prop
  | _, [], _ => False
  | budget, first :: rest, call =>
      budget.canToolCall loop.platform first.2.reading = none ∧
        (call = first ∧ (first.2.Executes → rest = []) ∨
          first.2.Executes ∧ LastReached budget.recordToolCall rest call)

/-- Files of the workspace satisfy a verification that looks at them only. -/
def Verifier.FilesAccept (verifier : Verifier) (workspace : Workspace)
    (verification : Option Params) : Prop :=
  ∃ check verdict, verifier.fileCheck (Verifier.kindOf (verification.getD [])) = some check ∧
    check workspace (verification.getD []) = .ok verdict ∧ verdict.ok = true

/-- A task that an iteration marks as completed was executed: the last call of its turn was. -/
def CompletesExecuted (state : LoopState) : LoopInput → Prop
  | .iterate iteration =>
      ∀ id earlier later, state.manager.get id = some earlier → earlier.status ≠ .completed →
        (loopStep loop state (.iterate iteration)).1.manager.get id = some later →
        later.status = .completed →
        ∃ task budget call, loop.turn? state iteration = some (task, budget) ∧ task.id = id ∧
          LastReached loop budget (loop.dispatchable iteration) call ∧ call.2.Executes
  | .resume _ => True

/-- Where the last call of a turn fails, files do not satisfy the verification instead. -/
def FailuresUnmasked (state : LoopState) : LoopInput → Prop
  | .iterate iteration =>
      ∀ task budget call observation, loop.turn? state iteration = some (task, budget) →
        LastReached loop budget (loop.dispatchable iteration) call →
        call.2.settle = .observed observation → observation.status ≠ .executed →
        ¬loop.verifier.FilesAccept iteration.workspace task.verify
  | .resume _ => True

end Definitions

section Verdicts

variable {loop : AgentLoop}

theorem verify_of_files {verifier : Verifier} {workspace : Workspace}
    {verification : Option Params} (accepted : verifier.FilesAccept workspace verification)
    (observation : Observation) :
    ∃ verdict, verifier.verify workspace verification (some observation) = .ok verdict ∧
      verdict.ok = true := by
  obtain ⟨check, verdict, found, checked, ok⟩ := accepted
  refine ⟨verdict, ?_, ok⟩
  unfold Verifier.verify
  dsimp only
  rw [found]
  exact checked

/-- What is accepted is executed, or satisfied by files. -/
theorem executed_of_verify {verifier : Verifier} {workspace : Workspace}
    {verification : Option Params} {observation : Observation} {verdict : Verdict}
    (verified : verifier.verify workspace verification (some observation) = .ok verdict)
    (ok : verdict.ok = true) :
    observation.status = .executed ∨ verifier.FilesAccept workspace verification := by
  by_cases executed : observation.status = .executed
  · exact .inl executed
  have refuses : ∀ reason, Verifier.refuse reason ≠ .ok verdict := by
    rintro reason refused
    rw [← Except.ok.inj refused] at ok
    exact Bool.noConfusion ok
  unfold Verifier.verify at verified
  dsimp only at verified
  split at verified
  next check found => exact .inr ⟨check, verdict, found, verified, ok⟩
  · split at verified
    · rw [if_neg executed] at verified
      exact absurd verified (refuses _)
    · unfold Verifier.checkScreenshotExists at verified
      rw [if_pos executed] at verified
      exact absurd verified (refuses _)
    · unfold Verifier.checkDomExtracted at verified
      rw [if_pos executed] at verified
      exact absurd verified (refuses _)
    · exact absurd verified (refuses _)

/-- The calls of a turn are observed where the last that is reached is. -/
theorem dispatchCalls_observed {task : Task} {budget : AgentBudget}
    {last result : Option Observation}
    {calls : List (Action × CallAnswer)} (some : calls ≠ []) :
    (dispatchCalls loop task budget last calls).ending = .observed result ↔
      ∃ call observation, LastReached loop budget calls call ∧
        call.2.settle = .observed observation ∧ result = Option.some observation := by
  induction calls generalizing budget last with
  | nil => exact absurd rfl some
  | cons first rest ih =>
      obtain ⟨proposed, answer⟩ := first
      unfold dispatchCalls LastReached CallAnswer.Executes
      cases guard : budget.canToolCall loop.platform answer.reading with
      | some reason => simp
      | none =>
          cases settled : answer.settle with
          | paused confirmationId => simp [settled]
          | denied => simp [settled]
          | observed observation =>
              by_cases executed : observation.status = .executed
              · cases rest with
                | nil => simp [executed, settled, dispatchCalls, LastReached, eq_comm]
                | cons second later =>
                    simp [executed, ih]
              · simp only [executed, if_false, CallsEnd.observed.injEq, CallEnd.observed.injEq,
                  exists_eq_left', false_and, or_false, false_imp_iff, and_true, true_and]
                constructor
                · exact fun same => ⟨(proposed, answer), observation, rfl, settled, same.symm⟩
                · rintro ⟨call, other, rfl, settled', same⟩
                  rw [same, CallEnd.observed.inj (settled.symm.trans settled')]

/-- Without a turn no task becomes completed. -/
theorem not_completed_idle {state : LoopState} {iteration : Iteration}
    (idle : loop.turn? state iteration = none) {id : String} {earlier later : Task}
    (before : state.manager.get id = some earlier) (open_before : earlier.status ≠ .completed)
    (after : (loopStep loop state (.iterate iteration)).1.manager.get id = some later) :
    later.status ≠ .completed := by
  have same : state.manager.get id = some later → later.status ≠ .completed :=
    fun found => Option.some.inj (before.symm.trans found) ▸ open_before
  obtain ⟨-, stepped⟩ | ⟨-, ⟨reason, stepped⟩ | ⟨-, -, stepped⟩ | ⟨-, -, stepped⟩⟩ :=
    loopStep_idle idle
  · rw [stepped] at after
    exact same after
  · rw [stepped] at after
    exact same after
  · rw [stepped] at after
    obtain skipped | found := TaskManager.get_skipAll after
    · rw [skipped]
      exact nofun
    · exact same found
  · rw [stepped] at after
    exact same after

/-- What a turn makes completed is its task, on an accepting verdict. -/
theorem judged_of_completed {state : LoopState} {iteration : Iteration} {task : Task}
    {budget : AgentBudget} (turn : loop.turn? state iteration = some (task, budget)) {id : String}
    {earlier later : Task} (before : state.manager.get id = some earlier)
    (open_before : earlier.status ≠ .completed)
    (after : (loopStep loop state (.iterate iteration)).1.manager.get id = some later)
    (completed : later.status = .completed) :
    task.id = id ∧ ∃ last, Judged loop budget task.markRunning iteration last true := by
  obtain ⟨ending, follows, own, others⟩ := get_turn turn
  by_cases same : id = task.id
  · rw [same, own] at after
    obtain ⟨last, rfl⟩ := completed_of_ended follows (by nofun) (Option.some.inj after ▸ completed)
    exact ⟨same.symm, last, follows⟩
  · rw [others id earlier same before] at after
    exact absurd completed (Option.some.inj after ▸ open_before)

/-- An accepting verdict makes the task of a turn completed. -/
theorem completed_of_turn {state : LoopState} {iteration : Iteration} {task : Task}
    {budget : AgentBudget} {last : Option Observation}
    (turn : loop.turn? state iteration = some (task, budget))
    (judged : Judged loop budget task.markRunning iteration last true) :
    (loopStep loop state (.iterate iteration)).1.manager.get task.id =
      some task.markRunning.complete := by
  obtain ⟨ending, follows, own, -⟩ := get_turn turn
  obtain rfl := completed_of_judged follows judged
  exact own

/-- In a step, what becomes completed is executed exactly if no files stand in for a failure. -/
theorem completesExecuted_iff {state : LoopState} {input : LoopInput} :
    CompletesExecuted loop state input ↔ FailuresUnmasked loop state input := by
  cases input with
  | resume resolutions => exact Iff.rfl
  | iterate iteration =>
      constructor
      · rintro executed task budget call observation turn reached settled failed accepted
        obtain ⟨pending, tracked, -⟩ := tracked_of_turn turn
        have calls : loop.dispatchable iteration ≠ [] := by
          intro nothing
          rw [nothing] at reached
          exact reached
        have observed := (@dispatchCalls_observed loop task.markRunning budget none _ _ calls).mpr
          ⟨call, observation, reached, settled, rfl⟩
        have completed := completed_of_turn turn
          ⟨calls, observed, verify_of_files accepted observation⟩
        obtain ⟨task', budget', call', turn', -, reached', observation', settled', done⟩ :=
          executed task.id task _ tracked (by rw [pending]; exact nofun) completed rfl
        obtain ⟨rfl, rfl⟩ := Prod.mk.inj (Option.some.inj (turn.symm.trans turn'))
        have again := (@dispatchCalls_observed loop task.markRunning budget none _ _ calls).mpr
          ⟨call', observation', reached', settled', rfl⟩
        obtain rfl := Option.some.inj (CallsEnd.observed.inj (observed.symm.trans again))
        exact failed done
      · rintro unmasked id earlier later before open_before after completed
        cases turn : loop.turn? state iteration with
        | none => exact absurd completed (not_completed_idle turn before open_before after)
        | some turned =>
            obtain ⟨task, budget⟩ := turned
            obtain ⟨named, last, calls, observed, verdict, verified, ok⟩ :=
              judged_of_completed turn before open_before after completed
            obtain ⟨call, observation, reached, settled, rfl⟩ :=
              (dispatchCalls_observed calls).mp observed
            refine ⟨task, budget, call, rfl, named, reached, observation, settled, ?_⟩
            by_contra failed
            obtain executed | accepted := executed_of_verify verified ok
            · exact failed executed
            · exact unmasked task budget call observation turn reached settled failed accepted

/-- In every run, a task that becomes completed is executed in that turn exactly if, in every
turn, no files satisfy the verification in place of a last call that fails. -/
theorem completes_executed (start : LoopState) (inputs : List LoopInput) :
    (agentRun loop).Admits (CompletesExecuted loop) start inputs ↔
      (agentRun loop).Admits (FailuresUnmasked loop) start inputs :=
  Machine.admits_congr fun _ _ => completesExecuted_iff

end Verdicts

namespace Demo

def write : Action := { actionType := "fs.write", params := [("path", .str "notes.txt")] }

def writeNotes : Task :=
  { id := "write"
    actionType := "fs.write"
    params := write.params
    verify := some [("kind", .str "file_exists"), ("path", .str "notes.txt")] }

/-- The write fails, and notes of an earlier run are in the workspace. -/
def failedWrite : Iteration :=
  { proposed := .ok [(write, answer .failed)]
    workspace := {
      file := fun path => if path = "notes.txt" then some { bytes := [65] } else none } }

end Demo

/-- A task whose only call fails is completed on notes that were there before. -/
theorem not_completes_executed :
    ¬(agentRun Demo.loop).Admits (CompletesExecuted Demo.loop)
      (startRun Demo.loop {} [] [Demo.writeNotes]) [.iterate Demo.failedWrite] := by
  intro executed
  obtain ⟨task, budget, call, -, -, reached, observation, settled, done⟩ :=
    executed [] _ [] rfl "write" Demo.writeNotes Demo.writeNotes.markRunning.complete rfl
      (by nofun) rfl rfl
  obtain ⟨-, ⟨rfl, -⟩ | ⟨-, none⟩⟩ := reached
  · cases CallEnd.observed.inj settled
    cases done
  · exact none

end Era.Agents
