import Era.Agents.Gate

/-!
# How a run ends

The loop returns: a turn counts an iteration, and an iteration without one leaves fewer pending
tasks.  A run that ends completed has completed every required task that it tracks.
-/

namespace Era.Agents

open Era.Core Era.Lib

/-! ## The loop returns -/

section Returning

variable {loop : AgentLoop}

/-- What is left to do: the iterations up to the cap, then the pending tasks. -/
def LoopState.remaining (state : LoopState) : ℕ × ℕ :=
  ((state.budget.maxIterations + 1 - state.budget.iterations).toNat,
    state.manager.pending.length)

theorem skipBlocked_lt {state : LoopState} (pending : state.manager.hasPending = true) :
    state.skipBlocked.manager.pending.length < state.manager.pending.length := by
  obtain ⟨task, member, is_pending⟩ := TaskManager.hasPending_iff.mp pending
  have of_pending : task ∈ state.manager.pending :=
    List.mem_filter.mpr ⟨member, decide_eq_true is_pending⟩
  unfold LoopState.skipBlocked
  dsimp only
  split
  · exact TaskManager.pending_skipAll_lt of_pending of_pending
  next some_blocked =>
    obtain ⟨first, blocked⟩ := List.exists_mem_of_ne_nil state.manager.blockedPending
      (by simpa using some_blocked)
    obtain ⟨tracked, is_blocked⟩ := List.mem_filter.mp blocked
    rw [Bool.and_eq_true] at is_blocked
    exact TaskManager.pending_skipAll_lt blocked (List.mem_filter.mpr ⟨tracked, is_blocked.1⟩)

/-- A turn counts one iteration, and it needs the ones before it to be within the cap. -/
theorem iterations_turn {state : LoopState} {iteration : Iteration} {task : Task}
    {budget : AgentBudget} (turn : loop.turn? state iteration = some (task, budget)) :
    let next := (loopStep loop state (.iterate iteration)).1
    next.budget.maxIterations = state.budget.maxIterations ∧
      next.budget.iterations = state.budget.iterations + 1 ∧
      (state.budget.iterations : ℤ) ≤ state.budget.maxIterations := by
  obtain ⟨ending, -, stepped⟩ := loopStep_turn turn
  obtain ⟨-, within, -, rfl⟩ := turn?_eq_some.mp turn
  obtain ⟨llmCalls, asked⟩ := @AgentBudget.recordLlmCalls_eq loop.platform
    state.budget.recordIteration iteration.llmCalls
  rw [stepped]
  dsimp only
  rw [budget_apply]
  unfold LoopState.turned
  dsimp only
  rw [dispatchCalls_budget, asked]
  exact ⟨rfl, rfl, AgentBudget.check_none within⟩

/-- An iteration that does not end the loop leaves less to do. -/
theorem remaining_lt {state : LoopState} {iteration : Iteration} (driving : state.phase = .driving)
    (goes_on : (loopStep loop state (.iterate iteration)).1.phase = .driving) :
    Prod.Lex (· < ·) (· < ·) (loopStep loop state (.iterate iteration)).1.remaining
      state.remaining := by
  cases turn : loop.turn? state iteration with
  | some turned =>
      obtain ⟨task, budget⟩ := turned
      obtain ⟨same, counted, within⟩ := iterations_turn turn
      refine Prod.Lex.left _ _ ?_
      rw [same, counted]
      omega
  | none =>
      obtain ⟨ended, -⟩ | ⟨-, ⟨reason, stepped⟩ | ⟨-, pending, stepped⟩ | ⟨-, -, stepped⟩⟩ :=
        loopStep_idle turn
      · exact absurd driving ended
      · rw [stepped] at goes_on
        cases goes_on
      · rw [stepped]
        exact Prod.Lex.right _ (skipBlocked_lt pending)
      · rw [stepped] at goes_on
        cases goes_on

/-- The loop returns after finitely many iterations. -/
theorem exists_returned (state : LoopState) (iterations : ℕ → Iteration) :
    ∃ count, ((agentRun loop).stateAfter state
      ((List.range count).map fun index => .iterate (iterations index))).phase ≠ .driving := by
  have decreases : ∀ (state : LoopState) (index : ℕ), state.phase = .driving →
      ((agentRun loop).step state (.iterate (iterations index))).1.phase = .driving →
      Prod.Lex (· < ·) (· < ·)
        ((agentRun loop).step state (.iterate (iterations index))).1.remaining state.remaining :=
    fun _ _ driving goes_on => remaining_lt driving goes_on
  exact Machine.exists_stateAfter_not (Prod.lex Nat.lt_wfRel Nat.lt_wfRel).wf
    LoopState.remaining decreases state

end Returning

/-! ## What a completed run has completed -/

/-- No turn of a task is left open. -/
def Task.Settled (task : Task) : Prop := task.status ≠ .running ∧ task.status ≠ .retrying

/-- No repair comes with its turn begun. -/
def RepairsSettled (_ : LoopState) : LoopInput → Prop
  | .iterate iteration => ∀ task ∈ iteration.repairs, task.Settled
  | .resume _ => True

/-- A record that says completed has completed what is required. -/
def RunRecord.Honest (record : RunRecord) : Prop :=
  record.status = .completed →
    ∀ task ∈ record.tasks, task.required = true → task.status = .completed

/-- Between iterations no turn is left open, and the same holds of a run that is paused. -/
def LoopState.Honest (state : LoopState) : Prop :=
  match state.phase with
  | .driving => ∀ task ∈ state.manager.tasks, task.Settled
  | .ended record =>
      (record.status = .waitingForUser → ∀ task ∈ record.tasks, task.Settled) ∧ record.Honest
  | .raised _ => True

section Honesty

variable {loop : AgentLoop}

theorem settled_of_eq {task : Task} {status : TaskStatus} (same : task.status = status)
    (settled : status ≠ .running ∧ status ≠ .retrying) : task.Settled := by
  unfold Task.Settled
  rw [same]
  exact settled

/-- The task of a turn that goes on, or is paused, is settled. -/
theorem settled_ended {ending : TurnEnd} {state : LoopState} {task : Task} {iteration : Iteration}
    (follows : ending.Follows loop state task iteration)
    (goes_on : ∀ reason, ending ≠ .stopped reason) (returns : ∀ raised, ending ≠ .raised raised) :
    (ending.ended task).Settled := by
  cases ending with
  | stopped reason => exact absurd rfl (goes_on reason)
  | raised exception => exact absurd rfl (returns exception)
  | paused confirmationId => exact ⟨nofun, nofun⟩
  | failed error => exact ⟨nofun, nofun⟩
  | retried note => exact settled_of_eq (task.status_retry note follows.1) (by decide)
  | replanned error repairs => exact ⟨nofun, nofun⟩
  | completed last => exact ⟨nofun, nofun⟩

theorem status_skipAll {manager : TaskManager} {reason : String} {dead : List Task} {task : Task}
    (member : task ∈ (manager.skipAll reason dead).tasks) :
    task.status = .skipped ∨ task ∈ manager.tasks := by
  obtain skipped | earlier := TaskManager.get_skipAll (TaskManager.get_of_mem member)
  · exact .inl skipped
  · exact .inr (TaskManager.mem_of_get earlier).1

/-- A run that ends completed leaves nothing waiting, and nothing required failed or skipped. -/
theorem finalStatus_completed {manager : TaskManager} {forced : RunStatus}
    (completed : finalStatus manager forced = .completed) {task : Task}
    (member : task ∈ manager.tasks) (required : task.required = true) :
    task.status ≠ .waitingForUser ∧ task.status ≠ .failed ∧ task.status ≠ .skipped := by
  unfold finalStatus at completed
  dsimp only at completed
  split at completed
  next exceeded => cases exceeded.symm.trans completed
  · split at completed
    · cases completed
    next not_waiting =>
      split at completed
      · cases completed
      next none_failed =>
        simp only [Bool.or_eq_true, decide_eq_true_eq, Bool.not_eq_eq_eq_not, Bool.not_true,
          not_or, Bool.not_eq_false, List.isEmpty_iff] at not_waiting
        rw [Bool.not_eq_true, List.any_eq_false] at none_failed
        have not_failed := none_failed task member
        simp only [required, Bool.true_and, Bool.or_eq_true, decide_eq_true_eq, not_or]
          at not_failed
        refine ⟨fun waits => ?_, not_failed⟩
        have waiting : task ∈ manager.waiting :=
          List.mem_filter.mpr ⟨member, decide_eq_true waits⟩
        rw [not_waiting.2] at waiting
        cases waiting

/-- What a turn leaves is settled, unless it is cut short. -/
theorem settled_turn {state : LoopState} {iteration : Iteration} {task : Task}
    {budget counted : AgentBudget} {ending : TurnEnd}
    (turn : loop.turn? state iteration = some (task, budget))
    (follows : ending.Follows loop (state.turned task budget) task.markRunning iteration)
    (goes_on : ∀ reason, ending ≠ .stopped reason) (returns : ∀ raised, ending ≠ .raised raised)
    (settled : ∀ other ∈ state.manager.tasks, other.Settled)
    (repairs_settled : ∀ repair ∈ iteration.repairs, repair.Settled) :
    ∀ other ∈ (ending.apply (state.turned task counted) task.markRunning).manager.tasks,
      other.Settled := by
  obtain ⟨-, -, running⟩ := tracked_of_turn turn
  intro other member
  obtain rfl | ⟨earlier, different⟩ | ⟨error, repairs, rfl, new⟩ := mem_apply (running _) member
  · exact settled_ended follows goes_on returns
  · obtain rfl | ⟨tracked, -⟩ := TaskManager.mem_put earlier
    · exact absurd rfl different
    · exact settled other tracked
  · exact repairs_settled other (follows.2.1 ▸ new)

theorem honest_driving {state : LoopState} (driving : state.phase = .driving)
    (settled : ∀ task ∈ state.manager.tasks, task.Settled) : state.Honest := by
  unfold LoopState.Honest
  rw [driving]
  exact settled

theorem honest_finish_completed {state : LoopState} (driving : state.phase = .driving)
    (honest : state.Honest) (nothing_pending : state.manager.hasPending = false)
    (notes : List String) : (state.finish .completed notes).Honest := by
  unfold LoopState.Honest at honest
  rw [driving] at honest
  refine ⟨fun _ => honest, fun completed task member required => ?_⟩
  obtain ⟨not_waiting, not_failed, not_skipped⟩ :=
    @finalStatus_completed state.manager .completed completed task member required
  obtain ⟨not_running, not_retrying⟩ := honest task member
  have not_pending : task.status ≠ .pending := by
    intro pending
    have some_pending := TaskManager.hasPending_iff.mpr ⟨task, member, pending⟩
    exact Bool.noConfusion (nothing_pending.symm.trans some_pending)
  cases ends : task.status <;> simp_all

theorem settled_ofTasks {tasks : List Task} (settled : ∀ task ∈ tasks, task.Settled) :
    ∀ task ∈ (TaskManager.ofTasks (tasks.map harden)).tasks, task.Settled := by
  intro task member
  obtain ⟨earlier, known, rfl⟩ := List.mem_map.mp (TaskManager.mem_ofTasks member)
  have same : (harden earlier).status = earlier.status := by
    unfold harden
    split <;> rfl
  exact settled_of_eq same (settled earlier known)

/-- A run that is paused is resumed with settled tasks. -/
theorem honest_resumeFrom {state : LoopState} {record : RunRecord}
    {resolutions : List ApprovalResolution} (settled : ∀ task ∈ record.tasks, task.Settled) :
    (resumeFrom state record resolutions).Honest := by
  have tracked := settled_ofTasks settled
  have resolved : ∀ task : Task, task.Settled → (resolveTask resolutions task).Settled := by
    intro task settled_before
    unfold resolveTask
    dsimp only
    split
    · exact settled_before
    · split
      · exact ⟨nofun, nofun⟩
      · exact ⟨nofun, nofun⟩
  have folded : ∀ (tasks : List Task) (manager : TaskManager),
      (∀ task ∈ manager.tasks, task.Settled) → (∀ task ∈ tasks, task.Settled) →
      ∀ task ∈ (tasks.foldl (fun manager task => manager.put (resolveTask resolutions task))
        manager).tasks, task.Settled := by
    intro tasks
    induction tasks with
    | nil => exact fun _ known _ => known
    | cons first rest ih =>
        intro manager known waiting
        refine ih _ ?_ fun task later => waiting task (List.mem_cons_of_mem first later)
        intro task member
        obtain rfl | ⟨earlier, -⟩ := TaskManager.mem_put member
        · exact resolved first (waiting first List.mem_cons_self)
        · exact known task earlier
  exact folded _ _ tracked fun task waits => tracked task (List.mem_filter.mp waits).1

/-- A step keeps a run honest. -/
theorem honest_step {state : LoopState} {input : LoopInput} (honest : state.Honest)
    (repairs_settled : RepairsSettled state input) : (loopStep loop state input).1.Honest := by
  cases input with
  | resume resolutions =>
      obtain stepped | ⟨record, ended, waits, stepped⟩ := @loopStep_resume loop state resolutions
      · rw [stepped]
        exact honest
      · rw [stepped]
        unfold LoopState.Honest at honest
        rw [ended] at honest
        exact honest_resumeFrom (honest.1 waits)
  | iterate iteration =>
      cases turn : loop.turn? state iteration with
      | none =>
          obtain ⟨-, stepped⟩ | ⟨driving, ⟨reason, stepped⟩ | ⟨-, -, stepped⟩ |
            ⟨-, nothing_pending, stepped⟩⟩ := loopStep_idle turn
          · rw [stepped]
            exact honest
          · rw [stepped]
            exact ⟨nofun, nofun⟩
          · rw [stepped]
            unfold LoopState.Honest at honest
            rw [driving] at honest
            refine honest_driving driving fun task member => ?_
            obtain skipped | earlier := status_skipAll member
            · exact settled_of_eq skipped (by decide)
            · exact honest task earlier
          · rw [stepped]
            exact honest_finish_completed driving honest nothing_pending []
      | some turned =>
          obtain ⟨task, budget⟩ := turned
          obtain ⟨driving, -⟩ := turn?_eq_some.mp turn
          obtain ⟨ending, follows, stepped⟩ := loopStep_turn turn
          unfold LoopState.Honest at honest
          rw [driving] at honest
          have settled := fun goes_on returns => @settled_turn loop state iteration task budget
            (dispatchCalls loop task.markRunning budget none (loop.dispatchable iteration)).budget
            ending turn follows goes_on returns honest repairs_settled
          rw [stepped]
          cases ending with
          | stopped reason => exact ⟨nofun, nofun⟩
          | raised exception => exact trivial
          | paused confirmationId => exact ⟨fun _ => settled nofun nofun, nofun⟩
          | failed error => exact honest_driving driving (settled nofun nofun)
          | retried note => exact honest_driving driving (settled nofun nofun)
          | replanned error repairs => exact honest_driving driving (settled nofun nofun)
          | completed last => exact honest_driving driving (settled nofun nofun)

/-- A task whose calls are passed on has its dependencies completed. -/
theorem completed_dependencies {state : LoopState} {input : LoopInput} {task : Task}
    {call : Action} (requested : .requested task call ∈ (loopStep loop state input).2) :
    ∀ id ∈ task.dependsOn, ∃ dependency, state.manager.get id = some dependency ∧
      dependency.status = .completed := by
  cases input with
  | resume resolutions =>
      obtain stepped | ⟨record, -, -, stepped⟩ := @loopStep_resume loop state resolutions <;>
      · rw [stepped] at requested
        cases requested
  | iterate iteration =>
      cases turn : loop.turn? state iteration with
      | none =>
          rw [events_idle turn] at requested
          cases requested
      | some turned =>
          obtain ⟨ready, budget⟩ := turned
          obtain ⟨rfl, -⟩ := (requested_mem_loopStep turn).mp requested
          obtain ⟨-, -, next, -⟩ := turn?_eq_some.mp turn
          obtain ⟨-, -, completed⟩ := TaskManager.nextReady_some next
          intro id depends
          have found := completed id depends
          unfold TaskManager.depCompleted at found
          obtain ⟨dependency, tracked, done⟩ := (Option.any_eq_true _ _).mp found
          exact ⟨dependency, tracked, of_decide_eq_true done⟩

/-- The loop returns, a task is dispatched once its dependencies are completed, and a run that
ends completed has completed every required task that it tracks. -/
theorem returns_honestly (loop : AgentLoop) :
    (∀ (state : LoopState) (iterations : ℕ → Iteration), ∃ count,
      ((agentRun loop).stateAfter state
        ((List.range count).map fun index => .iterate (iterations index))).phase ≠ .driving) ∧
    (∀ state input task call, .requested task call ∈ (loopStep loop state input).2 →
      ∀ id ∈ task.dependsOn, ∃ dependency, state.manager.get id = some dependency ∧
        dependency.status = .completed) ∧
    ∀ budget llmCalls plan inputs, (∀ task ∈ plan, task.Settled) →
      (agentRun loop).Admits RepairsSettled (startRun loop budget llmCalls plan) inputs →
      ∀ record, ((agentRun loop).stateAfter (startRun loop budget llmCalls plan) inputs).phase =
        .ended record → record.Honest := by
  refine ⟨exists_returned, fun _ _ _ _ => completed_dependencies, ?_⟩
  intro budget llmCalls plan inputs settled admitted record ended
  have initially : (startRun loop budget llmCalls plan).Honest :=
    honest_driving rfl (settled_ofTasks settled)
  have honest := Machine.invariant_of_admits initially
    (fun _ _ => honest_step) admitted
  unfold LoopState.Honest at honest
  rw [ended] at honest
  exact honest.2

end Honesty

/-- A record that says completed has completed every required task of the plan. -/
def RunRecord.HonestTo (record : RunRecord) (plan : List Task) : Prop :=
  record.status = .completed → ∀ task ∈ plan, task.required = true →
    ∃ tracked ∈ record.tasks, tracked.id = task.id ∧ tracked.actionType = task.actionType ∧
      tracked.status = .completed

namespace Demo

def note : Action := { actionType := "fs.write", params := [("path", .str "notes.txt")] }

/-- The second task has the identifier of the first. -/
def duplicates : List Task :=
  [{ id := "one", actionType := "fs.write" }, { id := "one", actionType := "browser.navigate" }]

/-- A turn of the first task is open. -/
def begun : List Task := [{ id := "one", actionType := "fs.write", status := .running }]

/-- The proposed call is executed, and no task is left. -/
def executedOnce : List LoopInput :=
  [.iterate { proposed := .ok [(note, answer .executed)] }, .iterate { proposed := .ok [] }]

end Demo

/-- Of two tasks with one identifier the first is never tracked, and a task whose turn is open
is never taken up; the run ends completed without them. -/
theorem not_returns_honestly :
    (∃ record, ((agentRun Demo.loop).stateAfter (startRun Demo.loop {} [] Demo.duplicates)
        Demo.executedOnce).phase = .ended record ∧ ¬record.HonestTo Demo.duplicates) ∧
    ∃ record, ((agentRun Demo.loop).stateAfter (startRun Demo.loop {} [] Demo.begun)
        [.iterate { proposed := .ok [] }]).phase = .ended record ∧ ¬record.HonestTo Demo.begun := by
  refine ⟨⟨_, rfl, fun honest => ?_⟩, ⟨_, rfl, fun honest => ?_⟩⟩
  · obtain ⟨tracked, member, -, same, -⟩ := honest rfl _ (.head _) rfl
    obtain rfl := List.mem_singleton.mp member
    exact absurd same (by decide)
  · obtain ⟨tracked, member, -, -, completed⟩ := honest rfl _ (.head _) rfl
    obtain rfl := List.mem_singleton.mp member
    cases completed

/-- A write is executed and the run ends. -/
theorem returns_honestly_demo :
    ∃ record, ((agentRun Demo.loop).stateAfter
        (startRun Demo.loop {} [] [{ id := "one", actionType := "fs.write" }])
        Demo.executedOnce).phase = .ended record ∧ record.status = .completed ∧
      record.Honest := by
  refine ⟨_, rfl, rfl, ?_⟩
  refine (returns_honestly Demo.loop).2.2 {} [] [{ id := "one", actionType := "fs.write" }]
    Demo.executedOnce ?_ ?_ _ rfl
  · intro task member
    obtain rfl := List.mem_singleton.mp member
    exact ⟨nofun, nofun⟩
  · intro before input after split
    have member : input ∈ Demo.executedOnce := split ▸ List.mem_append_right before (.head after)
    obtain rfl | rfl : input = _ ∨ input = _ := by simpa [Demo.executedOnce] using member
    · exact fun task repair => nomatch repair
    · exact fun task repair => nomatch repair

end Era.Agents
