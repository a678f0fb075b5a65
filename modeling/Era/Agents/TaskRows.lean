import Era.Agents.Routes

/-!
# What a step makes of a task

A task that is tracked stays tracked, with the tasks that it depends on.  What is over stays so,
and a task that waits for the user is over when it waits no longer.
-/

namespace Era.Agents

open Era.Core Era.Lib Era.Services

/-- What may become of a task in a step. -/
structure Task.Becomes (task later : Task) : Prop where
  dependsOn : later.dependsOn = task.dependsOn
  required : later.required = task.required
  status : task.status ≠ .pending →
    later.status = task.status ∨ task.status = .waitingForUser ∧ later.status ≠ .pending

/-- The record of a run that has ended has the tasks of the run. -/
def LoopState.Recorded (state : LoopState) : Prop :=
  ∀ record, state.phase = .ended record → record.tasks = state.manager.tasks

section Becoming

variable {task later : Task}

theorem Task.Becomes.refl (task : Task) : task.Becomes task :=
  ⟨rfl, rfl, fun _ => .inl rfl⟩

theorem Task.Becomes.of_pending (pending : task.status = .pending)
    (dependsOn : later.dependsOn = task.dependsOn) (required : later.required = task.required) :
    task.Becomes later :=
  ⟨dependsOn, required, fun active => absurd pending active⟩

/-- What is over stays as it is. -/
theorem Task.Becomes.status_eq (becomes : task.Becomes later) {status : TaskStatus}
    (is : task.status = status) (final : status ≠ .pending ∧ status ≠ .waitingForUser) :
    later.status = status := by
  rw [← is] at final ⊢
  exact (becomes.status final.1).resolve_right fun waits => final.2 waits.1

theorem Task.Becomes.not_pending (becomes : task.Becomes later) (active : task.status ≠ .pending) :
    later.status ≠ .pending := by
  rcases becomes.status active with same | ⟨-, resolved⟩
  · exact same ▸ active
  · exact resolved

theorem Task.becomes_ended (ending : TurnEnd) (pending : task.status = .pending) :
    task.Becomes (ending.ended task.markRunning) := by
  cases ending with
  | retried note =>
      have same : (task.markRunning.retry note).dependsOn = task.dependsOn ∧
          (task.markRunning.retry note).required = task.required := by
        unfold Task.retry
        dsimp only
        split <;> exact ⟨rfl, rfl⟩
      exact .of_pending pending same.1 same.2
  | _ => exact .of_pending pending rfl rfl

theorem Task.becomes_harden (task : Task) : task.Becomes (harden task) := by
  unfold harden
  split
  · exact ⟨rfl, rfl, fun _ => .inl rfl⟩
  · exact .refl task

theorem Task.becomes_resolved (resolutions : List ApprovalResolution)
    (waits : task.status = .waitingForUser) :
    task.Becomes (resolveTask resolutions (harden task)) := by
  have hardened := task.becomes_harden
  unfold resolveTask
  dsimp only
  split
  · exact hardened
  · split
    · exact ⟨hardened.dependsOn, hardened.required, fun _ => .inr ⟨waits, nofun⟩⟩
    · exact ⟨hardened.dependsOn, hardened.required, fun _ => .inr ⟨waits, nofun⟩⟩

end Becoming

/-! ## The tasks of a step -/

section Steps

variable {loop : AgentLoop} {state : LoopState} {iteration : Iteration} {id : String} {task : Task}

/-- Skipping leaves a task as it is, or skips it. -/
theorem becomes_skipAll {manager : TaskManager} {reason : String} {dead : List Task}
    (chosen : ∀ other ∈ dead, other ∈ manager.tasks ∧ other.status = .pending)
    (found : manager.get id = some task) :
    ∃ later, (manager.skipAll reason dead).get id = some later ∧ task.Becomes later := by
  have generalized : ∀ (dead : List Task) (current : TaskManager) (now : Task),
      (∀ other ∈ dead, other ∈ manager.tasks ∧ other.status = .pending) →
      current.get id = some now → task.Becomes now →
      ∃ later, (current.skipAll reason dead).get id = some later ∧ task.Becomes later := by
    intro dead
    induction dead with
    | nil => exact fun _ now _ found_now becomes => ⟨now, found_now, becomes⟩
    | cons first rest ih =>
        intro current now chosen found_now becomes
        have chosen_rest := fun other later => chosen other (List.mem_cons_of_mem first later)
        by_cases same : id = first.id
        · obtain ⟨tracked, pending⟩ := chosen first List.mem_cons_self
          have own := TaskManager.get_of_mem tracked
          rw [← same, found] at own
          cases own
          subst same
          exact ih _ (task.skip reason) chosen_rest
            (@TaskManager.get_put_self current (task.skip reason) now found_now)
            (.of_pending pending rfl rfl)
        · exact ih _ now chosen_rest
            ((@TaskManager.get_put_ne current (first.skip reason) id same).trans found_now) becomes
  exact generalized dead manager task chosen found (.refl task)

theorem mem_dead {manager : TaskManager} {other : Task}
    (dead : other ∈ if manager.blockedPending.isEmpty then manager.pending
      else manager.blockedPending) : other ∈ manager.tasks ∧ other.status = .pending := by
  split at dead
  · obtain ⟨member, pending⟩ := List.mem_filter.mp dead
    exact ⟨member, of_decide_eq_true pending⟩
  · obtain ⟨member, blocked⟩ := List.mem_filter.mp dead
    rw [Bool.and_eq_true, decide_eq_true_eq] at blocked
    exact ⟨member, blocked.1⟩

/-- A resumption leaves a task as it is, or resolves it. -/
theorem becomes_resumeFrom {record : RunRecord} {resolutions : List ApprovalResolution}
    (recorded : record.tasks = state.manager.tasks) (found : state.manager.get id = some task) :
    ∃ later, (resumeFrom state record resolutions).manager.get id = some later ∧
      task.Becomes later := by
  obtain ⟨member, rfl⟩ := TaskManager.mem_of_get found
  rw [← recorded] at member
  have distinct : (record.tasks.map Task.id).Nodup := recorded ▸ state.manager.ids_nodup
  by_cases waits : task.status = .waitingForUser
  · exact ⟨_, get_resumeFrom distinct member waits, task.becomes_resolved resolutions waits⟩
  · have same_ids : (record.tasks.map harden).map Task.id = record.tasks.map Task.id := by
      rw [List.map_map]
      exact List.map_congr_left fun task _ => id_harden task
    have hardened : harden task ∈ (TaskManager.ofTasks (record.tasks.map harden)).tasks := by
      rw [TaskManager.tasks_ofTasks (same_ids ▸ distinct)]
      exact List.mem_map_of_mem member
    have own := id_harden task ▸ TaskManager.get_of_mem hardened
    refine ⟨harden task, ?_, task.becomes_harden⟩
    refine (TaskManager.get_foldl_put_ne (@id_resolveTask resolutions) ?_).trans own
    intro other waiting same
    obtain ⟨tracked, other_waits⟩ := List.mem_filter.mp waiting
    have other_own := same ▸ TaskManager.get_of_mem tracked
    cases own.symm.trans other_own
    exact waits ((status_harden task).symm.trans (of_decide_eq_true other_waits))

theorem recorded_finish (state : LoopState) (forced : RunStatus) (notes : List String) :
    (state.finish forced notes).Recorded := by
  intro record ended
  obtain rfl := LoopPhase.ended.inj ended
  rfl

theorem recorded_driving (driving : state.phase = .driving) : state.Recorded :=
  fun _ ended => nomatch driving.symm.trans ended

/-- A run that ends records its tasks. -/
theorem LoopState.Recorded.iterate (recorded : state.Recorded) :
    (loopStep loop state (.iterate iteration)).1.Recorded := by
  cases turn : loop.turn? state iteration with
  | none =>
      obtain ⟨-, stepped⟩ | ⟨driving, ⟨reason, stepped⟩ | ⟨-, -, stepped⟩ | ⟨-, -, stepped⟩⟩ :=
        loopStep_idle turn
      · rwa [stepped]
      · rw [stepped]
        exact recorded_finish state _ _
      · rw [stepped]
        exact recorded_driving driving
      · rw [stepped]
        exact recorded_finish state _ _
  | some chosen =>
      obtain ⟨task, budget⟩ := chosen
      obtain ⟨driving, -⟩ := turn?_eq_some.mp turn
      obtain ⟨ending, -, stepped⟩ := loopStep_turn turn
      rw [stepped]
      cases ending with
      | stopped reason => exact recorded_finish (state.turned task _) _ _
      | paused confirmationId => exact recorded_finish ((state.turned task _).put _) _ _
      | raised exception => exact fun _ ended => nomatch ended
      | failed error => exact recorded_driving driving
      | retried note => exact recorded_driving driving
      | replanned error repairs => exact recorded_driving driving
      | completed last => exact recorded_driving driving

/-- A step keeps what is recorded the tasks of the run. -/
theorem LoopState.Recorded.step (recorded : state.Recorded) (input : LoopInput) :
    (loopStep loop state input).1.Recorded := by
  cases input with
  | iterate iteration => exact recorded.iterate
  | resume resolutions =>
      obtain stepped | ⟨record, -, -, stepped⟩ := @loopStep_resume loop state resolutions
      · rw [stepped]
        exact recorded
      · rw [stepped]
        exact recorded_driving rfl

/-- A step leaves every task tracked. -/
theorem becomes_step (recorded : state.Recorded) (found : state.manager.get id = some task)
    (input : LoopInput) :
    ∃ later, (loopStep loop state input).1.manager.get id = some later ∧ task.Becomes later := by
  cases input with
  | resume resolutions =>
      obtain stepped | ⟨record, ended, -, stepped⟩ := @loopStep_resume loop state resolutions
      · exact ⟨task, by rw [stepped]; exact found, .refl task⟩
      · rw [stepped]
        exact becomes_resumeFrom (recorded record ended) found
  | iterate iteration =>
      cases turn : loop.turn? state iteration with
      | some turned =>
          obtain ⟨first, budget⟩ := turned
          obtain ⟨ending, -, own, others⟩ := get_turn turn
          by_cases same : id = first.id
          · subst same
            obtain ⟨pending, tracked, -⟩ := tracked_of_turn turn
            cases found.symm.trans tracked
            exact ⟨_, own, task.becomes_ended ending pending⟩
          · exact ⟨task, others id task same found, .refl task⟩
      | none =>
          obtain ⟨-, stepped⟩ | ⟨-, ⟨reason, stepped⟩ | ⟨-, -, stepped⟩ | ⟨-, -, stepped⟩⟩ :=
            loopStep_idle turn
          · exact ⟨task, by rw [stepped]; exact found, .refl task⟩
          · exact ⟨task, by rw [stepped]; exact found, .refl task⟩
          · rw [stepped]
            exact becomes_skipAll (fun _ => mem_dead) found
          · exact ⟨task, by rw [stepped]; exact found, .refl task⟩

end Steps

end Era.Agents
