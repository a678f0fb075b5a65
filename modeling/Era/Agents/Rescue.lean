import Era.Agents.Caps
import Era.Agents.TaskRows
import Era.Agents.Verdicts

/-!
# Repairs

A task whose verification finally fails is repaired by tasks that the planner adds.  The failed
task stays failed, whatever becomes of its repair: it fails the run, and what depends on it is
never begun.
-/

namespace Era.Agents

open Era.Core Era.Lib Era.Services

/-- `RulePlanner.repair`. -/
def RulePlanner.repair (failed : Task) (reason : String) : List Task :=
  if failed.actionType = "fs.write" then
    let fix : Task :=
      { id := "repair-" ++ failed.id
        title := "Repair: " ++ failed.title
        actionType := "fs.write"
        params := failed.params.set "repair" (.bool true)
        verify := failed.verify
        correctionNote := some reason
        required := failed.required }
    let reverify : Task :=
      { id := "reverify-" ++ failed.id
        title := "Re-verify: " ++ failed.title
        actionType := "fs.read"
        params := [("path", failed.params.getOr "path" (.str ""))]
        verify := failed.verify
        dependsOn := [fix.id]
        required := failed.required }
    [fix, reverify]
  else []

/-- A required task that counts as failed. -/
def Task.IsLost (task : Task) : Prop :=
  task.required = true ∧ (task.status = .failed ∨ task.status = .skipped)

section Definitions

variable (loop : AgentLoop)

/-- A required task has failed its verification in a run that has ended, a repair was planned,
and all tasks of the repair are completed. -/
structure Repaired (start : LoopState) (inputs : List LoopInput) (task : Task)
    (repairs : List Task) (record : RunRecord) : Prop where
  ended : ((agentRun loop).stateAfter start inputs).phase = .ended record
  replanned : .replanned task repairs ∈ shown loop start inputs
  required : task.required = true
  completed : ∀ repair ∈ repairs, ∃ later ∈ record.tasks,
    later.id = repair.id ∧ later.status = .completed

/-- A task that has failed does not fail the run, and what depends on it is executed. -/
structure Rescued (seen : List LoopEvent) (record : RunRecord) (task : Task) : Prop where
  status : record.status = .failed → ∃ other ∈ record.tasks, other.id ≠ task.id ∧ other.IsLost
  dependents : ∀ dependent ∈ record.tasks, task.id ∈ dependent.dependsOn →
    dependent.status ≠ .skipped ∧ ∃ begun, .started begun ∈ seen ∧ begun.id = dependent.id

/-- An iteration finds nothing left to do: the run comes to its own end. -/
structure EndsByItself (state : LoopState) (iteration : Iteration) : Prop where
  driving : state.phase = .driving
  within : state.budget.check loop.platform iteration.reading = none
  none_ready : state.manager.nextReady = none
  none_pending : state.manager.hasPending = false
  none_waiting : state.manager.waiting = []

/-- No task depends on the failed one, and the run does not come to its own end with that task as
the only one that is lost. -/
structure Dispensable (start : LoopState) (inputs : List LoopInput) (task : Task) : Prop where
  dependents : ∀ other ∈ ((agentRun loop).stateAfter start inputs).manager.tasks,
    task.id ∉ other.dependsOn
  ends : ∀ before iteration after, inputs = before ++ .iterate iteration :: after →
    EndsByItself loop ((agentRun loop).stateAfter start before) iteration →
    ∃ other ∈ ((agentRun loop).stateAfter start before).manager.tasks,
      other.id ≠ task.id ∧ other.IsLost

end Definitions

/-! ## How a run ends -/

section Ends

variable {loop : AgentLoop} {state : LoopState} {record : RunRecord}

theorem finalStatus_failed_iff {manager : TaskManager} :
    finalStatus manager .completed = .failed ↔
      manager.waiting = [] ∧ ∃ task ∈ manager.tasks, task.IsLost := by
  unfold finalStatus
  dsimp only
  rw [if_neg nofun]
  cases waits : manager.waiting with
  | cons first rest => simp
  | nil => simp [Task.IsLost, or_iff_not_imp_left]

theorem loopStep_exceeded (driving : state.phase = .driving) {iteration : Iteration}
    {reason : String}
    (exceeded : state.budget.check loop.platform iteration.reading = some reason) :
    loopStep loop state (.iterate iteration) =
      (state.finish .budgetExceeded ["run stopped: " ++ reason], []) := by
  unfold loopStep
  dsimp only
  rw [driving]
  dsimp only
  unfold AgentLoop.iterate
  rw [exceeded]

theorem EndsByItself.step {iteration : Iteration} (ends : EndsByItself loop state iteration) :
    loopStep loop state (.iterate iteration) = (state.finish .completed [], []) := by
  unfold loopStep
  dsimp only
  rw [ends.driving]
  dsimp only
  unfold AgentLoop.iterate
  rw [ends.within, ends.none_ready]
  dsimp only
  rw [ends.none_pending]
  rfl

/-- A turn does not end a run failed. -/
theorem not_failed_apply {ending : TurnEnd} {task : Task} (driving : state.phase = .driving)
    (ended : (ending.apply state task).phase = .ended record) : record.status ≠ .failed := by
  cases ending with
  | stopped reason =>
      cases ended
      exact nofun
  | paused confirmationId =>
      cases ended
      exact nofun
  | raised exception => cases ended
  | failed error => cases driving.symm.trans ended
  | retried note => cases driving.symm.trans ended
  | replanned error repairs => cases driving.symm.trans ended
  | completed last => cases driving.symm.trans ended

/-- A run that has ended failed had ended so before, or comes to its own end. -/
theorem endsByItself_of_failed {input : LoopInput}
    (ended : (loopStep loop state input).1.phase = .ended record)
    (failed : record.status = .failed) :
    (loopStep loop state input).1 = state ∨
      ∃ iteration, input = .iterate iteration ∧ EndsByItself loop state iteration ∧
        record.tasks = state.manager.tasks := by
  cases input with
  | resume resolutions =>
      obtain stepped | ⟨before, -, -, stepped⟩ := @loopStep_resume loop state resolutions
      · exact .inl (by rw [stepped])
      · rw [stepped] at ended
        cases ended
  | iterate iteration =>
      cases turn : loop.turn? state iteration with
      | some turned =>
          obtain ⟨task, budget⟩ := turned
          obtain ⟨driving, -⟩ := turn?_eq_some.mp turn
          obtain ⟨ending, -, stepped⟩ := loopStep_turn turn
          rw [stepped] at ended
          exact absurd failed
            (@not_failed_apply (state.turned task _) record ending _ driving ended)
      | none =>
          obtain ⟨-, stepped⟩ | ⟨driving, idle⟩ := loopStep_idle turn
          · exact .inl (by rw [stepped])
          · cases within : state.budget.check loop.platform iteration.reading with
            | some reason =>
                rw [loopStep_exceeded driving within] at ended
                cases ended
                cases failed
            | none =>
                obtain ⟨reason, stepped⟩ | ⟨-, -, stepped⟩ |
                  ⟨none_ready, none_pending, stepped⟩ := idle
                · rw [stepped] at ended
                  cases ended
                  cases failed
                · rw [stepped] at ended
                  cases driving.symm.trans ended
                · rw [stepped] at ended
                  cases ended
                  exact .inr ⟨iteration, rfl, ⟨driving, within, none_ready, none_pending,
                    (finalStatus_failed_iff.mp failed).1⟩, rfl⟩

/-- A run that has come to its own end is over. -/
theorem loopStep_of_ended (ended : state.phase = .ended record)
    (final : record.status ≠ .waitingForUser) (input : LoopInput) :
    loopStep loop state input = (state, []) := by
  unfold loopStep
  cases input with
  | iterate iteration =>
      dsimp only
      rw [ended]
  | resume resolutions =>
      dsimp only
      rw [ended]
      dsimp only
      rw [if_neg (by simp [final])]

theorem run_of_ended (ended : state.phase = .ended record)
    (final : record.status ≠ .waitingForUser) (inputs : List LoopInput) :
    (agentRun loop).stateAfter state inputs = state ∧ shown loop state inputs = [] := by
  induction inputs with
  | nil => exact ⟨rfl, rfl⟩
  | cons input rest ih =>
      have stepped := @loopStep_of_ended loop state record ended final input
      unfold shown at ih ⊢
      rw [Machine.stateAfter_cons, Machine.trace_cons]
      show (agentRun loop).stateAfter (loopStep loop state input).1 rest = state ∧
        (loopStep loop state input).2 ++
          (agentRun loop).trace id (loopStep loop state input).1 rest = []
      rw [stepped]
      exact ih

end Ends

/-! ## What a run has seen -/

section Seen

variable {loop : AgentLoop} {state : LoopState}

/-- A task that is tracked under an identifier has a property. -/
def LoopState.Tracks (state : LoopState) (id : String) (property : Task → Prop) : Prop :=
  ∃ task, state.manager.get id = some task ∧ property task

/-- What has been repaired is failed, and what has been begun depends on completed tasks only. -/
structure Witnessed (seen : List LoopEvent) (state : LoopState) : Prop where
  recorded : state.Recorded
  replanned : ∀ task repairs, .replanned task repairs ∈ seen →
    state.Tracks task.id fun later => later.status = .failed ∧ later.required = task.required
  started : ∀ task, .started task ∈ seen →
    state.Tracks task.id fun later => ∀ dependency ∈ later.dependsOn,
      state.Tracks dependency fun done => done.status = .completed

theorem LoopState.Tracks.step {id : String} {before after : Task → Prop}
    (tracks : state.Tracks id before) (recorded : state.Recorded)
    (stays : ∀ task later, task.Becomes later → before task → after later) (input : LoopInput) :
    (loopStep loop state input).1.Tracks id after := by
  obtain ⟨task, found, holds⟩ := tracks
  obtain ⟨later, own, becomes⟩ := @becomes_step loop state id task recorded found input
  exact ⟨later, own, stays task later becomes holds⟩

theorem LoopState.Tracks.completed_step {id : String}
    (tracks : state.Tracks id fun done => done.status = .completed) (recorded : state.Recorded)
    (input : LoopInput) :
    (loopStep loop state input).1.Tracks id fun done => done.status = .completed :=
  tracks.step recorded (fun _ _ becomes completed => becomes.status_eq completed (by decide)) input

/-- What the events of a step say about its turn. -/
theorem mem_loopStep {input : LoopInput} {event : LoopEvent}
    (shows : event ∈ (loopStep loop state input).2)
    (counts : event.isStarted = true ∨ event.isReplanned = true) :
    ∃ iteration task budget, input = .iterate iteration ∧
      loop.turn? state iteration = some (task, budget) ∧
      ∃ ending : TurnEnd,
        (loopStep loop state input).1.manager.get task.id = some (ending.ended task.markRunning) ∧
        (event = .started task ∨ event ∈ ending.events task.markRunning) := by
  cases input with
  | resume resolutions =>
      obtain stepped | ⟨before, -, -, stepped⟩ := @loopStep_resume loop state resolutions
      · rw [stepped] at shows
        cases shows
      · rw [stepped] at shows
        cases shows
  | iterate iteration =>
      cases turn : loop.turn? state iteration with
      | none =>
          rw [events_idle turn] at shows
          cases shows
      | some turned =>
          obtain ⟨task, budget⟩ := turned
          obtain ⟨-, -, running⟩ := tracked_of_turn turn
          obtain ⟨ending, -, stepped⟩ := loopStep_turn turn
          refine ⟨iteration, task, budget, rfl, turn, ending, ?_, ?_⟩
          · rw [stepped]
            exact get_apply_self ending (running _)
          · rw [stepped] at shows
            have quiet := @countP_dispatchCalls loop task.markRunning budget none
              (loop.dispatchable iteration)
            simp only [List.countP_eq_zero] at quiet
            rcases List.mem_cons.mp shows with started | later
            · exact .inl started
            · rcases List.mem_append.mp later with asked | later
              · cases List.eq_of_mem_replicate asked
                rcases counts with counts | counts <;> cases counts
              · rcases List.mem_append.mp later with called | ends
                · rcases counts with counts | counts
                  · exact absurd counts (quiet.1 event called)
                  · exact absurd counts (quiet.2.2 event called)
                · exact .inr ends

/-- A task that is repaired has failed. -/
theorem tracks_replanned {input : LoopInput} {task : Task} {repairs : List Task}
    (shows : .replanned task repairs ∈ (loopStep loop state input).2) :
    (loopStep loop state input).1.Tracks task.id fun later =>
      later.status = .failed ∧ later.required = task.required := by
  obtain ⟨iteration, chosen, budget, rfl, turn, ending, own, started | ends⟩ :=
    mem_loopStep shows (.inr rfl)
  · cases started
  · cases ending with
    | replanned error planned =>
        cases List.mem_singleton.mp ends
        exact ⟨_, own, rfl, rfl⟩
    | completed last => cases List.mem_singleton.mp ends
    | _ => cases ends

/-- A task that is begun depends on completed tasks. -/
theorem tracks_started {input : LoopInput} {task : Task} (recorded : state.Recorded)
    (shows : .started task ∈ (loopStep loop state input).2) :
    (loopStep loop state input).1.Tracks task.id fun later => ∀ dependency ∈ later.dependsOn,
      (loopStep loop state input).1.Tracks dependency fun done => done.status = .completed := by
  obtain ⟨iteration, chosen, budget, rfl, turn, ending, own, started | ends⟩ :=
    mem_loopStep shows (.inl rfl)
  · cases started
    obtain ⟨-, -, ready, -⟩ := turn?_eq_some.mp turn
    obtain ⟨-, pending, completed⟩ := TaskManager.nextReady_some ready
    refine ⟨_, own, fun dependency depends => ?_⟩
    rw [(task.becomes_ended ending pending).dependsOn] at depends
    obtain ⟨done, found, status⟩ := (Option.any_eq_true _ _).mp (completed dependency depends)
    have tracked : state.Tracks dependency fun done => done.status = .completed :=
      ⟨done, found, of_decide_eq_true status⟩
    exact tracked.completed_step recorded _
  · cases ending with
    | replanned error planned => cases List.mem_singleton.mp ends
    | completed last => cases List.mem_singleton.mp ends
    | _ => cases ends

theorem witnessed_step {seen : List LoopEvent} (witnessed : Witnessed seen state)
    (input : LoopInput) :
    Witnessed (seen ++ (loopStep loop state input).2) (loopStep loop state input).1 := by
  obtain ⟨recorded, replanned, started⟩ := witnessed
  refine ⟨recorded.step input, fun task repairs shown => ?_, fun task shown => ?_⟩
  · rcases List.mem_append.mp shown with earlier | now
    · refine (replanned task repairs earlier).step recorded ?_ input
      exact fun _ _ becomes failed =>
        ⟨becomes.status_eq failed.1 (by decide), becomes.required.trans failed.2⟩
    · exact tracks_replanned now
  · rcases List.mem_append.mp shown with earlier | now
    · refine (started task earlier).step recorded (fun _ _ becomes completed => ?_) input
      intro dependency depends
      rw [becomes.dependsOn] at depends
      exact (completed dependency depends).completed_step recorded input
    · exact tracks_started recorded now

/-- Every run bears witness. -/
theorem witnessed_run (start : LoopState) (driving : start.phase = .driving)
    (inputs : List LoopInput) :
    Witnessed (shown loop start inputs) ((agentRun loop).stateAfter start inputs) :=
  Machine.trace_invariant_of_admits id ⟨recorded_driving driving, nofun, nofun⟩
    (fun _ _ input witnessed _ => witnessed_step witnessed input)
    (show (agentRun loop).Admits (fun _ _ => True) start inputs from fun _ _ _ _ => trivial)

end Seen

/-! ## The rescue -/

section Rescuing

variable {loop : AgentLoop} {start : LoopState} {inputs : List LoopInput} {record : RunRecord}
variable {task : Task} {repairs : List Task}

/-- A run that has ended failed has come to its own end. -/
theorem exists_endsByItself (driving : start.phase = .driving)
    (ended : ((agentRun loop).stateAfter start inputs).phase = .ended record)
    (failed : record.status = .failed) :
    ∃ before iteration after, inputs = before ++ .iterate iteration :: after ∧
      EndsByItself loop ((agentRun loop).stateAfter start before) iteration ∧
      record.tasks = ((agentRun loop).stateAfter start before).manager.tasks := by
  induction inputs using List.reverseRecOn with
  | nil => cases driving.symm.trans ended
  | append_singleton before input ih =>
      rw [Machine.stateAfter_append] at ended
      obtain same | ⟨iteration, rfl, ends, tasks⟩ := endsByItself_of_failed ended failed
      · have ended_before : ((agentRun loop).stateAfter start before).phase = .ended record :=
          same ▸ ended
        obtain ⟨earlier, iteration, later, rfl, ends, tasks⟩ := ih ended_before
        exact ⟨earlier, iteration, later ++ [input], by simp, ends, tasks⟩
      · exact ⟨before, iteration, [], rfl, ends, tasks⟩

/-- Nothing is shown and nothing changes once a run has come to its own end. -/
theorem run_of_endsByItself {before after : List LoopInput} {iteration : Iteration}
    (ends : EndsByItself loop ((agentRun loop).stateAfter start before) iteration) :
    (agentRun loop).stateAfter start (before ++ .iterate iteration :: after) =
        ((agentRun loop).stateAfter start before).finish .completed [] ∧
      shown loop start (before ++ .iterate iteration :: after) = shown loop start before := by
  have not_waiting : finalStatus ((agentRun loop).stateAfter start before).manager .completed ≠
      .waitingForUser := by
    unfold finalStatus
    dsimp only
    rw [if_neg nofun, ends.none_waiting, if_neg (by simp)]
    split <;> exact nofun
  obtain ⟨stays, silent⟩ := @run_of_ended loop
    (((agentRun loop).stateAfter start before).finish .completed []) _ rfl not_waiting after
  have stepped : (agentRun loop).step ((agentRun loop).stateAfter start before)
      (.iterate iteration) = _ := ends.step
  constructor
  · rw [Machine.stateAfter_append, Machine.stateAfter_cons, stepped]
    exact stays
  · unfold shown at silent ⊢
    rw [Machine.trace_append, Machine.trace_cons, stepped, silent]
    exact List.append_nil _

/-- A repaired task stays failed, so it is rescued exactly if it is dispensable. -/
theorem rescued_iff (loop : AgentLoop) (budget : AgentBudget) (readings : List BudgetReading)
    (plan : List Task) (inputs : List LoopInput) (task : Task) (repairs : List Task)
    (record : RunRecord)
    (repaired : Repaired loop (startRun loop budget readings plan) inputs task repairs record) :
    Rescued (shown loop (startRun loop budget readings plan) inputs) record task ↔
      Dispensable loop (startRun loop budget readings plan) inputs task := by
  have witnessed := @witnessed_run loop (startRun loop budget readings plan) rfl inputs
  have recorded := witnessed.recorded record repaired.ended
  constructor
  · rintro ⟨status, dependents⟩
    refine ⟨fun dependent member depends => ?_, ?_⟩
    · obtain ⟨-, begun, started, same⟩ := dependents dependent (recorded ▸ member) depends
      obtain ⟨later, own, completed⟩ := witnessed.started begun started
      rw [same, TaskManager.get_of_mem member] at own
      cases own
      obtain ⟨done, found, is_completed⟩ := completed task.id depends
      obtain ⟨other, tracked, is_failed, -⟩ := witnessed.replanned task repairs repaired.replanned
      cases found.symm.trans tracked
      cases is_completed.symm.trans is_failed
    · rintro before iteration after rfl ends
      obtain ⟨finished, same⟩ := @run_of_endsByItself loop _ before after iteration ends
      have ended := finished ▸ repaired.ended
      cases ended
      -- The task has failed before the run comes to its end, and it is required.
      obtain ⟨later, tracked, is_failed, required⟩ :=
        (witnessed_run _ rfl before).replanned task repairs (same ▸ repaired.replanned)
      have lost : later.IsLost := ⟨required.trans repaired.required, .inl is_failed⟩
      exact status (finalStatus_failed_iff.mpr
        ⟨ends.none_waiting, later, (TaskManager.mem_of_get tracked).1, lost⟩)
  · rintro ⟨dependents, ends⟩
    refine ⟨fun failed => ?_, fun dependent member depends => ?_⟩
    · obtain ⟨before, iteration, after, rfl, itself, tasks⟩ :=
        exists_endsByItself rfl repaired.ended failed
      rw [tasks]
      exact ends before iteration after rfl itself
    · exact absurd depends (dependents dependent (recorded ▸ member))

end Rescuing

namespace Demo

def writePage : Task :=
  { id := "page"
    actionType := "fs.write"
    params := [("path", .str "notes.txt")]
    verify := some [("kind", .str "file_exists"), ("path", .str "notes.txt")]
    maxAttempts := 1 }

/-- The page is announced when it is written. -/
def announce : Task := { id := "announce", actionType := "fs.write", dependsOn := ["page"] }

def pageRepairs : List Task := RulePlanner.repair writePage "file does not exist: notes.txt"

def written : Workspace :=
  { file := fun path => if path = "notes.txt" then some { bytes := [65] } else none }

/-- A call of a task is executed. -/
def executes (workspace : Workspace) : LoopInput :=
  .iterate { proposed := .ok [(write, answer .executed)], workspace, repairs := pageRepairs }

/-- The page is missing at first; both tasks of the repair find it. -/
def repairedRun : List LoopInput :=
  [executes {}, executes written, executes written, executes written, executes written]

/-- The repair succeeds: both of its tasks are completed. -/
theorem repaired : ∃ record, Repaired loop (startRun loop {} [] [writePage, announce]) repairedRun
    writePage.markRunning pageRepairs record := by
  refine ⟨_, rfl, .tail _ (.tail _ (.head _)), rfl, ?_⟩
  intro repair planned
  rcases List.mem_cons.mp planned with rfl | last
  · exact ⟨_, .tail _ (.tail _ (.head _)), rfl, rfl⟩
  · cases List.mem_singleton.mp last
    exact ⟨_, .tail _ (.tail _ (.tail _ (.head _))), rfl, rfl⟩

end Demo

/-- The page is repaired, and yet the task that waits for it is skipped. -/
theorem not_rescued :
    ¬∀ (loop : AgentLoop) (budget : AgentBudget) (readings : List BudgetReading)
      (plan : List Task) (inputs : List LoopInput) (task : Task) (repairs : List Task)
      (record : RunRecord),
      Repaired loop (startRun loop budget readings plan) inputs task repairs record →
        Rescued (shown loop (startRun loop budget readings plan) inputs) record task := by
  intro rescues
  obtain ⟨record, repaired⟩ := Demo.repaired
  have rescued := rescues _ _ _ _ _ _ _ record repaired
  cases repaired.ended
  exact (rescued.dependents _ (.tail _ (.head _)) (.head _)).1 rfl

theorem rescued_iff_demo :
    let start := startRun Demo.loop {} [] [Demo.writePage, Demo.announce]
    ∃ record, Repaired Demo.loop start Demo.repairedRun Demo.writePage.markRunning Demo.pageRepairs
        record ∧
      (Rescued (shown Demo.loop start Demo.repairedRun) record Demo.writePage.markRunning ↔
        Dispensable Demo.loop start Demo.repairedRun Demo.writePage.markRunning) := by
  obtain ⟨record, repaired⟩ := Demo.repaired
  exact ⟨record, repaired, rescued_iff Demo.loop {} [] _ _ _ _ record repaired⟩

end Era.Agents
