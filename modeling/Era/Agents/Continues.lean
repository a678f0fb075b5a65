import Era.Agents.Ending
import Era.Agents.Gate
import Era.Agents.TaskRows
import Era.Lib.History

/-!
# Continuing a paused run

A call of `continue_run` loads the row of the run, looks up the confirmations that it waits for,
drives the loop and stores what comes of it.  Nothing keeps a second call from loading the row
in the meantime.  The moves below are those of any number of calls, in any order.
-/

namespace Era.Agents

open Era.Core Era.Lib

/-- Where a call of `continue_run` stands. -/
inductive Continuation where
  /-- The row is loaded; the confirmations that are left are still to be looked up. -/
  | resolving (record : RunRecord) (left : List String) (resolutions : List ApprovalResolution)
  | driving (running : LoopState)
  | returned
  /-- An exception has ended the call in the loop, or before its record was stored. -/
  | broken

/-- An iteration of the loop of a call. -/
structure Turn where
  call : ℕ
  events : List LoopEvent

/-- The task that an event passes to the execution service. -/
def LoopEvent.dispatched : LoopEvent → Option Task
  | .requested task _ => some task
  | _ => none

/-- The tasks that an iteration passes to the execution service. -/
def Turn.dispatched (turn : Turn) : List Task := turn.events.filterMap LoopEvent.dispatched

/-- A run and the calls that continue it. -/
structure Continued where
  row : RunRecord
  calls : List Continuation := []
  turns : List Turn := []

inductive ContinueMove where
  /-- One more call loads the row. -/
  | load
  /-- A call looks up its next confirmation. -/
  | resolve (call : ℕ) (resolution : Option (ResolutionOutcome × String))
  /-- A call has looked up all of them. -/
  | resume (call : ℕ)
  | iterate (call : ℕ) (iteration : Iteration)
  | persist (call : ℕ)
  | raise (call : ℕ)

section Definitions

variable (loops : ℕ → AgentLoop) (caps : AgentBudget)

/-- `resume` up to the loop, with the budget of a new loop. -/
def newLoop (record : RunRecord) (resolutions : List ApprovalResolution) : LoopState :=
  resumeFrom { manager := TaskManager.ofTasks [], budget := caps } record resolutions

/-- One move; one that is not enabled changes nothing. -/
def continueStep (state : Continued) : ContinueMove → Continued
  | .load =>
      { state with
        calls := state.calls ++
          [if state.row.status = .waitingForUser then
            .resolving state.row state.row.pendingConfirmations []
          -- idempotent: nothing to continue
          else .returned] }
  | .resolve call resolution =>
      match state.calls[call]? with
      | some (.resolving record (confirmationId :: left) resolutions) =>
          let found := resolution.map fun (outcome, note) => { confirmationId, outcome, note }
          { state with
            calls := state.calls.set call
              (.resolving record left (resolutions ++ found.toList)) }
      | _ => state
  | .resume call =>
      match state.calls[call]? with
      -- still waiting for the operator
      | some (.resolving _ [] []) => { state with calls := state.calls.set call .returned }
      | some (.resolving record [] (first :: rest)) =>
          { state with
            calls := state.calls.set call (.driving (newLoop caps record (first :: rest))) }
      | _ => state
  | .iterate call iteration =>
      match state.calls[call]? with
      | some (.driving running) =>
          let stepped := loopStep (loops call) running (.iterate iteration)
          { state with
            calls := state.calls.set call (.driving stepped.1)
            turns := state.turns ++ [{ call, events := stepped.2 }] }
      | _ => state
  | .persist call =>
      match state.calls[call]? with
      | some (.driving running) =>
          match running.phase with
          | .ended record =>
              { state with row := record, calls := state.calls.set call .returned }
          | .driving | .raised _ => state
      | _ => state
  | .raise call =>
      match state.calls[call]? with
      | some (.driving _) => { state with calls := state.calls.set call .broken }
      | some (.resolving _ _ _) => { state with calls := state.calls.set call .returned }
      | _ => state

/-- A paused run and any number of calls that continue it. -/
def continuedRun : Machine Continued ContinueMove Unit where
  step state move := (continueStep loops caps state move, ())

/-- The iterations that the calls come to. -/
def turnsOf (record : RunRecord) (moves : List ContinueMove) : List Turn :=
  ((continuedRun loops caps).stateAfter { row := record } moves).turns

/-- A task is dispatched again only where the loop itself retries it, as a later attempt. -/
def DispatchedOnce (turns : List Turn) : Prop :=
  EachEvent (fun before turn => ∀ task ∈ turn.dispatched,
    ∀ earlier ∈ before, ∀ other ∈ earlier.dispatched, other.id = task.id →
      Repeats (loops earlier.call) other ∧ other.attempt < task.attempt) turns

end Definitions

namespace Continuation

/-- The loop of a call runs. -/
def Drives : Continuation → Prop
  | driving _ => True
  | resolving _ _ _ | returned | broken => False

/-- The loop of a call has ended without a record. -/
def Broken : Continuation → Prop
  | broken => True
  | resolving _ _ _ | driving _ | returned => False

instance : DecidablePred Drives
  | driving _ => isTrue trivial
  | resolving _ _ _ | returned | broken => isFalse id

instance : DecidablePred Broken
  | broken => isTrue trivial
  | resolving _ _ _ | driving _ | returned => isFalse id

end Continuation

/-- No loop runs, and none that has dispatched a task was ended by an exception. -/
def Continued.Quiet (state : Continued) : Prop :=
  (∀ other ∈ state.calls, ¬other.Drives) ∧
    ∀ turn ∈ state.turns, turn.dispatched ≠ [] → ∀ call ∈ state.calls[turn.call]?, ¬call.Broken

instance (state : Continued) : Decidable state.Quiet :=
  inferInstanceAs (Decidable ((∀ other ∈ state.calls, ¬other.Drives) ∧
    ∀ turn ∈ state.turns, turn.dispatched ≠ [] → ∀ call ∈ state.calls[turn.call]?, ¬call.Broken))

/-- A call drives the run with the row as it is stored, and alone. -/
def DrivesAlone (state : Continued) : ContinueMove → Prop
  | .resume call =>
      match state.calls[call]? with
      | some (.resolving record [] (_ :: _)) => record = state.row ∧ state.Quiet
      | _ => True
  | _ => True

/-! ## What is still to be dispatched -/

/-- A task that was dispatched is known, and pending only as a later attempt that the loop has
allowed. -/
structure AccountsFor (loop : AgentLoop) (tasks : List Task) (other : Task) : Prop where
  distinct : (tasks.map Task.id).Nodup
  known : other.id ∈ tasks.map Task.id
  later : ∀ task ∈ tasks, task.id = other.id → task.status = .pending →
    Repeats loop other ∧ other.attempt < task.attempt

section Iterations

variable {loop first : AgentLoop} {state : LoopState} {iteration : Iteration} {other : Task}

/-- Tasks that are pending were pending before, at the same attempt or an earlier one. -/
theorem AccountsFor.of_pending {tasks later : List Task} (accounts : AccountsFor first tasks other)
    (distinct : (later.map Task.id).Nodup) (known : other.id ∈ later.map Task.id)
    (pending : ∀ task ∈ later, task.id = other.id → task.status = .pending →
      ∃ earlier ∈ tasks, earlier.id = other.id ∧ earlier.status = .pending ∧
        earlier.attempt ≤ task.attempt) : AccountsFor first later other := by
  refine ⟨distinct, known, fun task member same isPending => ?_⟩
  obtain ⟨earlier, tracked, sameId, wasPending, atMost⟩ := pending task member same isPending
  obtain ⟨repeats, before⟩ := accounts.later earlier tracked sameId wasPending
  exact ⟨repeats, before.trans_le atMost⟩

theorem mem_ids_of_get {manager : TaskManager} {id : String} {task : Task}
    (found : manager.get id = some task) : id ∈ manager.tasks.map Task.id := by
  obtain ⟨member, rfl⟩ := TaskManager.mem_of_get found
  exact List.mem_map_of_mem member

/-- A turn leaves its task pending only when the loop retries it. -/
theorem pending_ended {ending : TurnEnd} {budget : AgentBudget} {task : Task}
    (follows : ending.Follows loop (state.turned task budget) task.markRunning iteration)
    (pending : (ending.ended task.markRunning).status = .pending) :
    (ending.ended task.markRunning).attempt = task.attempt + 1 ∧
      (loop.dispatchable iteration ≠ [] → Repeats loop task.markRunning) := by
  cases ending with
  | retried note =>
      constructor
      · unfold TurnEnd.ended Task.retry
        dsimp only
        split <;> rfl
      · obtain nothing | ⟨last, judged, repeats⟩ := follows.2
        · exact fun dispatches => absurd nothing dispatches
        · exact fun _ => repeats
  | stopped reason => cases pending
  | raised exception => cases pending
  | paused confirmationId => cases pending
  | failed error => cases pending
  | replanned error repairs => cases pending
  | completed last => cases pending

/-- An iteration accounts for what was dispatched before it. -/
theorem AccountsFor.iterate (accounts : AccountsFor first state.manager.tasks other) :
    AccountsFor first (loopStep loop state (.iterate iteration)).1.manager.tasks other := by
  obtain ⟨tracked, member, sameId⟩ := List.mem_map.mp accounts.known
  have found : state.manager.get other.id = some tracked := by
    rw [← sameId]
    exact TaskManager.get_of_mem member
  cases turn : loop.turn? state iteration with
  | none =>
      obtain ⟨-, stepped⟩ | ⟨-, ⟨reason, stepped⟩ | ⟨-, -, stepped⟩ | ⟨-, -, stepped⟩⟩ :=
        loopStep_idle turn
      · rwa [stepped]
      · rw [stepped]
        exact accounts
      · rw [stepped]
        refine accounts.of_pending (TaskManager.ids_nodup _) ?_ ?_
        · unfold LoopState.skipBlocked TaskManager.skipAll
          rw [TaskManager.ids_foldl_put]
          exact accounts.known
        · intro task member same pending
          obtain skipped | earlier := status_skipAll member
          · exact absurd (pending.symm.trans skipped) (by decide)
          · exact ⟨task, earlier, same, pending, le_rfl⟩
      · rw [stepped]
        exact accounts
  | some chosen =>
      obtain ⟨task, budget⟩ := chosen
      obtain ⟨wasPending, isTracked, -⟩ := tracked_of_turn turn
      obtain ⟨ending, follows, own, others⟩ := get_turn turn
      refine accounts.of_pending (TaskManager.ids_nodup _) ?_ ?_
      · by_cases same : other.id = task.id
        · rw [same]
          exact mem_ids_of_get own
        · exact mem_ids_of_get (others other.id tracked same found)
      · intro later inLater sameId pending
        have foundLater := TaskManager.get_of_mem inLater
        by_cases same : other.id = task.id
        · rw [sameId, same, own] at foundLater
          obtain rfl := Option.some.inj foundLater
          refine ⟨task, (TaskManager.mem_of_get isTracked).1, same.symm, wasPending, ?_⟩
          rw [(pending_ended follows pending).1]
          omega
        · rw [sameId, others other.id tracked same found] at foundLater
          obtain rfl := Option.some.inj foundLater
          exact ⟨tracked, member, sameId, pending, le_rfl⟩

/-- What an iteration dispatches was pending. -/
theorem pending_of_requested {task : Task} {call : Action}
    (requested : .requested task call ∈ (loopStep loop state (.iterate iteration)).2) :
    ∃ earlier ∈ state.manager.tasks, earlier.status = .pending ∧ task = earlier.markRunning := by
  cases turn : loop.turn? state iteration with
  | none =>
      rw [events_idle turn] at requested
      cases requested
  | some chosen =>
      obtain ⟨earlier, budget⟩ := chosen
      obtain ⟨pending, tracked, -⟩ := tracked_of_turn turn
      obtain ⟨same, -⟩ := (requested_mem_loopStep turn).mp requested
      exact ⟨earlier, (TaskManager.mem_of_get tracked).1, pending, same⟩

/-- An iteration accounts for what it dispatches. -/
theorem accountsFor_requested {task : Task} {call : Action}
    (requested : .requested task call ∈ (loopStep loop state (.iterate iteration)).2) :
    AccountsFor loop (loopStep loop state (.iterate iteration)).1.manager.tasks task := by
  cases turn : loop.turn? state iteration with
  | none =>
      rw [events_idle turn] at requested
      cases requested
  | some chosen =>
      obtain ⟨earlier, budget⟩ := chosen
      obtain ⟨rfl, answer, reached⟩ := (requested_mem_loopStep turn).mp requested
      obtain ⟨ending, follows, own, -⟩ := get_turn turn
      refine ⟨TaskManager.ids_nodup _, mem_ids_of_get own, ?_⟩
      intro later member sameId pending
      have found := TaskManager.get_of_mem member
      rw [sameId, Task.id_markRunning, own] at found
      obtain rfl := Option.some.inj found
      obtain ⟨attempt, repeats⟩ := pending_ended follows pending
      have dispatches : loop.dispatchable iteration ≠ [] := by
        intro nothing
        rw [nothing] at reached
        exact reached
      refine ⟨repeats dispatches, ?_⟩
      rw [attempt]
      exact Int.lt_succ earlier.attempt

end Iterations

/-! ## Resuming -/

theorem attempt_harden (task : Task) : (harden task).attempt = task.attempt := by
  unfold harden
  split <;> rfl

/-- Resolving tasks that wait leaves none of them pending. -/
theorem mem_of_resolved {resolutions : List ApprovalResolution} {waiting : List Task}
    (waits : ∀ task ∈ waiting, task.status = .waitingForUser) {manager : TaskManager} {task : Task}
    (member : task ∈ (waiting.foldl
      (fun manager task => manager.put (resolveTask resolutions task)) manager).tasks)
    (pending : task.status = .pending) : task ∈ manager.tasks := by
  induction waiting generalizing manager with
  | nil => exact member
  | cons first rest ih =>
      have before := ih (fun task later => waits task (.tail _ later)) member
      obtain rfl | ⟨earlier, -⟩ := TaskManager.mem_put before
      · have waited := waits first (.head _)
        unfold resolveTask at pending
        dsimp only at pending
        split at pending
        · cases waited.symm.trans pending
        · split at pending <;> cases pending
      · exact earlier

theorem AccountsFor.newLoop {loop : AgentLoop} {record : RunRecord} {other : Task}
    (accounts : AccountsFor loop record.tasks other) (caps : AgentBudget)
    (resolutions : List ApprovalResolution) :
    AccountsFor loop (newLoop caps record resolutions).manager.tasks other := by
  refine accounts.of_pending (TaskManager.ids_nodup _) ?_ ?_
  · unfold Agents.newLoop
    rw [ids_resumeFrom accounts.distinct]
    exact accounts.known
  · intro task member same pending
    have waits : ∀ waiting ∈ (TaskManager.ofTasks (record.tasks.map harden)).waiting,
        waiting.status = .waitingForUser :=
      fun _ waits => of_decide_eq_true (List.mem_filter.mp waits).2
    have hardened := TaskManager.mem_ofTasks (mem_of_resolved waits member pending)
    obtain ⟨earlier, tracked, rfl⟩ := List.mem_map.mp hardened
    rw [id_harden] at same
    rw [status_harden] at pending
    exact ⟨earlier, tracked, same, pending, (attempt_harden earlier).ge⟩

/-! ## Runs -/

section Runs

variable {loops : ℕ → AgentLoop} {caps : AgentBudget}

/-- What the tasks of a run say about an iteration. -/
def Turn.AccountedFor (loops : ℕ → AgentLoop) (tasks : List Task) (turn : Turn) : Prop :=
  ∀ task ∈ turn.dispatched, AccountsFor (loops turn.call) tasks task

/-- The row accounts for all iterations but those of calls that have not stored them; a call
that drives is alone, and its tasks account for all iterations. -/
structure Continued.Sound (loops : ℕ → AgentLoop) (state : Continued) : Prop where
  stored : ∀ turn ∈ state.turns,
    (∃ call, state.calls[turn.call]? = some call ∧ (call.Drives ∨ call.Broken)) ∨
      turn.AccountedFor loops state.row.tasks
  running : ∀ (call : ℕ) (running : LoopState), state.calls[call]? = some (.driving running) →
    running.Recorded ∧ ∀ turn ∈ state.turns, turn.AccountedFor loops running.manager.tasks
  alone : ∀ (call other : ℕ) (running another : LoopState),
    state.calls[call]? = some (.driving running) →
      state.calls[other]? = some (.driving another) → call = other
  once : DispatchedOnce loops state.turns

theorem getElem?_set_cases {calls : List Continuation} {index other : ℕ}
    {next found : Continuation} (read : (calls.set index next)[other]? = some found) :
    other = index ∧ found = next ∨ other ≠ index ∧ calls[other]? = some found := by
  by_cases same : other = index
  · subst same
    have inside : other < calls.length := by
      by_contra outside
      rw [List.getElem?_eq_none (by simpa using outside)] at read
      cases read
    rw [List.getElem?_set_self inside] at read
    exact .inl ⟨rfl, (Option.some.inj read).symm⟩
  · rw [List.getElem?_set_ne (Ne.symm same)] at read
    exact .inr ⟨same, read⟩

theorem getElem?_set_of_some {calls : List Continuation} {index : ℕ} {old : Continuation}
    (found : calls[index]? = some old) (next : Continuation) (other : ℕ) :
    (calls.set index next)[other]? = if other = index then some next else calls[other]? := by
  have inside : index < calls.length := (List.getElem?_eq_some_iff.mp found).1
  split
  next same =>
    subst same
    exact List.getElem?_set_self inside
  next apart => exact List.getElem?_set_ne (Ne.symm apart)

/-- A call goes on without driving. -/
theorem Continued.Sound.goOn {state : Continued} (sound : state.Sound loops) {index : ℕ}
    {old next : Continuation} (found : state.calls[index]? = some old) (quiet : ¬next.Drives)
    (unstored : old.Drives ∨ old.Broken → next.Drives ∨ next.Broken) :
    Continued.Sound loops { state with calls := state.calls.set index next } := by
  have drives {call : ℕ} {running : LoopState}
      (read : (state.calls.set index next)[call]? = some (.driving running)) :
      state.calls[call]? = some (.driving running) := by
    obtain ⟨-, same⟩ | ⟨-, before⟩ := getElem?_set_cases read
    · exact absurd (same ▸ trivial) quiet
    · exact before
  refine ⟨fun turn member => (sound.stored turn member).imp_left ?_, ?_, ?_, sound.once⟩
  · rintro ⟨call, read, open_⟩
    by_cases same : turn.call = index
    · rw [same, found] at read
      obtain rfl := Option.some.inj read
      exact ⟨next, by rw [getElem?_set_of_some found, if_pos same], unstored open_⟩
    · exact ⟨call, by rw [getElem?_set_of_some found, if_neg same]; exact read, open_⟩
  · exact fun call running read => sound.running call running (drives read)
  · exact fun call other running another first second =>
      sound.alone call other running another (drives first) (drives second)

theorem Continued.Sound.load {state : Continued} (sound : state.Sound loops)
    {call : Continuation} (quiet : ¬call.Drives) :
    Continued.Sound loops { state with calls := state.calls ++ [call] } := by
  have drives {index : ℕ} {running : LoopState}
      (read : (state.calls ++ [call])[index]? = some (.driving running)) :
      state.calls[index]? = some (.driving running) := by
    rw [List.getElem?_append] at read
    split at read
    · exact read
    · obtain ⟨_, same⟩ := List.getElem?_eq_some_iff.mp read
      rw [List.getElem_singleton] at same
      exact absurd (same ▸ trivial) quiet
  refine ⟨fun turn member => (sound.stored turn member).imp_left ?_, ?_, ?_, sound.once⟩
  · rintro ⟨other, read, open_⟩
    have inside := (List.getElem?_eq_some_iff.mp read).1
    exact ⟨other, by rw [List.getElem?_append_left inside]; exact read, open_⟩
  · exact fun index running read => sound.running index running (drives read)
  · exact fun index other running another first second =>
      sound.alone index other running another (drives first) (drives second)

/-- When no loop runs that has not stored what it dispatched, the row accounts for all. -/
theorem Continued.Sound.of_quiet {state : Continued} (sound : state.Sound loops)
    (quiet : state.Quiet) : ∀ turn ∈ state.turns, turn.AccountedFor loops state.row.tasks := by
  intro turn member
  obtain ⟨call, read, drives | broken⟩ | accounted := sound.stored turn member
  · exact absurd drives (quiet.1 call (List.mem_of_getElem? read))
  · intro task dispatched
    exact absurd broken (quiet.2 turn member (List.ne_nil_of_mem dispatched) call read)
  · exact accounted

/-- A call starts its loop. -/
theorem Continued.Sound.resume {state : Continued} (sound : state.Sound loops) {index : ℕ}
    {old : Continuation} (found : state.calls[index]? = some old) (quiet : state.Quiet)
    (resolutions : List ApprovalResolution) :
    Continued.Sound loops
      { state with
        calls := state.calls.set index (.driving (newLoop caps state.row resolutions)) } := by
  have accounted := sound.of_quiet quiet
  have drives {call : ℕ} {running : LoopState}
      (read : (state.calls.set index (.driving (newLoop caps state.row resolutions)))[call]? =
        some (.driving running)) :
      call = index ∧ running = newLoop caps state.row resolutions := by
    obtain ⟨here, same⟩ | ⟨-, before⟩ := getElem?_set_cases read
    · exact ⟨here, Continuation.driving.inj same⟩
    · exact absurd trivial (quiet.1 _ (List.mem_of_getElem? before))
  refine ⟨fun turn member => .inr (accounted turn member), ?_, ?_, sound.once⟩
  · intro call running read
    obtain ⟨-, rfl⟩ := drives read
    refine ⟨recorded_driving rfl, fun turn member task dispatched => ?_⟩
    exact (accounted turn member task dispatched).newLoop caps resolutions
  · intro call other running another first second
    rw [(drives first).1, (drives second).1]

theorem Turn.mem_dispatched {turn : Turn} {task : Task} :
    task ∈ turn.dispatched ↔ ∃ call, .requested task call ∈ turn.events := by
  unfold Turn.dispatched
  rw [List.mem_filterMap]
  constructor
  · rintro ⟨event, member, dispatched⟩
    cases event with
    | requested other call =>
        obtain rfl := Option.some.inj dispatched
        exact ⟨call, member⟩
    | _ => cases dispatched
  · rintro ⟨call, member⟩
    exact ⟨_, member, rfl⟩

/-- The loop of a call takes an iteration. -/
theorem Continued.Sound.iterate {state : Continued} (sound : state.Sound loops) {index : ℕ}
    {running : LoopState} (found : state.calls[index]? = some (.driving running))
    (iteration : Iteration) :
    Continued.Sound loops
      { state with
        calls := state.calls.set index
          (.driving (loopStep (loops index) running (.iterate iteration)).1)
        turns := state.turns ++
          [{ call := index
             events := (loopStep (loops index) running (.iterate iteration)).2 }] } := by
  obtain ⟨recorded, accounted⟩ := sound.running index running found
  have drives {call : ℕ} {other : LoopState}
      (read : (state.calls.set index
        (.driving (loopStep (loops index) running (.iterate iteration)).1))[call]? =
          some (.driving other)) :
      call = index ∧ other = (loopStep (loops index) running (.iterate iteration)).1 := by
    obtain ⟨here, same⟩ | ⟨apart, before⟩ := getElem?_set_cases read
    · exact ⟨here, Continuation.driving.inj same⟩
    · exact absurd (sound.alone call index other running before found) apart
  refine ⟨fun turn member => ?_, ?_, ?_, eachEvent_concat.mpr ⟨sound.once, ?_⟩⟩
  · obtain earlier | new := List.mem_append.mp member
    · refine (sound.stored turn earlier).imp_left ?_
      rintro ⟨call, read, unstored⟩
      rw [getElem?_set_of_some found]
      split
      next => exact ⟨.driving _, rfl, .inl trivial⟩
      next => exact ⟨call, read, unstored⟩
    · obtain rfl := List.mem_singleton.mp new
      exact .inl ⟨.driving _, by rw [getElem?_set_of_some found, if_pos rfl], .inl trivial⟩
  · intro call other read
    obtain ⟨-, rfl⟩ := drives read
    refine ⟨recorded.iterate, fun turn member task dispatched => ?_⟩
    obtain earlier | new := List.mem_append.mp member
    · exact (accounted turn earlier task dispatched).iterate
    · obtain rfl := List.mem_singleton.mp new
      obtain ⟨call, requested⟩ := Turn.mem_dispatched.mp dispatched
      exact accountsFor_requested requested
  · intro call other running another first second
    rw [(drives first).1, (drives second).1]
  · -- what is dispatched now was pending, which the tasks account for
    intro task dispatched earlier member other before same
    obtain ⟨call, requested⟩ := Turn.mem_dispatched.mp dispatched
    obtain ⟨pending, tracked, isPending, rfl⟩ := pending_of_requested requested
    exact (accounted earlier member other before).later pending tracked same.symm isPending

/-- A call stores the record of its loop. -/
theorem Continued.Sound.persist {state : Continued} (sound : state.Sound loops) {index : ℕ}
    {running : LoopState} (found : state.calls[index]? = some (.driving running))
    {record : RunRecord} (ended : running.phase = .ended record) :
    Continued.Sound loops
      { state with row := record, calls := state.calls.set index .returned } := by
  obtain ⟨recorded, accounted⟩ := sound.running index running found
  have drives {call : ℕ} {other : LoopState}
      (read : (state.calls.set index .returned)[call]? = some (.driving other)) : False := by
    obtain ⟨-, same⟩ | ⟨apart, before⟩ := getElem?_set_cases read
    · cases same
    · exact apart (sound.alone call index other running before found)
  refine ⟨fun turn member => .inr ?_, ?_, ?_, sound.once⟩
  · rw [recorded record ended]
    exact accounted turn member
  · exact fun call other read => (drives read).elim
  · exact fun call other one another read => (drives read).elim

theorem continueStep_sound {state : Continued} (sound : state.Sound loops) {move : ContinueMove}
    (alone : DrivesAlone state move) : (continueStep loops caps state move).Sound loops := by
  cases move with
  | load =>
      refine sound.load ?_
      split <;> exact id
  | resolve call resolution =>
      simp only [continueStep]
      split
      next found => exact sound.goOn found id (by rintro (⟨⟨⟩⟩ | ⟨⟨⟩⟩))
      next => exact sound
  | resume call =>
      simp only [continueStep]
      split
      next found => exact sound.goOn found id (by rintro (⟨⟨⟩⟩ | ⟨⟨⟩⟩))
      next record first rest found =>
        simp only [DrivesAlone, found] at alone
        obtain ⟨rfl, quiet⟩ := alone
        exact sound.resume found quiet (first :: rest)
      next => exact sound
  | iterate call iteration =>
      simp only [continueStep]
      split
      next running found => exact sound.iterate found iteration
      next => exact sound
  | persist call =>
      simp only [continueStep]
      split
      next running found =>
        split
        next record ended => exact sound.persist found ended
        next => exact sound
        next => exact sound
      next => exact sound
  | raise call =>
      simp only [continueStep]
      split
      next found => exact sound.goOn found id fun _ => .inr trivial
      next found => exact sound.goOn found id (by rintro (⟨⟨⟩⟩ | ⟨⟨⟩⟩))
      next => exact sound

/-- Calls that drive the run alone dispatch each task once. -/
theorem continues_dispatch_once (loops : ℕ → AgentLoop) (caps : AgentBudget)
    (record : RunRecord) (moves : List ContinueMove)
    (alone : (continuedRun loops caps).Admits DrivesAlone { row := record } moves) :
    DispatchedOnce loops (turnsOf loops caps record moves) := by
  have start : Continued.Sound loops { row := record } :=
    ⟨by simp, by simp, by simp, eachEvent_nil _⟩
  have preserved (state : Continued) (move : ContinueMove) (sound : state.Sound loops)
      (now : DrivesAlone state move) : ((continuedRun loops caps).step state move).1.Sound loops :=
    continueStep_sound sound now
  have reached := Machine.invariant_of_admits start preserved alone
  exact reached.once

end Runs

namespace Demo

/-- A form that is still to be filled in. -/
def form : Task := { id := "form", actionType := "browser.fill" }

/-- A run that waits for an approval before the form. -/
def waiting : RunRecord where
  status := .waitingForUser
  tasks := [{ saveNotes with status := .waitingForUser, waitingOn := ["asked"] }, form]
  result :=
    { status := .waitingForUser, tasksCompleted := 0, tasksFailed := 0, tasksSkipped := 0
      toolCalls := 1, iterations := 1, llmCalls := 0, notes := [] }
  pendingConfirmations := ["asked"]

/-- The form is filled in, once that is approved or right away. -/
def filling (answer : CallAnswer) : Iteration :=
  { proposed := .ok [({ actionType := "browser.fill", params := [] }, answer)] }

/-- A call loads the row, and finds the approval executed. -/
def loaded (call : ℕ) : List ContinueMove :=
  [.load, .resolve call (some (.executed, "")), .resume call]

/-- A second call loads what the first has stored. -/
def storedBetween : List ContinueMove :=
  loaded 0 ++ [.iterate 0 (filling asked), .persist 0] ++ loaded 1 ++
    [.iterate 1 (filling asked), .persist 1]

def bothLoaded : List ContinueMove :=
  loaded 0 ++ loaded 1 ++
    [.iterate 0 (filling (answer .executed)), .iterate 1 (filling (answer .executed))]

end Demo

theorem continues_dispatch_once_demo :
    DispatchedOnce (fun _ => Demo.loop)
      (turnsOf (fun _ => Demo.loop) {} Demo.waiting Demo.storedBetween) := by
  apply continues_dispatch_once
  unfold Demo.storedBetween Demo.loaded
  simp only [List.cons_append, List.nil_append, Machine.admits_cons]
  exact ⟨trivial, trivial, ⟨rfl, by decide⟩, trivial, trivial, trivial, trivial,
    ⟨rfl, by decide +kernel⟩, trivial, trivial, Machine.admits_nil _ _⟩

/-- Two calls fill in the form. -/
theorem not_dispatchedOnce :
    ¬DispatchedOnce (fun _ => Demo.loop)
      (turnsOf (fun _ => Demo.loop) {} Demo.waiting Demo.bothLoaded) := by
  intro once
  have again := once [_] _ [] rfl Demo.form.markRunning (List.mem_singleton_self _) _
    (List.mem_singleton_self _) Demo.form.markRunning (List.mem_singleton_self _) rfl
  exact absurd again.2 (lt_irrefl _)

end Era.Agents
