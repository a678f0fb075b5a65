import Mathlib.Data.List.DropRight
import Era.Core.Value
import Era.Lib.Table

/-!
# Events of agent runs

A run emits numbered events, and the service keeps the last of them for each run.  A look at the
history of a run makes the history, as a `defaultdict` does.
-/

namespace Era.Agents

open Era.Core Era.Lib

inductive AgentEventType where
  | runStarted
  | planCreated
  | taskStarted
  | toolCall
  | observation
  | verdict
  | taskRetrying
  | taskCompleted
  | taskFailed
  | taskSkipped
  | confirmationRequired
  | runFinished
  | error
  deriving DecidableEq, Repr

/-- The text of a member of `AgentEventType`. -/
def AgentEventType.value : AgentEventType → String
  | .runStarted => "run_started"
  | .planCreated => "plan_created"
  | .taskStarted => "task_started"
  | .toolCall => "tool_call"
  | .observation => "observation"
  | .verdict => "verdict"
  | .taskRetrying => "task_retrying"
  | .taskCompleted => "task_completed"
  | .taskFailed => "task_failed"
  | .taskSkipped => "task_skipped"
  | .confirmationRequired => "confirmation_required"
  | .runFinished => "run_finished"
  | .error => "error"

structure AgentEvent where
  runId : String
  seq : ℕ
  type : AgentEventType
  data : Params

/-- The document that an event is dumped as. -/
def AgentEvent.document (event : AgentEvent) : Value :=
  .dict
    [("run_id", .str event.runId), ("seq", .int event.seq), ("type", .str event.type.value),
      ("data", .dict event.data)]

/-- `MAX_EVENTS_PER_RUN`. -/
def maxEventsPerRun : ℕ := 500

/-- `MAX_BUFFERED_RUNS`. -/
def maxBufferedRuns : ℕ := 100

/-- An entry of `_event_buffers`. -/
structure EventBuffer where
  runId : String
  events : List AgentEvent

/-- `append` of a `deque` with a `maxlen`. -/
def dequeAppend {Item : Type*} (maxlen : ℕ) (items : List Item) (item : Item) : List Item :=
  (items ++ [item]).rtake maxlen

/-- `sorted` by `seq`. -/
def sortedBySeq (events : List AgentEvent) : List AgentEvent :=
  events.mergeSort fun left right => decide (left.seq ≤ right.seq)

/-- `_events_of`. -/
def eventsOf (buffers : List EventBuffer) (runId : String) :
    List EventBuffer × List AgentEvent :=
  match Table.find EventBuffer.runId buffers runId with
  | some buffer => (buffers, sortedBySeq buffer.events)
  | none => (buffers ++ [{ runId, events := [] }], [])

/-- What the callback of `_emit_callback` keeps of the other histories. -/
def evicted (buffers : List EventBuffer) (runId : String) : List EventBuffer :=
  if maxBufferedRuns < buffers.length ∧ Table.find EventBuffer.runId buffers runId = none then
    buffers.tail
  else buffers

/-- `_emit_callback`. -/
def emitCallback (buffers : List EventBuffer) (runId : String) (event : AgentEvent) :
    List EventBuffer :=
  match Table.find EventBuffer.runId (evicted buffers runId) runId with
  | some _ =>
      Table.amend EventBuffer.runId (evicted buffers runId) runId fun buffer =>
        { buffer with events := dequeAppend maxEventsPerRun buffer.events event }
  | none =>
      evicted buffers runId ++ [{ runId, events := dequeAppend maxEventsPerRun [] event }]

/-- What `_final_event` reads of a run. -/
structure FinishedRun where
  runId : String
  status : String
  summary : String
  tasksCompleted : ℤ
  tasksFailed : ℤ
  tasksSkipped : ℤ
  artifacts : List String
  pendingConfirmations : List String
  notes : List String
  estimatedCostUsd : PyFloat

/-- `_final_event`. -/
def finalEvent (record : FinishedRun) (seq : ℕ) : AgentEvent where
  runId := record.runId
  seq := seq
  type := .runFinished
  data :=
    [("status", .str record.status), ("summary", .str record.summary),
      ("tasks_completed", .int record.tasksCompleted), ("tasks_failed", .int record.tasksFailed),
      ("tasks_skipped", .int record.tasksSkipped),
      ("artifacts", .list (record.artifacts.map .str)),
      ("pending_confirmations", .list (record.pendingConfirmations.map .str)),
      ("notes", .list (record.notes.map .str)),
      ("estimated_cost_usd", .float record.estimatedCostUsd)]

/-- The answer of `continue_run_stream` for a run that is not there. -/
def notFoundEvent (runId : String) : AgentEvent where
  runId := runId
  seq := 0
  type := .error
  data := [("message", .str "agent run not found")]

/-- The event with which `_stream` tells of an exception. -/
def failedEvent (runId exception detail : String) : AgentEvent where
  runId := runId
  seq := 0
  type := .error
  data := [("message", .str ("agent run failed: " ++ exception ++ ": " ++ detail))]

/-! ## What a history holds -/

/-- The events that are kept of a run. -/
def historyOf (buffers : List EventBuffer) (runId : String) : List AgentEvent :=
  ((Table.find EventBuffer.runId buffers runId).map EventBuffer.events).getD []

variable {buffers : List EventBuffer} {runId : String}

theorem eventsOf_eq : (eventsOf buffers runId).2 = sortedBySeq (historyOf buffers runId) := by
  unfold eventsOf historyOf
  cases Table.find EventBuffer.runId buffers runId with
  | some buffer => rfl
  | none => simp [sortedBySeq]

/-- A look at a history leaves all histories as they are. -/
theorem historyOf_eventsOf (other : String) :
    historyOf (eventsOf buffers runId).1 other = historyOf buffers other := by
  unfold eventsOf
  cases found : Table.find EventBuffer.runId buffers runId with
  | some buffer => rfl
  | none =>
      unfold historyOf
      by_cases same : other = runId
      · subst same
        rw [found, Table.find_append_self found]
        rfl
      · rw [Table.find_append_ne same]

/-- Afterwards there is a history. -/
theorem find_eventsOf_self :
    (Table.find EventBuffer.runId (eventsOf buffers runId).1 runId).isSome = true := by
  unfold eventsOf
  cases found : Table.find EventBuffer.runId buffers runId with
  | some buffer =>
      dsimp only
      rw [found]
      rfl
  | none =>
      have made : Table.find EventBuffer.runId (buffers ++ [{ runId, events := [] }]) runId =
          some { runId, events := [] } :=
        Table.find_append_self found
      dsimp only
      rw [made]
      rfl

/-- The other histories are still there. -/
theorem find_eventsOf {other : String}
    (there : (Table.find EventBuffer.runId buffers other).isSome = true) :
    (Table.find EventBuffer.runId (eventsOf buffers runId).1 other).isSome = true := by
  unfold eventsOf
  cases found : Table.find EventBuffer.runId buffers runId with
  | some buffer => exact there
  | none =>
      obtain ⟨row, stored⟩ := Option.isSome_iff_exists.mp there
      rw [Table.find_append_of_some stored]
      rfl

/-- No history is given up for an event of a run that has one. -/
theorem evicted_eq (there : (Table.find EventBuffer.runId buffers runId).isSome = true) :
    evicted buffers runId = buffers :=
  if_neg fun both => by simp [both.2] at there

theorem find_emitCallback (there : (Table.find EventBuffer.runId buffers runId).isSome = true)
    (event : AgentEvent) (other : String) :
    Table.find EventBuffer.runId (emitCallback buffers runId event) other =
      if other = runId then
        (Table.find EventBuffer.runId buffers runId).map fun buffer =>
          { buffer with events := dequeAppend maxEventsPerRun buffer.events event }
      else Table.find EventBuffer.runId buffers other := by
  obtain ⟨buffer, found⟩ := Option.isSome_iff_exists.mp there
  unfold emitCallback
  rw [evicted_eq there, found]
  dsimp only
  split_ifs with same
  · subst same
    exact Table.find_amend_self (by intro row; rfl) found
  · exact Table.find_amend_ne (by intro row; rfl) same

theorem historyOf_emitCallback_self
    (there : (Table.find EventBuffer.runId buffers runId).isSome = true) (event : AgentEvent) :
    historyOf (emitCallback buffers runId event) runId =
      dequeAppend maxEventsPerRun (historyOf buffers runId) event := by
  obtain ⟨buffer, found⟩ := Option.isSome_iff_exists.mp there
  unfold historyOf
  rw [find_emitCallback there, if_pos rfl, found]
  simp only [Option.map_some, Option.getD_some]

theorem historyOf_emitCallback_ne
    (there : (Table.find EventBuffer.runId buffers runId).isSome = true) (event : AgentEvent)
    {other : String} (different : other ≠ runId) :
    historyOf (emitCallback buffers runId event) other = historyOf buffers other := by
  unfold historyOf
  rw [find_emitCallback there, if_neg different]

theorem isSome_find_emitCallback
    (there : (Table.find EventBuffer.runId buffers runId).isSome = true) (event : AgentEvent)
    (other : String) :
    (Table.find EventBuffer.runId (emitCallback buffers runId event) other).isSome =
      (Table.find EventBuffer.runId buffers other).isSome := by
  rw [find_emitCallback there]
  split_ifs with same
  · rw [same, Option.isSome_map]
  · rfl

/-! ## Bounded queues -/

section Bounded

variable {Item : Type*} {maxlen : ℕ} {items : List Item}

theorem rtake_of_length_le (few : items.length ≤ maxlen) : items.rtake maxlen = items := by
  rw [List.rtake, Nat.sub_eq_zero_of_le few, List.drop_zero]

/-- A bounded queue holds the last of what has been appended. -/
theorem dequeAppend_rtake (maxlen : ℕ) (items : List Item) (item : Item) :
    dequeAppend maxlen (items.rtake maxlen) item = (items ++ [item]).rtake maxlen := by
  cases maxlen with
  | zero => simp [dequeAppend]
  | succ maxlen =>
      rw [dequeAppend, List.rtake_concat_succ, List.rtake_concat_succ]
      congr 1
      rw [List.rtake_eq_reverse_take_reverse, List.rtake_eq_reverse_take_reverse,
        List.rtake_eq_reverse_take_reverse, List.reverse_reverse, List.take_take]
      congr 2
      omega

end Bounded

/-- Events in the order of their numbers are left in it. -/
theorem sortedBySeq_of_seq {events : List AgentEvent}
    (numbered : events.map AgentEvent.seq = List.range events.length) :
    sortedBySeq events = events := by
  have ordered : (events.map AgentEvent.seq).Pairwise (· ≤ ·) := by
    rw [numbered]
    exact List.pairwise_le_range
  refine List.mergeSort_of_pairwise ?_
  exact (List.pairwise_map.mp ordered).imp fun before => decide_eq_true before

end Era.Agents
