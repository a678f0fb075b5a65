import Era.Agents.Events
import Era.Core.Platform
import Era.Security.Json
import Era.Web.ChatClient

/-!
# Streams of agent runs

A call that starts or continues a run drives it on a worker.  What the run emits is kept in the
history of the run, and where the call streams, it is also put into a queue, from which a
generator takes it to the client as bytes of a response.  Workers, generators and clients of any
number of calls take turns in any order.
-/

namespace Era.Services

open Era.Core Era.Lib Era.Lib.Utf8 Era.Agents Era.Web

/-- What a streamed run takes from outside the model. -/
structure Streaming (Json : Type*) where
  platform : Platform
  /-- `model_dump_json`. -/
  dump : AgentEvent → List Char
  /-- `JSON.parse`, without a value for text that is no JSON. -/
  parse : List Char → Option Json

/-- Where the worker of a call is; while its loop runs, it holds the number of the next event. -/
inductive Worker where
  | starting
  | running (seq : ℕ)
  | failing
  | stopped
  deriving DecidableEq, Repr

/-- One call that starts or continues a run; `streams` tells whether it has a queue. -/
structure Segment (Json : Type*) where
  runId : String
  streams : Bool
  worker : Worker
  queue : List (Option AgentEvent)
  returned : Bool
  wire : List UInt8
  client : ChatClient Json

/-- What a call does next. -/
inductive SegmentAct where
  /-- `_new_loop`. -/
  | newLoop
  /-- `AgentLoop._emit`. -/
  | emit (type : AgentEventType) (data : Params)
  /-- An exception leaves the run. -/
  | fail (exception message : String)
  /-- The `finally` of the worker. -/
  | finish
  /-- The generator takes the next item of the queue. -/
  | pull
  /-- The client reads a chunk. -/
  | deliver (count : ℕ)

inductive StreamInput where
  /-- A call gets as far as `_stream`, or as far as its loop where it does not stream. -/
  | opened (runId : String) (streams : Bool)
  /-- `continue_run_stream` does not find the run. -/
  | notFound (runId : String)
  /-- `continue_run_stream` finds nothing to continue. -/
  | settled (record : FinishedRun)
  | act (index : ℕ) (act : SegmentAct)

/-- An event of a call; `emitted` tells whether the run has emitted it. -/
structure Shown where
  index : ℕ
  emitted : Bool
  event : AgentEvent

structure StreamState (Json : Type*) where
  buffers : List EventBuffer
  segments : List (Segment Json)

section Step

variable {Json : Type*}

/-- Nothing has been called. -/
def StreamState.empty : StreamState Json := ⟨[], []⟩

/-- A call whose worker has not begun. -/
def Segment.opened (runId : String) (streams : Bool) : Segment Json where
  runId := runId
  streams := streams
  worker := .starting
  queue := []
  returned := false
  wire := []
  client := .opened

/-- A call that yields one event and returns. -/
def Segment.answering (event : AgentEvent) : Segment Json where
  runId := event.runId
  streams := true
  worker := .stopped
  queue := [some event, none]
  returned := false
  wire := []
  client := .opened

/-- The worker puts an item into the queue. -/
def Segment.put (segment : Segment Json) (item : Option AgentEvent) : Segment Json :=
  if segment.streams then { segment with queue := segment.queue ++ [item] } else segment

variable (streaming : Streaming Json)

/-- One step of a call: the histories, the call, and the event that it shows. -/
def Segment.step (buffers : List EventBuffer) (segment : Segment Json) :
    SegmentAct → List EventBuffer × Segment Json × Option (Bool × AgentEvent)
  | .newLoop =>
      match segment.worker with
      | .starting =>
          let (looked, events) := eventsOf buffers segment.runId
          (looked, { segment with worker := .running events.length }, none)
      | _ => (buffers, segment, none)
  | .emit type data =>
      match segment.worker with
      | .running seq =>
          let event : AgentEvent := { runId := segment.runId, seq, type, data }
          (emitCallback buffers segment.runId event,
            { segment.put (some event) with worker := .running (seq + 1) }, some (true, event))
      | _ => (buffers, segment, none)
  | .fail exception message =>
      let event := failedEvent segment.runId exception
        (streaming.platform.redactSensitiveText message)
      match segment.worker with
      | .starting | .running _ =>
          (buffers, { segment.put (some event) with worker := .failing },
            if segment.streams then some (false, event) else none)
      | _ => (buffers, segment, none)
  | .finish =>
      match segment.worker with
      | .stopped => (buffers, segment, none)
      | _ => (buffers, { segment.put none with worker := .stopped }, none)
  | .pull =>
      match segment.returned, segment.queue with
      | false, none :: rest => (buffers, { segment with queue := rest, returned := true }, none)
      | false, some event :: rest =>
          (buffers,
            { segment with
              queue := rest, wire := segment.wire ++ encode (sse streaming.dump [event]) }, none)
      | _, _ => (buffers, segment, none)
  | .deliver count =>
      (buffers,
        { segment with
          wire := segment.wire.drop count
          client := segment.client.readChunk streaming.parse (segment.wire.take count) }, none)

/-- One step of the service and its clients. -/
def StreamState.step (state : StreamState Json) : StreamInput → StreamState Json × List Shown
  | .opened runId streams =>
      ({ state with segments := state.segments ++ [.opened runId streams] }, [])
  | .notFound runId =>
      let event := notFoundEvent runId
      ({ state with segments := state.segments ++ [.answering event] },
        [⟨state.segments.length, false, event⟩])
  | .settled record =>
      let (looked, events) := eventsOf state.buffers record.runId
      let event := finalEvent record events.length
      ({ buffers := looked, segments := state.segments ++ [.answering event] },
        [⟨state.segments.length, false, event⟩])
  | .act index act =>
      match state.segments[index]? with
      | none => (state, [])
      | some segment =>
          let (buffers, next, shown) := segment.step streaming state.buffers act
          ({ buffers := buffers, segments := state.segments.set index next },
            shown.toList.map fun event => ⟨index, event.1, event.2⟩)

/-- The service with its clients. -/
def streamMachine : Machine (StreamState Json) StreamInput (List Shown) :=
  ⟨StreamState.step streaming⟩

/-- Everything that a run of the service shows. -/
def shownIn (inputs : List StreamInput) : List Shown :=
  (streamMachine streaming).trace id .empty inputs

/-- The events for the stream of a call, in order. -/
def streamedTo (index : ℕ) (shown : List Shown) : List AgentEvent :=
  (shown.filter fun item => item.index == index).map Shown.event

/-- What calls have emitted for a run, in order. -/
def emittedFor (runId : String) (shown : List Shown) : List AgentEvent :=
  (shown.filter fun item => item.emitted && item.event.runId == runId).map Shown.event

@[simp] theorem streamedTo_append (index : ℕ) (shown later : List Shown) :
    streamedTo index (shown ++ later) = streamedTo index shown ++ streamedTo index later := by
  simp [streamedTo]

@[simp] theorem emittedFor_append (runId : String) (shown later : List Shown) :
    emittedFor runId (shown ++ later) = emittedFor runId shown ++ emittedFor runId later := by
  simp [emittedFor]

/-- What an act can do to a call: it reads the history, emits an event, or leaves the histories as
they are. -/
inductive Segment.Goes (buffers : List EventBuffer) (segment : Segment Json) :
    List EventBuffer × Segment Json × Option (Bool × AgentEvent) → Prop
  | looks (starting : segment.worker = .starting) :
      Goes buffers segment
        ((eventsOf buffers segment.runId).1,
          { segment with worker := .running (eventsOf buffers segment.runId).2.length }, none)
  | emits {seq : ℕ} {event : AgentEvent} (running : segment.worker = .running seq)
      (named : event.runId = segment.runId) (numbered : event.seq = seq) :
      Goes buffers segment
        (emitCallback buffers segment.runId event,
          { segment.put (some event) with worker := .running (seq + 1) }, some (true, event))
  | fails {event : AgentEvent} (works : segment.worker ≠ .stopped) :
      Goes buffers segment
        (buffers, { segment.put (some event) with worker := .failing },
          if segment.streams then some (false, event) else none)
  | finishes (works : segment.worker ≠ .stopped) :
      Goes buffers segment (buffers, { segment.put none with worker := .stopped }, none)
  | returns {rest : List (Option AgentEvent)} (going : segment.returned = false)
      (queue : segment.queue = none :: rest) :
      Goes buffers segment (buffers, { segment with queue := rest, returned := true }, none)
  | sends {event : AgentEvent} {rest : List (Option AgentEvent)}
      (going : segment.returned = false) (queue : segment.queue = some event :: rest) :
      Goes buffers segment
        (buffers,
          { segment with
            queue := rest, wire := segment.wire ++ encode (sse streaming.dump [event]) }, none)
  | delivers (count : ℕ) :
      Goes buffers segment
        (buffers,
          { segment with
            wire := segment.wire.drop count
            client := segment.client.readChunk streaming.parse (segment.wire.take count) }, none)
  | rests : Goes buffers segment (buffers, segment, none)

@[simp] theorem Segment.put_runId (segment : Segment Json) (item : Option AgentEvent) :
    (segment.put item).runId = segment.runId := by
  unfold Segment.put
  split <;> rfl

theorem Segment.put_of_streams {segment : Segment Json} (streams : segment.streams = true)
    (item : Option AgentEvent) :
    segment.put item = { segment with queue := segment.queue ++ [item] } :=
  if_pos streams

@[simp] theorem Segment.put_streams (segment : Segment Json) (item : Option AgentEvent) :
    (segment.put item).streams = segment.streams := by
  unfold Segment.put
  split <;> rfl

/-- A call of a list in which one call has been changed. -/
theorem getElem?_set_cases {calls : List (Segment Json)} {index place : ℕ}
    {next call : Segment Json} (found : (calls.set index next)[place]? = some call) :
    place = index ∧ call = next ∨ place ≠ index ∧ calls[place]? = some call := by
  rw [List.getElem?_set] at found
  split_ifs at found with same inside
  · exact .inl ⟨same.symm, (Option.some.inj found).symm⟩
  · exact .inr ⟨Ne.symm same, found⟩

theorem Segment.goes_step (buffers : List EventBuffer) (segment : Segment Json)
    (act : SegmentAct) :
    segment.Goes streaming buffers (segment.step streaming buffers act) := by
  unfold Segment.step
  cases act with
  | newLoop =>
      dsimp only
      split
      next starting => exact .looks starting
      next => exact .rests
  | emit type data =>
      dsimp only
      split
      next seq running => exact .emits running rfl rfl
      next => exact .rests
  | fail exception message =>
      dsimp only
      split
      next starting => exact .fails (by simp [starting])
      next seq running => exact .fails (by simp [running])
      next => exact .rests
  | finish =>
      dsimp only
      split
      next => exact .rests
      next works => exact .finishes works
  | pull =>
      dsimp only
      split
      next rest going queue => exact .returns going queue
      next event rest going queue => exact .sends going queue
      next => exact .rests
  | deliver count => exact .delivers count

end Step

namespace Demo

/-- Documents are compact JSON without line feeds, and a client keeps their text. -/
def streaming : Streaming (List Char) where
  platform := .plain
  dump event := (Security.jsonDumps .plain [] event.document).filter (· != '\n')
  parse text := if text.head? = some '{' then some text else none

theorem oneLine (event : AgentEvent) : '\n' ∉ streaming.dump event :=
  fun member => absurd (List.mem_filter.mp member).2 (by decide)

/-- A run is started and continued, and only the first call is streamed. -/
def streamInputs : List StreamInput :=
  [.opened "run-1" true, .act 0 .newLoop,
    .act 0 (.emit .runStarted [("goal", .str "a website"), ("resumed", .bool false)]),
    .act 0 .pull, .act 0 (.deliver 9),
    .act 0 (.emit .runFinished [("status", .str "waiting_for_user")]), .act 0 .finish,
    .opened "run-1" false, .act 1 .newLoop, .act 0 .pull,
    .act 1 (.emit .runStarted [("goal", .str "a website"), ("resumed", .bool true)]),
    .act 0 .pull, .act 0 (.deliver 500)]

end Demo

end Era.Services
