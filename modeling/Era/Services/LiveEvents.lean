import Era.Services.AgentStream

/-!
# What clients of streamed runs handle

However workers, generators and clients of all calls take turns, and however the network cuts a
response into chunks, a client has handled the first of the events of its call, in order and
none twice; and when its response has ended, all of them.
-/

namespace Era.Services

open Era.Core Era.Lib Era.Lib.Utf8 Era.Agents Era.Web

variable {Json : Type*} {streaming : Streaming Json}

/-- Where the events of a call are: the generator has taken the first, the queue holds the others,
and of the bytes of the first the client has read chunks and the others are on the wire. -/
structure Carries (streaming : Streaming Json) (segment : Segment Json)
    (pulled pending : List AgentEvent) (chunks : List (List UInt8)) : Prop where
  queue : segment.queue = pending.map some ++
    if segment.worker = .stopped ∧ segment.returned = false then [none] else []
  ended : segment.returned = true → segment.worker = .stopped ∧ pending = []
  client : segment.client = .after streaming.parse chunks
  bytes : chunks.flatten ++ segment.wire = encode (sse streaming.dump pulled)

/-- Everything for the stream of a call is somewhere on its way. -/
def Streamed (streaming : Streaming Json) (segment : Segment Json)
    (produced : List AgentEvent) : Prop :=
  segment.streams = true → ∃ pulled pending chunks,
    produced = pulled ++ pending ∧ Carries streaming segment pulled pending chunks

theorem streamed_opened (runId : String) (streams : Bool) :
    Streamed streaming (Segment.opened runId streams) [] :=
  fun _ => ⟨[], [], [], rfl, rfl, fun returned => (by cases returned), rfl, rfl⟩

theorem streamed_answering (event : AgentEvent) :
    Streamed streaming (Segment.answering event) [event] :=
  fun _ => ⟨[], [event], [], rfl, rfl, fun returned => (by cases returned), rfl, rfl⟩

theorem Segment.Goes.streams {segment next : Segment Json} {buffers later : List EventBuffer}
    {shows : Option (Bool × AgentEvent)}
    (goes : segment.Goes streaming buffers (later, next, shows)) :
    next.streams = segment.streams := by
  cases goes <;> simp

/-- While the worker runs, the response has not ended and the queue holds events only. -/
theorem Carries.queue_of_works {segment : Segment Json} {pulled pending : List AgentEvent}
    {chunks : List (List UInt8)} (carries : Carries streaming segment pulled pending chunks)
    (works : segment.worker ≠ .stopped) :
    segment.returned = false ∧ segment.queue = pending.map some := by
  have going : segment.returned = false :=
    Bool.eq_false_iff.mpr fun returned => works (carries.ended returned).1
  refine ⟨going, ?_⟩
  rw [carries.queue, if_neg fun both => works both.1, List.append_nil]

section Carries

variable {segment : Segment Json} {pulled pending : List AgentEvent}
  {chunks : List (List UInt8)}

/-- The generator has taken the end of the queue. -/
theorem Carries.returns {rest : List (Option AgentEvent)}
    (carries : Carries streaming segment pulled pending chunks)
    (queue : segment.queue = none :: rest) :
    pending = [] ∧ Carries streaming { segment with queue := rest, returned := true } pulled []
      chunks := by
  have whole := carries.queue
  rw [queue] at whole
  cases pending with
  | cons event pending => simp at whole
  | nil =>
      split_ifs at whole with stopped
      · refine ⟨rfl, ?_, fun _ => ⟨stopped.1, rfl⟩, carries.client, carries.bytes⟩
        simpa using whole
      · simp at whole

/-- The generator has taken an event and sent its frame. -/
theorem Carries.sends {event : AgentEvent} {rest : List (Option AgentEvent)}
    (carries : Carries streaming segment pulled pending chunks)
    (going : segment.returned = false) (queue : segment.queue = some event :: rest) :
    ∃ left, pending = event :: left ∧
      Carries streaming
        { segment with
          queue := rest, wire := segment.wire ++ encode (sse streaming.dump [event]) }
        (pulled ++ [event]) left chunks := by
  have whole := carries.queue
  rw [queue] at whole
  cases pending with
  | nil => split_ifs at whole <;> simp at whole
  | cons first left =>
      obtain ⟨rfl, rest_eq⟩ : event = first ∧ rest = left.map some ++
          if segment.worker = .stopped ∧ segment.returned = false then [none] else [] := by
        simpa using whole
      refine ⟨left, rfl, rest_eq, fun returned => ?_, carries.client, ?_⟩
      · rw [going] at returned
        cases returned
      · rw [sse_append, encode_append, ← carries.bytes, List.append_assoc]

/-- The client has read a chunk. -/
theorem Carries.delivers (carries : Carries streaming segment pulled pending chunks) (count : ℕ) :
    Carries streaming
      { segment with
        wire := segment.wire.drop count
        client := segment.client.readChunk streaming.parse (segment.wire.take count) }
      pulled pending (chunks ++ [segment.wire.take count]) := by
  refine ⟨carries.queue, carries.ended, ?_, ?_⟩
  · rw [ChatClient.after_concat, ← carries.client]
  · rw [List.flatten_append, List.flatten_singleton, List.append_assoc, List.take_append_drop,
      carries.bytes]

end Carries

theorem Streamed.goes {segment next : Segment Json} {produced : List AgentEvent}
    {buffers later : List EventBuffer} {shows : Option (Bool × AgentEvent)}
    (streamed : Streamed streaming segment produced)
    (goes : segment.Goes streaming buffers (later, next, shows)) :
    Streamed streaming next (produced ++ shows.toList.map Prod.snd) := by
  intro streamsNext
  have streams : segment.streams = true := goes.streams.symm.trans streamsNext
  obtain ⟨pulled, pending, chunks, rfl, carries⟩ := streamed streams
  cases goes with
  | looks starting =>
      obtain ⟨going, queue⟩ := carries.queue_of_works (by simp [starting])
      refine ⟨pulled, pending, chunks, List.append_nil _, ?_, ?_, carries.client, carries.bytes⟩
      · simp [queue]
      · simp [going]
  | @emits seq event running named numbered =>
      obtain ⟨going, queue⟩ := carries.queue_of_works (by simp [running])
      rw [Segment.put_of_streams streams]
      refine ⟨pulled, pending ++ [event], chunks, List.append_assoc _ _ _, ?_, ?_,
        carries.client, carries.bytes⟩
      · simp [queue]
      · simp [going]
  | @fails event works =>
      obtain ⟨going, queue⟩ := carries.queue_of_works works
      rw [Segment.put_of_streams streams, if_pos streams]
      refine ⟨pulled, pending ++ [event], chunks, List.append_assoc _ _ _, ?_, ?_,
        carries.client, carries.bytes⟩
      · simp [queue]
      · simp [going]
  | finishes works =>
      obtain ⟨going, queue⟩ := carries.queue_of_works works
      rw [Segment.put_of_streams streams]
      refine ⟨pulled, pending, chunks, List.append_nil _, ?_, ?_, carries.client, carries.bytes⟩
      · simp [queue, going]
      · simp [going]
  | returns going queue =>
      obtain ⟨rfl, returned⟩ := carries.returns queue
      exact ⟨pulled, [], chunks, List.append_nil _, returned⟩
  | @sends event rest going queue =>
      obtain ⟨left, rfl, sent⟩ := carries.sends going queue
      exact ⟨pulled ++ [event], left, chunks, by simp, sent⟩
  | delivers count => exact ⟨pulled, pending, _, List.append_nil _, carries.delivers count⟩
  | rests => exact ⟨pulled, pending, chunks, List.append_nil _, carries⟩

/-- The streams of all calls, and nothing for calls that have not been made. -/
structure AllStreamed (streaming : Streaming Json) (shown : List Shown)
    (state : StreamState Json) : Prop where
  each : ∀ (index : ℕ) (segment : Segment Json), state.segments[index]? = some segment →
    Streamed streaming segment (streamedTo index shown)
  fresh : ∀ index, state.segments.length ≤ index → streamedTo index shown = []

namespace AllStreamed

variable {shown more : List Shown} {state : StreamState Json} {segment next : Segment Json}
  {buffers : List EventBuffer} {index : ℕ}

theorem empty : AllStreamed streaming [] .empty :=
  ⟨fun _ _ none => (by cases none), fun _ _ => rfl⟩

/-- A call has been made. -/
theorem append (all : AllStreamed streaming shown state)
    (streamed : Streamed streaming next (streamedTo state.segments.length more))
    (elsewhere : ∀ other ≠ state.segments.length, streamedTo other more = []) :
    AllStreamed streaming (shown ++ more) { buffers, segments := state.segments ++ [next] } := by
  refine ⟨fun place call found => ?_, fun place outside => ?_⟩
  · rw [streamedTo_append]
    obtain inside | outside := Nat.lt_or_ge place state.segments.length
    · rw [List.getElem?_append_left inside] at found
      rw [elsewhere place inside.ne, List.append_nil]
      exact all.each place call found
    · rw [List.getElem?_append_right outside, List.getElem?_singleton] at found
      split_ifs at found with here
      obtain rfl : place = state.segments.length := by omega
      rw [all.fresh _ le_rfl, List.nil_append, ← Option.some.inj found]
      exact streamed
  · rw [List.length_append, List.length_singleton] at outside
    rw [streamedTo_append, all.fresh place (by omega), elsewhere place (by omega)]
    rfl

/-- One call has acted. -/
theorem set (all : AllStreamed streaming shown state)
    (inside : index < state.segments.length)
    (streamed : Streamed streaming next (streamedTo index (shown ++ more)))
    (elsewhere : ∀ other ≠ index, streamedTo other more = []) :
    AllStreamed streaming (shown ++ more)
      { buffers, segments := state.segments.set index next } := by
  refine ⟨fun place call found => ?_, fun place outside => ?_⟩
  · obtain ⟨rfl, rfl⟩ | ⟨away, before⟩ := getElem?_set_cases found
    · exact streamed
    · rw [streamedTo_append, elsewhere place away, List.append_nil]
      exact all.each place call before
  · rw [List.length_set] at outside
    rw [streamedTo_append, all.fresh place outside, elsewhere place (by omega)]
    rfl

theorem streamedTo_singleton (index place : ℕ) (emitted : Bool) (event : AgentEvent) :
    streamedTo place [⟨index, emitted, event⟩] = if place = index then [event] else [] := by
  by_cases same : place = index
  · simp [streamedTo, same]
  · simp [streamedTo, same, Ne.symm same]

/-- A call has been made that is answered with one event. -/
theorem answer (all : AllStreamed streaming shown state) (event : AgentEvent) :
    AllStreamed streaming (shown ++ [⟨state.segments.length, false, event⟩])
      { buffers, segments := state.segments ++ [.answering event] } := by
  refine all.append ?_ fun other away => ?_
  · rw [streamedTo_singleton, if_pos rfl]
    exact streamed_answering event
  · rw [streamedTo_singleton, if_neg away]

theorem streamedTo_map (index place : ℕ) (shows : Option (Bool × AgentEvent)) :
    streamedTo place (shows.toList.map fun event => ⟨index, event.1, event.2⟩) =
      if place = index then shows.toList.map Prod.snd else [] := by
  cases shows with
  | none => simp [streamedTo]
  | some event => exact streamedTo_singleton index place event.1 event.2

theorem step (all : AllStreamed streaming shown state) (input : StreamInput) :
    AllStreamed streaming (shown ++ (state.step streaming input).2)
      (state.step streaming input).1 := by
  cases input with
  | opened runId streams => exact all.append (streamed_opened runId streams) fun _ _ => rfl
  | notFound runId => exact all.answer _
  | settled record => exact all.answer _
  | act index act =>
      unfold StreamState.step
      dsimp only
      cases found : state.segments[index]? with
      | none => simpa using all
      | some segment =>
          have goes := segment.goes_step streaming state.buffers act
          refine all.set (List.getElem?_eq_some_iff.mp found).1 ?_ fun other away => ?_
          · rw [streamedTo_append, streamedTo_map, if_pos rfl]
            exact (all.each index segment found).goes goes
          · rw [streamedTo_map, if_neg away]

theorem run (inputs : List StreamInput) :
    AllStreamed streaming (shownIn streaming inputs)
      ((streamMachine streaming).stateAfter .empty inputs) := by
  have always : (streamMachine streaming).Admits (fun _ _ => True) .empty inputs :=
    fun _ _ _ _ => trivial
  exact (streamMachine streaming).trace_invariant_of_admits id empty
    (fun shown state input all _ => all.step input) always

end AllStreamed

/-! ## What is handled -/

section Handled

variable {segment : Segment Json} {pulled pending : List AgentEvent}
  {chunks : List (List UInt8)}

/-- What the client makes of events. -/
def Streaming.read (streaming : Streaming Json) (events : List AgentEvent) : List Json :=
  events.filterMap fun event => streaming.parse (streaming.dump event)

theorem Carries.handled_prefix (oneLine : ∀ event, '\n' ∉ streaming.dump event)
    (carries : Carries streaming segment pulled pending chunks) :
    segment.client.handled <+: streaming.read pulled := by
  rw [carries.client]
  exact ChatClient.handled_prefix oneLine ⟨_, carries.bytes⟩

theorem Carries.handled_eq (oneLine : ∀ event, '\n' ∉ streaming.dump event)
    (carries : Carries streaming segment pulled pending chunks) (arrived : segment.wire = []) :
    segment.client.handled = streaming.read pulled := by
  have bytes := carries.bytes
  rw [arrived, List.append_nil] at bytes
  rw [carries.client]
  exact ChatClient.handled_whole oneLine bytes

end Handled

/-- Whatever all workers, generators and clients do, and in whatever order, a client has handled
the first of the events of its call, and all of them when its response has ended and arrived. -/
theorem handled_after {streaming : Streaming Json}
    (oneLine : ∀ event, '\n' ∉ streaming.dump event) (inputs : List StreamInput) {index : ℕ}
    {segment : Segment Json}
    (found : ((streamMachine streaming).stateAfter .empty inputs).segments[index]? = some segment)
    (streams : segment.streams = true) :
    segment.client.handled <+: streaming.read (streamedTo index (shownIn streaming inputs)) ∧
      (segment.returned = true → segment.wire = [] →
        segment.client.handled =
          streaming.read (streamedTo index (shownIn streaming inputs))) := by
  obtain ⟨pulled, pending, chunks, whole, carries⟩ :=
    (AllStreamed.run inputs).each index segment found streams
  rw [whole]
  constructor
  · rw [Streaming.read, List.filterMap_append]
    exact (carries.handled_prefix oneLine).trans (List.prefix_append _ _)
  · intro returned arrived
    rw [(carries.ended returned).2, List.append_nil]
    exact carries.handled_eq oneLine arrived

theorem demo_handled_after : ∃ segment,
    ((streamMachine Demo.streaming).stateAfter .empty Demo.streamInputs).segments[0]? =
        some segment ∧
      segment.returned = true ∧ segment.wire = [] ∧
        segment.client.handled =
          Demo.streaming.read (streamedTo 0 (shownIn Demo.streaming Demo.streamInputs)) :=
  ⟨_, rfl, rfl, rfl, (handled_after Demo.oneLine Demo.streamInputs rfl rfl).2 rfl rfl⟩

end Era.Services
