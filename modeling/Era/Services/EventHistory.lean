import Era.Services.AgentStream

/-!
# Histories of runs

Whatever calls do in between, and in whatever order, the history of a run holds the last of the
events that have been emitted for it, and of no run is the history given up.  Where the loops of
a run do not overlap and few events have been emitted, the history is everything that has been
emitted, numbered from zero on without a gap.
-/

namespace Era.Services

open Era.Core Era.Lib Era.Agents

variable {Json : Type*}

/-- What is not emitted for a run leaves its events as they are. -/
theorem emittedFor_append_of_silent {runId : String} {shown more : List Shown}
    (silent : emittedFor runId more = []) :
    emittedFor runId (shown ++ more) = emittedFor runId shown := by
  rw [emittedFor_append, silent, List.append_nil]

/-- The histories hold the last of what has been emitted, and a running loop has one. -/
structure Recorded (shown : List Shown) (state : StreamState Json) : Prop where
  kept : ∀ runId, historyOf state.buffers runId = (emittedFor runId shown).rtake maxEventsPerRun
  known : ∀ segment ∈ state.segments, ∀ seq, segment.worker = .running seq →
    (Table.find EventBuffer.runId state.buffers segment.runId).isSome = true

namespace Recorded

variable {shown more : List Shown} {state : StreamState Json} {segment next : Segment Json}
  {buffers : List EventBuffer} {index : ℕ}

theorem empty : Recorded [] (.empty : StreamState Json) :=
  ⟨fun _ => (List.rtake_nil _).symm, fun _ none => by cases none⟩

/-- A call that does not run yet changes nothing. -/
theorem append (recorded : Recorded shown state)
    (same : ∀ runId, historyOf buffers runId = historyOf state.buffers runId)
    (there : ∀ runId, (Table.find EventBuffer.runId state.buffers runId).isSome = true →
      (Table.find EventBuffer.runId buffers runId).isSome = true)
    (silent : ∀ runId, emittedFor runId more = [])
    (rests : ∀ seq, next.worker ≠ .running seq) :
    Recorded (shown ++ more) { buffers, segments := state.segments ++ [next] } := by
  refine ⟨fun runId => ?_, fun other member seq running => ?_⟩
  · rw [emittedFor_append_of_silent (silent runId), same, recorded.kept]
  · obtain earlier | new := List.mem_append.mp member
    · exact there _ (recorded.known other earlier seq running)
    · rw [List.mem_singleton.mp new] at running
      exact absurd running (rests seq)

/-- One call has acted. -/
theorem set (recorded : Recorded shown state)
    (holds : ∀ runId, historyOf buffers runId =
      (emittedFor runId (shown ++ more)).rtake maxEventsPerRun)
    (there : ∀ runId, (Table.find EventBuffer.runId state.buffers runId).isSome = true →
      (Table.find EventBuffer.runId buffers runId).isSome = true)
    (runs : ∀ seq, next.worker = .running seq →
      (Table.find EventBuffer.runId buffers next.runId).isSome = true) :
    Recorded (shown ++ more) { buffers, segments := state.segments.set index next } := by
  refine ⟨holds, fun other member seq running => ?_⟩
  obtain earlier | rfl := List.mem_or_eq_of_mem_set member
  · exact there _ (recorded.known other earlier seq running)
  · exact runs seq running

/-- The histories stay as they are where nothing is emitted. -/
theorem kept_of_silent (recorded : Recorded shown state)
    (silent : ∀ runId, emittedFor runId more = []) (runId : String) :
    historyOf state.buffers runId =
      (emittedFor runId (shown ++ more)).rtake maxEventsPerRun := by
  rw [emittedFor_append_of_silent (silent runId), recorded.kept]

theorem act {streaming : Streaming Json} {shows : Option (Bool × AgentEvent)}
    (recorded : Recorded shown state) (member : segment ∈ state.segments)
    (goes : segment.Goes streaming state.buffers (buffers, next, shows)) :
    Recorded (shown ++ shows.toList.map fun event => ⟨index, event.1, event.2⟩)
      { buffers, segments := state.segments.set index next } := by
  have known := recorded.known segment member
  cases goes with
  | looks starting =>
      refine recorded.set (fun runId => ?_) (fun runId there => find_eventsOf there)
        fun _ _ => find_eventsOf_self
      rw [historyOf_eventsOf]
      exact recorded.kept_of_silent (fun _ => rfl) runId
  | @emits seq event running named numbered =>
      have there := known seq running
      refine recorded.set (fun runId => ?_) (fun runId there_too => ?_) fun seq _ => ?_
      · by_cases same : runId = segment.runId
        · have entered : emittedFor runId [⟨index, true, event⟩] = [event] := by
            simp [emittedFor, named, same]
          rw [same, historyOf_emitCallback_self there, recorded.kept, dequeAppend_rtake, ← same]
          rw [emittedFor_append]
          exact congrArg (fun events => List.rtake (_ ++ events) _) entered.symm
        · have elsewhere : emittedFor runId [⟨index, true, event⟩] = [] := by
            simp [emittedFor, named, Ne.symm same]
          rw [historyOf_emitCallback_ne there event same, recorded.kept]
          exact congrArg (List.rtake · _) (emittedFor_append_of_silent elsewhere).symm
      · rwa [isSome_find_emitCallback there]
      · rw [isSome_find_emitCallback there]
        simpa using there
  | @fails event works =>
      refine recorded.set (recorded.kept_of_silent fun runId => ?_) (fun _ there => there)
        fun _ running => by cases running
      cases segment.streams <;> rfl
  | finishes works =>
      exact recorded.set (recorded.kept_of_silent fun _ => rfl) (fun _ there => there)
        fun _ running => by cases running
  | returns going queue =>
      exact recorded.set (recorded.kept_of_silent fun _ => rfl) (fun _ there => there) known
  | sends going queue =>
      exact recorded.set (recorded.kept_of_silent fun _ => rfl) (fun _ there => there) known
  | delivers count =>
      exact recorded.set (recorded.kept_of_silent fun _ => rfl) (fun _ there => there) known
  | rests =>
      exact recorded.set (recorded.kept_of_silent fun _ => rfl) (fun _ there => there) known

theorem step (streaming : Streaming Json) (recorded : Recorded shown state)
    (input : StreamInput) :
    Recorded (shown ++ (state.step streaming input).2) (state.step streaming input).1 := by
  cases input with
  | opened runId streams =>
      exact recorded.append (fun _ => rfl) (fun _ there => there) (fun _ => rfl)
        fun _ running => by cases running
  | notFound runId =>
      exact recorded.append (fun _ => rfl) (fun _ there => there) (fun _ => rfl)
        fun _ running => by cases running
  | settled record =>
      exact recorded.append (fun _ => historyOf_eventsOf _) (fun _ there => find_eventsOf there)
        (fun _ => rfl) fun _ running => by cases running
  | act index act =>
      unfold StreamState.step
      dsimp only
      cases found : state.segments[index]? with
      | none => simpa using recorded
      | some segment =>
          exact recorded.act (List.mem_of_getElem? found)
            (segment.goes_step streaming state.buffers act)

theorem run (streaming : Streaming Json) (inputs : List StreamInput) :
    Recorded (shownIn streaming inputs)
      ((streamMachine streaming).stateAfter .empty inputs) := by
  have always : (streamMachine streaming).Admits (fun _ _ => True) .empty inputs :=
    fun _ _ _ _ => trivial
  exact (streamMachine streaming).trace_invariant_of_admits id empty
    (fun shown state input recorded _ => recorded.step streaming input) always

end Recorded

/-- Whatever calls do, and in whatever order, the history of a run lists the last of the events
that have been emitted for it. -/
theorem history_after (streaming : Streaming Json) (inputs : List StreamInput) (runId : String) :
    (eventsOf ((streamMachine streaming).stateAfter .empty inputs).buffers runId).2 =
      sortedBySeq ((emittedFor runId (shownIn streaming inputs)).rtake maxEventsPerRun) := by
  rw [eventsOf_eq, (Recorded.run streaming inputs).kept]

/-! ## Loops that do not overlap -/

/-- The call drives a run. -/
def Segment.runs (segment : Segment Json) (runId : String) : Bool :=
  segment.runId == runId && match segment.worker with
    | .running _ => true
    | _ => false

theorem Segment.runs_iff {segment : Segment Json} {runId : String} :
    segment.runs runId = true ↔ segment.runId = runId ∧ ∃ seq, segment.worker = .running seq := by
  unfold Segment.runs
  cases segment.worker <;> simp

/-- The call that makes a loop. -/
def StreamInput.newLoop? : StreamInput → Option ℕ
  | .act index .newLoop => some index
  | _ => none

/-- No loop of a run is made while another drives it. -/
def Alone (runId : String) (state : StreamState Json) (input : StreamInput) : Prop :=
  ∀ index ∈ input.newLoop?, ∀ segment ∈ state.segments[index]?, segment.runId = runId →
    ∀ other ∈ state.segments, other.runs runId = false

instance (runId : String) (state : StreamState Json) (input : StreamInput) :
    Decidable (Alone runId state input) :=
  inferInstanceAs (Decidable (∀ index ∈ input.newLoop?, ∀ segment ∈ state.segments[index]?,
    segment.runId = runId → ∀ other ∈ state.segments, other.runs runId = false))

/-- The events of a run are numbered, and one loop at most numbers them on. -/
structure Numbered (runId : String) (shown : List Shown) (state : StreamState Json) : Prop where
  numbers : (emittedFor runId shown).map AgentEvent.seq =
    List.range (emittedFor runId shown).length
  next : ∀ (place : ℕ) (call : Segment Json), state.segments[place]? = some call →
    call.runId = runId → ∀ seq, call.worker = .running seq → seq = (emittedFor runId shown).length
  alone : ∀ (place other : ℕ) (call another : Segment Json), state.segments[place]? = some call →
    state.segments[other]? = some another → call.runs runId = true →
      another.runs runId = true → place = other

namespace Numbered

variable {runId : String} {shown more : List Shown} {state : StreamState Json}
  {segment next : Segment Json} {buffers : List EventBuffer} {index : ℕ}

theorem empty (runId : String) : Numbered runId [] (.empty : StreamState Json) :=
  ⟨rfl, fun _ _ none => (by cases none), fun _ _ _ _ none => by cases none⟩

/-- A call that does not run yet changes nothing. -/
theorem append (numbered : Numbered runId shown state) (silent : emittedFor runId more = [])
    (rests : ∀ seq, next.worker ≠ .running seq) :
    Numbered runId (shown ++ more) { buffers, segments := state.segments ++ [next] } := by
  have earlier : ∀ {place : ℕ} {call : Segment Json},
      (state.segments ++ [next])[place]? = some call → (∃ seq, call.worker = .running seq) →
        state.segments[place]? = some call := by
    rintro place call found ⟨seq, running⟩
    obtain inside | outside := Nat.lt_or_ge place state.segments.length
    · rwa [List.getElem?_append_left inside] at found
    · rw [List.getElem?_append_right outside, List.getElem?_singleton] at found
      split_ifs at found
      rw [← Option.some.inj found] at running
      exact absurd running (rests seq)
  have same : emittedFor runId (shown ++ more) = emittedFor runId shown :=
    emittedFor_append_of_silent silent
  refine ⟨by rw [same]; exact numbered.numbers, fun place call found named seq running => ?_,
    fun place other call another found foundOther runs otherRuns => ?_⟩
  · rw [same]
    exact numbered.next place call (earlier found ⟨seq, running⟩) named seq running
  · exact numbered.alone place other call another
      (earlier found (Segment.runs_iff.mp runs).2)
      (earlier foundOther (Segment.runs_iff.mp otherRuns).2) runs otherRuns

/-- One call has acted. -/
theorem set (numbered : Numbered runId shown state)
    (numbers : (emittedFor runId (shown ++ more)).map AgentEvent.seq =
      List.range (emittedFor runId (shown ++ more)).length)
    (counts : next.runId = runId → ∀ seq, next.worker = .running seq →
      seq = (emittedFor runId (shown ++ more)).length)
    (apart : next.runs runId = true → ∀ (place : ℕ) (call : Segment Json), place ≠ index →
      state.segments[place]? = some call → call.runs runId = false)
    (quiet : ∀ (place : ℕ) (call : Segment Json), place ≠ index →
      state.segments[place]? = some call → call.runs runId = true →
        emittedFor runId more = []) :
    Numbered runId (shown ++ more) { buffers, segments := state.segments.set index next } := by
  refine ⟨numbers, fun place call found named seq running => ?_,
    fun place other call another found foundOther runs otherRuns => ?_⟩
  · obtain ⟨_, rfl⟩ | ⟨elsewhere, before⟩ := getElem?_set_cases found
    · exact counts named seq running
    · have silent := quiet place call elsewhere before
        (Segment.runs_iff.mpr ⟨named, seq, running⟩)
      rw [emittedFor_append_of_silent silent]
      exact numbered.next place call before named seq running
  · obtain ⟨here, rfl⟩ | ⟨elsewhere, before⟩ := getElem?_set_cases found
    · obtain ⟨too, _⟩ | ⟨away, beforeOther⟩ := getElem?_set_cases foundOther
      · rw [here, too]
      · rw [apart runs other another away beforeOther] at otherRuns
        cases otherRuns
    · obtain ⟨_, rfl⟩ | ⟨_, beforeOther⟩ := getElem?_set_cases foundOther
      · rw [apart otherRuns place call elsewhere before] at runs
        cases runs
      · exact numbered.alone place other call another before beforeOther runs otherRuns

/-- While a call drives the run, no other does. -/
theorem apart (numbered : Numbered runId shown state)
    (found : state.segments[index]? = some segment) (drives : segment.runs runId = true)
    (place : ℕ) (call : Segment Json) (elsewhere : place ≠ index)
    (other : state.segments[place]? = some call) : call.runs runId = false :=
  Bool.eq_false_iff.mpr fun too =>
    elsewhere (numbered.alone place index call segment other found too drives)

/-- An act that emits nothing for the run, and starts no loop. -/
theorem set_quiet (numbered : Numbered runId shown state)
    (found : state.segments[index]? = some segment) (silent : emittedFor runId more = [])
    (named : next.runId = segment.runId)
    (continues : ∀ seq, next.worker = .running seq → segment.worker = .running seq) :
    Numbered runId (shown ++ more) { buffers, segments := state.segments.set index next } := by
  have same : emittedFor runId (shown ++ more) = emittedFor runId shown :=
    emittedFor_append_of_silent silent
  refine numbered.set (by rw [same]; exact numbered.numbers) (fun ofRun seq running => ?_)
    (fun runs place call elsewhere other => ?_) fun _ _ _ _ _ => silent
  · rw [same]
    exact numbered.next index segment found (named.symm.trans ofRun) seq (continues seq running)
  · obtain ⟨ofRun, seq, running⟩ := Segment.runs_iff.mp runs
    have ran : segment.runs runId = true :=
      Segment.runs_iff.mpr ⟨named.symm.trans ofRun, seq, continues seq running⟩
    exact numbered.apart found ran place call elsewhere other

theorem act {streaming : Streaming Json} {shows : Option (Bool × AgentEvent)}
    (numbered : Numbered runId shown state) (recorded : Recorded shown state)
    (few : (emittedFor runId shown).length ≤ maxEventsPerRun)
    (found : state.segments[index]? = some segment)
    (alone : segment.worker = .starting → segment.runId = runId →
      (∃ seq, next.worker = .running seq) → ∀ other ∈ state.segments, other.runs runId = false)
    (goes : segment.Goes streaming state.buffers (buffers, next, shows)) :
    Numbered runId (shown ++ shows.toList.map fun event => ⟨index, event.1, event.2⟩)
      { buffers, segments := state.segments.set index next } := by
  cases goes with
  | looks starting =>
      have nothing := alone starting
      refine numbered.set (by simpa using numbered.numbers) (fun ofRun seq running => ?_)
        (fun runs place call _ other => ?_) fun _ _ _ _ _ => rfl
      · obtain rfl := Worker.running.inj running
        rw [eventsOf_eq, show segment.runId = runId from ofRun, recorded.kept,
          rtake_of_length_le few]
        simp [sortedBySeq]
      · exact nothing (Segment.runs_iff.mp runs).1 ⟨_, rfl⟩ call (List.mem_of_getElem? other)
  | @emits seq event running named number =>
      by_cases same : segment.runId = runId
      · have entered : emittedFor runId [⟨index, true, event⟩] = [event] := by
          simp [emittedFor, named, same]
        have counted := numbered.next index segment found same seq running
        have ran : segment.runs runId = true := Segment.runs_iff.mpr ⟨same, seq, running⟩
        have apart := numbered.apart found ran
        have grown : emittedFor runId (shown ++ [⟨index, true, event⟩]) =
            emittedFor runId shown ++ [event] := by
          rw [emittedFor_append, entered]
        refine numbered.set ?_ (fun _ next following => ?_) (fun _ => apart)
          fun place call elsewhere other drives => ?_
        · change (emittedFor runId (shown ++ [⟨index, true, event⟩])).map _ = List.range
            (emittedFor runId (shown ++ [⟨index, true, event⟩])).length
          rw [grown, List.map_append, numbered.numbers, List.length_append, List.length_singleton,
            List.range_succ, List.map_singleton, number, counted]
        · obtain rfl := Worker.running.inj following
          change seq + 1 = (emittedFor runId (shown ++ [⟨index, true, event⟩])).length
          rw [grown, List.length_append, counted]
          rfl
        · rw [apart place call elsewhere other] at drives
          cases drives
      · have silent : emittedFor runId [⟨index, true, event⟩] = [] := by
          simp [emittedFor, named, same]
        refine numbered.set ?_ (fun ofRun => ?_) (fun runs => ?_) fun _ _ _ _ _ => silent
        · change (emittedFor runId (shown ++ [⟨index, true, event⟩])).map _ = List.range
            (emittedFor runId (shown ++ [⟨index, true, event⟩])).length
          rw [emittedFor_append_of_silent silent]
          exact numbered.numbers
        · exact absurd ((segment.put_runId _).symm.trans ofRun) same
        · exact absurd ((segment.put_runId _).symm.trans (Segment.runs_iff.mp runs).1) same
  | @fails event works =>
      refine numbered.set_quiet found ?_ (segment.put_runId _) fun _ running => by cases running
      cases segment.streams <;> rfl
  | finishes works =>
      exact numbered.set_quiet found rfl (segment.put_runId _) fun _ running => by cases running
  | returns going queue => exact numbered.set_quiet found rfl rfl fun _ running => running
  | sends going queue => exact numbered.set_quiet found rfl rfl fun _ running => running
  | delivers count => exact numbered.set_quiet found rfl rfl fun _ running => running
  | rests => exact numbered.set_quiet found rfl rfl fun _ running => running

theorem step (streaming : Streaming Json) (numbered : Numbered runId shown state)
    (recorded : Recorded shown state) (few : (emittedFor runId shown).length ≤ maxEventsPerRun)
    {input : StreamInput} (alone : Alone runId state input) :
    Numbered runId (shown ++ (state.step streaming input).2) (state.step streaming input).1 := by
  cases input with
  | opened runId streams => exact numbered.append rfl fun _ running => by cases running
  | notFound runId => exact numbered.append rfl fun _ running => by cases running
  | settled record => exact numbered.append rfl fun _ running => by cases running
  | act index act =>
      unfold StreamState.step
      dsimp only
      cases found : state.segments[index]? with
      | none => simpa using numbered
      | some segment =>
          refine numbered.act recorded few found (fun starting ofRun makes => ?_)
            (segment.goes_step streaming state.buffers act)
          cases act with
          | newLoop => exact alone index rfl segment found ofRun
          | emit type data => simp [Segment.step, starting] at makes
          | fail exception message => simp [Segment.step, starting] at makes
          | finish => simp [Segment.step, starting] at makes
          | pull =>
              unfold Segment.step at makes
              dsimp only at makes
              split at makes <;> simp [starting] at makes
          | deliver count => simp [Segment.step, starting] at makes

end Numbered

theorem length_emittedFor_le_append (runId : String) (shown more : List Shown) :
    (emittedFor runId shown).length ≤ (emittedFor runId (shown ++ more)).length := by
  rw [emittedFor_append, List.length_append]
  exact Nat.le_add_right _ _

/-- Where the loops of a run do not overlap and no more events have been emitted than a history
holds, the history lists all events of the run in the order in which they were emitted, and they
are numbered without a gap. -/
theorem history_complete (streaming : Streaming Json) {inputs : List StreamInput} {runId : String}
    (alone : (streamMachine streaming).Admits (Alone runId) .empty inputs)
    (few : (emittedFor runId (shownIn streaming inputs)).length ≤ maxEventsPerRun) :
    (emittedFor runId (shownIn streaming inputs)).map AgentEvent.seq =
        List.range (emittedFor runId (shownIn streaming inputs)).length ∧
      (eventsOf ((streamMachine streaming).stateAfter .empty inputs).buffers runId).2 =
        emittedFor runId (shownIn streaming inputs) := by
  have both : Recorded (shownIn streaming inputs)
        ((streamMachine streaming).stateAfter .empty inputs) ∧
      ((emittedFor runId (shownIn streaming inputs)).length ≤ maxEventsPerRun →
        Numbered runId (shownIn streaming inputs)
          ((streamMachine streaming).stateAfter .empty inputs)) := by
    refine (streamMachine streaming).trace_invariant_of_admits id (motive := fun shown state =>
      Recorded shown state ∧ ((emittedFor runId shown).length ≤ maxEventsPerRun →
        Numbered runId shown state)) ⟨.empty, fun _ => .empty runId⟩ ?_ alone
    rintro shown state input ⟨recorded, numbered⟩ here
    refine ⟨recorded.step streaming input, fun still => ?_⟩
    have before := (length_emittedFor_le_append runId shown _).trans still
    exact (numbered before).step streaming recorded before here
  have numbers := (both.2 few).numbers
  refine ⟨numbers, ?_⟩
  rw [eventsOf_eq, both.1.kept, rtake_of_length_le few, sortedBySeq_of_seq numbers]

theorem demo_history_complete :
    (emittedFor "run-1" (shownIn Demo.streaming Demo.streamInputs)).map AgentEvent.seq =
        List.range (emittedFor "run-1" (shownIn Demo.streaming Demo.streamInputs)).length ∧
      (eventsOf ((streamMachine Demo.streaming).stateAfter .empty Demo.streamInputs).buffers
          "run-1").2 =
        emittedFor "run-1" (shownIn Demo.streaming Demo.streamInputs) :=
  history_complete Demo.streaming (by decide) (by decide)

end Era.Services
