import Era.Core.Platform
import Era.Core.Result
import Era.Lib.History
import Era.Lib.Machine
import Mathlib.Algebra.Order.Nonneg.Basic
import Mathlib.Algebra.Order.Ring.Rat
import Mathlib.Data.NNRat.Defs
import Mathlib.Logic.Function.Basic
import Mathlib.Algebra.Field.Rat
import Mathlib.Data.List.Infix

/-!
# The command protocol of the browser worker

Dispatch threads hand commands to one worker through a bounded queue and wait for a reply.
Either side may find that a command has run out of time.  The moves below are the atomic
actions of both sides, so a list of moves is one interleaving of any number of calls, and the
time between any two moves is arbitrary.
-/

namespace Era.Providers

open Era.Core Era.Lib

/-- What a command's operation raises.  No operation raises `SIDE_EFFECT_UNKNOWN` itself. -/
inductive DispatchError where
  | toolError (code : ProviderErrorCode) (message : String)
      (definite : code ≠ .sideEffectUnknown)
  | exception (typeName message : String)
  deriving DecidableEq

/-- A text contains another. -/
def containsText (part text : String) : Bool :=
  decide (part.toList <:+: text.toList)

/-- `_transport_error`: the code and the message of the `ToolError`. -/
def DispatchError.transportError (platform : Platform) :
    DispatchError → ProviderErrorCode × String
  | toolError code message _ => (code, message)
  | exception typeName message =>
      if containsText "timeout" (platform.lower typeName) then
        (.timeout, "browser operation timed out")
      else if containsText "executable doesn't exist" (platform.lower message) ∨
          containsText "browser executable" (platform.lower message) then
        (.notImplemented, "Chromium is not installed; run 'playwright install chromium'")
      else (.providerError, "browser engine error: " ++ typeName)

theorem DispatchError.transportError_definite (failure : DispatchError) (platform : Platform) :
    (failure.transportError platform).1 ≠ .sideEffectUnknown := by
  cases failure with
  | toolError code message definite => exact definite
  | exception typeName message =>
      simp only [transportError]
      split
      next => simp
      next => split <;> simp

/-- What the worker replies to a command that it has run. -/
inductive Reply where
  | returned
  /-- The operation may have happened too late, and the session is discarded. -/
  | outcomeUnknown
  | failed (failure : DispatchError)
  deriving DecidableEq

/-- What a caller is told. -/
inductive Verdict where
  /-- The command queue was full until the deadline. -/
  | notAccepted
  | expiredBeforeDispatch
  /-- The caller has waited long enough. -/
  | timedOut
  | replied (reply : Reply)
  deriving DecidableEq

/-- A call of `_call`. -/
structure BrowserCall where
  operation : String
  sessionKey : String
  timeoutMs : Int

/-- `_NON_RETRYABLE_OPERATIONS`. -/
def BrowserCall.mutating (call : BrowserCall) : Bool :=
  ["click", "fill", "submit", "download", "upload"].contains call.operation

/-- The `ToolError` that a verdict is reported as. -/
def Verdict.toolError (platform : Platform) (mutating : Bool) :
    Verdict → Option (ProviderErrorCode × String)
  | notAccepted => some (.unavailable, "browser command queue is full")
  | expiredBeforeDispatch => some (.timeout, "browser command expired before dispatch")
  | timedOut =>
      some (if mutating then .sideEffectUnknown else .timeout, "browser operation timed out")
  | replied .returned => none
  | replied .outcomeUnknown =>
      some (.sideEffectUnknown, "browser interaction outcome is unknown after timeout")
  | replied (.failed failure) => some (failure.transportError platform)

/-- Where a calling thread stands. -/
inductive Phase where
  | idle
  /-- In `put`, at most until this time. -/
  | putting (untilTime : ℚ)
  | accepted
  /-- In `get`, at most until this time. -/
  | waiting (untilTime : ℚ)
  /-- `get` has raised `Empty`; the command is not yet marked as cancelled. -/
  | gaveUp
  | told (verdict : Verdict)
  deriving DecidableEq

/-- Where the worker stands. -/
inductive Worker where
  | idle
  | dequeued (call : Nat)
  /-- The command was not cancelled; its deadline comes next. -/
  | unflagged (call : Nat)
  | expiring (call : Nat)
  | running (call : Nat)
  | returned (call : Nat)
  /-- The operation has returned and the command was not cancelled. -/
  | returnedUnflagged (call : Nat)
  | raised (call : Nat) (failure : DispatchError)
  | replying (call : Nat) (reply : Reply)

/-- What happens to the browser. -/
inductive BrowserEvent where
  /-- The command of a call is handed to the browser. -/
  | ran (call : Nat)
  /-- The context and the element references of a session are discarded. -/
  | discarded (sessionKey : String)
  deriving DecidableEq

/-- The shared state of the calls and the worker. -/
structure CommandState where
  now : ℚ := 0
  queue : List Nat := []
  deadline : Nat → ℚ := fun _ => 0
  phase : Nat → Phase := fun _ => .idle
  cancelled : Nat → Bool := fun _ => false
  /-- The reply that the worker has put into the call's own queue. -/
  answer : Nat → Option Verdict := fun _ => none
  worker : Worker := .idle
  log : List BrowserEvent := []

/-- The atomic actions. -/
inductive CommandMove where
  | tick (elapsed : ℚ≥0)
  | call (id : Nat)
  | accept (id : Nat)
  | full (id : Nat)
  | await (id : Nat)
  | receive (id : Nat)
  | giveUp (id : Nat)
  | cancel (id : Nat)
  /-- The worker's next action; what the browser raises is read where the command starts and
  where it ends. -/
  | work (outcome : Option DispatchError)
  /-- `_reap_idle_contexts` discards a session, between two commands or for a new context. -/
  | reap (sessionKey : String)

section

variable (platform : Platform) (calls : Nat → BrowserCall) (queueSize : Nat)

namespace CommandState

variable (state : CommandState)

def setPhase (id : Nat) (phase : Phase) : CommandState :=
  { state with phase := Function.update state.phase id phase }

/-- `_close_session`, before a command is reported as unknown. -/
def quarantine (id : Nat) : CommandState :=
  { state with
    worker := .replying id .outcomeUnknown
    log := state.log ++ [.discarded (calls id).sessionKey] }

/-- The worker's loop, one atomic action at a time. -/
def work (outcome : Option DispatchError) : CommandState :=
  match state.worker with
  | .idle =>
      match state.queue with
      | [] => state
      | id :: queue => { state with queue, worker := .dequeued id }
  | .dequeued id =>
      { state with worker := if state.cancelled id then .expiring id else .unflagged id }
  | .unflagged id =>
      if state.deadline id ≤ state.now then { state with worker := .expiring id }
      else
        match outcome with
        | none => { state with worker := .running id, log := state.log ++ [.ran id] }
        -- `_ensure_runtime` has raised
        | some failure => { state with worker := .raised id failure }
  | .expiring id =>
      { state with
        answer := Function.update state.answer id (some .expiredBeforeDispatch)
        worker := .idle }
  | .running id =>
      match outcome with
      | none =>
          { state with
            worker := .returned id
            log := state.log ++
              if (calls id).operation = "close_context" then
                [.discarded (calls id).sessionKey] else [] }
      | some failure => { state with worker := .raised id failure }
  | .returned id =>
      if (calls id).mutating then
        if state.cancelled id then state.quarantine calls id
        else { state with worker := .returnedUnflagged id }
      else { state with worker := .replying id .returned }
  | .returnedUnflagged id =>
      if state.deadline id ≤ state.now then state.quarantine calls id
      else { state with worker := .replying id .returned }
  | .raised id failure =>
      -- `_command_error` looks at the error only, not at the deadline
      if (calls id).mutating ∧ (failure.transportError platform).1 = .timeout then
        state.quarantine calls id
      else { state with worker := .replying id (.failed failure) }
  | .replying id reply =>
      { state with
        answer := Function.update state.answer id (some (.replied reply))
        worker := .idle }

end CommandState

/-- `max(0.001, seconds)`. -/
def atLeastMillisecond (seconds : ℚ) : ℚ := max (1 / 1000) seconds

/-- One atomic action; one that is not enabled changes nothing. -/
def commandStep (state : CommandState) : CommandMove → CommandState
  | .tick elapsed => { state with now := state.now + elapsed }
  | .call id =>
      match state.phase id with
      | .idle =>
          let deadline := state.now + atLeastMillisecond ((calls id).timeoutMs / 1000)
          { state.setPhase id (.putting deadline) with
            deadline := Function.update state.deadline id deadline }
      | _ => state
  | .accept id =>
      match state.phase id with
      | .putting _ =>
          if state.queue.length < queueSize then
            { state.setPhase id .accepted with queue := state.queue ++ [id] }
          else state
      | _ => state
  | .full id =>
      match state.phase id with
      | .putting untilTime =>
          if untilTime ≤ state.now ∧ queueSize ≤ state.queue.length then
            { state.setPhase id (.told .notAccepted) with
              cancelled := Function.update state.cancelled id true }
          else state
      | _ => state
  | .await id =>
      match state.phase id with
      | .accepted =>
          state.setPhase id (.waiting
            (state.now + atLeastMillisecond (state.deadline id - state.now) + 1 / 20))
      | _ => state
  | .receive id =>
      match state.phase id, state.answer id with
      | .waiting _, some verdict => state.setPhase id (.told verdict)
      | _, _ => state
  | .giveUp id =>
      match state.phase id, state.answer id with
      | .waiting untilTime, none =>
          if untilTime ≤ state.now then state.setPhase id .gaveUp else state
      | _, _ => state
  | .cancel id =>
      match state.phase id with
      | .gaveUp =>
          { state.setPhase id (.told .timedOut) with
            cancelled := Function.update state.cancelled id true }
      | _ => state
  | .work outcome => state.work platform calls outcome
  | .reap sessionKey =>
      match state.worker with
      | .idle | .running _ => { state with log := state.log ++ [.discarded sessionKey] }
      | _ => state

/-- The protocol under a list of moves. -/
def commandMachine : Machine CommandState CommandMove Unit where
  step state move := (commandStep platform calls queueSize state move, ())

def commandAfter (moves : List CommandMove) : CommandState :=
  (commandMachine platform calls queueSize).stateAfter {} moves

end

/-! ## The invariant -/

/-- A call whose command has not reached the queue and will not, unless it is put there. -/
def Phase.Fresh : Phase → Prop
  | idle | putting _ | told .notAccepted => True
  | accepted | waiting _ | gaveUp | told _ => False

/-- A caller that has stopped waiting for a reply. -/
def Phase.GaveUp : Phase → Prop
  | gaveUp | told .timedOut => True
  | idle | putting _ | accepted | waiting _ | told _ => False

instance : (phase : Phase) → Decidable phase.GaveUp
  | .gaveUp | .told .timedOut => isTrue trivial
  | .idle | .putting _ | .accepted | .waiting _ | .told .notAccepted
  | .told .expiredBeforeDispatch | .told (.replied _) => isFalse id

namespace Worker

/-- The call that the worker holds. -/
def on : Worker → Option Nat
  | idle => none
  | dequeued id | unflagged id | expiring id | running id | returned id
  | returnedUnflagged id | raised id _ | replying id _ => some id

/-- The worker has taken up the command that it holds. -/
def Started : Worker → Prop
  | running _ | returned _ | returnedUnflagged _ | raised _ _ | replying _ _ => True
  | idle | dequeued _ | unflagged _ | expiring _ => False

end Worker

section Invariant

variable (calls : Nat → BrowserCall)

/-- The session of a call has been discarded after its command ran. -/
def DiscardedSince (log : List BrowserEvent) (id : Nat) : Prop :=
  ∃ before after, log = before ++ .ran id :: after ∧
    .discarded (calls id).sessionKey ∈ after

/-- The worker has replied to a command without discarding its session. -/
def Kept (answer : Nat → Option Verdict) (id : Nat) : Prop :=
  ∃ reply, answer id = some (.replied reply) ∧ reply ≠ .outcomeUnknown

/-- A command runs once, and not before the sessions of earlier commands are discarded or
their replies kept. -/
def RunsInTurn (answer : Nat → Option Verdict) : List BrowserEvent → BrowserEvent → Prop
  | before, .ran later => .ran later ∉ before ∧
      ∀ id, .ran id ∈ before → (calls id).sessionKey = (calls later).sessionKey →
        DiscardedSince calls before id ∨ Kept answer id
  | _, .discarded _ => True

/-- Where every call stands, seen from both sides. -/
structure Sound (queue : List Nat) (phase : Nat → Phase) (answer : Nat → Option Verdict)
    (worker : Worker) (log : List BrowserEvent) : Prop where
  nodup : queue.Nodup
  fresh : ∀ id, (phase id).Fresh →
    id ∉ queue ∧ worker.on ≠ some id ∧ answer id = none ∧ .ran id ∉ log
  queued : ∀ id ∈ queue, worker.on ≠ some id ∧ answer id = none ∧ .ran id ∉ log
  held : ∀ id, worker.on = some id → answer id = none ∧ (.ran id ∈ log → worker.Started)
  unknownHeld : ∀ id, worker = .replying id .outcomeUnknown → .ran id ∈ log →
    DiscardedSince calls log id
  verdicts : ∀ id verdict, answer id = some verdict →
    verdict = .expiredBeforeDispatch ∧ .ran id ∉ log ∨ ∃ reply, verdict = .replied reply
  unknown : ∀ id, answer id = some (.replied .outcomeUnknown) → .ran id ∈ log →
    DiscardedSince calls log id
  accounted : ∀ id, .ran id ∈ log →
    worker.on = some id ∨ ∃ reply, answer id = some (.replied reply)
  told : ∀ id verdict, phase id = .told verdict →
    verdict = .notAccepted ∨ verdict = .timedOut ∨ answer id = some verdict
  inTurn : EachEvent (RunsInTurn calls answer) log

variable {calls} {queue : List Nat} {phase : Nat → Phase} {answer : Nat → Option Verdict}
variable {worker : Worker} {log : List BrowserEvent}

theorem DiscardedSince.append {id : Nat} (since : DiscardedSince calls log id)
    (later : List BrowserEvent) : DiscardedSince calls (log ++ later) id := by
  obtain ⟨before, after, rfl, discarded⟩ := since
  exact ⟨before, after ++ later, by simp, List.mem_append_left _ discarded⟩

theorem DiscardedSince.of_ran {id : Nat} (ran : .ran id ∈ log) :
    DiscardedSince calls (log ++ [.discarded (calls id).sessionKey]) id := by
  obtain ⟨before, after, rfl⟩ := List.append_of_mem ran
  exact ⟨before, after ++ [.discarded (calls id).sessionKey], by simp, by simp⟩

/-! ### Steps of the callers -/

/-- A caller goes on without touching what it shares. -/
theorem Sound.setPhase (sound : Sound calls queue phase answer worker log) {id : Nat}
    {next : Phase} (fresh : next.Fresh → (phase id).Fresh)
    (told : ∀ verdict, next = .told verdict →
      verdict = .notAccepted ∨ verdict = .timedOut ∨ answer id = some verdict) :
    Sound calls queue (Function.update phase id next) answer worker log := by
  refine { sound with fresh := fun other isFresh => ?_, told := fun other verdict isTold => ?_ }
  · by_cases same : other = id
    · subst same
      exact sound.fresh other (fresh (by simpa using isFresh))
    · exact sound.fresh other (by simpa [Function.update_of_ne same] using isFresh)
  · by_cases same : other = id
    · subst same
      exact told verdict (by simpa using isTold)
    · exact sound.told other verdict (by simpa [Function.update_of_ne same] using isTold)

/-- A fresh command enters the queue. -/
theorem Sound.enqueue (sound : Sound calls queue phase answer worker log) {id : Nat}
    (fresh : (phase id).Fresh) :
    Sound calls (queue ++ [id]) (Function.update phase id .accepted) answer worker log := by
  obtain ⟨notQueued, notHeld, unanswered, notRan⟩ := sound.fresh id fresh
  refine { sound with nodup := ?_, fresh := ?_, queued := ?_, told := ?_ }
  · refine List.nodup_append.mpr ⟨sound.nodup, by simp, ?_⟩
    rintro other member new isNew rfl
    obtain rfl : other = id := by simpa using isNew
    exact notQueued member
  · intro other isFresh
    by_cases same : other = id
    · subst same
      simp [Phase.Fresh] at isFresh
    · obtain ⟨absent, rest⟩ :=
        sound.fresh other (by simpa [Function.update_of_ne same] using isFresh)
      exact ⟨by simp [absent, same], rest⟩
  · intro other member
    obtain earlier | new := List.mem_append.mp member
    · exact sound.queued other earlier
    · obtain rfl : other = id := by simpa using new
      exact ⟨notHeld, unanswered, notRan⟩
  · intro other verdict isTold
    by_cases same : other = id
    · subst same
      simp at isTold
    · exact sound.told other verdict (by simpa [Function.update_of_ne same] using isTold)

/-! ### Steps of the worker -/

theorem Sound.dequeue {id : Nat}
    (sound : Sound calls (id :: queue) phase answer .idle log) :
    Sound calls queue phase answer (.dequeued id) log := by
  obtain ⟨_, unanswered, notRan⟩ := sound.queued id List.mem_cons_self
  have absent : id ∉ queue := (List.nodup_cons.mp sound.nodup).1
  refine { sound with
    nodup := (List.nodup_cons.mp sound.nodup).2, fresh := ?_, queued := ?_, held := ?_
    unknownHeld := ?_, accounted := ?_ }
  · intro other isFresh
    obtain ⟨notQueued, _, rest⟩ := sound.fresh other isFresh
    refine ⟨fun member => notQueued (List.mem_cons_of_mem _ member), ?_, rest⟩
    rintro held
    obtain rfl : id = other := Option.some.inj held
    exact notQueued List.mem_cons_self
  · intro other member
    refine ⟨?_, (sound.queued other (List.mem_cons_of_mem _ member)).2⟩
    rintro held
    obtain rfl : id = other := Option.some.inj held
    exact absent member
  · intro other held
    obtain rfl : id = other := Option.some.inj held
    exact ⟨unanswered, by simp [notRan, Worker.Started]⟩
  · intro other held
    cases held
  · intro other ran
    exact .inr ((sound.accounted other ran).resolve_left fun held => by cases held)

/-- The worker goes on with the command it holds. -/
theorem Sound.goOn (sound : Sound calls queue phase answer worker log) {next : Worker}
    (same : next.on = worker.on) (started : worker.Started → next.Started)
    (kept : ∀ id, next ≠ .replying id .outcomeUnknown) :
    Sound calls queue phase answer next log := by
  refine { sound with
    fresh := ?_, queued := ?_, held := ?_, unknownHeld := ?_, accounted := ?_ }
  · rw [same]
    exact sound.fresh
  · rw [same]
    exact sound.queued
  · rw [same]
    exact fun id held => (sound.held id held).imp_right fun taken ran => started (taken ran)
  · exact fun id held => absurd held (kept id)
  · rw [same]
    exact sound.accounted

/-- A session is discarded. -/
theorem Sound.discard (sound : Sound calls queue phase answer worker log)
    (sessionKey : String) :
    Sound calls queue phase answer worker (log ++ [.discarded sessionKey]) := by
  have ran (id : Nat) : .ran id ∈ log ++ [.discarded sessionKey] ↔ .ran id ∈ log := by simp
  refine { sound with
    fresh := ?_, queued := ?_, held := ?_, unknownHeld := ?_, verdicts := ?_, unknown := ?_
    accounted := ?_, inTurn := eachEvent_concat.mpr ⟨sound.inTurn, trivial⟩ }
  · simpa only [ran] using sound.fresh
  · simpa only [ran] using sound.queued
  · simpa only [ran] using sound.held
  · exact fun id held isRan => (sound.unknownHeld id held ((ran id).mp isRan)).append _
  · simpa only [ran] using sound.verdicts
  · exact fun id unknown isRan => (sound.unknown id unknown ((ran id).mp isRan)).append _
  · simpa only [ran] using sound.accounted

/-- The worker discards the session of the command it has taken up, to report the outcome
as unknown. -/
theorem Sound.quarantine (sound : Sound calls queue phase answer worker log) {id : Nat}
    (held : worker.on = some id) :
    Sound calls queue phase answer (.replying id .outcomeUnknown)
      (log ++ [.discarded (calls id).sessionKey]) := by
  have discarded := sound.discard (calls id).sessionKey
  refine { discarded with
    fresh := ?_, queued := ?_, held := ?_, unknownHeld := ?_, accounted := ?_ }
  · have fresh := discarded.fresh
    rwa [held] at fresh
  · have queued := discarded.queued
    rwa [held] at queued
  · intro other same
    obtain rfl : id = other := Option.some.inj same
    exact ⟨(discarded.held id held).1, fun _ => trivial⟩
  · intro other same isRan
    obtain ⟨rfl, -⟩ := Worker.replying.inj same
    exact .of_ran (by simpa using isRan)
  · have accounted := discarded.accounted
    rwa [held] at accounted

/-- The worker hands the command to the browser. -/
theorem Sound.run {id : Nat}
    (sound : Sound calls queue phase answer (.unflagged id) log) :
    Sound calls queue phase answer (.running id) (log ++ [.ran id]) := by
  obtain ⟨unanswered, taken⟩ := sound.held id rfl
  have notRan : .ran id ∉ log := taken
  have ran {other : Nat} (separate : other ≠ id) :
      .ran other ∈ log ++ [BrowserEvent.ran id] ↔ .ran other ∈ log := by simp [separate]
  have notHeld {other : Nat} (separate : (some id : Option Nat) ≠ some other) : other ≠ id :=
    fun same => separate (congrArg some same.symm)
  refine { sound with
    fresh := ?_, queued := ?_, held := ?_, unknownHeld := ?_, verdicts := ?_, unknown := ?_
    accounted := ?_, inTurn := eachEvent_concat.mpr ⟨sound.inTurn, notRan, ?_⟩ }
  · intro other isFresh
    obtain ⟨notQueued, separate, unanswered, absent⟩ := sound.fresh other isFresh
    exact ⟨notQueued, separate, unanswered, by rwa [ran (notHeld separate)]⟩
  · intro other member
    obtain ⟨separate, unanswered, absent⟩ := sound.queued other member
    exact ⟨separate, unanswered, by rwa [ran (notHeld separate)]⟩
  · intro other same
    obtain rfl : id = other := Option.some.inj same
    exact ⟨unanswered, by simp [Worker.Started]⟩
  · intro other held
    cases held
  · intro other verdict answered
    have separate : other ≠ id := by
      rintro rfl
      simp [unanswered] at answered
    rw [ran separate]
    exact sound.verdicts other verdict answered
  · intro other isUnknown isRan
    have separate : other ≠ id := by
      rintro rfl
      simp [unanswered] at isUnknown
    exact (sound.unknown other isUnknown ((ran separate).mp isRan)).append _
  · intro other isRan
    by_cases same : other = id
    · exact .inl (by rw [same]; rfl)
    · exact sound.accounted other ((ran same).mp isRan)
  · intro other isRan _
    obtain held | ⟨reply, answered⟩ := sound.accounted other isRan
    · obtain rfl : id = other := Option.some.inj held
      exact absurd isRan notRan
    · cases reply with
      | outcomeUnknown => exact .inl (sound.unknown other answered isRan)
      | returned | failed _ => exact .inr ⟨_, answered, by simp⟩

/-- The worker answers the command it holds. -/
theorem Sound.reply {id : Nat} {verdict : Verdict}
    (sound : Sound calls queue phase answer worker log) (held : worker.on = some id)
    (kind : verdict = .expiredBeforeDispatch ∧ ¬worker.Started ∨
      ∃ reply, verdict = .replied reply)
    (unknown : verdict = .replied .outcomeUnknown → worker = .replying id .outcomeUnknown) :
    Sound calls queue phase (Function.update answer id (some verdict)) .idle log := by
  obtain ⟨unanswered, taken⟩ := sound.held id held
  have other {call : Nat} (separate : worker.on ≠ some call) : call ≠ id :=
    fun same => separate (by rw [same, held])
  have update {call : Nat} (separate : call ≠ id) :
      Function.update answer id (some verdict) call = answer call :=
    Function.update_of_ne separate _ _
  refine ⟨sound.nodup, ?_, ?_, ?_, ?_, ?_, ?_, ?_, ?_, ?_⟩
  · intro call isFresh
    obtain ⟨notQueued, separate, unanswered, absent⟩ := sound.fresh call isFresh
    exact ⟨notQueued, by simp [Worker.on], by rwa [update (other separate)], absent⟩
  · intro call member
    obtain ⟨separate, unanswered, absent⟩ := sound.queued call member
    exact ⟨by simp [Worker.on], by rwa [update (other separate)], absent⟩
  · intro call same
    cases same
  · intro call same
    cases same
  · intro call told answered
    by_cases same : call = id
    · subst same
      rw [Function.update_self] at answered
      obtain rfl : verdict = told := Option.some.inj answered
      exact kind.imp_left fun ⟨expired, notStarted⟩ =>
        ⟨expired, fun ran => notStarted (taken ran)⟩
    · exact sound.verdicts call told (by rwa [update same] at answered)
  · intro call isUnknown ran
    by_cases same : call = id
    · subst same
      rw [Function.update_self] at isUnknown
      exact sound.unknownHeld call (unknown (Option.some.inj isUnknown)) ran
    · exact sound.unknown call (by rwa [update same] at isUnknown) ran
  · intro call ran
    by_cases same : call = id
    · subst same
      obtain ⟨_, notStarted⟩ | ⟨reply, eq⟩ := kind
      · exact absurd (taken ran) notStarted
      · exact .inr ⟨reply, by rw [Function.update_self, eq]⟩
    · obtain isHeld | answered := sound.accounted call ran
      · exact absurd (Option.some.inj (isHeld.symm.trans held)) same
      · rw [update same]
        exact .inr answered
  · intro call told isTold
    by_cases same : call = id
    · subst same
      obtain full | late | answered := sound.told call told isTold
      · exact .inl full
      · exact .inr (.inl late)
      · simp [unanswered] at answered
    · rw [update same]
      exact sound.told call told isTold
  · refine sound.inTurn.imp fun before event law => ?_
    cases event with
    | discarded sessionKey => trivial
    | ran later =>
        refine ⟨law.1, fun call ran same => (law.2 call ran same).imp_right ?_⟩
        rintro ⟨reply, answered, kept⟩
        have separate : call ≠ id := by
          rintro rfl
          simp [unanswered] at answered
        exact ⟨reply, by rwa [update separate], kept⟩

/-! ### Callers that gave up -/

/-- No caller has given up a mutating command that ran and whose session was kept. -/
def Timely (calls : Nat → BrowserCall) (phase : Nat → Phase) (answer : Nat → Option Verdict)
    (log : List BrowserEvent) : Prop :=
  ∀ id, (calls id).mutating → .ran id ∈ log → Kept answer id → ¬(phase id).GaveUp

theorem Timely.setPhase (timely : Timely calls phase answer log) {id : Nat} {next : Phase}
    (gaveUp : next.GaveUp → (phase id).GaveUp ∨ answer id = none) :
    Timely calls (Function.update phase id next) answer log := by
  intro other mutating ran kept gone
  by_cases same : other = id
  · subst same
    obtain already | unanswered := gaveUp (by simpa using gone)
    · exact timely other mutating ran kept already
    · obtain ⟨reply, answered, -⟩ := kept
      simp [unanswered] at answered
  · exact timely other mutating ran kept (by simpa [Function.update_of_ne same] using gone)

theorem Timely.append (timely : Timely calls phase answer log) {later : List BrowserEvent}
    (unanswered : ∀ id, .ran id ∈ later → answer id = none) :
    Timely calls phase answer (log ++ later) := by
  intro id mutating ran kept
  obtain earlier | new := List.mem_append.mp ran
  · exact timely id mutating earlier kept
  · obtain ⟨reply, answered, -⟩ := kept
    simp [unanswered id new] at answered

theorem Timely.reply (timely : Timely calls phase answer log) {id : Nat} {verdict : Verdict}
    (inTime : ∀ reply, verdict = .replied reply → reply ≠ .outcomeUnknown →
      (calls id).mutating → .ran id ∈ log → ¬(phase id).GaveUp) :
    Timely calls phase (Function.update answer id (some verdict)) log := by
  intro other mutating ran ⟨reply, answered, kept⟩
  by_cases same : other = id
  · subst same
    rw [Function.update_self] at answered
    exact inTime reply (Option.some.inj answered) kept mutating ran
  · rw [Function.update_of_ne same] at answered
    exact timely other mutating ran ⟨reply, answered, kept⟩

end Invariant

/-! ## Runs -/

section Runs

variable {platform : Platform} {calls : Nat → BrowserCall} {queueSize : Nat}

/-- The invariant of a state. -/
def CommandState.Sound (calls : Nat → BrowserCall) (state : CommandState) : Prop :=
  Providers.Sound calls state.queue state.phase state.answer state.worker state.log

theorem work_sound {state : CommandState} (sound : state.Sound calls)
    (outcome : Option DispatchError) : (state.work platform calls outcome).Sound calls := by
  unfold CommandState.Sound at sound
  unfold CommandState.work
  cases worker : state.worker with
  | idle =>
      rw [worker] at sound
      cases queue : state.queue with
      | nil =>
          unfold CommandState.Sound
          rwa [worker]
      | cons id rest =>
          rw [queue] at sound
          exact sound.dequeue
  | dequeued id =>
      rw [worker] at sound
      dsimp only
      cases state.cancelled id with
      | true => exact sound.goOn rfl (fun started => started) (by simp)
      | false => exact sound.goOn rfl (fun started => started) (by simp)
  | unflagged id =>
      rw [worker] at sound
      dsimp only
      split
      next => exact sound.goOn rfl (fun started => started) (by simp)
      next =>
        cases outcome with
        | none => exact sound.run
        | some failure => exact sound.goOn rfl (fun _ => trivial) (by simp)
  | expiring id =>
      rw [worker] at sound
      exact sound.reply rfl (.inl ⟨rfl, by simp [Worker.Started]⟩) (by simp)
  | running id =>
      rw [worker] at sound
      cases outcome with
      | some failure => exact sound.goOn rfl (fun _ => trivial) (by simp)
      | none =>
          have returned : Providers.Sound calls state.queue state.phase state.answer
              (.returned id) state.log :=
            sound.goOn rfl (fun _ => trivial) (by simp)
          dsimp only
          split
          next => exact returned.discard _
          next =>
            rw [List.append_nil]
            exact returned
  | returned id =>
      rw [worker] at sound
      dsimp only
      split
      next =>
        split
        next => exact sound.quarantine rfl
        next => exact sound.goOn rfl (fun _ => trivial) (by simp)
      next => exact sound.goOn rfl (fun _ => trivial) (by simp)
  | returnedUnflagged id =>
      rw [worker] at sound
      dsimp only
      split
      next => exact sound.quarantine rfl
      next => exact sound.goOn rfl (fun _ => trivial) (by simp)
  | raised id failure =>
      rw [worker] at sound
      dsimp only
      split
      next => exact sound.quarantine rfl
      next => exact sound.goOn rfl (fun _ => trivial) (by simp)
  | replying id reply =>
      rw [worker] at sound
      exact sound.reply rfl (.inr ⟨reply, rfl⟩) (by rintro ⟨rfl⟩; rfl)

theorem commandStep_sound {state : CommandState} (sound : state.Sound calls)
    (move : CommandMove) :
    (commandStep platform calls queueSize state move).Sound calls := by
  cases move with
  | tick elapsed => exact sound
  | work outcome => exact work_sound sound outcome
  | reap sessionKey =>
      simp only [commandStep]
      split
      next => exact sound.discard sessionKey
      next => exact sound.discard sessionKey
      next => exact sound
  | call id =>
      simp only [commandStep]
      split
      next idle => exact sound.setPhase (by simp [idle, Phase.Fresh]) (by simp)
      next => exact sound
  | accept id =>
      simp only [commandStep]
      split
      next untilTime putting =>
        split
        next => exact sound.enqueue (by simp [putting, Phase.Fresh])
        next => exact sound
      next => exact sound
  | full id =>
      simp only [commandStep]
      split
      next untilTime putting =>
        split
        next => exact sound.setPhase (by simp [putting, Phase.Fresh]) (by simp)
        next => exact sound
      next => exact sound
  | await id =>
      simp only [commandStep]
      split
      next => exact sound.setPhase (by simp [Phase.Fresh]) (by simp)
      next => exact sound
  | receive id =>
      simp only [commandStep]
      split
      next untilTime verdict waiting answered =>
        refine sound.setPhase ?_ (by rintro told ⟨rfl⟩; exact .inr (.inr answered))
        obtain ⟨rfl, -⟩ | ⟨reply, rfl⟩ := sound.verdicts id verdict answered
        · simp [Phase.Fresh]
        · simp [Phase.Fresh]
      next => exact sound
  | giveUp id =>
      simp only [commandStep]
      split
      next untilTime waiting unanswered =>
        split
        next => exact sound.setPhase (by simp [Phase.Fresh]) (by simp)
        next => exact sound
      next => exact sound
  | cancel id =>
      simp only [commandStep]
      split
      next => exact sound.setPhase (by simp [Phase.Fresh]) (by simp)
      next => exact sound

/-! ### What callers are told -/

theorem work_phase (state : CommandState) (outcome : Option DispatchError) :
    (state.work platform calls outcome).phase = state.phase := by
  unfold CommandState.work CommandState.quarantine
  cases state.worker with
  | idle => cases state.queue <;> rfl
  | dequeued id | expiring id | replying id reply => rfl
  | unflagged id =>
      dsimp only
      split
      next => rfl
      next => cases outcome <;> rfl
  | running id => cases outcome <;> rfl
  | returned id =>
      dsimp only
      split
      next => split <;> rfl
      next => rfl
  | returnedUnflagged id | raised id failure =>
      dsimp only
      split <;> rfl

/-- What a caller has been told stays. -/
theorem commandStep_told {state : CommandState} {id : Nat} {verdict : Verdict}
    (told : state.phase id = .told verdict) (move : CommandMove) :
    (commandStep platform calls queueSize state move).phase id = .told verdict := by
  have other {call : Nat} {next : Phase} (going : ∀ verdict, state.phase call ≠ .told verdict) :
      (state.setPhase call next).phase id = .told verdict := by
    have separate : id ≠ call := by
      rintro rfl
      exact going verdict told
    exact (Function.update_of_ne separate next state.phase).trans told
  cases move with
  | tick elapsed => exact told
  | work outcome => exact (congrFun (work_phase state outcome) id).trans told
  | reap sessionKey =>
      simp only [commandStep]
      split <;> exact told
  | call call =>
      simp only [commandStep]
      split
      next idle => exact other (by simp [idle])
      next => exact told
  | accept call =>
      simp only [commandStep]
      split
      next putting =>
        split
        next => exact other (by simp [putting])
        next => exact told
      next => exact told
  | full call =>
      simp only [commandStep]
      split
      next putting =>
        split
        next => exact other (by simp [putting])
        next => exact told
      next => exact told
  | await call =>
      simp only [commandStep]
      split
      next accepted => exact other (by simp [accepted])
      next => exact told
  | receive call =>
      simp only [commandStep]
      split
      next waiting answered => exact other (by simp [waiting])
      next => exact told
  | giveUp call =>
      simp only [commandStep]
      split
      next waiting unanswered =>
        split
        next => exact other (by simp [waiting])
        next => exact told
      next => exact told
  | cancel call =>
      simp only [commandStep]
      split
      next gaveUp => exact other (by simp [gaveUp])
      next => exact told

/-! ### Replies in time -/

/-- The call to which a move replies that its command returned or failed. -/
def CommandState.repliesTo (state : CommandState) : CommandMove → Option Nat
  | .work _ =>
      match state.worker with
      | .replying id .returned | .replying id (.failed _) => some id
      | _ => none
  | _ => none

/-- The caller of a mutating command that has run is still waiting when the worker replies
that the command returned or failed. -/
def RepliesInTime (calls : Nat → BrowserCall) (state : CommandState) (move : CommandMove) :
    Prop :=
  ∀ id ∈ state.repliesTo move,
    (calls id).mutating → .ran id ∈ state.log → ¬(state.phase id).GaveUp

instance (state : CommandState) (move : CommandMove) :
    Decidable (RepliesInTime calls state move) :=
  inferInstanceAs (Decidable (∀ id ∈ state.repliesTo move,
    (calls id).mutating → .ran id ∈ state.log → ¬(state.phase id).GaveUp))

theorem work_timely {state : CommandState} (sound : state.Sound calls)
    (timely : Timely calls state.phase state.answer state.log)
    {outcome : Option DispatchError} (inTime : RepliesInTime calls state (.work outcome)) :
    Timely calls state.phase (state.work platform calls outcome).answer
      (state.work platform calls outcome).log := by
  unfold CommandState.work CommandState.quarantine
  cases worker : state.worker with
  | idle => cases state.queue <;> exact timely
  | dequeued id => exact timely
  | unflagged id =>
      have unanswered : state.answer id = none := (sound.held id (by rw [worker]; rfl)).1
      dsimp only
      split
      next => exact timely
      next =>
        cases outcome with
        | none => exact timely.append (by simp [unanswered])
        | some failure => exact timely
  | expiring id => exact timely.reply (by simp)
  | running id =>
      cases outcome with
      | some failure => exact timely
      | none =>
          refine timely.append fun other ran => ?_
          split at ran <;> simp at ran
  | returned id =>
      dsimp only
      split
      next =>
        split
        next => exact timely.append (by simp)
        next => exact timely
      next => exact timely
  | returnedUnflagged id | raised id failure =>
      dsimp only
      split
      next => exact timely.append (by simp)
      next => exact timely
  | replying id reply =>
      refine timely.reply fun answer same kept mutating ran => ?_
      obtain rfl := Verdict.replied.inj same
      refine inTime id ?_ mutating ran
      cases reply with
      | outcomeUnknown => exact absurd rfl kept
      | returned | failed _ => simp [CommandState.repliesTo, worker]

theorem commandStep_timely {state : CommandState} (sound : state.Sound calls)
    (timely : Timely calls state.phase state.answer state.log) {move : CommandMove}
    (inTime : RepliesInTime calls state move) :
    Timely calls (commandStep platform calls queueSize state move).phase
      (commandStep platform calls queueSize state move).answer
      (commandStep platform calls queueSize state move).log := by
  cases move with
  | tick elapsed => exact timely
  | work outcome =>
      rw [commandStep, work_phase]
      exact work_timely sound timely inTime
  | reap sessionKey =>
      simp only [commandStep]
      split
      next => exact timely.append (by simp)
      next => exact timely.append (by simp)
      next => exact timely
  | call id =>
      simp only [commandStep]
      split
      next => exact timely.setPhase (by simp [Phase.GaveUp])
      next => exact timely
  | accept id =>
      simp only [commandStep]
      split
      next =>
        split
        next => exact timely.setPhase (by simp [Phase.GaveUp])
        next => exact timely
      next => exact timely
  | full id =>
      simp only [commandStep]
      split
      next =>
        split
        next => exact timely.setPhase (by simp [Phase.GaveUp])
        next => exact timely
      next => exact timely
  | await id =>
      simp only [commandStep]
      split
      next => exact timely.setPhase (by simp [Phase.GaveUp])
      next => exact timely
  | receive id =>
      simp only [commandStep]
      split
      next untilTime verdict waiting answered =>
        refine timely.setPhase fun gaveUp => ?_
        obtain ⟨rfl, -⟩ | ⟨reply, rfl⟩ := sound.verdicts id verdict answered
        · simp [Phase.GaveUp] at gaveUp
        · simp [Phase.GaveUp] at gaveUp
      next => exact timely
  | giveUp id =>
      simp only [commandStep]
      split
      next untilTime waiting unanswered =>
        split
        next => exact timely.setPhase fun _ => .inr unanswered
        next => exact timely
      next => exact timely
  | cancel id =>
      simp only [commandStep]
      split
      next gaveUp => exact timely.setPhase fun _ => .inl (by simp [gaveUp, Phase.GaveUp])
      next => exact timely

/-! ### The protocol -/

theorem sound_start : CommandState.Sound calls {} := by
  refine ⟨by simp, ?_, ?_, ?_, ?_, ?_, ?_, ?_, ?_, eachEvent_nil _⟩
  all_goals simp [Worker.on]

theorem commandAfter_sound (moves : List CommandMove) :
    (commandAfter platform calls queueSize moves).Sound calls :=
  Machine.invariant sound_start (fun _ move sound => commandStep_sound sound move) moves

theorem commandAfter_timely {moves : List CommandMove}
    (inTime : (commandMachine platform calls queueSize).Admits (RepliesInTime calls) {} moves) :
    Timely calls (commandAfter platform calls queueSize moves).phase
      (commandAfter platform calls queueSize moves).answer
      (commandAfter platform calls queueSize moves).log := by
  have initially : Timely calls (fun _ => Phase.idle) (fun _ => none) [] := by
    intro id _ ran
    simp at ran
  have reached := Machine.invariant_of_admits
    (motive := fun state => state.Sound calls ∧ Timely calls state.phase state.answer state.log)
    ⟨sound_start, initially⟩
    (fun _ _ ⟨sound, timely⟩ now =>
      ⟨commandStep_sound sound _, commandStep_timely sound timely now⟩) inTime
  exact reached.2

theorem commandAfter_told {earlier : List CommandMove} {id : Nat} {verdict : Verdict}
    (told : (commandAfter platform calls queueSize earlier).phase id = .told verdict)
    (later : List CommandMove) :
    (commandAfter platform calls queueSize (earlier ++ later)).phase id = .told verdict := by
  have stays (state : CommandState) (move : CommandMove)
      (told : state.phase id = .told verdict) :
      ((commandMachine platform calls queueSize).step state move).1.phase id = .told verdict :=
    commandStep_told told move
  unfold commandAfter
  rw [Machine.stateAfter_append]
  exact Machine.invariant
    (motive := fun state : CommandState => state.phase id = .told verdict) told stays later

/-- The commands that a run hands to the browser and what it tells their callers. -/
structure FollowsProtocol (platform : Platform) (calls : Nat → BrowserCall) (queueSize : Nat)
    (moves : List CommandMove) : Prop where
  once : ∀ id, (commandAfter platform calls queueSize moves).log.count (.ran id) ≤ 1
  neverRuns : ∀ earlier later id, moves = earlier ++ later →
    ((commandAfter platform calls queueSize earlier).phase id = .told .notAccepted ∨
      (commandAfter platform calls queueSize earlier).phase id = .told .expiredBeforeDispatch) →
    .ran id ∉ (commandAfter platform calls queueSize moves).log
  discards : ∀ earlier later id verdict message, moves = earlier ++ later →
    (commandAfter platform calls queueSize earlier).phase id = .told verdict →
    verdict.toolError platform (calls id).mutating = some (.sideEffectUnknown, message) →
    ∀ before other after,
      (commandAfter platform calls queueSize moves).log = before ++ .ran other :: after →
      .ran id ∈ before → (calls id).sessionKey = (calls other).sessionKey →
      DiscardedSince calls before id

theorem commandProtocol {moves : List CommandMove}
    (inTime : (commandMachine platform calls queueSize).Admits (RepliesInTime calls) {} moves) :
    FollowsProtocol platform calls queueSize moves := by
  have sound : (commandAfter platform calls queueSize moves).Sound calls :=
    commandAfter_sound moves
  have timely := commandAfter_timely inTime
  refine ⟨fun id => ?_, ?_, ?_⟩
  · exact (sound.inTurn.imp fun before event law same => by subst same; exact law.1).count_le_one
  · rintro earlier later id rfl told
    obtain full | expired := told
    · have fresh := commandAfter_told full later
      exact (sound.fresh id (by simp [fresh, Phase.Fresh])).2.2.2
    · have answered := sound.told id _ (commandAfter_told expired later)
      simpa using sound.verdicts id .expiredBeforeDispatch (by simpa using answered)
  · rintro earlier later id verdict message rfl told unknown before other after split ran same
    have stillTold := commandAfter_told told later
    obtain discarded | ⟨reply, answered, kept⟩ :=
      (sound.inTurn before (.ran other) after split).2 id ran same
    · exact discarded
    · have isRan : .ran id ∈ (commandAfter platform calls queueSize (earlier ++ later)).log := by
        rw [split]
        exact List.mem_append_left _ ran
      obtain rfl | rfl | replied := sound.told id verdict stillTold
      · simp [Verdict.toolError] at unknown
      · -- a caller that gave up a mutating command was not kept waiting
        have mutating : (calls id).mutating := by
          by_contra harmless
          simp [Verdict.toolError, harmless] at unknown
        refine absurd ?_ (timely id mutating isRan ⟨reply, answered, kept⟩)
        simp [stillTold, Phase.GaveUp]
      · obtain rfl : verdict = .replied reply := Option.some.inj (replied.symm.trans answered)
        cases reply with
        | outcomeUnknown => exact absurd rfl kept
        | returned => simp [Verdict.toolError] at unknown
        | failed failure =>
            exact absurd (congrArg Prod.fst (Option.some.inj unknown))
              (failure.transportError_definite platform)

end Runs

/-! ## Clicks that take too long -/

namespace Demo

/-- Two clicks in one session. -/
def clicks (_ : Nat) : BrowserCall where
  operation := "click"
  sessionKey := "run-1"
  timeoutMs := 10000

/-- The first caller gives up while its click runs. -/
def lateClick : List CommandMove :=
  [.call 0, .accept 0, .await 0, .work none, .work none, .work none, .tick 11, .giveUp 0,
    .cancel 0]

/-- The second click is run. -/
def nextClick : List CommandMove :=
  [.call 1, .accept 1, .await 1, .work none, .work none, .work none]

/-- The late click returns. -/
def lateReturn : List CommandMove :=
  lateClick ++ [.work none, .work none, .work none] ++ nextClick

/-- The late click raises an error of the browser engine. -/
def lateError : List CommandMove :=
  lateClick ++ [.work (some (.exception "Error" "element was detached")), .work none, .work none]
    ++ nextClick

end Demo

theorem commandProtocol_lateReturn :
    FollowsProtocol .plain Demo.clicks 16 Demo.lateReturn ∧
      (commandAfter .plain Demo.clicks 16 Demo.lateReturn).log =
        [.ran 0, .discarded "run-1", .ran 1] :=
  ⟨commandProtocol (by decide +kernel), by decide +kernel⟩

/-- The session is kept although the caller of its click does not know the outcome. -/
theorem not_followsProtocol : ¬FollowsProtocol .plain Demo.clicks 16 Demo.lateError := by
  intro follows
  have log : (commandAfter .plain Demo.clicks 16 Demo.lateError).log = [.ran 0] ++ [.ran 1] := by
    decide +kernel
  have told : (commandAfter .plain Demo.clicks 16 Demo.lateClick).phase 0 = .told .timedOut := by
    decide +kernel
  obtain ⟨before, after, split, discarded⟩ :=
    follows.discards _ _ 0 _ _ (List.append_assoc _ _ _) told rfl _ 1 [] log
      (List.mem_singleton_self _) rfl
  have alone : after = [] := by
    have lengths := congrArg List.length split
    simp at lengths
    exact List.length_eq_zero_iff.mp (by omega)
  simp [alone] at discarded

end Era.Providers
