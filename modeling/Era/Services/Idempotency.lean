import Era.Services.Jobs

/-!
# Replay-safe requests

A call that carries a key reserves a record for its actor and key, dispatches, and stores the
response in the record.  Each of these is a transaction of its own, and the calls of other
clients come in between.
-/

namespace Era.Services

open Era.Core Era.Lib Era.Security

inductive RecordStatus where
  | processing
  | completed
  deriving DecidableEq, Repr

/-- A row of `idempotency_record`. -/
structure IdempotencyRecord where
  id : String
  actorId : String
  keyHash : String
  requestHash : String
  status : RecordStatus
  response : Option ExecutionResponse := none
  createdAt : String
  expiresAt : String

/-- What `run` raises by itself. -/
inductive IdempotencyError where
  | conflict (message : String)
  | inProgress (message : String)
  /-- Anything that is not meant to be raised. -/
  | exception (typeName : String)
  /-- What the dispatch raises. -/
  | dispatch (exception : String)

structure IdempotencyService where
  platform : Platform
  ttlSeconds : Int
  processingTtlSeconds : Int

/-- A call of `run`, with the random identifiers that it may draw. -/
structure IdempotentCall where
  actorId : String
  idempotencyKey : String
  requestHash : String
  recordId : String
  secondId : String

/-- How far a call has come; the flag says that it has deleted an abandoned record after it
has lost a race. -/
inductive IdempotentPhase where
  | idle
  | getting (call : IdempotentCall)
  | deleting (call : IdempotentCall) (recordId : String) (again : Bool)
  | beginning (call : IdempotentCall) (again : Bool)
  | rereading (call : IdempotentCall) (again : Bool)
  | dispatching (call : IdempotentCall) (recordId : String)
  | completing (call : IdempotentCall) (recordId : String) (response : ExecutionResponse)
  | discarding (call : IdempotentCall) (recordId exception : String)
  | ended (answer : Except IdempotencyError ExecutionResponse)

/-- No call is on its way. -/
def IdempotentPhase.isFree : IdempotentPhase → Bool
  | .idle | .ended _ => true
  | .getting _ | .deleting _ _ _ | .beginning _ _ | .rereading _ _ => false
  | .dispatching _ _ | .completing _ _ _ | .discarding _ _ _ => false

structure IdempotencyState where
  records : List IdempotencyRecord := []
  phases : Nat → IdempotentPhase := fun _ => .idle

inductive IdempotencyInput where
  | run (caller : Nat) (call : IdempotentCall)
  /-- A call goes on to the end of its next transaction. -/
  | proceed (caller : Nat) (now : Instant)
  /-- The dispatch of a call returns or raises. -/
  | answer (caller : Nat) (answer : Except String ExecutionResponse)

inductive IdempotencyEvent where
  /-- The dispatch of a call has completed successfully. -/
  | dispatched (caller : Nat) (call : IdempotentCall) (response : ExecutionResponse)
  | returned (caller : Nat) (call : IdempotentCall) (response : ExecutionResponse)

section Service

variable (service : IdempotencyService)

/-- The actor and the key of a record. -/
def IdempotencyRecord.slot (record : IdempotencyRecord) : String × String :=
  (record.actorId, record.keyHash)

/-- The actor and the hash of the key of a call. -/
def IdempotentCall.slot (call : IdempotentCall) : String × String :=
  (call.actorId, keyFingerprint service.platform call.actorId call.idempotencyKey)

/-- `_is_expired`. -/
def IdempotencyRecord.isExpired (record : IdempotencyRecord) (now : Instant) : Bool :=
  decide (record.expiresAt < utcnowIso now)

/-- `_is_stale_processing`; there is none where a time is out of range. -/
def IdempotencyService.isStaleProcessing (record : IdempotencyRecord) (now : Instant) :
    Option Bool :=
  if record.status ≠ .processing then some false
  else (addSeconds record.createdAt service.processingTtlSeconds).map fun staleAfter =>
    decide (staleAfter < utcnowIso now)

/-- `repo.get`. -/
def recordOf (records : List IdempotencyRecord) (slot : String × String) :
    Option IdempotencyRecord :=
  Table.find IdempotencyRecord.slot records slot

/-- `_resolve_completed`. -/
def resolveCompleted (record : IdempotencyRecord) (requestHash : String) :
    Except IdempotencyError ExecutionResponse :=
  if record.requestHash ≠ requestHash then
    .error (.conflict "idempotency key was already used with a different request")
  else
    match record.response with
    | some response => .ok response
    | none => .error (.exception "ValidationError")

def executionInProgress : IdempotencyError :=
  .inProgress "an execution with this key is in progress"

/-- The record that `_begin` inserts. -/
def IdempotencyService.newRecord (call : IdempotentCall) (again : Bool) (now : Instant) :
    Option IdempotencyRecord :=
  (addSeconds (utcnowIso now) service.ttlSeconds).map fun expiresAt =>
    { id := if again then call.secondId else call.recordId
      actorId := (call.slot service).1
      keyHash := (call.slot service).2
      requestHash := call.requestHash
      status := .processing
      createdAt := utcnowIso now
      expiresAt }

/-- An insertion violates the primary key, or the unique pair of actor and key. -/
def IdempotencyRecord.violates (record : IdempotencyRecord) (records : List IdempotencyRecord) :
    Bool :=
  records.any fun stored => stored.id == record.id || stored.slot == record.slot

def IdempotencyState.enter (state : IdempotencyState) (caller : Nat) (phase : IdempotentPhase) :
    IdempotencyState :=
  { state with phases := Function.update state.phases caller phase }

/-- A call returns or raises. -/
def IdempotencyState.finish (state : IdempotencyState) (caller : Nat) (call : IdempotentCall)
    (answer : Except IdempotencyError ExecutionResponse) :
    IdempotencyState × List IdempotencyEvent :=
  (state.enter caller (.ended answer),
    match answer with
    | .ok response => [.returned caller call response]
    | .error _ => [])

/-- What `run` does with a record that is being processed. -/
def findProcessing (state : IdempotencyState) (caller : Nat) (call : IdempotentCall)
    (record : IdempotencyRecord) (again : Bool) (now : Instant) :
    IdempotencyState × List IdempotencyEvent :=
  match service.isStaleProcessing record now with
  | none => state.finish caller call (.error (.exception "OverflowError"))
  | some true => (state.enter caller (.deleting call record.id again), [])
  | some false => state.finish caller call (.error executionInProgress)

/-- The next transaction of a call, and what it decides then. -/
def proceedIdempotent (state : IdempotencyState) (caller : Nat) (now : Instant) :
    IdempotencyState × List IdempotencyEvent :=
  match state.phases caller with
  | .getting call =>
      match recordOf state.records (call.slot service) with
      | none => (state.enter caller (.beginning call false), [])
      | some existing =>
          if existing.isExpired now then
            (state.enter caller (.deleting call existing.id false), [])
          else if existing.status = .completed then
            state.finish caller call (resolveCompleted existing call.requestHash)
          else findProcessing service state caller call existing false now
  | .deleting call recordId again =>
      ({ state.enter caller (.beginning call again) with
        records := Table.delete IdempotencyRecord.id state.records recordId }, [])
  | .beginning call again =>
      match service.newRecord call again now with
      | none => state.finish caller call (.error (.exception "OverflowError"))
      | some record =>
          if record.violates state.records then (state.enter caller (.rereading call again), [])
          else
            ({ state.enter caller (.dispatching call record.id) with
              records := state.records ++ [record] }, [])
  | .rereading call true => state.finish caller call (.error executionInProgress)
  | .rereading call false =>
      match recordOf state.records (call.slot service) with
      | none => state.finish caller call (.error (.exception "AttributeError"))
      | some record =>
          if record.status = .completed then
            state.finish caller call (resolveCompleted record call.requestHash)
          else findProcessing service state caller call record true now
  | .completing call recordId response =>
      let after := state.finish caller call (.ok response)
      match Table.find IdempotencyRecord.id state.records recordId with
      | none => after
      | some record =>
          ({ after.1 with
            records := Table.store IdempotencyRecord.id state.records
              { record with status := .completed, response := some (responsePayload response) } },
            after.2)
  | .discarding call recordId exception =>
      let after := state.finish caller call (.error (.dispatch exception))
      ({ after.1 with
        records := Table.delete IdempotencyRecord.id state.records recordId }, after.2)
  | .idle | .dispatching _ _ | .ended _ => (state, [])

def idempotencyStep (state : IdempotencyState) :
    IdempotencyInput → IdempotencyState × List IdempotencyEvent
  | .run caller call =>
      match state.phases caller with
      | .idle | .ended _ => (state.enter caller (.getting call), [])
      | _ => (state, [])
  | .proceed caller now => proceedIdempotent service state caller now
  | .answer caller answer =>
      match state.phases caller with
      | .dispatching call recordId =>
          match answer with
          | .ok response =>
              (state.enter caller (.completing call recordId response),
                [.dispatched caller call response])
          | .error exception => (state.enter caller (.discarding call recordId exception), [])
      | _ => (state, [])

def idempotencyMachine : Machine IdempotencyState IdempotencyInput (List IdempotencyEvent) :=
  { step := idempotencyStep service }

/-! ## What is promised -/

/-- No record is expired or abandoned when a call looks at it. -/
def StaysFresh (state : IdempotencyState) : IdempotencyInput → Prop
  | .proceed _ now => ∀ record ∈ state.records,
      record.isExpired now = false ∧ service.isStaleProcessing record now ≠ some true
  | .run _ _ | .answer _ _ => True

instance (state : IdempotencyState) :
    (input : IdempotencyInput) → Decidable (StaysFresh service state input)
  | .proceed _ now => inferInstanceAs (Decidable (∀ record ∈ state.records,
      record.isExpired now = false ∧ service.isStaleProcessing record now ≠ some true))
  | .run _ _ | .answer _ _ => isTrue True.intro

/-- The dispatch of a call for an actor and a key has completed. -/
def IdempotencyEvent.dispatchesFor (slot : String × String) : IdempotencyEvent → Bool
  | .dispatched _ call _ => call.slot service == slot
  | .returned _ _ _ => false

/-- At most one dispatch completes for an actor and a key, and what a call returns is the response
of that dispatch, without the challenge unless the call has dispatched itself. -/
structure Replays (events : List IdempotencyEvent) : Prop where
  once : ∀ slot, events.countP (IdempotencyEvent.dispatchesFor service slot) ≤ 1
  recorded : ∀ caller call response, IdempotencyEvent.returned caller call response ∈ events →
    ∃ owner first answer, IdempotencyEvent.dispatched owner first answer ∈ events ∧
      first.slot service = call.slot service ∧ first.requestHash = call.requestHash ∧
      (response = responsePayload answer ∨ owner = caller ∧ first = call ∧ response = answer)

/-- The record of a key is the one of the call that dispatches, and once a dispatch has raised
and its record is discarded, a new call with the key gets to its dispatch. -/
structure Reserves (state : IdempotencyState) : Prop where
  own : ∀ caller call recordId, state.phases caller = .dispatching call recordId →
    ∀ record ∈ state.records, record.slot = call.slot service →
      record.requestHash = call.requestHash
  again : ∀ caller call recordId exception next other now record,
    state.phases caller = .discarding call recordId exception →
    next.slot service = call.slot service → service.newRecord next false now = some record →
    (∀ stored ∈ state.records, stored.id ≠ next.recordId) →
    (other = caller ∨ (state.phases other).isFree = true) →
    ((idempotencyMachine service).stateAfter state
      [.proceed caller now, .run other next, .proceed other now, .proceed other now]).phases
        other = .dispatching next next.recordId

end Service

/-! ## What one step can do -/

/-- The call that holds a record, and the record. -/
def IdempotentPhase.held : IdempotentPhase → Option (IdempotentCall × String)
  | .dispatching call recordId | .completing call recordId _ | .discarding call recordId _ =>
      some (call, recordId)
  | .idle | .getting _ | .deleting _ _ _ | .beginning _ _ | .rereading _ _ | .ended _ => none

/-- A call deletes an abandoned record, or has deleted one. -/
def IdempotentPhase.deletes : IdempotentPhase → Bool
  | .deleting _ _ _ => true
  | .beginning _ again | .rereading _ again => again
  | .idle | .getting _ | .dispatching _ _ | .completing _ _ _ | .discarding _ _ _ | .ended _ =>
      false

section Moves

variable {service : IdempotencyService} {state : IdempotencyState}

/-- The ways in which one step changes the records, as long as none is abandoned. -/
inductive IdempotencyMove (service : IdempotencyService) (state : IdempotencyState) :
    IdempotencyState × List IdempotencyEvent → Prop where
  | waits : IdempotencyMove service state (state, [])
  /-- A call holds no record, neither before nor afterwards. -/
  | goes (caller : Nat) (phase : IdempotentPhase) : (state.phases caller).held = none →
      phase.held = none → phase.deletes = false →
      IdempotencyMove service state (state.enter caller phase, [])
  | replays (caller : Nat) (call : IdempotentCall) (record : IdempotencyRecord)
      (response : ExecutionResponse) : (state.phases caller).held = none →
      record ∈ state.records → record.slot = call.slot service →
      record.requestHash = call.requestHash → record.status = .completed →
      record.response = some response →
      IdempotencyMove service state
        (state.enter caller (.ended (.ok response)), [.returned caller call response])
  | reserves (caller : Nat) (call : IdempotentCall) (record : IdempotencyRecord) :
      (state.phases caller).held = none → record.violates state.records = false →
      record.slot = call.slot service → record.requestHash = call.requestHash →
      record.status = .processing →
      IdempotencyMove service state
        ({ state.enter caller (.dispatching call record.id) with
          records := state.records ++ [record] }, [])
  | dispatches (caller : Nat) (call : IdempotentCall) (recordId : String)
      (response : ExecutionResponse) : state.phases caller = .dispatching call recordId →
      IdempotencyMove service state
        (state.enter caller (.completing call recordId response),
          [.dispatched caller call response])
  | raises (caller : Nat) (call : IdempotentCall) (recordId exception : String) :
      state.phases caller = .dispatching call recordId →
      IdempotencyMove service state
        (state.enter caller (.discarding call recordId exception), [])
  | completes (caller : Nat) (call : IdempotentCall) (recordId : String)
      (response : ExecutionResponse) (record : IdempotencyRecord) :
      state.phases caller = .completing call recordId response →
      Table.find IdempotencyRecord.id state.records recordId = some record →
      IdempotencyMove service state
        ({ state.enter caller (.ended (.ok response)) with
          records := Table.store IdempotencyRecord.id state.records
            { record with status := .completed, response := some (responsePayload response) } },
          [.returned caller call response])
  | discards (caller : Nat) (call : IdempotentCall) (recordId exception : String) :
      state.phases caller = .discarding call recordId exception →
      IdempotencyMove service state
        ({ state.enter caller (.ended (.error (.dispatch exception))) with
          records := Table.delete IdempotencyRecord.id state.records recordId }, [])

theorem newRecord_some {call : IdempotentCall} {again : Bool} {now : Instant}
    {record : IdempotencyRecord} (created : service.newRecord call again now = some record) :
    record.slot = call.slot service ∧ record.requestHash = call.requestHash ∧
      record.status = .processing ∧
      record.id = if again then call.secondId else call.recordId := by
  obtain ⟨expiresAt, _, rfl⟩ := Option.map_eq_some_iff.mp created
  exact ⟨rfl, rfl, rfl, rfl⟩

theorem recordOf_some {records : List IdempotencyRecord} {slot : String × String}
    {record : IdempotencyRecord} (found : recordOf records slot = some record) :
    record ∈ records ∧ record.slot = slot :=
  Table.find_eq_some found

/-- A record that is being processed and not abandoned ends a call. -/
theorem findProcessing_move {caller : Nat} {call : IdempotentCall} {record : IdempotencyRecord}
    {again : Bool} {now : Instant} (free : (state.phases caller).held = none)
    (fresh : service.isStaleProcessing record now ≠ some true) :
    IdempotencyMove service state (findProcessing service state caller call record again now) := by
  unfold findProcessing
  split
  · exact .goes caller _ free rfl rfl
  next stale => exact absurd stale fresh
  · exact .goes caller _ free rfl rfl

/-- A completed record is replayed, or refused. -/
theorem resolveCompleted_move {caller : Nat} {call : IdempotentCall} {record : IdempotencyRecord}
    (free : (state.phases caller).held = none)
    (found : recordOf state.records (call.slot service) = some record)
    (completed : record.status = .completed) :
    IdempotencyMove service state
      (state.finish caller call (resolveCompleted record call.requestHash)) := by
  obtain ⟨member, slot⟩ := recordOf_some found
  unfold resolveCompleted
  split
  · exact .goes caller _ free rfl rfl
  next same =>
    split
    next response stored =>
      exact .replays caller call record response free member slot (not_not.mp same) completed
        stored
    · exact .goes caller _ free rfl rfl

/-- Every step is one of the moves. -/
theorem idempotencyStep_move (first : ∀ caller, (state.phases caller).deletes = false)
    (held : ∀ caller call recordId, (state.phases caller).held = some (call, recordId) →
      ∃ record, Table.find IdempotencyRecord.id state.records recordId = some record)
    {input : IdempotencyInput} (fresh : StaysFresh service state input) :
    IdempotencyMove service state (idempotencyStep service state input) := by
  cases input with
  | run caller call =>
      unfold idempotencyStep
      dsimp only
      split
      next idle => exact .goes caller _ (by rw [idle]; rfl) rfl rfl
      next ended => exact .goes caller _ (by rw [ended]; rfl) rfl rfl
      · exact .waits
  | proceed caller now =>
      have once := first caller
      unfold idempotencyStep proceedIdempotent
      dsimp only
      split
      next call at_get =>
        have free : (state.phases caller).held = none := by rw [at_get]; rfl
        split
        · exact .goes caller _ free rfl rfl
        next existing found =>
          obtain ⟨not_expired, not_stale⟩ := fresh existing (recordOf_some found).1
          rw [not_expired, if_neg Bool.false_ne_true]
          split
          next completed => exact resolveCompleted_move free found completed
          · exact findProcessing_move free not_stale
      next call recordId again deleting =>
        rw [deleting] at once
        cases once
      next call again beginning =>
        have free : (state.phases caller).held = none := by rw [beginning]; rfl
        rw [beginning] at once
        split
        · exact .goes caller _ free rfl rfl
        next record created =>
          obtain ⟨slot, hash, status, _⟩ := newRecord_some created
          split
          · exact .goes caller _ free rfl once
          next unique =>
            exact .reserves caller call record free (Bool.eq_false_of_not_eq_true unique) slot hash
              status
      next call rereading =>
        rw [rereading] at once
        cases once
      next call rereading =>
        have free : (state.phases caller).held = none := by rw [rereading]; rfl
        split
        · exact .goes caller _ free rfl rfl
        next existing found =>
          split
          next completed => exact resolveCompleted_move free found completed
          · exact findProcessing_move free (fresh existing (recordOf_some found).1).2
      next call recordId response completing =>
        obtain ⟨record, found⟩ := held caller call recordId (by rw [completing]; rfl)
        rw [found]
        exact .completes caller call recordId response record completing found
      next call recordId exception discarding =>
        exact .discards caller call recordId exception discarding
      all_goals exact .waits
  | answer caller answer =>
      unfold idempotencyStep
      dsimp only
      split
      next call recordId dispatching =>
        cases answer with
        | ok response => exact .dispatches caller call recordId response dispatching
        | error exception => exact .raises caller call recordId exception dispatching
      · exact .waits

end Moves

/-! ## The invariant -/

/-- What holds of the records, the calls and what has been shown. -/
structure IdempotencyFits (service : IdempotencyService) (seen : List IdempotencyEvent)
    (state : IdempotencyState) : Prop where
  slots : ∀ one ∈ state.records, ∀ other ∈ state.records, one.slot = other.slot → one = other
  ids : ∀ one ∈ state.records, ∀ other ∈ state.records, one.id = other.id → one = other
  held : ∀ caller call recordId, (state.phases caller).held = some (call, recordId) →
    ∃ record ∈ state.records, record.id = recordId ∧ record.slot = call.slot service ∧
      record.requestHash = call.requestHash ∧ record.status = .processing
  apart : ∀ one other call another recordId, (state.phases one).held = some (call, recordId) →
    (state.phases other).held = some (another, recordId) → one = other
  first : ∀ caller, (state.phases caller).deletes = false
  shown : ∀ caller call recordId response,
    state.phases caller = .completing call recordId response →
    IdempotencyEvent.dispatched caller call response ∈ seen
  stored : ∀ record ∈ state.records, record.status = .completed →
    ∃ owner first answer, IdempotencyEvent.dispatched owner first answer ∈ seen ∧
      first.slot service = record.slot ∧ first.requestHash = record.requestHash ∧
      record.response = some (responsePayload answer)
  spent : ∀ slot, (∃ event ∈ seen, event.dispatchesFor service slot = true) →
    ∃ record ∈ state.records, record.slot = slot ∧ (record.status = .completed ∨
      ∃ caller call response, state.phases caller = .completing call record.id response)
  replays : Replays service seen

section Invariant

variable {service : IdempotencyService} {state : IdempotencyState} {seen : List IdempotencyEvent}

theorem phases_enter_self (caller : Nat) (phase : IdempotentPhase) :
    (state.enter caller phase).phases caller = phase :=
  Function.update_self _ _ _

theorem phases_enter_ne {caller other : Nat} {phase : IdempotentPhase}
    (different : other ≠ caller) :
    (state.enter caller phase).phases other = state.phases other :=
  Function.update_of_ne different _ _

theorem idempotencyFits_start : IdempotencyFits service [] {} := by
  refine ⟨fun _ member => ?_, fun _ member => ?_, fun _ _ _ holds => ?_,
    fun _ _ _ _ _ holds => ?_, fun _ => rfl, fun _ _ _ _ completing => ?_, fun _ member => ?_,
    fun _ ⟨_, member, _⟩ => ?_, fun _ => Nat.zero_le 1, fun _ _ _ member => ?_⟩
  · cases member
  · cases member
  · cases holds
  · cases holds
  · cases completing
  · cases member
  · cases member
  · cases member

theorem Replays.append_quiet (replays : Replays service seen) {events : List IdempotencyEvent}
    (quiet : ∀ event ∈ events, ∀ slot, event.dispatchesFor service slot = false)
    (recorded : ∀ caller call response, IdempotencyEvent.returned caller call response ∈ events →
      ∃ owner first answer, IdempotencyEvent.dispatched owner first answer ∈ seen ∧
        first.slot service = call.slot service ∧ first.requestHash = call.requestHash ∧
        (response = responsePayload answer ∨
          owner = caller ∧ first = call ∧ response = answer)) :
    Replays service (seen ++ events) := by
  constructor
  · intro slot
    have none_new : events.countP (IdempotencyEvent.dispatchesFor service slot) = 0 := by
      rw [List.countP_eq_zero]
      intro event member
      rw [quiet event member slot]
      exact Bool.false_ne_true
    rw [List.countP_append, none_new, Nat.add_zero]
    exact replays.once slot
  · intro caller call response returned
    obtain earlier | now := List.mem_append.mp returned
    · obtain ⟨owner, first, answer, dispatched, facts⟩ :=
        replays.recorded caller call response earlier
      exact ⟨owner, first, answer, List.mem_append_left _ dispatched, facts⟩
    · obtain ⟨owner, first, answer, dispatched, facts⟩ := recorded caller call response now
      exact ⟨owner, first, answer, List.mem_append_left _ dispatched, facts⟩

/-- The record that a call holds. -/
def HoldsRecord (service : IdempotencyService) (records : List IdempotencyRecord)
    (call : IdempotentCall) (recordId : String) : Prop :=
  ∃ record ∈ records, record.id = recordId ∧ record.slot = call.slot service ∧
    record.requestHash = call.requestHash ∧ record.status = .processing

/-- One call moves to another phase, and the records change. -/
theorem IdempotencyFits.move (fits : IdempotencyFits service seen state) {caller : Nat}
    {phase : IdempotentPhase} {records : List IdempotencyRecord} {events : List IdempotencyEvent}
    (slots : ∀ one ∈ records, ∀ other ∈ records, one.slot = other.slot → one = other)
    (ids : ∀ one ∈ records, ∀ other ∈ records, one.id = other.id → one = other)
    (kept : ∀ other, other ≠ caller → ∀ call recordId,
      (state.phases other).held = some (call, recordId) → HoldsRecord service records call recordId)
    (own : ∀ call recordId, phase.held = some (call, recordId) →
      HoldsRecord service records call recordId ∧
        ∀ other, other ≠ caller → ∀ another, (state.phases other).held ≠ some (another, recordId))
    (once : phase.deletes = false)
    (shown : ∀ call recordId response, phase = .completing call recordId response →
      IdempotencyEvent.dispatched caller call response ∈ seen ++ events)
    (stored : ∀ record ∈ records, record.status = .completed →
      ∃ owner first answer, IdempotencyEvent.dispatched owner first answer ∈ seen ++ events ∧
        first.slot service = record.slot ∧ first.requestHash = record.requestHash ∧
        record.response = some (responsePayload answer))
    (spent : ∀ slot, (∃ event ∈ seen ++ events, event.dispatchesFor service slot = true) →
      ∃ record ∈ records, record.slot = slot ∧ (record.status = .completed ∨
        ∃ other call response, (state.enter caller phase).phases other =
          .completing call record.id response))
    (replays : Replays service (seen ++ events)) :
    IdempotencyFits service (seen ++ events) { state.enter caller phase with records } := by
  refine ⟨slots, ids, fun other call recordId holds => ?_,
    fun one other call another recordId first second => ?_, fun other => ?_,
    fun other call recordId response completing => ?_, stored, spent, replays⟩
  · dsimp only at holds
    by_cases same : other = caller
    · rw [same, phases_enter_self] at holds
      exact (own call recordId holds).1
    · rw [phases_enter_ne same] at holds
      exact kept other same call recordId holds
  · dsimp only at first second
    by_cases one_same : one = caller <;> by_cases other_same : other = caller
    · rw [one_same, other_same]
    · rw [one_same, phases_enter_self] at first
      rw [phases_enter_ne other_same] at second
      exact absurd second ((own call recordId first).2 other other_same another)
    · rw [phases_enter_ne one_same] at first
      rw [other_same, phases_enter_self] at second
      exact absurd first ((own another recordId second).2 one one_same call)
    · rw [phases_enter_ne one_same] at first
      rw [phases_enter_ne other_same] at second
      exact fits.apart one other call another recordId first second
  · dsimp only
    by_cases same : other = caller
    · rw [same, phases_enter_self]
      exact once
    · rw [phases_enter_ne same]
      exact fits.first other
  · dsimp only at completing
    by_cases same : other = caller
    · rw [same, phases_enter_self] at completing
      rw [same]
      exact shown call recordId response completing
    · rw [phases_enter_ne same] at completing
      exact List.mem_append_left _ (fits.shown other call recordId response completing)

theorem IdempotencyFits.stored_append (fits : IdempotencyFits service seen state)
    (events : List IdempotencyEvent) :
    ∀ record ∈ state.records, record.status = .completed →
      ∃ owner first answer, IdempotencyEvent.dispatched owner first answer ∈ seen ++ events ∧
        first.slot service = record.slot ∧ first.requestHash = record.requestHash ∧
        record.response = some (responsePayload answer) := by
  intro record member completed
  obtain ⟨owner, first, answer, dispatched, facts⟩ := fits.stored record member completed
  exact ⟨owner, first, answer, List.mem_append_left _ dispatched, facts⟩

/-- Which dispatches are spent does not change while nothing new is shown as dispatched and no
call stops completing. -/
theorem IdempotencyFits.spent_append (fits : IdempotencyFits service seen state) {caller : Nat}
    {phase : IdempotentPhase} {events : List IdempotencyEvent}
    (quiet : ∀ event ∈ events, ∀ slot, event.dispatchesFor service slot = false)
    (before : ∀ call recordId response, state.phases caller ≠ .completing call recordId response)
    (slot : String × String)
    (shown : ∃ event ∈ seen ++ events, event.dispatchesFor service slot = true) :
    ∃ record ∈ state.records, record.slot = slot ∧ (record.status = .completed ∨
      ∃ other call response, (state.enter caller phase).phases other =
        .completing call record.id response) := by
  obtain ⟨event, member, dispatches⟩ := shown
  obtain earlier | now := List.mem_append.mp member
  · obtain ⟨record, stored, slot_eq, completed | ⟨other, call, response, completing⟩⟩ :=
      fits.spent slot ⟨event, earlier, dispatches⟩
    · exact ⟨record, stored, slot_eq, .inl completed⟩
    · have different : other ≠ caller := by
        rintro rfl
        exact before _ _ _ completing
      exact ⟨record, stored, slot_eq, .inr ⟨other, call, response,
        (phases_enter_ne different).trans completing⟩⟩
  · rw [quiet event now slot] at dispatches
    cases dispatches

theorem not_completing_of_free {phase : IdempotentPhase} (free : phase.held = none)
    (call : IdempotentCall) (recordId : String) (response : ExecutionResponse) :
    phase ≠ .completing call recordId response := by
  rintro rfl
  cases free

/-- A call goes on that holds no record. -/
theorem IdempotencyFits.goes (fits : IdempotencyFits service seen state) {caller : Nat}
    {phase : IdempotentPhase} {events : List IdempotencyEvent}
    (free : (state.phases caller).held = none) (still_free : phase.held = none)
    (once : phase.deletes = false)
    (quiet : ∀ event ∈ events, ∀ slot, event.dispatchesFor service slot = false)
    (replays : Replays service (seen ++ events)) :
    IdempotencyFits service (seen ++ events) (state.enter caller phase) := by
  refine fits.move fits.slots fits.ids (fun other _ => fits.held other)
    (fun call recordId holds => ?_)
    once (fun call recordId response completing => ?_) (fits.stored_append events)
    (fits.spent_append quiet (not_completing_of_free free)) replays
  · rw [still_free] at holds
    cases holds
  · exact absurd completing (not_completing_of_free still_free call recordId response)

theorem not_violates {record : IdempotencyRecord} {records : List IdempotencyRecord}
    (fresh : record.violates records = false) {stored : IdempotencyRecord}
    (member : stored ∈ records) : stored.id ≠ record.id ∧ stored.slot ≠ record.slot := by
  have apart := List.any_eq_false.mp fresh stored member
  rw [Bool.or_eq_true, not_or, beq_iff_eq, beq_iff_eq] at apart
  exact apart

/-- A call reserves the record of its key. -/
theorem IdempotencyFits.reserves (fits : IdempotencyFits service seen state) {caller : Nat}
    {call : IdempotentCall} {record : IdempotencyRecord}
    (free : (state.phases caller).held = none) (fresh : record.violates state.records = false)
    (slot : record.slot = call.slot service) (hash : record.requestHash = call.requestHash)
    (processing : record.status = .processing) :
    IdempotencyFits service (seen ++ [])
      { state.enter caller (.dispatching call record.id) with
        records := state.records ++ [record] } := by
  have extends_unique {Key : Type} {key : IdempotencyRecord → Key}
      (unique : ∀ one ∈ state.records, ∀ other ∈ state.records, key one = key other → one = other)
      (new : ∀ stored ∈ state.records, key stored ≠ key record) :
      ∀ one ∈ state.records ++ [record], ∀ other ∈ state.records ++ [record],
        key one = key other → one = other := by
    intro one one_member other other_member same
    obtain one_old | one_new := List.mem_append.mp one_member <;>
      obtain other_old | other_new := List.mem_append.mp other_member
    · exact unique one one_old other other_old same
    · rw [List.mem_singleton.mp other_new] at same
      exact absurd same (new one one_old)
    · rw [List.mem_singleton.mp one_new] at same
      exact absurd same.symm (new other other_old)
    · rw [List.mem_singleton.mp one_new, List.mem_singleton.mp other_new]
  refine fits.move
    (extends_unique fits.slots fun stored member => (not_violates fresh member).2)
    (extends_unique fits.ids fun stored member => (not_violates fresh member).1)
    (fun other _ another recordId holds => ?_) (fun another recordId holds => ?_) rfl
    (fun _ _ _ completing => by cases completing) (fun stored member completed => ?_)
    (fun wanted shown => ?_) (by rw [List.append_nil]; exact fits.replays)
  · obtain ⟨stored, member, facts⟩ := fits.held other another recordId holds
    exact ⟨stored, List.mem_append_left _ member, facts⟩
  · obtain ⟨rfl, rfl⟩ := Prod.mk.inj (Option.some.inj holds)
    refine ⟨⟨record, List.mem_append_right _ (List.mem_singleton.mpr rfl), rfl, slot, hash,
      processing⟩, fun other _ another holds_other => ?_⟩
    obtain ⟨stored, member, same, _⟩ := fits.held other another _ holds_other
    exact (not_violates fresh member).1 same
  · obtain old | new := List.mem_append.mp member
    · exact fits.stored_append [] stored old completed
    · rw [List.mem_singleton.mp new, processing] at completed
      cases completed
  · obtain ⟨stored, member, facts⟩ := fits.spent_append (fun _ member => by cases member)
      (not_completing_of_free free) wanted shown
    exact ⟨stored, List.mem_append_left _ member, facts⟩

/-- A call that holds a record goes on holding it. -/
theorem IdempotencyFits.held_still (fits : IdempotencyFits service seen state) {caller : Nat}
    {call : IdempotentCall} {recordId : String} {phase : IdempotentPhase}
    (holds : (state.phases caller).held = some (call, recordId))
    (same : phase.held = some (call, recordId)) (another : IdempotentCall) (otherId : String)
    (holds_after : phase.held = some (another, otherId)) :
    HoldsRecord service state.records another otherId ∧
      ∀ other, other ≠ caller → ∀ third, (state.phases other).held ≠ some (third, otherId) := by
  obtain ⟨rfl, rfl⟩ := Prod.mk.inj (Option.some.inj (same.symm.trans holds_after))
  exact ⟨fits.held caller call recordId holds, fun other different third holds_other =>
    different (fits.apart other caller third call recordId holds_other holds)⟩

/-- Nothing has been dispatched for a record that a call is about to complete for the first
time. -/
theorem IdempotencyFits.not_spent (fits : IdempotencyFits service seen state) {caller : Nat}
    {call : IdempotentCall} {recordId : String}
    (holds : (state.phases caller).held = some (call, recordId))
    (before : ∀ call recordId response, state.phases caller ≠ .completing call recordId response) :
    ¬∃ event ∈ seen, event.dispatchesFor service (call.slot service) = true := by
  intro shown
  obtain ⟨own, own_member, own_id, own_slot, _, processing⟩ := fits.held caller call recordId holds
  obtain ⟨record, member, slot, completed | ⟨other, another, response, completing⟩⟩ :=
    fits.spent _ shown
  · obtain rfl := fits.slots own own_member record member (own_slot.trans slot.symm)
    rw [processing] at completed
    cases completed
  · obtain rfl := fits.slots own own_member record member (own_slot.trans slot.symm)
    obtain rfl := fits.apart other caller another call recordId
      (by rw [completing, ← own_id]; rfl) holds
    exact before _ _ _ completing

theorem IdempotencyFits.dispatches (fits : IdempotencyFits service seen state) {caller : Nat}
    {call : IdempotentCall} {recordId : String} {response : ExecutionResponse}
    (dispatching : state.phases caller = .dispatching call recordId) :
    IdempotencyFits service (seen ++ [.dispatched caller call response])
      (state.enter caller (.completing call recordId response)) := by
  have holds : (state.phases caller).held = some (call, recordId) := by rw [dispatching]; rfl
  have before (another : IdempotentCall) (otherId : String) (other : ExecutionResponse) :
      state.phases caller ≠ .completing another otherId other := by
    rw [dispatching]
    intro completing
    cases completing
  have new := fits.not_spent holds before
  refine fits.move fits.slots fits.ids (fun other _ => fits.held other)
    (fits.held_still holds rfl) rfl (fun another otherId other completing => ?_)
    (fits.stored_append _) (fun slot shown => ?_) ⟨fun slot => ?_, fun _ _ _ returned => ?_⟩
  · cases completing
    exact List.mem_append_right _ (List.mem_singleton.mpr rfl)
  · obtain ⟨event, member, dispatches⟩ := shown
    obtain earlier | now := List.mem_append.mp member
    · obtain ⟨record, stored, slot_eq, completed | ⟨other, another, answer, completing⟩⟩ :=
        fits.spent slot ⟨event, earlier, dispatches⟩
      · exact ⟨record, stored, slot_eq, .inl completed⟩
      · have different : other ≠ caller := by
          rintro rfl
          exact before _ _ _ completing
        exact ⟨record, stored, slot_eq, .inr ⟨other, another, answer,
          (phases_enter_ne different).trans completing⟩⟩
    · rw [List.mem_singleton.mp now] at dispatches
      obtain ⟨own, own_member, own_id, own_slot, _⟩ := fits.held caller call recordId holds
      refine ⟨own, own_member, own_slot.trans (beq_iff_eq.mp dispatches), .inr ⟨caller, call,
        response, ?_⟩⟩
      rw [phases_enter_self, own_id]
  · rw [List.countP_append, List.countP_singleton]
    split
    next dispatches =>
      have none_before : seen.countP (IdempotencyEvent.dispatchesFor service slot) = 0 := by
        rw [List.countP_eq_zero]
        intro event member shown
        exact new ⟨event, member, by rw [beq_iff_eq.mp dispatches]; exact shown⟩
      rw [none_before]
    · exact fits.replays.once slot
  · obtain earlier | now := List.mem_append.mp returned
    · obtain ⟨owner, first, answer, dispatched, facts⟩ := fits.replays.recorded _ _ _ earlier
      exact ⟨owner, first, answer, List.mem_append_left _ dispatched, facts⟩
    · cases List.mem_singleton.mp now

theorem IdempotencyFits.raises (fits : IdempotencyFits service seen state) {caller : Nat}
    {call : IdempotentCall} {recordId exception : String}
    (dispatching : state.phases caller = .dispatching call recordId) :
    IdempotencyFits service (seen ++ [])
      (state.enter caller (.discarding call recordId exception)) := by
  have holds : (state.phases caller).held = some (call, recordId) := by rw [dispatching]; rfl
  refine fits.move fits.slots fits.ids (fun other _ => fits.held other)
    (fits.held_still holds rfl) rfl (fun _ _ _ completing => by cases completing)
    (fits.stored_append _) (fits.spent_append (fun _ member => by cases member) ?_)
    (by rw [List.append_nil]; exact fits.replays)
  rw [dispatching]
  intro _ _ _ completing
  cases completing

/-- The record that a call holds is the one with its identifier. -/
theorem IdempotencyFits.held_record (fits : IdempotencyFits service seen state) {caller : Nat}
    {call : IdempotentCall} {recordId : String} {record : IdempotencyRecord}
    (holds : (state.phases caller).held = some (call, recordId)) (member : record ∈ state.records)
    (named : record.id = recordId) :
    record.slot = call.slot service ∧ record.requestHash = call.requestHash ∧
      record.status = .processing := by
  obtain ⟨own, own_member, own_id, facts⟩ := fits.held caller call recordId holds
  obtain rfl := fits.ids own own_member record member (own_id.trans named.symm)
  exact facts

theorem IdempotencyFits.completes (fits : IdempotencyFits service seen state) {caller : Nat}
    {call : IdempotentCall} {recordId : String} {response : ExecutionResponse}
    {record : IdempotencyRecord}
    (completing : state.phases caller = .completing call recordId response)
    (found : Table.find IdempotencyRecord.id state.records recordId = some record) :
    IdempotencyFits service (seen ++ [.returned caller call response])
      { state.enter caller (.ended (.ok response)) with
        records := Table.store IdempotencyRecord.id state.records
          { record with status := .completed, response := some (responsePayload response) } } := by
  have holds : (state.phases caller).held = some (call, recordId) := by rw [completing]; rfl
  obtain ⟨member, named⟩ := Table.find_eq_some found
  obtain ⟨slot, hash, _⟩ := fits.held_record holds member named
  have shown := fits.shown caller call recordId response completing
  -- A stored record is the completed one, or another of the old ones.
  have stored_unique {Key : Type} {key : IdempotencyRecord → Key}
      (unique : ∀ one ∈ state.records, ∀ other ∈ state.records, key one = key other → one = other)
      (keeps : key { record with
        status := .completed, response := some (responsePayload response) } = key record) :
      ∀ one ∈ Table.store IdempotencyRecord.id state.records { record with
          status := .completed, response := some (responsePayload response) },
        ∀ other ∈ Table.store IdempotencyRecord.id state.records { record with
          status := .completed, response := some (responsePayload response) },
        key one = key other → one = other := by
    intro one one_member other other_member same
    obtain rfl | ⟨one_old, one_apart⟩ := Table.mem_store one_member <;>
      obtain rfl | ⟨other_old, other_apart⟩ := Table.mem_store other_member
    · rfl
    · rw [keeps] at same
      rw [← unique record member other other_old same] at other_apart
      exact absurd rfl other_apart
    · rw [keeps] at same
      rw [unique one one_old record member same] at one_apart
      exact absurd rfl one_apart
    · exact unique one one_old other other_old same
  have kept_member {stored : IdempotencyRecord} (old : stored ∈ state.records)
      (apart : stored.id ≠ record.id) :
      stored ∈ Table.store IdempotencyRecord.id state.records { record with
        status := .completed, response := some (responsePayload response) } :=
    List.mem_map.mpr ⟨stored, old, if_neg apart⟩
  have new_member : { record with
      status := .completed, response := some (responsePayload response) } ∈
      Table.store IdempotencyRecord.id state.records { record with
        status := .completed, response := some (responsePayload response) } :=
    List.mem_map.mpr ⟨record, member, if_pos rfl⟩
  refine fits.move (stored_unique fits.slots rfl) (stored_unique fits.ids rfl)
    (fun other different another otherId holds_other => ?_) (fun _ _ ended => by cases ended) rfl
    (fun _ _ _ ended => by cases ended) (fun stored stored_member completed => ?_)
    (fun wanted dispatched => ?_)
    (fits.replays.append_quiet (fun event event_member _ => ?_)
      fun other another answer returned => ?_)
  · obtain ⟨stored, old, stored_id, facts⟩ := fits.held other another otherId holds_other
    refine ⟨stored, kept_member old fun same => ?_, stored_id, facts⟩
    have clash : otherId = recordId := stored_id.symm.trans (same.trans named)
    subst clash
    exact different (fits.apart other caller another call otherId holds_other holds)
  · obtain rfl | ⟨old, _⟩ := Table.mem_store stored_member
    · exact ⟨caller, call, response, List.mem_append_left _ shown, slot.symm, hash.symm, rfl⟩
    · exact fits.stored_append _ stored old completed
  · obtain ⟨event, event_member, dispatches⟩ := dispatched
    have earlier : event ∈ seen := by
      obtain earlier | now := List.mem_append.mp event_member
      · exact earlier
      · rw [List.mem_singleton.mp now] at dispatches
        cases dispatches
    obtain ⟨old, old_member, old_slot, facts⟩ := fits.spent wanted ⟨event, earlier, dispatches⟩
    by_cases same : old.id = record.id
    · obtain rfl := fits.ids old old_member record member same
      exact ⟨_, new_member, old_slot, .inl rfl⟩
    · refine ⟨old, kept_member old_member same, old_slot, facts.imp id ?_⟩
      rintro ⟨other, another, answer, other_completing⟩
      have different : other ≠ caller := by
        rintro rfl
        rw [completing] at other_completing
        cases other_completing
        exact same named.symm
      exact ⟨other, another, answer, (phases_enter_ne different).trans other_completing⟩
  · rw [List.mem_singleton.mp event_member]
    rfl
  · cases List.mem_singleton.mp returned
    exact ⟨caller, call, response, shown, rfl, rfl, .inr ⟨rfl, rfl, rfl⟩⟩

theorem IdempotencyFits.discards (fits : IdempotencyFits service seen state) {caller : Nat}
    {call : IdempotentCall} {recordId exception : String}
    (discarding : state.phases caller = .discarding call recordId exception) :
    IdempotencyFits service (seen ++ [])
      { state.enter caller (.ended (.error (.dispatch exception))) with
        records := Table.delete IdempotencyRecord.id state.records recordId } := by
  have holds : (state.phases caller).held = some (call, recordId) := by rw [discarding]; rfl
  have before (another : IdempotentCall) (otherId : String) (response : ExecutionResponse) :
      state.phases caller ≠ .completing another otherId response := by
    rw [discarding]
    intro completing
    cases completing
  have old {record : IdempotencyRecord}
      (member : record ∈ Table.delete IdempotencyRecord.id state.records recordId) :
      record ∈ state.records := (List.mem_filter.mp member).1
  have kept_member {record : IdempotencyRecord} (member : record ∈ state.records)
      (apart : record.id ≠ recordId) :
      record ∈ Table.delete IdempotencyRecord.id state.records recordId :=
    List.mem_filter.mpr ⟨member, bne_iff_ne.mpr apart⟩
  refine fits.move
    (fun one one_member other other_member =>
      fits.slots one (old one_member) other (old other_member))
    (fun one one_member other other_member =>
      fits.ids one (old one_member) other (old other_member))
    (fun other different another otherId holds_other => ?_) (fun _ _ ended => by cases ended) rfl
    (fun _ _ _ ended => by cases ended)
    (fun record member => fits.stored_append [] record (old member)) (fun slot shown => ?_)
    (by rw [List.append_nil]; exact fits.replays)
  · obtain ⟨record, member, named, facts⟩ := fits.held other another otherId holds_other
    refine ⟨record, kept_member member fun same => ?_, named, facts⟩
    have clash : otherId = recordId := named.symm.trans same
    subst clash
    exact different (fits.apart other caller another call otherId holds_other holds)
  · obtain ⟨record, member, slot_eq, facts⟩ :=
      fits.spent_append (fun _ member => by cases member) before slot shown
    refine ⟨record, kept_member member fun named => ?_, slot_eq, facts⟩
    rw [List.append_nil] at shown
    obtain ⟨own_slot, _, _⟩ := fits.held_record holds member named
    rw [← slot_eq, own_slot] at shown
    exact fits.not_spent holds before shown

/-- Every step keeps the invariant as long as no record is abandoned. -/
theorem idempotencyStep_fits (fits : IdempotencyFits service seen state) {input : IdempotencyInput}
    (fresh : StaysFresh service state input) :
    IdempotencyFits service (seen ++ (idempotencyStep service state input).2)
      (idempotencyStep service state input).1 := by
  have found (caller : Nat) (call : IdempotentCall) (recordId : String)
      (holds : (state.phases caller).held = some (call, recordId)) :
      ∃ record, Table.find IdempotencyRecord.id state.records recordId = some record := by
    obtain ⟨record, member, named, _⟩ := fits.held caller call recordId holds
    exact Option.isSome_iff_exists.mp
      (List.find?_isSome.mpr ⟨record, member, beq_iff_eq.mpr named⟩)
  have move := idempotencyStep_move fits.first found fresh
  revert move
  generalize idempotencyStep service state input = after
  intro move
  cases move with
  | waits => rwa [List.append_nil]
  | goes caller phase free still_free once =>
      exact fits.goes free still_free once (fun _ member => by cases member)
        (by rw [List.append_nil]; exact fits.replays)
  | replays caller call record response free member slot hash completed stored =>
      refine fits.goes free rfl rfl (fun event shown _ => ?_)
        (fits.replays.append_quiet (fun event shown _ => ?_)
          fun other another answer returned => ?_)
      · rw [List.mem_singleton.mp shown]
        rfl
      · rw [List.mem_singleton.mp shown]
        rfl
      · cases List.mem_singleton.mp returned
        obtain ⟨owner, first, answer, dispatched, first_slot, first_hash, payload⟩ :=
          fits.stored record member completed
        refine ⟨owner, first, answer, dispatched, first_slot.trans slot, first_hash.trans hash,
          .inl ?_⟩
        rw [stored] at payload
        exact Option.some.inj payload
  | reserves caller call record free fresh slot hash processing =>
      exact fits.reserves free fresh slot hash processing
  | dispatches caller call recordId response dispatching => exact fits.dispatches dispatching
  | raises caller call recordId exception dispatching => exact fits.raises dispatching
  | completes caller call recordId response record completing found =>
      exact fits.completes completing found
  | discards caller call recordId exception discarding => exact fits.discards discarding

theorem proceed_gets {caller : Nat} {call : IdempotentCall} {now : Instant}
    (getting : state.phases caller = .getting call)
    (free : recordOf state.records (call.slot service) = none) :
    proceedIdempotent service state caller now =
      (state.enter caller (.beginning call false), []) := by
  unfold proceedIdempotent
  rw [getting]
  dsimp only
  rw [free]

theorem proceed_begins {caller : Nat} {call : IdempotentCall} {now : Instant}
    {record : IdempotencyRecord} (beginning : state.phases caller = .beginning call false)
    (created : service.newRecord call false now = some record)
    (unique : record.violates state.records = false) :
    (proceedIdempotent service state caller now).1.phases caller =
      .dispatching call record.id := by
  unfold proceedIdempotent
  rw [beginning]
  dsimp only
  rw [created]
  dsimp only
  rw [unique, if_neg Bool.false_ne_true]
  exact phases_enter_self _ _

/-- A key is free, and a new call with it gets to its dispatch. -/
theorem dispatches_when_free {caller : Nat} {call : IdempotentCall} {now : Instant}
    {record : IdempotencyRecord} (idle : (state.phases caller).isFree = true)
    (free : ∀ stored ∈ state.records, stored.slot ≠ call.slot service)
    (created : service.newRecord call false now = some record)
    (fresh : ∀ stored ∈ state.records, stored.id ≠ call.recordId) :
    ((idempotencyMachine service).stateAfter state
      [.run caller call, .proceed caller now, .proceed caller now]).phases caller =
        .dispatching call call.recordId := by
  obtain ⟨slot, _, _, named⟩ := newRecord_some created
  have none_found : recordOf state.records (call.slot service) = none := by
    unfold recordOf Table.find
    rw [List.find?_eq_none]
    intro stored member same
    exact free stored member (by simpa using same)
  have no_clash : record.violates state.records = false := by
    unfold IdempotencyRecord.violates
    rw [List.any_eq_false]
    intro stored member
    rw [Bool.or_eq_true, not_or, beq_iff_eq, beq_iff_eq, named, slot]
    exact ⟨fresh stored member, free stored member⟩
  have runs : idempotencyStep service state (.run caller call) =
      (state.enter caller (.getting call), []) := by
    unfold idempotencyStep
    dsimp only
    cases at_phase : state.phases caller with
    | idle | ended => rfl
    | _ =>
        rw [at_phase] at idle
        cases idle
  have gets : idempotencyStep service (state.enter caller (.getting call)) (.proceed caller now) =
      ((state.enter caller (.getting call)).enter caller (.beginning call false), []) :=
    proceed_gets (phases_enter_self _ _) none_found
  have begins : (idempotencyStep service
      ((state.enter caller (.getting call)).enter caller (.beginning call false))
        (.proceed caller now)).1.phases caller = .dispatching call record.id :=
    proceed_begins (phases_enter_self _ _) created no_clash
  unfold idempotencyMachine
  simp only [Machine.stateAfter_cons, Machine.stateAfter_nil]
  rw [runs, gets, begins, named, if_neg Bool.false_ne_true]

theorem reserves_of_fits (fits : IdempotencyFits service seen state) : Reserves service state := by
  constructor
  · intro caller call recordId dispatching record member slot
    obtain ⟨own, own_member, _, own_slot, hash, _⟩ :=
      fits.held caller call recordId (by rw [dispatching]; rfl)
    rw [fits.slots record member own own_member (slot.trans own_slot.symm)]
    exact hash
  · intro caller call recordId exception next other now record discarding same created fresh free
    have holds : (state.phases caller).held = some (call, recordId) := by rw [discarding]; rfl
    have discards : idempotencyStep service state (.proceed caller now) =
        ({ state.enter caller (.ended (.error (.dispatch exception))) with
          records := Table.delete IdempotencyRecord.id state.records recordId }, []) := by
      unfold idempotencyStep proceedIdempotent
      dsimp only
      rw [discarding]
      rfl
    unfold idempotencyMachine
    rw [Machine.stateAfter_cons]
    dsimp only
    rw [discards]
    apply dispatches_when_free
    · by_cases own : other = caller
      · rw [own]
        dsimp only
        rw [phases_enter_self]
        rfl
      · dsimp only
        rw [phases_enter_ne own]
        exact free.resolve_left own
    · intro stored member slot
      obtain ⟨old, apart⟩ := List.mem_filter.mp member
      obtain ⟨own, own_member, own_id, own_slot, _⟩ := fits.held caller call recordId holds
      obtain rfl := fits.slots stored old own own_member
        (slot.trans (same.trans own_slot.symm))
      exact (bne_iff_ne.mp apart) own_id
    · exact created
    · exact fun stored member => fresh stored (List.mem_filter.mp member).1

end Invariant

/-- Requests are replayed, and dispatched once, as long as no record expires or is abandoned. -/
theorem idempotent_dispatch (service : IdempotencyService) {inputs : List IdempotencyInput}
    (fresh : (idempotencyMachine service).Admits (StaysFresh service) {} inputs) :
    Replays service ((idempotencyMachine service).trace id {} inputs) ∧
      Reserves service ((idempotencyMachine service).stateAfter {} inputs) := by
  have fits := @Machine.trace_invariant_of_admits _ _ _ (idempotencyMachine service) _ id
    (IdempotencyFits service) (StaysFresh service) _ _ idempotencyFits_start
    (fun _ _ _ fits fresh => idempotencyStep_fits fits fresh) fresh
  exact ⟨fits.replays, reserves_of_fits fits⟩

namespace Demo

def idempotency : IdempotencyService :=
  { platform := Demo.platform, ttlSeconds := 86400, processingTtlSeconds := 300 }

def keyed (recordId : String) : IdempotentCall :=
  { actorId := "alice", idempotencyKey := "key", requestHash := "hash", recordId
    secondId := recordId ++ "'" }

/-- Two calls race for a key; the loser calls again when the winner is done. -/
def raced (now : Instant) (response : ExecutionResponse) : List IdempotencyInput :=
  [.run 0 (keyed "a"), .run 1 (keyed "b"), .proceed 0 now, .proceed 1 now, .proceed 0 now,
    .proceed 1 now, .proceed 1 now, .answer 0 (.ok response), .proceed 0 now, .run 1 (keyed "c"),
    .proceed 1 now]

end Demo

theorem idempotent_dispatch_demo :
    Replays Demo.idempotency ((idempotencyMachine Demo.idempotency).trace id {}
      (Demo.raced ⟨0, by decide⟩ { status := .executed, decision := .allow })) :=
  (idempotent_dispatch Demo.idempotency (by decide +kernel)).1

end Era.Services
