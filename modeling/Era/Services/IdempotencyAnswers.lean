import Era.Services.Idempotency

/-!
# How idempotent calls end

A call that loses the race for a key reads the record of the winner again.  The winner may have
discarded it by then, and a call that finds nothing there ends in an exception of its own.
-/

namespace Era.Services

open Era.Core Era.Lib

/-- The transactions and the answer that a call still has before it at most. -/
def IdempotentPhase.rank : IdempotentPhase → Nat
  | .getting _ => 8
  | .deleting _ _ again => if again then 4 else 7
  | .beginning _ again => if again then 3 else 6
  | .rereading _ again => if again then 1 else 5
  | .dispatching _ _ => 2
  | .completing _ _ _ | .discarding _ _ _ => 1
  | .idle | .ended _ => 0

/-- The dispatch of a call has raised, and the call ends with that. -/
def IdempotentPhase.Leaves (exception : String) : IdempotentPhase → Prop
  | .discarding _ _ raised | .ended (.error (.dispatch raised)) => raised = exception
  | _ => False

/-- The type of the exception of its own that a call has ended in. -/
def IdempotentPhase.escapes : IdempotentPhase → Option String
  | .ended (.error (.exception typeName)) => some typeName
  | _ => none

section Definitions

variable (service : IdempotencyService)

/-- An input lets a call go on. -/
def movesCall (caller : Nat) (state : IdempotencyState) : IdempotencyInput → Bool
  | .run _ _ => false
  | .proceed other _ =>
      other == caller && match state.phases caller with
        | .idle | .ended _ | .dispatching _ _ => false
        | _ => true
  | .answer other _ =>
      other == caller && match state.phases caller with
        | .dispatching _ _ => true
        | _ => false

/-- The dispatch of the call that a caller makes has raised an exception, and the call has been
about to end with it since. -/
def DispatchRaised (inputs : List IdempotencyInput) (caller : Nat) (exception : String) : Prop :=
  ∃ before after call recordId,
    inputs = before ++ .answer caller (.error exception) :: after ∧
    ((idempotencyMachine service).stateAfter {} before).phases caller =
      .dispatching call recordId ∧
    ∀ middle, middle <+: after →
      (((idempotencyMachine service).stateAfter {}
        (before ++ .answer caller (.error exception) :: middle)).phases caller).Leaves exception

/-- The ways in which a call is meant to end. -/
def Permitted (inputs : List IdempotencyInput) (caller : Nat) :
    Except IdempotencyError ExecutionResponse → Prop
  | .ok _ | .error (.conflict _) | .error (.inProgress _) => True
  | .error (.dispatch exception) => DispatchRaised service inputs caller exception
  | .error (.exception _) => False

/-- Every call ends as it is meant to, and a record that is being processed belongs to a call that
is on its way. -/
structure AlwaysAnswers (inputs : List IdempotencyInput) : Prop where
  answers : ∀ caller answer,
    ((idempotencyMachine service).stateAfter {} inputs).phases caller = .ended answer →
      Permitted service inputs caller answer
  passable : ∀ record ∈ ((idempotencyMachine service).stateAfter {} inputs).records,
    record.status = .processing → ∃ caller call,
      (((idempotencyMachine service).stateAfter {} inputs).phases caller).held =
        some (call, record.id)
  ends : ∀ caller later, (∀ call, .run caller call ∉ later) →
    8 ≤ (idempotencyMachine service).countSteps (movesCall caller)
      ((idempotencyMachine service).stateAfter {} inputs) later →
    (((idempotencyMachine service).stateAfter {} (inputs ++ later)).phases caller).isFree = true

/-- A call that reads a record again finds one. -/
def findsAgain (state : IdempotencyState) (caller : Nat) : Bool :=
  match state.phases caller with
  | .rereading call false => (recordOf state.records (call.slot service)).isSome
  | _ => true

/-- The times to come are in range, and whoever has lost a race for a key still finds the record
that it lost to. -/
def Answerable (state : IdempotencyState) : IdempotencyInput → Prop
  | .proceed caller now =>
      (addSeconds (utcnowIso now) service.ttlSeconds).isSome = true ∧
      (addSeconds (utcnowIso now) service.processingTtlSeconds).isSome = true ∧
      findsAgain service state caller = true
  | .run _ _ | .answer _ _ => True

instance (state : IdempotencyState) :
    (input : IdempotencyInput) → Decidable (Answerable service state input)
  | .proceed caller now => inferInstanceAs (Decidable (
      (addSeconds (utcnowIso now) service.ttlSeconds).isSome = true ∧
      (addSeconds (utcnowIso now) service.processingTtlSeconds).isSome = true ∧
      findsAgain service state caller = true))
  | .run _ _ | .answer _ _ => isTrue True.intro

end Definitions

/-! ## The invariant -/

/-- No call has ended in an exception of its own, and the records are such that none does. -/
structure Answering (service : IdempotencyService) (state : IdempotencyState) : Prop where
  quiet : ∀ caller typeName, state.phases caller ≠ .ended (.error (.exception typeName))
  owned : ∀ record ∈ state.records, record.status = .processing →
    ∃ caller call, (state.phases caller).held = some (call, record.id)
  stored : ∀ record ∈ state.records, record.status = .completed → record.response.isSome = true
  dated : ∀ record ∈ state.records,
    (addSeconds record.createdAt service.processingTtlSeconds).isSome = true

section Invariant

variable {service : IdempotencyService} {state : IdempotencyState} {caller : Nat}
variable {call : IdempotentCall} {phase : IdempotentPhase}

/-- One call moves to another phase, and the records change. -/
theorem Answering.move (answering : Answering service state) {records : List IdempotencyRecord}
    (quiet : ∀ typeName, phase ≠ .ended (.error (.exception typeName)))
    (owned : ∀ record ∈ records, record.status = .processing →
      (∃ call, phase.held = some (call, record.id)) ∨
        ∃ other, other ≠ caller ∧ ∃ call, (state.phases other).held = some (call, record.id))
    (stored : ∀ record ∈ records, record.status = .completed → record.response.isSome = true)
    (dated : ∀ record ∈ records,
      (addSeconds record.createdAt service.processingTtlSeconds).isSome = true) :
    Answering service { state.enter caller phase with records } := by
  refine ⟨fun other typeName => ?_, fun record member processing => ?_, stored, dated⟩
  · dsimp only
    by_cases same : other = caller
    · rw [same, phases_enter_self]
      exact quiet typeName
    · rw [phases_enter_ne same]
      exact answering.quiet other typeName
  · dsimp only
    obtain ⟨another, own⟩ | ⟨other, different, another, holds⟩ := owned record member processing
    · exact ⟨caller, another, by rw [phases_enter_self]; exact own⟩
    · exact ⟨other, another, by rw [phases_enter_ne different]; exact holds⟩

/-- The records that a call does not hold belong to others. -/
theorem Answering.owned_by_others (answering : Answering service state)
    {record : IdempotencyRecord} (member : record ∈ state.records)
    (processing : record.status = .processing)
    (not_own : ∀ call, (state.phases caller).held ≠ some (call, record.id)) :
    ∃ other, other ≠ caller ∧ ∃ call, (state.phases other).held = some (call, record.id) := by
  obtain ⟨other, another, holds⟩ := answering.owned record member processing
  refine ⟨other, ?_, another, holds⟩
  rintro rfl
  exact not_own another holds

/-- A call that holds no record goes on. -/
theorem Answering.goes (answering : Answering service state)
    (free : (state.phases caller).held = none)
    (quiet : ∀ typeName, phase ≠ .ended (.error (.exception typeName))) :
    Answering service (state.enter caller phase) := by
  refine answering.move quiet (fun record member processing => .inr ?_) answering.stored
    answering.dated
  refine answering.owned_by_others member processing fun another holds => ?_
  rw [free] at holds
  cases holds

/-- A completed record is replayed, or refused. -/
theorem Answering.resolves (answering : Answering service state)
    (free : (state.phases caller).held = none) {record : IdempotencyRecord}
    (member : record ∈ state.records) (completed : record.status = .completed) :
    Answering service
      (state.finish caller call (resolveCompleted record call.requestHash)).1 := by
  refine answering.goes free fun typeName ended => ?_
  have responds := answering.stored record member completed
  unfold resolveCompleted at ended
  split at ended
  · cases ended
  · cases response : record.response with
    | none =>
        rw [response] at responds
        cases responds
    | some response' =>
        rw [response] at ended
        cases ended

/-- A record that is being processed ends a call, or is deleted. -/
theorem Answering.finds (answering : Answering service state)
    (free : (state.phases caller).held = none) {record : IdempotencyRecord}
    (member : record ∈ state.records) (again : Bool) (now : Instant) :
    Answering service (findProcessing service state caller call record again now).1 := by
  have in_range := answering.dated record member
  unfold findProcessing
  split
  next out_of_range =>
    unfold IdempotencyService.isStaleProcessing at out_of_range
    split at out_of_range
    · cases out_of_range
    · rw [Option.map_eq_none_iff] at out_of_range
      rw [out_of_range] at in_range
      cases in_range
  · exact answering.goes free nofun
  · exact answering.goes free nofun

theorem answering_proceed (answering : Answering service state) {now : Instant}
    (answerable : Answerable service state (.proceed caller now)) :
    Answering service (proceedIdempotent service state caller now).1 := by
  obtain ⟨expires, goes_stale, rereads⟩ := answerable
  unfold proceedIdempotent
  cases at_phase : state.phases caller with
  | idle => exact answering
  | dispatching call recordId => exact answering
  | ended answer => exact answering
  | getting call =>
      have free : (state.phases caller).held = none := by rw [at_phase]; rfl
      dsimp only
      split
      · exact answering.goes free nofun
      next existing found =>
        have member := (recordOf_some found).1
        split
        · exact answering.goes free nofun
        · split
          next completed => exact answering.resolves free member completed
          · exact answering.finds free member false now
  | deleting call recordId again =>
      have free : (state.phases caller).held = none := by rw [at_phase]; rfl
      have kept : ∀ record ∈ Table.delete IdempotencyRecord.id state.records recordId,
          record ∈ state.records := fun record member => (List.mem_filter.mp member).1
      refine answering.move nofun (fun record member processing => .inr ?_)
        (fun record member => answering.stored record (kept record member))
        fun record member => answering.dated record (kept record member)
      refine answering.owned_by_others (kept record member) processing fun another holds => ?_
      rw [free] at holds
      cases holds
  | beginning call again =>
      have free : (state.phases caller).held = none := by rw [at_phase]; rfl
      dsimp only
      cases created : service.newRecord call again now with
      | none =>
          rw [IdempotencyService.newRecord, Option.map_eq_none_iff] at created
          rw [created] at expires
          cases expires
      | some record =>
          obtain ⟨-, -, processing, -⟩ := newRecord_some created
          have now_created : record.createdAt = utcnowIso now := by
            obtain ⟨_, _, rfl⟩ := Option.map_eq_some_iff.mp created
            rfl
          dsimp only
          split
          · exact answering.goes free nofun
          · refine answering.move nofun (fun other member processing => ?_)
              (fun other member completed => ?_) fun other member => ?_
            · rcases List.mem_append.mp member with stored | new
              · refine .inr (answering.owned_by_others stored processing fun another holds => ?_)
                rw [free] at holds
                cases holds
              · rw [List.mem_singleton.mp new]
                exact .inl ⟨call, rfl⟩
            · rcases List.mem_append.mp member with stored | new
              · exact answering.stored other stored completed
              · rw [List.mem_singleton.mp new, processing] at completed
                cases completed
            · rcases List.mem_append.mp member with stored | new
              · exact answering.dated other stored
              · rw [List.mem_singleton.mp new, now_created]
                exact goes_stale
  | rereading call again =>
      have free : (state.phases caller).held = none := by rw [at_phase]; rfl
      cases again with
      | true => exact answering.goes free nofun
      | false =>
          unfold findsAgain at rereads
          rw [at_phase] at rereads
          obtain ⟨record, found⟩ := Option.isSome_iff_exists.mp rereads
          have member := (recordOf_some found).1
          dsimp only
          rw [found]
          dsimp only
          split
          next completed => exact answering.resolves free member completed
          · exact answering.finds free member true now
  | completing call recordId response =>
      have own : ∀ other record, (state.phases caller).held = some (other, record) →
          record = recordId := by
        rw [at_phase]
        rintro _ _ ⟨⟩
        rfl
      dsimp only
      split
      next absent =>
        refine answering.move nofun (fun record member processing => .inr ?_) answering.stored
          answering.dated
        refine answering.owned_by_others member processing fun another holds => ?_
        exact Table.ne_of_find_eq_none absent member (own _ _ holds)
      next stored found =>
        obtain ⟨stored_member, named⟩ := Table.find_eq_some found
        refine answering.move nofun (fun record member processing => .inr ?_)
          (fun record member completed => ?_) fun record member => ?_
        · rcases Table.mem_store member with rfl | ⟨old, different⟩
          · cases processing
          · refine answering.owned_by_others old processing fun another holds => ?_
            exact different ((own _ _ holds).trans named.symm)
        · rcases Table.mem_store member with rfl | ⟨old, -⟩
          · rfl
          · exact answering.stored record old completed
        · rcases Table.mem_store member with rfl | ⟨old, -⟩
          · exact answering.dated stored stored_member
          · exact answering.dated record old
  | discarding call recordId exception =>
      have kept : ∀ record ∈ Table.delete IdempotencyRecord.id state.records recordId,
          record ∈ state.records ∧ record.id ≠ recordId := by
        intro record member
        obtain ⟨old, different⟩ := List.mem_filter.mp member
        exact ⟨old, bne_iff_ne.mp different⟩
      refine answering.move nofun (fun record member processing => .inr ?_)
        (fun record member => answering.stored record (kept record member).1)
        fun record member => answering.dated record (kept record member).1
      refine answering.owned_by_others (kept record member).1 processing fun another holds => ?_
      rw [at_phase] at holds
      cases holds
      exact (kept record member).2 rfl

/-- A step keeps every call from ending in an exception of its own. -/
theorem answering_step (answering : Answering service state) {input : IdempotencyInput}
    (answerable : Answerable service state input) :
    Answering service (idempotencyStep service state input).1 := by
  cases input with
  | proceed caller now => exact answering_proceed answering answerable
  | run caller call =>
      unfold idempotencyStep
      dsimp only
      cases at_phase : state.phases caller with
      | idle => exact answering.goes (by rw [at_phase]; rfl) nofun
      | ended answer => exact answering.goes (by rw [at_phase]; rfl) nofun
      | _ => exact answering
  | answer caller answer =>
      unfold idempotencyStep
      dsimp only
      cases at_phase : state.phases caller with
      | dispatching call recordId =>
          dsimp only
          have holds_on (record : IdempotencyRecord) (member : record ∈ state.records)
              (processing : record.status = .processing) :
              (∃ holder, some (call, recordId) = some (holder, record.id)) ∨
                ∃ other, other ≠ caller ∧
                  ∃ holder, (state.phases other).held = some (holder, record.id) := by
            obtain ⟨other, holder, holds⟩ := answering.owned record member processing
            by_cases own : other = caller
            · rw [own, at_phase] at holds
              exact .inl ⟨holder, holds⟩
            · exact .inr ⟨other, own, holder, holds⟩
          cases answer with
          | ok response => exact answering.move nofun holds_on answering.stored answering.dated
          | error exception =>
              exact answering.move nofun holds_on answering.stored answering.dated
      | _ => exact answering

theorem answering_start : Answering service {} :=
  ⟨fun _ _ ended => (by cases ended), fun _ member => (by cases member),
    fun _ member => (by cases member), fun _ member => by cases member⟩

end Invariant

/-! ## The way of one call -/

section Progress

variable {service : IdempotencyService} {state : IdempotencyState} {caller : Nat}
variable {call : IdempotentCall}

theorem phases_finish_self (answer : Except IdempotencyError ExecutionResponse) :
    (state.finish caller call answer).1.phases caller = .ended answer :=
  phases_enter_self _ _

/-- What a step makes of the phase of a call that it lets go on. -/
structure MovesOn (before after : IdempotentPhase) : Prop where
  rank : after.rank < before.rank
  leaves : ∀ exception, after.Leaves exception → before.Leaves exception

theorem movesOn_of_not_leaving {before after : IdempotentPhase} (rank : after.rank < before.rank)
    (stays : ∀ exception, ¬after.Leaves exception) : MovesOn before after :=
  ⟨rank, fun exception leaves => absurd leaves (stays exception)⟩

theorem movesOn_resolved {before : IdempotentPhase} (unfinished : 0 < before.rank)
    (record : IdempotencyRecord) (requestHash : String) :
    MovesOn before (.ended (resolveCompleted record requestHash)) := by
  refine movesOn_of_not_leaving unfinished fun exception => ?_
  unfold resolveCompleted
  split
  · exact id
  · split <;> exact id

theorem movesOn_found {before : IdempotentPhase} {record : IdempotencyRecord} {again : Bool}
    {now : Instant} (lower : (IdempotentPhase.deleting call record.id again).rank < before.rank) :
    MovesOn before
      ((findProcessing service state caller call record again now).1.phases caller) := by
  have unfinished : 0 < before.rank := Nat.zero_lt_of_lt lower
  unfold findProcessing
  split
  · rw [phases_finish_self]
    exact movesOn_of_not_leaving unfinished fun _ => id
  · rw [phases_enter_self]
    exact movesOn_of_not_leaving lower fun _ => id
  · rw [phases_finish_self]
    exact movesOn_of_not_leaving unfinished fun _ => id

/-- A transaction of a call brings it closer to its end. -/
theorem movesOn_proceed {now : Instant}
    (moves : movesCall caller state (.proceed caller now) = true) :
    MovesOn (state.phases caller)
      ((proceedIdempotent service state caller now).1.phases caller) := by
  unfold movesCall at moves
  rw [Bool.and_eq_true] at moves
  have open_call := moves.2
  unfold proceedIdempotent
  cases at_phase : state.phases caller with
  | idle =>
      rw [at_phase] at open_call
      cases open_call
  | dispatching call recordId =>
      rw [at_phase] at open_call
      cases open_call
  | ended answer =>
      rw [at_phase] at open_call
      cases open_call
  | getting call =>
      dsimp only
      split
      · rw [phases_enter_self]
        exact movesOn_of_not_leaving (by simp [IdempotentPhase.rank]) fun _ => id
      · split
        · rw [phases_enter_self]
          exact movesOn_of_not_leaving (by simp [IdempotentPhase.rank]) fun _ => id
        · split
          · rw [phases_finish_self]
            exact movesOn_resolved (by simp [IdempotentPhase.rank]) _ _
          · exact movesOn_found (by simp [IdempotentPhase.rank])
  | deleting call recordId again =>
      dsimp only
      rw [phases_enter_self]
      exact movesOn_of_not_leaving (by cases again <;> simp [IdempotentPhase.rank]) fun _ => id
  | beginning call again =>
      dsimp only
      split
      · rw [phases_finish_self]
        exact movesOn_of_not_leaving (by cases again <;> simp [IdempotentPhase.rank]) fun _ => id
      · split
        · rw [phases_enter_self]
          exact movesOn_of_not_leaving (by cases again <;> simp [IdempotentPhase.rank]) fun _ => id
        · dsimp only
          rw [phases_enter_self]
          exact movesOn_of_not_leaving (by cases again <;> simp [IdempotentPhase.rank]) fun _ => id
  | rereading call again =>
      cases again with
      | true =>
          dsimp only
          rw [phases_finish_self]
          exact movesOn_of_not_leaving (by simp [IdempotentPhase.rank]) fun _ => id
      | false =>
          dsimp only
          split
          · rw [phases_finish_self]
            exact movesOn_of_not_leaving (by simp [IdempotentPhase.rank]) fun _ => id
          · split
            · rw [phases_finish_self]
              exact movesOn_resolved (by simp [IdempotentPhase.rank]) _ _
            · exact movesOn_found (by simp [IdempotentPhase.rank])
  | completing call recordId response =>
      dsimp only
      split
      · rw [phases_finish_self]
        exact movesOn_of_not_leaving (by simp [IdempotentPhase.rank]) fun _ => id
      · dsimp only
        rw [phases_finish_self]
        exact movesOn_of_not_leaving (by simp [IdempotentPhase.rank]) fun _ => id
  | discarding call recordId exception =>
      dsimp only
      rw [phases_finish_self]
      exact ⟨by simp [IdempotentPhase.rank], fun _ => id⟩

theorem phases_findProcessing_ne {other : Nat} {record : IdempotencyRecord} {again : Bool}
    {now : Instant} (different : caller ≠ other) :
    (findProcessing service state other call record again now).1.phases caller =
      state.phases caller := by
  unfold findProcessing
  split <;> exact phases_enter_ne different

/-- A transaction of one call does not move another. -/
theorem phases_proceed_ne {other : Nat} {now : Instant} (different : caller ≠ other) :
    (proceedIdempotent service state other now).1.phases caller = state.phases caller := by
  unfold proceedIdempotent
  cases state.phases other with
  | idle => rfl
  | dispatching call recordId => rfl
  | ended answer => rfl
  | getting call =>
      dsimp only
      split
      · exact phases_enter_ne different
      · split
        · exact phases_enter_ne different
        · split
          · exact phases_enter_ne different
          · exact phases_findProcessing_ne different
  | deleting call recordId again => exact phases_enter_ne different
  | beginning call again =>
      dsimp only
      split
      · exact phases_enter_ne different
      · split <;> exact phases_enter_ne different
  | rereading call again =>
      cases again with
      | true => exact phases_enter_ne different
      | false =>
          dsimp only
          split
          · exact phases_enter_ne different
          · split
            · exact phases_enter_ne different
            · exact phases_findProcessing_ne different
  | completing call recordId response =>
      dsimp only
      split <;> exact phases_enter_ne different
  | discarding call recordId exception => exact phases_enter_ne different

/-- An input that does not let a call go on leaves it where it is, or begins it. -/
theorem phases_step_of_not_moves {input : IdempotencyInput}
    (stays : movesCall caller state input = false) :
    (idempotencyStep service state input).1.phases caller = state.phases caller ∨
      ∃ call, input = .run caller call ∧
        (idempotencyStep service state input).1.phases caller = .getting call := by
  cases input with
  | run other call =>
      unfold idempotencyStep
      dsimp only
      by_cases same : caller = other
      · subst same
        cases at_phase : state.phases caller with
        | idle => exact .inr ⟨call, rfl, phases_enter_self _ _⟩
        | ended answer => exact .inr ⟨call, rfl, phases_enter_self _ _⟩
        | _ => exact .inl at_phase
      · cases state.phases other with
        | idle => exact .inl (phases_enter_ne same)
        | ended answer => exact .inl (phases_enter_ne same)
        | _ => exact .inl rfl
  | proceed other now =>
      by_cases same : caller = other
      · subst same
        unfold movesCall at stays
        unfold idempotencyStep
        dsimp only
        unfold proceedIdempotent
        cases at_phase : state.phases caller with
        | idle => exact .inl at_phase
        | dispatching call recordId => exact .inl at_phase
        | ended answer => exact .inl at_phase
        | _ =>
            rw [at_phase] at stays
            simp at stays
      · exact .inl (phases_proceed_ne same)
  | answer other answer =>
      unfold idempotencyStep
      dsimp only
      by_cases same : caller = other
      · subst same
        unfold movesCall at stays
        cases at_phase : state.phases caller with
        | dispatching call recordId =>
            rw [at_phase] at stays
            simp at stays
        | _ => exact .inl at_phase
      · cases state.phases other with
        | dispatching call recordId => cases answer <;> exact .inl (phases_enter_ne same)
        | _ => exact .inl rfl

/-- An input that lets a call go on is one of its transactions, or the answer of its dispatch. -/
theorem moves_cases {input : IdempotencyInput} (moves : movesCall caller state input = true) :
    (∃ now, input = .proceed caller now) ∨
      ∃ call recordId answer, state.phases caller = .dispatching call recordId ∧
        input = .answer caller answer := by
  cases input with
  | run other call => cases moves
  | proceed other now =>
      unfold movesCall at moves
      rw [Bool.and_eq_true, beq_iff_eq] at moves
      exact .inl ⟨now, by rw [moves.1]⟩
  | answer other answer =>
      unfold movesCall at moves
      rw [Bool.and_eq_true, beq_iff_eq] at moves
      cases at_phase : state.phases caller with
      | dispatching call recordId => exact .inr ⟨call, recordId, answer, rfl, by rw [moves.1]⟩
      | _ =>
          rw [at_phase] at moves
          cases moves.2

theorem phases_answered {recordId : String} (at_phase : state.phases caller =
      .dispatching call recordId) (answer : Except String ExecutionResponse) :
    (idempotencyStep service state (.answer caller answer)).1.phases caller =
      match answer with
      | .ok response => .completing call recordId response
      | .error exception => .discarding call recordId exception := by
  unfold idempotencyStep
  dsimp only
  rw [at_phase]
  cases answer <;> exact phases_enter_self _ _

/-- Whatever lets a call go on brings it closer to its end. -/
theorem rank_lt_of_moves {input : IdempotencyInput} (moves : movesCall caller state input = true) :
    ((idempotencyStep service state input).1.phases caller).rank <
      (state.phases caller).rank := by
  rcases moves_cases moves with ⟨now, rfl⟩ | ⟨call, recordId, answer, at_phase, rfl⟩
  · exact (movesOn_proceed moves).rank
  · rw [phases_answered at_phase, at_phase]
    cases answer <;> exact Nat.lt_succ_self _

/-- A call is about to end with an exception because its dispatch has just raised it, or because
it was so before. -/
theorem leaves_step {input : IdempotencyInput} {exception : String}
    (leaves : ((idempotencyStep service state input).1.phases caller).Leaves exception) :
    (state.phases caller).Leaves exception ∨
      ∃ call recordId, state.phases caller = .dispatching call recordId ∧
        input = .answer caller (.error exception) := by
  cases moves : movesCall caller state input with
  | false =>
      rcases phases_step_of_not_moves moves with same | ⟨call, -, begun⟩
      · rw [same] at leaves
        exact .inl leaves
      · rw [begun] at leaves
        exact leaves.elim
  | true =>
      rcases moves_cases moves with ⟨now, rfl⟩ | ⟨call, recordId, answer, at_phase, rfl⟩
      · exact .inl ((movesOn_proceed moves).leaves exception leaves)
      · rw [phases_answered at_phase] at leaves
        cases answer with
        | ok response => exact leaves.elim
        | error raised =>
            obtain rfl : raised = exception := leaves
            exact .inr ⟨call, recordId, at_phase, rfl⟩

theorem rank_le (phase : IdempotentPhase) : phase.rank ≤ 8 := by
  cases phase with
  | deleting call recordId again | beginning call again | rereading call again =>
      cases again <;> simp [IdempotentPhase.rank]
  | _ => simp [IdempotentPhase.rank]

theorem isFree_of_rank {phase : IdempotentPhase} (finished : phase.rank = 0) :
    phase.isFree = true := by
  cases phase with
  | idle => rfl
  | ended answer => rfl
  | deleting call recordId again | beginning call again | rereading call again =>
      cases again <;> cases finished
  | _ => cases finished

theorem ended_of_escapes {phase : IdempotentPhase} {typeName : String}
    (escapes : phase.escapes = some typeName) :
    phase = .ended (.error (.exception typeName)) := by
  unfold IdempotentPhase.escapes at escapes
  split at escapes
  · cases escapes
    rfl
  · cases escapes

end Progress

/-! ## Whole runs -/

section Runs

variable {service : IdempotencyService} {caller : Nat}

/-- A call is about to end with an exception only if its own dispatch has raised it. -/
theorem raised_of_leaves (inputs : List IdempotencyInput) {exception : String}
    (leaves : (((idempotencyMachine service).stateAfter {} inputs).phases caller).Leaves
      exception) :
    DispatchRaised service inputs caller exception := by
  induction inputs using List.reverseRecOn with
  | nil => exact leaves.elim
  | append_singleton earlier input ih =>
      have now_leaves := leaves
      rw [Machine.stateAfter_append] at leaves
      rcases leaves_step leaves with before_leaves | ⟨call, recordId, dispatching, rfl⟩
      · obtain ⟨before, after, call, recordId, rfl, dispatching, kept⟩ := ih before_leaves
        refine ⟨before, after ++ [input], call, recordId, by simp, dispatching,
          fun middle between => ?_⟩
        rcases List.prefix_concat_iff.mp between with rfl | shorter
        · simpa using now_leaves
        · exact kept middle shorter
      · refine ⟨earlier, [], call, recordId, rfl, dispatching, fun middle between => ?_⟩
        rw [List.prefix_nil.mp between]
        exact now_leaves

/-- A call comes to its end when it is let go on eight times. -/
theorem free_after_moves {state : IdempotencyState} {later : List IdempotencyInput}
    (no_other : ∀ call, IdempotencyInput.run caller call ∉ later)
    (moved : 8 ≤ (idempotencyMachine service).countSteps (movesCall caller) state later) :
    (((idempotencyMachine service).stateAfter state later).phases caller).isFree = true := by
  have admitted : (idempotencyMachine service).Admits
      (fun _ input => ∀ call, input ≠ .run caller call) state later := by
    rintro before input after rfl call rfl
    exact no_other call (by simp)
  have bound := Machine.countSteps_le (movesCall caller)
    (fun state => (state.phases caller).rank) (motive := fun _ => True) True.intro
    (fun _ _ _ _ => True.intro) (fun state input _ other => ?_) admitted
  · have at_most := rank_le (state.phases caller)
    exact isFree_of_rank (by omega)
  · cases moves : movesCall caller state input with
    | true =>
        have lower : ((idempotencyStep service state input).1.phases caller).rank <
            (state.phases caller).rank := rank_lt_of_moves moves
        rw [Bool.toNat_true]
        exact Nat.one_add_le_iff.mpr lower
    | false =>
        rw [Bool.toNat_false, Nat.zero_add]
        rcases @phases_step_of_not_moves service state caller input moves with
          same | ⟨call, run, -⟩
        · exact le_of_eq (congrArg IdempotentPhase.rank same)
        · exact absurd run (other call)

end Runs

/-- Every call ends with a response, with one of the two refusals or with what its own dispatch
raised, as long as whoever lost a race for a key finds the record that it lost to. -/
theorem always_answers (service : IdempotencyService) {inputs : List IdempotencyInput}
    (admitted : (idempotencyMachine service).Admits (Answerable service) {} inputs) :
    AlwaysAnswers service inputs := by
  have answering : Answering service ((idempotencyMachine service).stateAfter {} inputs) :=
    Machine.invariant_of_admits answering_start
      (fun _ _ answering answerable => answering_step answering answerable) admitted
  refine ⟨fun caller answer ended => ?_, answering.owned,
    fun caller later no_other moved => ?_⟩
  · cases answer with
    | ok response => exact True.intro
    | error error =>
        cases error with
        | conflict message => exact True.intro
        | inProgress message => exact True.intro
        | exception typeName => exact absurd ended (answering.quiet caller typeName)
        | dispatch exception =>
            apply raised_of_leaves
            rw [ended]
            rfl
  · rw [Machine.stateAfter_append]
    exact free_after_moves no_other moved

namespace Demo

/-- Two calls race for a key; the dispatch of the winner raises, and its record is discarded
before the loser reads it again. -/
def abandoned (now : Instant) : List IdempotencyInput :=
  [.run 0 (keyed "a"), .run 1 (keyed "b"), .proceed 0 now, .proceed 1 now, .proceed 0 now,
    .proceed 1 now, .answer 0 (.error "RuntimeError"), .proceed 0 now, .proceed 1 now]

end Demo

theorem always_answers_demo :
    AlwaysAnswers Demo.idempotency
      (Demo.raced ⟨0, by decide⟩ { status := .executed, decision := .allow }) :=
  always_answers Demo.idempotency (by decide +kernel)

/-- The loser of a race finds no record, and ends in an exception of its own. -/
theorem not_alwaysAnswers :
    ¬AlwaysAnswers Demo.idempotency (Demo.abandoned ⟨0, by decide⟩) := by
  intro always
  have escapes : (((idempotencyMachine Demo.idempotency).stateAfter {}
      (Demo.abandoned ⟨0, by decide⟩)).phases 1).escapes = some "AttributeError" := by
    decide +kernel
  exact always.answers 1 _ (ended_of_escapes escapes)

end Era.Services
