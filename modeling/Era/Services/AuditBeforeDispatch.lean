import Era.Services.Provenance

/-!
# Audit before dispatch

In every run of the service a provider is called only on behalf of a dispatch
whose authorisation has been committed right before it, within the attempt
limit, and never for a forbidden or denied action.
-/

namespace Era.Services

open Era.Core Era.Lib

/-- The answers of the calls of `execute` with which the rest of a trace goes on,
up to the first event that is not a provider call. -/
def leadingExecutions (events : List Event) : List (Except Raised ProviderReturn) :=
  (events.takeWhile fun event => event.providerCall?.isSome).filterMap Event.executeAnswer?

/-- A committed entry authorises a dispatch. -/
structure AuditEntry.Authorizes (config : Config) (entry : AuditEntry) (dispatch : Dispatch) :
    Prop where
  outcome_eq : entry.outcome = .authorized
  concerns : entry.Concerns config dispatch.action dispatch.confirmationId

/-- The action of an operation that may dispatch. -/
def Operation.action? : Operation → Option Action
  | .request action _ => some action
  | .approve call => some call.action
  | .deny _ _ | .sweep _ | .operatorApproval _ _ _ _ | .createPolicyVersion _ _ => none

/-- Audit before dispatch, as a property of a run. -/
structure AuditedBeforeDispatch (config : Config) (start : ServiceState) (calls : List Call) :
    Prop where
  /-- `execute` is called only after an `AUTHORIZED` entry for the same action and
  confirmation has been committed. -/
  executed : ∀ before dispatch answer after,
    (service config).trace Output.events start calls =
      before ++ .executeCalled dispatch answer :: after →
    ∃ entry, .audited entry ∈ before ∧ entry.Authorizes config dispatch
  /-- Every call into a provider belongs to the dispatch that precedes it. -/
  called : ∀ before event after dispatch,
    (service config).trace Output.events start calls = before ++ event :: after →
    event.providerCall? = some dispatch →
    ∃ earlier calls, before = earlier ++ .dispatched dispatch :: calls ∧
      ∀ call ∈ calls, call.providerCall? = some dispatch
  /-- A dispatch follows its own `AUTHORIZED` entry immediately, so no entry has a
  second dispatch. -/
  dispatched : ∀ before dispatch after,
    (service config).trace Output.events start calls =
      before ++ .dispatched dispatch :: after →
    ∃ earlier entry, before = earlier ++ [.audited entry] ∧ entry.Authorizes config dispatch
  /-- A dispatch makes at most `max_attempts` calls of `execute`, and at most one
  if the provider declares the action type not retryable. -/
  attempts : ∀ before dispatch after,
    (service config).trace Output.events start calls =
      before ++ .dispatched dispatch :: after →
    (leadingExecutions after).length ≤ config.retryPolicy.maxAttempts ∧
      ∀ provider, config.registry.get dispatch.action.actionType = some provider →
        dispatch.action.actionType ∈ provider.nonRetryableActionTypes →
        (leadingExecutions after).length ≤ 1
  /-- A provider is never called for a forbidden action or under a denial. -/
  permitted : ∀ event ∈ (service config).trace Output.events start calls, ∀ dispatch,
    event.providerCall? = some dispatch →
    config.forbidden dispatch.action.actionType = false ∧ dispatch.decision ≠ .deny
  /-- A call whose action is forbidden, or that is answered with a denial, reaches
  no provider. -/
  refused : ∀ before call after, calls = before ++ call :: after →
    ((∃ action, call.operation.action? = some action ∧
        config.forbidden action.actionType = true) ∨
      ∃ response, (step config ((service config).stateAfter start before) call).2.reply =
        .execution (.ok response) ∧ response.decision = .deny) →
    ∀ event ∈ (step config ((service config).stateAfter start before) call).2.events,
      event.providerCall? = none

/-! ## The parts of a dispatching call -/

section Parts

variable {config : Config} {state : ServiceState} {call : Call}

theorem Authorization.forbidden_eq {dispatch : Dispatch}
    (authorization : Authorization config state call dispatch) :
    config.forbidden dispatch.action.actionType = false := by
  cases authorization with
  | allowed _ _ _ permitted _ => exact permitted
  | approved approveCall row _ _ consumes =>
      have permitted := consumes.accepted.permitted
      rw [not_or, Bool.not_eq_true, Bool.not_eq_true] at permitted
      exact permitted.2

theorem Authorization.action?_eq {dispatch : Dispatch}
    (authorization : Authorization config state call dispatch) :
    call.operation.action? = some dispatch.action := by
  cases authorization with
  | allowed _ _ operation _ _ => rw [operation]; rfl
  | approved _ _ operation _ _ => rw [operation]; rfl

theorem attemptLimit_le (config : Config) (actionType : String) :
    config.attemptLimit actionType ≤ config.retryPolicy.maxAttempts := by
  unfold Config.attemptLimit
  split
  · exact Nat.zero_le _
  · split
    · exact config.retryPolicy.maxAttempts_pos
    · exact Nat.le_refl _

theorem attemptLimit_nonRetryable {config : Config} {actionType : String} {provider : Provider}
    (registered : config.registry.get actionType = some provider)
    (declared : actionType ∈ provider.nonRetryableActionTypes) :
    config.attemptLimit actionType = 1 := by
  simp [Config.attemptLimit, registered, declared]

/-- The events of one call never start with a call into a provider. -/
theorem step_events_head {event : Event} {rest : List Event}
    (events : (step config state call).2.events = event :: rest) :
    event.providerCall? = none := by
  cases step_events config state call with
  | recorded audits =>
      obtain ⟨entry, rfl⟩ := audits event (by simp [events])
      rfl
  | dispatched dispatch _ shown _ =>
      obtain ⟨entry, calls, records, shape, _⟩ := shown.shape
      rw [events] at shape
      obtain ⟨rfl, -⟩ := List.cons.inj shape
      rfl

/-- Nor does the trace of a run. -/
theorem trace_takeWhile (config : Config) (start : ServiceState) (calls : List Call) :
    ((service config).trace Output.events start calls).takeWhile
      (fun event => event.providerCall?.isSome) = [] := by
  induction calls generalizing start with
  | nil => rfl
  | cons call rest ih =>
      rw [Machine.trace_cons]
      cases events : ((service config).step start call).2.events with
      | nil => exact ih _
      | cons event others =>
          have notCall : event.providerCall? = none := step_events_head events
          simp [notCall]

/-- What precedes and follows an event inside the events of a dispatching call. -/
theorem DispatchEvents.before {dispatch : Dispatch} {events before after : List Event}
    {event : Event} (shown : DispatchEvents config dispatch events)
    (split : events = before ++ event :: after) {called : Dispatch}
    (providerCall : event.providerCall? = some called) :
    called = dispatch ∧ ∃ entry calls, before = .audited entry :: .dispatched dispatch :: calls ∧
      entry.Authorizes config dispatch ∧ ∀ call ∈ calls, call.providerCall? = some dispatch := by
  obtain ⟨entry, calls, records, shape, outcome, concerns, calledFor, recorded, _⟩ := shown.shape
  rw [split] at shape
  cases before with
  | nil =>
      obtain ⟨rfl, -⟩ := List.cons.inj shape
      simp [Event.providerCall?] at providerCall
  | cons first before =>
      rw [List.cons_append, List.cons.injEq] at shape
      obtain ⟨rfl, shape⟩ := shape
      cases before with
      | nil =>
          obtain ⟨rfl, -⟩ := List.cons.inj shape
          simp [Event.providerCall?] at providerCall
      | cons second before =>
          rw [List.cons_append, List.cons.injEq] at shape
          obtain ⟨rfl, shape⟩ := shape
          -- The event is a provider call, so it lies before the records.
          obtain ⟨middle, before_eq, rest_eq⟩ | ⟨middle, calls_eq, rest_eq⟩ :=
            List.append_eq_append_iff.mp shape.symm
          · have inRecords : event ∈ records := by simp [rest_eq]
            obtain ⟨record, rfl, _⟩ := recorded event inRecords
            simp [Event.providerCall?] at providerCall
          · cases middle with
            | nil =>
                have inRecords : event ∈ records := by
                  rw [List.nil_append] at rest_eq
                  exact rest_eq ▸ List.mem_cons_self
                obtain ⟨record, rfl, _⟩ := recorded event inRecords
                simp [Event.providerCall?] at providerCall
            | cons head middle =>
                obtain ⟨rfl, -⟩ := List.cons.inj rest_eq
                have inCalls : event ∈ calls := by simp [calls_eq]
                have same := calledFor event inCalls
                rw [providerCall] at same
                obtain rfl := Option.some.inj same
                refine ⟨rfl, entry, before, rfl, ⟨outcome, concerns⟩, fun call member => ?_⟩
                exact calledFor call (by simp [calls_eq, member])

/-- The place of the dispatch inside the events of a dispatching call. -/
theorem DispatchEvents.atDispatch {dispatch shownDispatch : Dispatch}
    {events before after : List Event} (shown : DispatchEvents config dispatch events)
    (split : events = before ++ .dispatched shownDispatch :: after) :
    shownDispatch = dispatch ∧ ∃ entry calls records, before = [.audited entry] ∧
      entry.Authorizes config dispatch ∧ after = calls ++ records ∧
      (∀ call ∈ calls, call.providerCall? = some dispatch) ∧
      (∀ record ∈ records, record.providerCall? = none) ∧
      (calls.filterMap Event.executeAnswer?).length ≤
        config.attemptLimit dispatch.action.actionType := by
  obtain ⟨entry, calls, records, shape, outcome, concerns, calledFor, recorded, limited⟩ :=
    shown.shape
  have notCalled : ∀ event ∈ calls ++ records, event ≠ .dispatched shownDispatch := by
    rintro event member rfl
    cases List.mem_append.mp member with
    | inl inCalls => simpa [Event.providerCall?] using calledFor _ inCalls
    | inr inRecords =>
        obtain ⟨record, other, _⟩ := recorded _ inRecords
        simp at other
  rw [split] at shape
  cases before with
  | nil => simp at shape
  | cons first before =>
      rw [List.cons_append, List.cons.injEq] at shape
      obtain ⟨rfl, shape⟩ := shape
      cases before with
      | nil =>
          simp only [List.nil_append, List.cons.injEq, Event.dispatched.injEq] at shape
          obtain ⟨rfl, rfl⟩ := shape
          refine ⟨rfl, entry, calls, records, rfl, ⟨outcome, concerns⟩, rfl, calledFor, ?_,
            limited⟩
          intro event member
          obtain ⟨record, rfl, _⟩ := recorded event member
          rfl
      | cons second before =>
          rw [List.cons_append, List.cons.injEq] at shape
          exact absurd rfl (notCalled (.dispatched shownDispatch) (by simp [← shape.2]))

/-- After a dispatch the provider calls of its own call come first, then something
else. -/
theorem leadingExecutions_append {calls records rest : List Event} {dispatch : Dispatch}
    (called : ∀ call ∈ calls, call.providerCall? = some dispatch)
    (recorded : ∀ record ∈ records, record.providerCall? = none)
    (stops : rest.takeWhile (fun event => event.providerCall?.isSome) = []) :
    leadingExecutions (calls ++ records ++ rest) = calls.filterMap Event.executeAnswer? := by
  have tail : (records ++ rest).takeWhile (fun event => event.providerCall?.isSome) = [] := by
    cases records with
    | nil => exact stops
    | cons record records => simp [recorded record List.mem_cons_self]
  have head : ∀ call ∈ calls, call.providerCall?.isSome = true := by
    intro call member
    simp [called call member]
  rw [leadingExecutions, List.append_assoc, List.takeWhile_append_of_pos head, tail,
    List.append_nil]

end Parts

/-! ## The result -/

section Runs

variable {config : Config} {start : ServiceState} {calls : List Call}
variable {before after : List Event}

/-- The call that shows a provider call has dispatched, and its authorisation
precedes the provider call. -/
theorem shown_providerCall {event : Event} {dispatch : Dispatch}
    (split : (service config).trace Output.events start calls = before ++ event :: after)
    (providerCall : event.providerCall? = some dispatch) :
    ∃ earlier call later traceBefore entry providerCalls,
      calls = earlier ++ call :: later ∧
      Authorization config ((service config).stateAfter start earlier) call dispatch ∧
      before = traceBefore ++ .audited entry :: .dispatched dispatch :: providerCalls ∧
      entry.Authorizes config dispatch ∧
      ∀ other ∈ providerCalls, other.providerCall? = some dispatch := by
  obtain ⟨earlier, call, later, stepBefore, stepAfter, shown⟩ :=
    (service config).exists_shownAt Output.events split
  have step_eq : (step config ((service config).stateAfter start earlier) call).2.events =
    stepBefore ++ event :: stepAfter := shown.step_eq
  cases step_events config ((service config).stateAfter start earlier) call with
  | recorded audits =>
      obtain ⟨entry, rfl⟩ := audits event (by simp [step_eq])
      simp [Event.providerCall?] at providerCall
  | dispatched authorized authorization events _ =>
      obtain ⟨rfl, entry, providerCalls, stepBefore_eq, authorizes, called⟩ :=
        events.before step_eq providerCall
      refine ⟨earlier, call, later, (service config).trace Output.events start earlier, entry,
        providerCalls, shown.inputs_eq, authorization, ?_, authorizes, called⟩
      rw [shown.before_eq, stepBefore_eq]

/-- The call that shows a dispatch has just committed its authorisation, and the
provider calls that follow stay within the limit. -/
theorem shown_dispatched {dispatch : Dispatch}
    (split : (service config).trace Output.events start calls =
      before ++ .dispatched dispatch :: after) :
    ∃ earlier entry, before = earlier ++ [.audited entry] ∧ entry.Authorizes config dispatch ∧
      (leadingExecutions after).length ≤ config.attemptLimit dispatch.action.actionType := by
  obtain ⟨earlier, call, later, stepBefore, stepAfter, shown⟩ :=
    (service config).exists_shownAt Output.events split
  have step_eq : (step config ((service config).stateAfter start earlier) call).2.events =
    stepBefore ++ .dispatched dispatch :: stepAfter := shown.step_eq
  cases step_events config ((service config).stateAfter start earlier) call with
  | recorded audits =>
      obtain ⟨entry, other⟩ := audits (.dispatched dispatch) (by simp [step_eq])
      simp at other
  | dispatched authorized authorization events _ =>
      obtain ⟨rfl, entry, providerCalls, records, stepBefore_eq, authorizes, stepAfter_eq,
        called, recorded, limited⟩ := events.atDispatch step_eq
      refine ⟨(service config).trace Output.events start earlier, entry,
        by rw [shown.before_eq, stepBefore_eq], authorizes, ?_⟩
      rw [shown.after_eq, stepAfter_eq,
        leadingExecutions_append called recorded (trace_takeWhile _ _ _)]
      exact limited

/-- An authorisation under a stored confirmation is not a denial. -/
theorem Authorization.decision_ne_deny {state : ServiceState} {call : Call}
    {dispatch : Dispatch} (authorization : Authorization config state call dispatch)
    (confirms : ∀ id row, state.db.confirmations id = some row →
      row.decision = .confirm ∨ row.decision = .confirmStrong) : dispatch.decision ≠ .deny := by
  cases authorization with
  | allowed _ _ _ _ _ => exact nofun
  | approved approveCall row _ stored _ =>
      intro denied
      cases confirms _ row stored with
      | inl confirm => simp [confirm] at denied
      | inr strong => simp [strong] at denied

end Runs

/-- Each event of the trace is an event of one call, whose shape decides. -/
theorem auditedBeforeDispatch (config : Config) (policies : List Policy)
    (auditLog : List AuditEntry) (breakers : String → CircuitBreaker) (calls : List Call) :
    AuditedBeforeDispatch config (initialState policies auditLog breakers) calls := by
  refine ⟨?_, ?_, ?_, ?_, ?_, ?_⟩
  · intro before dispatch answer after split
    obtain ⟨_, _, _, _, entry, _, _, _, before_eq, authorizes, _⟩ :=
      shown_providerCall split rfl
    exact ⟨entry, by simp [before_eq], authorizes⟩
  · intro before event after dispatch split providerCall
    obtain ⟨_, _, _, traceBefore, entry, providerCalls, _, _, before_eq, _, called⟩ :=
      shown_providerCall split providerCall
    exact ⟨traceBefore ++ [.audited entry], providerCalls, by simp [before_eq], called⟩
  · intro before dispatch after split
    obtain ⟨earlier, entry, before_eq, authorizes, _⟩ := shown_dispatched split
    exact ⟨earlier, entry, before_eq, authorizes⟩
  · intro before dispatch after split
    obtain ⟨_, _, _, _, limited⟩ := shown_dispatched split
    refine ⟨limited.trans (attemptLimit_le config _), fun provider registered declared => ?_⟩
    rwa [attemptLimit_nonRetryable registered declared] at limited
  · intro event member dispatch providerCall
    obtain ⟨before, after, split⟩ := List.append_of_mem member
    obtain ⟨earlier, call, later, _, _, _, calls_eq, authorization, _⟩ :=
      shown_providerCall split providerCall
    exact ⟨authorization.forbidden_eq,
      authorization.decision_ne_deny fun id row stored => stored_confirms stored⟩
  · intro before call after calls_eq refusal event member
    cases step_events config ((service config).stateAfter
        (initialState policies auditLog breakers) before) call with
    | recorded audits =>
        obtain ⟨entry, rfl⟩ := audits event member
        rfl
    | dispatched dispatch authorization events decided =>
        exfalso
        cases refusal with
        | inl forbidden =>
            obtain ⟨action, ofCall, isForbidden⟩ := forbidden
            rw [authorization.action?_eq] at ofCall
            obtain rfl := Option.some.inj ofCall
            simp [authorization.forbidden_eq] at isForbidden
        | inr denied =>
            obtain ⟨response, reply, isDenied⟩ := denied
            exact authorization.decision_ne_deny (fun id row stored => stored_confirms stored)
              ((decided response reply).symm.trans isDenied)

end Era.Services
