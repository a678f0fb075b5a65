import Era.Lib.Machine
import Era.Services.ExecutionCases

/-!
# The service as a machine

Public calls arrive one after another; each call comes with everything it does
not compute itself, so a list of calls is one history of the service.
-/

namespace Era.Services

open Era.Core Era.Lib

/-! ## Operations -/

/-- A public operation with its arguments. -/
inductive Operation where
  | request (action : Action) (ctx : ExecutionContext)
  | approve (call : ApproveCall)
  | deny (confirmationId : String) (ctx : ExecutionContext)
  /-- One tick of the expiry sweeper, with the order in which its query finds rows. -/
  | sweep (order : List String)
  /-- The operator routes; the body may name an address and a user agent. -/
  | operatorApproval (confirmationId actorId : String) (status : ApprovalStatus)
      (body : Option (Option String × Option String))
  | createPolicyVersion (document : Policy) (changedBy : String)

structure Call where
  operation : Operation
  env : CallEnv

/-- An HTTP error of the operator routes. -/
structure HttpError where
  statusCode : Nat
  detail : String
  deriving DecidableEq, Repr

inductive Reply where
  | execution (answer : Except Raised ExecutionResponse)
  | swept (answer : Except Raised Nat)
  | operator (answer : Except Raised (Except HttpError ConfirmationApproval))
  | policyVersion (answer : Except Raised Int)

structure Output where
  reply : Reply
  events : List Event

/-- Whether a call has dispatched an action. -/
def Output.dispatches (output : Output) : Bool :=
  output.events.any fun event =>
    match event with
    | .dispatched _ => true
    | .audited _ | .validateCalled _ | .executeCalled _ _ => false

/-- How the operator routes answer an error of the dual-approval service. -/
def DualApprovalError.httpError (platform : Platform) (error : DualApprovalError) : HttpError :=
  { statusCode :=
      match error with
      | .approvalAlreadyExists _ _ | .confirmationNotPending => 409
      | .unknownConfirmation | .approvalNotRequired => 400
    detail := error.message platform }

section Step

variable (config : Config)

/-- The operator routes `approve` and `deny`. -/
def operatorApproval (env : CallEnv) (state : ServiceState) (id actorId : String)
    (status : ApprovalStatus) (body : Option (Option String × Option String)) :
    ServiceState × Output :=
  let contextHash := body.map fun client => buildContextHash config.platform client.1 client.2
  let reply (answer : Except Raised (Except HttpError ConfirmationApproval)) : Output :=
    { reply := .operator answer, events := [] }
  match recordApproval state.db (state.db.confirmations id) id actorId status contextHash
      env.approvedAt with
  | .error (.raised failure) => (state, reply (.error failure))
  | .error (.dualApproval error) => (state, reply (.ok (.error (error.httpError config.platform))))
  | .ok approval =>
      match env.transactionFailure with
      | some failure => (state, reply (.error failure))
      | none => ({ state with db := state.db.addApproval approval }, reply (.ok (.ok approval)))

/-- `ConfirmationSweeper.sweep` in its transaction. -/
def sweepStep (env : CallEnv) (state : ServiceState) (order : List String) :
    ServiceState × Output :=
  match env.transactionFailure with
  | some failure => (state, { reply := .swept (.error failure), events := [] })
  | none =>
      ({ state with db := state.db.sweep env.now order }, {
        reply := .swept (.ok (state.db.overdueRows env.now order).length), events := [] })

/-- `PolicyService.create_version`. -/
def createPolicyVersion (env : CallEnv) (state : ServiceState) (document : Policy)
    (changedBy : String) : ServiceState × Output :=
  let created := createVersion state.db.policies document
  let entry := config.auditEntry {
    action := { actionType := "policy.update", params := [] }
    ctx := { actorId := changedBy }
    riskLevel := some .mutating
    decision := .allow
    outcome := .executed
    policyVersion := created.version
    result := some ("policy updated to version " ++ toString created.version)
    capabilityDomain := some "core" }
  match env.transactionFailure with
  | some failure => (state, { reply := .policyVersion (.error failure), events := [] })
  | none =>
      ({ state with
          db := { state.db with policies := state.db.policies ++ [created] }.appendAudit entry },
        { reply := .policyVersion (.ok created.version), events := [.audited entry] })

/-- The output of a call of the execution service. -/
def CallResult.output (result : CallResult) : Output :=
  { reply := .execution result.answer, events := result.events }

/-- One public call. -/
def step (state : ServiceState) (call : Call) : ServiceState × Output :=
  match call.operation with
  | .request action ctx =>
      let done := request config call.env state action ctx
      (done.1, done.2.output)
  | .approve approveCall =>
      let done := approve config call.env state approveCall
      (done.1, done.2.output)
  | .deny id ctx =>
      let done := deny config call.env state id ctx
      (done.1, done.2.output)
  | .sweep order => sweepStep call.env state order
  | .operatorApproval id actorId status body =>
      operatorApproval config call.env state id actorId status body
  | .createPolicyVersion document changedBy =>
      createPolicyVersion config call.env state document changedBy

/-- The service as a machine. -/
def service : Machine ServiceState Call Output := { step := step config }

end Step

/-- A service without confirmations and approvals; policies, audit entries and
breaker states may be there. -/
def initialState (policies : List Policy) (auditLog : List AuditEntry)
    (breakers : String → CircuitBreaker) : ServiceState :=
  { db := { confirmations := fun _ => none, approvals := [], policies, auditLog }, breakers }

/-! ## A demonstration deployment

One stub provider behind the default policy, for concrete histories. -/

namespace Demo

/-- The identity stands in for SHA-256, so distinct texts have distinct hashes. -/
def platform : Platform :=
  { sha256Hex := id, floatRepr := fun _ => "0.0", formatSeconds := fun _ => "30",
    reprString := id, upper := String.toUpper, lower := String.toLower
    casefold := String.toLower, isDecimal := Char.isDigit, getAddresses := id
    parseAddress := id, redactSensitiveText := id }

def config : Config :=
  { platform
    catalog := { specs := [
      { actionType := "stub.noop", riskLevel := .safe, capabilityDomain := "core" },
      { actionType := "fs.write", riskLevel := .mutating, capabilityDomain := "file" },
      { actionType := "device.payment", riskLevel := .financial, capabilityDomain := "device" },
      { actionType := "secret.export", riskLevel := .forbidden, capabilityDomain := "core" }] }
    registry := { providers := [
      { id := "stub", actionTypes := ["stub.noop", "fs.write", "device.payment"] }] }
    settings := {
      confirmationTtlSeconds := 300, confirmationTtlStrongSeconds := 120
      providerTimeoutSeconds := .finite 30, providerResultMaxBytes := 524288
      appVersion := "0" }
    retryPolicy := {}
    circuitBreaker := {}
    dualApprovalService := true
    validateParamSchema := fun _ _ => .ok () }

/-- A provider that validates everything and succeeds at the first attempt. -/
def dispatchEnv : DispatchEnv :=
  { validateAnswer := .ok ()
    validateOverrun := false
    attempts := {
      answer := fun _ => .ok (.actionResult true "done" [])
      clock := fun _ => { before := .finite 0, after := .finite 0 } }
    executeOverrun := false
    monotonic := .finite 0
    gateClock := 0
    outcomeClock := 0 }

/-- Everything commits; the engine is the permission engine of the catalog. -/
def env : CallEnv :=
  { now := { microseconds := 0, inRange := zero_inRange }
    markedAt := { microseconds := 0, inRange := zero_inRange }
    approvedAt := { microseconds := 0, inRange := zero_inRange }
    identifier := "confirmation"
    token := "phrase"
    engine := fun action policy => .ok (evaluate config.catalog action policy)
    transactionFailure := none
    recordFailure := none
    dispatch := dispatchEnv }

def start : ServiceState := initialState [defaultPolicy] [] fun _ => {}

def write : Action := { actionType := "fs.write", params := [("path", .str "notes.txt")] }

def request : Call := { operation := .request write { actorId := "alice" }, env }

def approve : ApproveCall :=
  { confirmationId := "confirmation", action := write, ctx := { actorId := "alice" } }

/-- Alice requests a write and approves it. -/
def consumed : List Call := [request, { operation := .approve approve, env }]

end Demo

/-! ## What one call can do to a confirmation -/

section Rows

variable {config : Config} {state : ServiceState} {call : Call}

/-- A committed `approve` closes the confirmation without looking at its status,
because an action is forbidden or the caller is another actor. -/
structure Overrules (config : Config) (call : Call) (id : String)
    (row : PendingConfirmation) : Prop where
  approves : ∃ approveCall, call.operation = .approve approveCall ∧
    approveCall.confirmationId = id ∧
    ((config.forbidden row.actionType = true ∨
      config.forbidden approveCall.action.actionType = true) ∨ belongsToAnother row approveCall)
  committed : call.env.transactionFailure = none

/-- A committed `approve` consumes the confirmation. -/
structure Consumes (config : Config) (state : ServiceState) (call : Call) (id : String)
    (row : PendingConfirmation) (approveCall : ApproveCall) : Prop where
  operation_eq : call.operation = .approve approveCall
  id_eq : approveCall.confirmationId = id
  committed : call.env.transactionFailure = none
  accepted : Accepted config call.env approveCall row
  dispatches : (step config state call).2.dispatches = true
  approvals : ∃ after, Granted approveCall state.db after ∧
    (requiresDualApproval row.riskLevel = true → DualApproved after id approveCall.ctx.actorId) ∧
    (step config state call).1.db.approvals = after.approvals

/-- A committed `request` creates the confirmation. -/
structure Creates (config : Config) (state : ServiceState) (call : Call) (id : String)
    (action : Action) (ctx : ExecutionContext) (row : PendingConfirmation) : Prop where
  operation_eq : call.operation = .request action ctx
  identifier_eq : call.env.identifier = id
  permitted : config.forbidden action.actionType = false
  decided : call.env.engine action (currentPolicy state.db.policies) = .ok row.decision
  confirms : row.decision = .confirm ∨ row.decision = .confirmStrong
  catalogued : (config.catalog.get action.actionType).map ActionSpec.riskLevel =
    some row.riskLevel
  created : ∃ challenge, CreatedConfirmation config call.env.now call.env.token action
    row.riskLevel row.decision (((currentPolicy state.db.policies).map Policy.version).getD 0)
    row challenge ∧
    ∃ response, (step config state call).2.reply = .execution (.ok response) ∧
      response.confirmationId = some id ∧ response.challenge = challenge ∧
      response.decision = row.decision
  actorId_eq : row.actorId = some ctx.actorId

/-- The ways in which one call changes the row of a confirmation. -/
inductive RowStep (config : Config) (state : ServiceState) (call : Call) (id : String) :
    Option PendingConfirmation → Option PendingConfirmation → Prop where
  | same (row : Option PendingConfirmation) : RowStep config state call id row row
  | created (action : Action) (ctx : ExecutionContext) (row : PendingConfirmation) :
      Creates config state call id action ctx row → RowStep config state call id none (some row)
  | closed (row : PendingConfirmation) (status : Status) (at_ : String) :
      row.status = .pending → status = .denied ∨ status = .expired →
      RowStep config state call id (some row) (some (row.marked status at_))
  | consumed (row : PendingConfirmation) (approveCall : ApproveCall) (at_ : String) :
      Consumes config state call id row approveCall →
      RowStep config state call id (some row) (some (row.marked .used at_))
  | overruled (row : PendingConfirmation) (at_ : String) :
      Overrules config call id row →
      RowStep config state call id (some row) (some (row.marked .denied at_))

theorem DispatchedAfter.dispatches {db : Database} {entry : AuditEntry} {dispatch : Dispatch}
    {result : ServiceState × CallResult}
    (after : DispatchedAfter config state db entry dispatch result) :
    result.2.output.dispatches = true := by
  obtain ⟨done, dispatched, rfl⟩ := after.dispatched
  obtain ⟨calls, records, events, _⟩ := dispatched.events_eq
  simp [CallResult.output, Output.dispatches, events]

/-- Marking one row leaves the others alone. -/
theorem rowStep_markStatus {db : Database} {marked id : String} {status : Status} {now : Instant}
    (unchanged : db.confirmations = state.db.confirmations)
    (atMarked : ∀ row, state.db.confirmations marked = some row →
      RowStep config state call marked (some row) (some (row.marked status (utcnowIso now)))) :
    RowStep config state call id (state.db.confirmations id)
      ((db.markStatus marked status now).confirmations id) := by
  by_cases same : id = marked
  · subst id
    cases stored : state.db.confirmations marked with
    | none =>
        have missing : db.confirmations marked = none := by rw [unchanged, stored]
        simp only [Database.markStatus, missing]
        exact .same none
    | some row =>
        rw [Database.markStatus_confirmations_self (by rw [unchanged, stored])]
        exact atMarked row stored
  · rw [Database.markStatus_confirmations_ne _ _ _ same, unchanged]
    exact .same _

theorem step_row (config : Config) (state : ServiceState) (call : Call) (id : String) :
    RowStep config state call id (state.db.confirmations id)
      ((step config state call).1.db.confirmations id) := by
  obtain ⟨operation, env⟩ := call
  cases operation with
  | request action ctx =>
      have reached : step config state ⟨.request action ctx, env⟩ =
        ((request config env state action ctx).1,
          (request config env state action ctx).2.output) := rfl
      cases request_cases config env state action ctx with
      | raised failure result | refused entry response result =>
          rw [reached, result]
          exact .same _
      | created riskLevel decision row challenge entry response permitted decided confirms
          catalogued fresh created actor identifier handedOut answered result =>
          by_cases same : id = env.identifier
          · subst id
            have stored : (step config state ⟨.request action ctx, env⟩).1.db.confirmations
                env.identifier = some row := by
              rw [reached, result]
              exact Database.putConfirmation_confirmations_self ..
            rw [stored, fresh]
            refine .created action ctx row ⟨rfl, rfl, permitted, ?_, ?_, ?_, ?_, actor⟩
            · rw [created.decision_eq]
              exact decided
            · rw [created.decision_eq]
              exact confirms
            · rw [created.riskLevel_eq]
              exact catalogued
            · rw [created.decision_eq, created.riskLevel_eq]
              refine ⟨challenge, created, response, ?_, identifier, handedOut, answered⟩
              rw [reached, result]
              rfl
          · rw [reached, result]
            change RowStep _ _ _ _ _
              ((state.db.putConfirmation env.identifier row).confirmations id)
            rw [Database.putConfirmation_confirmations_ne _ _ same]
            exact .same _
      | dispatched entry permitted decided after =>
          obtain ⟨done, dispatched, result⟩ := after.dispatched
          rw [reached, result]
          change RowStep _ _ _ _ _ (done.1.db.confirmations id)
          rw [dispatched.confirmations_eq]
          exact .same _
  | approve approveCall =>
      have reached : step config state ⟨.approve approveCall, env⟩ =
        ((approve config env state approveCall).1,
          (approve config env state approveCall).2.output) := rfl
      cases approve_cases config env state approveCall with
      | raised failure result =>
          rw [reached, result]
          exact .same _
      | answered resolution response committed cases verdict result =>
          rw [reached, result]
          change RowStep _ _ _ _ _ (resolution.db.confirmations id)
          generalize stored : state.db.confirmations approveCall.confirmationId = row? at cases
          cases cases with
          | unknown _ db_eq | redundant _ _ _ db_eq =>
              rw [db_eq]
              exact .same _
          | overruled row why _ db_eq =>
              rw [db_eq]
              refine rowStep_markStatus rfl fun other otherStored => ?_
              obtain rfl := Option.some.inj (stored.symm.trans otherStored)
              exact .overruled row _ ⟨⟨approveCall, rfl, rfl, why⟩, committed⟩
          | closed row status pending final _ db_eq =>
              rw [db_eq]
              refine rowStep_markStatus rfl fun other otherStored => ?_
              obtain rfl := Option.some.inj (stored.symm.trans otherStored)
              exact .closed row status _ pending final
          | refused row after accepted granted _ db_eq =>
              rw [db_eq]
              refine rowStep_markStatus granted.confirmations_eq fun other otherStored => ?_
              obtain rfl := Option.some.inj (stored.symm.trans otherStored)
              exact .closed row .denied _ accepted.valid.pending (.inl rfl)
          | awaiting row accepted granted _ =>
              rw [granted.confirmations_eq]
              exact .same _
          | authorized _ _ _ _ _ _ _ authorized =>
              simp [verdict] at authorized
      | dispatched row after entry committed stored accepted granted dual done =>
          obtain ⟨dispatchDone, dispatched, result⟩ := done.dispatched
          have rows : (step config state ⟨.approve approveCall, env⟩).1.db.confirmations =
              (after.markStatus approveCall.confirmationId .used env.markedAt).confirmations := by
            rw [reached, result]
            exact dispatched.confirmations_eq
          have approvals : (step config state ⟨.approve approveCall, env⟩).1.db.approvals =
              after.approvals := by
            rw [reached, result]
            exact dispatched.approvals_eq.trans (Database.markStatus_approvals ..)
          rw [rows]
          refine rowStep_markStatus granted.confirmations_eq fun other otherStored => ?_
          obtain rfl := Option.some.inj (stored.symm.trans otherStored)
          exact .consumed row approveCall _
            ⟨rfl, rfl, committed, accepted, done.dispatches, after, granted, dual, approvals⟩
  | deny denied ctx =>
      have reached : (step config state ⟨.deny denied ctx, env⟩).1 =
        (deny config env state denied ctx).1 := rfl
      cases deny_cases config env state denied ctx with
      | unchanged same _ =>
          rw [reached, same]
          exact .same _
      | closed row entry response stored pending result =>
          rw [reached, result]
          refine rowStep_markStatus (Eq.refl state.db.confirmations) fun other otherStored => ?_
          obtain rfl := Option.some.inj (stored.symm.trans otherStored)
          exact .closed row .denied _ pending (.inl rfl)
  | sweep order =>
      simp only [step, sweepStep]
      split
      · exact .same _
      · cases (state.db.sweep_swept env.now order).confirmations id with
        | inl unchanged =>
            change RowStep _ _ _ _ _ ((state.db.sweep env.now order).confirmations id)
            rw [unchanged]
            exact .same _
        | inr expired =>
            obtain ⟨row, stored, pending, marked⟩ := expired
            change RowStep _ _ _ _ _ ((state.db.sweep env.now order).confirmations id)
            rw [marked, stored]
            exact .closed row .expired _ pending (.inr rfl)
  | operatorApproval approved actorId status body =>
      simp only [step, operatorApproval]
      split
      · exact .same _
      · exact .same _
      · split <;> exact .same _
  | createPolicyVersion document changedBy =>
      simp only [step, createPolicyVersion]
      split <;> exact .same _

end Rows

/-! ## What one call can show -/

section Events

variable {config : Config} {state : ServiceState} {call : Call}

/-- Why a call may dispatch. -/
inductive Authorization (config : Config) (state : ServiceState) (call : Call) :
    Dispatch → Prop where
  | allowed (action : Action) (ctx : ExecutionContext) :
      call.operation = .request action ctx → config.forbidden action.actionType = false →
      call.env.engine action (currentPolicy state.db.policies) = .ok .allow →
      Authorization config state call { action, confirmationId := none, decision := .allow }
  | approved (approveCall : ApproveCall) (row : PendingConfirmation) :
      call.operation = .approve approveCall →
      state.db.confirmations approveCall.confirmationId = some row →
      Consumes config state call approveCall.confirmationId row approveCall →
      Authorization config state call
        { action := approveCall.action, confirmationId := some approveCall.confirmationId,
          decision := row.decision }

/-- The events of a call that dispatches: the committed authorisation, the
dispatch, the calls into the provider and the records of the result. -/
structure DispatchEvents (config : Config) (dispatch : Dispatch) (events : List Event) :
    Prop where
  shape : ∃ entry calls records,
    events = .audited entry :: .dispatched dispatch :: (calls ++ records) ∧
    entry.outcome = .authorized ∧
    entry.Concerns config dispatch.action dispatch.confirmationId ∧
    (∀ event ∈ calls, event.providerCall? = some dispatch) ∧
    (∀ event ∈ records, ∃ record, event = .audited record ∧ record.outcome ≠ .authorized) ∧
    (calls.filterMap Event.executeAnswer?).length ≤
      config.attemptLimit dispatch.action.actionType

/-- The ways in which the events of one call look. -/
inductive StepEvents (config : Config) (state : ServiceState) (call : Call)
    (output : Output) : Prop where
  | recorded :
      (∀ event ∈ output.events, ∃ entry, event = .audited entry) →
      StepEvents config state call output
  | dispatched (dispatch : Dispatch) :
      Authorization config state call dispatch →
      DispatchEvents config dispatch output.events →
      (∀ response, output.reply = .execution (.ok response) →
        response.decision = dispatch.decision) →
      StepEvents config state call output

theorem DispatchedAfter.events {db : Database} {entry : AuditEntry} {dispatch : Dispatch}
    {result : ServiceState × CallResult}
    (after : DispatchedAfter config state db entry dispatch result) :
    DispatchEvents config dispatch result.2.events := by
  obtain ⟨done, dispatched, rfl⟩ := after.dispatched
  obtain ⟨calls, records, events, called, recorded, limited⟩ := dispatched.events_eq
  exact ⟨entry, calls, records, by simp [events], after.outcome_eq, after.concerns, called,
    recorded, limited⟩

theorem DispatchedAfter.decision {db : Database} {entry : AuditEntry} {dispatch : Dispatch}
    {result : ServiceState × CallResult} {response : ExecutionResponse}
    (after : DispatchedAfter config state db entry dispatch result)
    (answered : result.2.answer = .ok response) : response.decision = dispatch.decision := by
  obtain ⟨done, dispatched, rfl⟩ := after.dispatched
  exact dispatched.decision_eq response answered

/-- A call that shows nothing but one committed entry. -/
private theorem StepEvents.single {output : Output} {entry : AuditEntry}
    (events : output.events = [.audited entry]) : StepEvents config state call output := by
  refine .recorded fun event member => ?_
  rw [events] at member
  exact ⟨entry, List.mem_singleton.mp member⟩

/-- A call that shows nothing. -/
private theorem StepEvents.silent {output : Output} (events : output.events = []) :
    StepEvents config state call output :=
  .recorded fun _ member => absurd (events ▸ member) List.not_mem_nil

theorem step_events (config : Config) (state : ServiceState) (call : Call) :
    StepEvents config state call (step config state call).2 := by
  obtain ⟨operation, env⟩ := call
  cases operation with
  | request action ctx =>
      have reached : (step config state ⟨.request action ctx, env⟩).2 =
        (request config env state action ctx).2.output := rfl
      rw [reached]
      cases request_cases config env state action ctx with
      | raised failure result => exact .silent (by rw [result]; rfl)
      | refused entry response result => exact .single (by rw [result]; rfl)
      | created _ _ _ _ _ _ _ _ _ _ _ _ _ _ _ _ result => exact .single (by rw [result]; rfl)
      | dispatched entry permitted decided after =>
          refine .dispatched _ (.allowed action ctx rfl permitted decided) after.events ?_
          intro response answered
          exact after.decision (by simpa [CallResult.output] using answered)
  | approve approveCall =>
      have reached : (step config state ⟨.approve approveCall, env⟩).2 =
        (approve config env state approveCall).2.output := rfl
      have approvalsReached : (step config state ⟨.approve approveCall, env⟩).1 =
        (approve config env state approveCall).1 := rfl
      rw [reached]
      cases approve_cases config env state approveCall with
      | raised failure result => exact .silent (by rw [result]; rfl)
      | answered _ _ _ _ _ result => exact .single (by rw [result]; rfl)
      | dispatched row after entry committed stored accepted granted dual done =>
          obtain ⟨dispatchDone, dispatched, result⟩ := done.dispatched
          have approvals : (step config state ⟨.approve approveCall, env⟩).1.db.approvals =
              after.approvals := by
            rw [approvalsReached, result]
            exact dispatched.approvals_eq.trans (Database.markStatus_approvals ..)
          refine .dispatched _ (.approved approveCall row rfl stored
            ⟨rfl, rfl, committed, accepted, done.dispatches, after, granted, dual, approvals⟩)
            done.events ?_
          intro response answered
          exact done.decision (by simpa [CallResult.output] using answered)
  | deny denied ctx =>
      have reached : (step config state ⟨.deny denied ctx, env⟩).2 =
        (deny config env state denied ctx).2.output := rfl
      rw [reached]
      cases deny_cases config env state denied ctx with
      | unchanged _ events => exact .silent events
      | closed _ _ _ _ _ result => exact .single (by rw [result]; rfl)
  | sweep order =>
      simp only [step, sweepStep]
      split <;> exact .silent rfl
  | operatorApproval approved actorId status body =>
      simp only [step, operatorApproval]
      split
      · exact .silent rfl
      · exact .silent rfl
      · split <;> exact .silent rfl
  | createPolicyVersion document changedBy =>
      simp only [step, createPolicyVersion]
      split
      · exact .silent rfl
      · exact .single rfl

/-- A call that dispatches has authorised its dispatch. -/
theorem authorization_of_dispatches
    (dispatches : (step config state call).2.dispatches = true) :
    ∃ dispatch, Authorization config state call dispatch := by
  cases step_events config state call with
  | recorded audits =>
      simp only [Output.dispatches, List.any_eq_true] at dispatches
      obtain ⟨event, member, isDispatch⟩ := dispatches
      obtain ⟨entry, rfl⟩ := audits event member
      simp at isDispatch
  | dispatched dispatch authorization _ _ => exact ⟨dispatch, authorization⟩

/-- An `approve` that dispatches consumes a stored confirmation. -/
theorem consumes_of_dispatches {approveCall : ApproveCall}
    (approves : call.operation = .approve approveCall)
    (dispatches : (step config state call).2.dispatches = true) :
    ∃ row, state.db.confirmations approveCall.confirmationId = some row ∧
      Consumes config state call approveCall.confirmationId row approveCall := by
  obtain ⟨dispatch, authorization⟩ := authorization_of_dispatches dispatches
  cases authorization with
  | allowed _ _ requests _ _ => simp [approves] at requests
  | approved other row operation stored consumes =>
      rw [approves] at operation
      obtain rfl := Operation.approve.inj operation
      exact ⟨row, stored, consumes⟩

end Events

/-! ## What one call can do to the approvals -/

section Approvals

variable {config : Config} {state : ServiceState} {call : Call}

/-- The ways in which one call changes the stored approvals. -/
inductive ApprovalStep (config : Config) (state : ServiceState) (call : Call) :
    List ConfirmationApproval → Prop where
  | same : ApprovalStep config state call state.db.approvals
  | granted (approval : ConfirmationApproval) :
      approval.status = .granted →
      ApprovalStep config state call (state.db.approvals ++ [approval])
  | operator (approval : ConfirmationApproval) (row : PendingConfirmation)
      (body : Option (Option String × Option String)) :
      call.operation = .operatorApproval approval.confirmationId approval.actorId
        approval.status body →
      (step config state call).2.reply = .operator (.ok (.ok approval)) →
      state.db.confirmations approval.confirmationId = some row → row.status = .pending →
      ApprovalStep config state call (state.db.approvals ++ [approval])

theorem Granted.approvalStep {approveCall : ApproveCall} {after : Database}
    (granted : Granted approveCall state.db after) :
    ApprovalStep config state call after.approvals := by
  cases granted with
  | already => exact .same
  | now approval _ _ status => exact .granted approval status

theorem step_approvals (config : Config) (state : ServiceState) (call : Call) :
    ApprovalStep config state call (step config state call).1.db.approvals := by
  obtain ⟨operation, env⟩ := call
  cases operation with
  | request action ctx =>
      have reached : (step config state ⟨.request action ctx, env⟩).1 =
        (request config env state action ctx).1 := rfl
      rw [reached]
      cases request_cases config env state action ctx with
      | raised failure result | refused entry response result
      | created _ _ _ _ _ _ _ _ _ _ _ _ _ _ _ _ result =>
          rw [result]
          exact .same
      | dispatched entry permitted decided after =>
          obtain ⟨done, dispatched, result⟩ := after.dispatched
          rw [result]
          change ApprovalStep _ _ _ done.1.db.approvals
          rw [dispatched.approvals_eq]
          exact .same
  | approve approveCall =>
      have reached : (step config state ⟨.approve approveCall, env⟩).1 =
        (approve config env state approveCall).1 := rfl
      rw [reached]
      cases approve_cases config env state approveCall with
      | raised failure result =>
          rw [result]
          exact .same
      | answered resolution response committed cases verdict result =>
          rw [result]
          change ApprovalStep _ _ _ resolution.db.approvals
          generalize state.db.confirmations approveCall.confirmationId = row? at cases
          cases cases with
          | unknown _ db_eq | redundant _ _ _ db_eq =>
              rw [db_eq]
              exact .same
          | overruled _ _ _ db_eq | closed _ _ _ _ _ db_eq =>
              rw [db_eq, Database.markStatus_approvals]
              exact .same
          | refused row after accepted granted _ db_eq =>
              rw [db_eq, Database.markStatus_approvals]
              exact granted.approvalStep
          | awaiting row accepted granted _ => exact granted.approvalStep
          | authorized _ _ _ _ _ _ _ authorized => simp [verdict] at authorized
      | dispatched row after entry committed stored accepted granted dual done =>
          obtain ⟨dispatchDone, dispatched, result⟩ := done.dispatched
          rw [result]
          change ApprovalStep _ _ _ dispatchDone.1.db.approvals
          rw [dispatched.approvals_eq]
          change ApprovalStep _ _ _ (Database.markStatus ..).approvals
          rw [Database.markStatus_approvals]
          exact granted.approvalStep
  | deny denied ctx =>
      have reached : (step config state ⟨.deny denied ctx, env⟩).1 =
        (deny config env state denied ctx).1 := rfl
      rw [reached]
      cases deny_cases config env state denied ctx with
      | unchanged same _ =>
          rw [same]
          exact .same
      | closed row entry response stored pending result =>
          rw [result]
          change ApprovalStep _ _ _ (Database.markStatus ..).approvals
          rw [Database.markStatus_approvals]
          exact .same
  | sweep order =>
      simp only [step, sweepStep]
      split
      · exact .same
      · change ApprovalStep _ _ _ (state.db.sweep env.now order).approvals
        rw [(state.db.sweep_swept env.now order).approvals_eq]
        exact .same
  | operatorApproval approved actorId status body =>
      simp only [step, operatorApproval]
      split
      · exact .same
      · exact .same
      next approval recorded =>
        split
        · exact .same
        next committed =>
          have facts := recordApproval_ok recorded
          obtain ⟨row, stored, pending⟩ := facts.stored
          refine .operator approval row body ?_ ?_ ?_ pending
          · rw [facts.confirmationId_eq, facts.actorId_eq, facts.status_eq]
          · simp only [step, operatorApproval, recorded, committed]
          · rw [facts.confirmationId_eq]
            exact stored
  | createPolicyVersion document changedBy =>
      simp only [step, createPolicyVersion]
      split <;> exact .same

/-- Stored approvals stay. -/
theorem step_approvals_mono {approval : ConfirmationApproval}
    (stored : approval ∈ state.db.approvals) :
    approval ∈ (step config state call).1.db.approvals := by
  have changed := step_approvals config state call
  generalize (step config state call).1.db.approvals = after at changed
  cases changed with
  | same => exact stored
  | granted _ _ | operator _ _ _ _ _ _ _ => exact List.mem_append_left _ stored

end Approvals

end Era.Services
