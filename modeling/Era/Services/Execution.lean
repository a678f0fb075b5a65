import Era.Services.Dispatch
import Era.Services.DualApproval

/-!
# The execution service

`request` evaluates an action, `approve` consumes a confirmation and `deny`
closes one.  Each authorises in one transaction and dispatches only after that
transaction has been committed.  A transaction that fails, for whatever reason,
leaves the tables as they were.
-/

namespace Era.Services

open Era.Core Era.Security

/-- What one public call does not compute itself: clock readings, random
identifiers, the permission engine, the failures of its transactions and the
surroundings of its dispatch. -/
structure CallEnv where
  /-- Clock of `create`, `validate` and `sweep`. -/
  now : Instant
  /-- Clock of `mark_status`. -/
  markedAt : Instant
  /-- Clock of `record_approval_in_session`. -/
  approvedAt : Instant
  identifier : String
  token : String
  /-- The engine's decision, or the type name of the exception it raises. -/
  engine : Action → Option Policy → Except String Decision
  transactionFailure : Option Raised
  recordFailure : Option Raised
  dispatch : DispatchEnv

section Operations

variable (config : Config)

/-- A call that ends with an exception before anything is committed. -/
def raised (state : ServiceState) (failure : Raised) : ServiceState × CallResult :=
  (state, { answer := .error failure, events := [] })

/-- Commit tables and an audit entry, then answer. -/
def commitAnswer (env : CallEnv) (state : ServiceState) (db : Database) (entry : AuditEntry)
    (response : ExecutionResponse) : ServiceState × CallResult :=
  match env.transactionFailure with
  | some failure => raised state failure
  | none =>
      ({ state with db := db.appendAudit entry },
        { answer := .ok response, events := [.audited entry] })

/-- Commit tables and an `AUTHORIZED` entry, then dispatch outside the
transaction. -/
def commitDispatch (env : CallEnv) (state : ServiceState) (db : Database) (entry : AuditEntry)
    (dispatch : Dispatch) (ctx : ExecutionContext) (policyVersion : Int) :
    ServiceState × CallResult :=
  match env.transactionFailure with
  | some failure => raised state failure
  | none =>
      let done := dispatchAndRecord config env.dispatch env.recordFailure
        { state with db := db.appendAudit entry } dispatch ctx policyVersion
      (done.1, { done.2 with events := .audited entry :: done.2.events })

/-! ## request -/

/-- `_require_confirmation`. -/
def requireConfirmation (env : CallEnv) (state : ServiceState) (action : Action)
    (ctx : ExecutionContext) (decision : Decision) (policyVersion : Int) :
    ServiceState × CallResult :=
  let found := config.meta action.actionType ctx
  match found.riskLevel with
  | none =>
      raised state (.exception "AttributeError" "'NoneType' object has no attribute 'value'")
  | some riskLevel =>
      match createConfirmation config env.now env.token action riskLevel decision
          policyVersion with
      | .error failure => raised state failure
      | .ok (row, challenge) =>
          match state.db.confirmations env.identifier with
          | some _ => raised state (.exception "IntegrityError" "UNIQUE constraint failed")
          | none =>
              let bound := { row with
                actorId := some ctx.actorId, executionScope := ctx.executionScope }
              commitAnswer env state (state.db.putConfirmation env.identifier bound)
                (config.auditEntry {
                  action, ctx, riskLevel := some riskLevel, decision
                  outcome := .pending
                  policyVersion
                  confirmationId := some env.identifier
                  providerId := found.providerId
                  capabilityDomain := found.capabilityDomain
                  credentialRef := found.credentialRef })
                { status := .confirmationRequired, decision
                  confirmationId := some env.identifier, challenge }

/-- `ExecutionService.request`. -/
def request (env : CallEnv) (state : ServiceState) (action : Action)
    (ctx : ExecutionContext) : ServiceState × CallResult :=
  let policy := currentPolicy state.db.policies
  let policyVersion := (policy.map Policy.version).getD 0
  let found := config.meta action.actionType ctx
  let entry (riskLevel : Option RiskLevel) (decision : Decision) (outcome : Outcome)
      (result : Option String) : AuditEntry :=
    config.auditEntry {
      action, ctx, riskLevel, decision, outcome, policyVersion, result
      providerId := found.providerId
      capabilityDomain := found.capabilityDomain
      credentialRef := found.credentialRef }
  let refuse (riskLevel : Option RiskLevel) (result : Option String) (message : String) :=
    commitAnswer env state state.db (entry riskLevel .deny .deniedByPolicy result)
      { status := .denied, decision := .deny, message := some message }
  if config.forbidden action.actionType then
    refuse (some .forbidden) (some "forbidden action") "forbidden"
  else
    match env.engine action policy with
    | .error typeName =>
        refuse found.riskLevel (some ("engine error: " ++ typeName)) "engine error (fail closed)"
    | .ok .deny => refuse found.riskLevel none "denied by policy"
    | .ok .allow =>
        commitDispatch config env state state.db
          (entry found.riskLevel .allow .authorized none)
          { action, confirmationId := none, decision := .allow } ctx policyVersion
    | .ok decision => requireConfirmation config env state action ctx decision policyVersion

/-! ## approve -/

/-- The arguments of `approve`. -/
structure ApproveCall where
  confirmationId : String
  action : Action
  ctx : ExecutionContext
  challenge : Option String := none
  allowCrossActor : Bool := false

/-- What the transaction of `approve` decides. -/
inductive Verdict where
  | answered (response : ExecutionResponse)
  | authorized (decision : Decision) (policyVersion : Int) (ctx : ExecutionContext)

/-- What the transaction of `approve` writes and decides. -/
structure Resolution where
  db : Database
  entry : AuditEntry
  verdict : Verdict

/-- Python's `left or right` on optional strings. -/
def pyOr (left right : Option String) : Option String :=
  match left with
  | some text => if text = "" then right else some text
  | none => right

/-- The confirmation is bound to another actor than the caller, who may not act
across actors. -/
def belongsToAnother (row : PendingConfirmation) (call : ApproveCall) : Prop :=
  call.allowCrossActor = false ∧ row.actorId ≠ none ∧ row.actorId ≠ some call.ctx.actorId

instance (row : PendingConfirmation) (call : ApproveCall) :
    Decidable (belongsToAnother row call) :=
  inferInstanceAs (Decidable (_ ∧ _))

/-- How the dual-approval branch goes on. -/
inductive DualVerdict where
  | refused (outcome : Outcome) (result : String)
  | awaiting
  | passed

/-- The dual-approval branch of `approve`, up to its verdict on the approvals
stored by then. -/
def dualApproval (env : CallEnv) (call : ApproveCall) (row : PendingConfirmation)
    (db : Database) : Except Raised (Database × DualVerdict) :=
  let verdict (db : Database) : Except Raised (Database × DualVerdict) :=
    let (dispatchable, denied) := approvalState db call.confirmationId row.riskLevel
    if denied then .ok (db, .refused .deniedByUser "dual approval denied")
    else if dispatchable then .ok (db, .passed)
    else .ok (db, .awaiting)
  if config.dualApprovalService = false then
    .ok (db, .refused .rejected "dual approval service unavailable")
  else
    match db.approvalByActor call.confirmationId call.ctx.actorId with
    | .error failure => .error failure
    | .ok (some _) => verdict db
    | .ok none =>
        match recordApproval db (some row) call.confirmationId call.ctx.actorId .granted none
            env.approvedAt with
        | .ok approval => verdict (db.addApproval approval)
        | .error (.raised failure) => .error failure
        | .error (.dualApproval (.approvalAlreadyExists _ _)) => verdict db
        | .error (.dualApproval _) =>
            .ok (db, .refused .rejected "dual approval could not be recorded")

/-- The transaction of `approve`, for the row that the session has read. -/
def approveBody (env : CallEnv) (call : ApproveCall) (row : Option PendingConfirmation)
    (db : Database) : Except Raised Resolution :=
  let id := call.confirmationId
  match row with
  | none =>
      .ok {
        db
        entry := config.auditEntry {
          action := call.action
          ctx := call.ctx
          riskLevel := none
          decision := .deny
          outcome := .rejected
          policyVersion := 0
          result := some "unknown confirmation" }
        verdict := .answered {
          status := .denied, decision := .deny, message := some "unknown confirmation" } }
  | some row =>
      let entry (riskLevel : RiskLevel) (decision : Decision) (outcome : Outcome)
          (result : String) : AuditEntry :=
        config.auditEntry {
          action := call.action
          ctx := call.ctx
          riskLevel := some riskLevel
          decision
          outcome
          policyVersion := row.policyVersion
          confirmationId := some id
          result := some result }
      let denied (decision : Decision) (message : String) : Verdict :=
        .answered { status := .denied, decision, message := some message }
      if config.forbidden row.actionType ∨ config.forbidden call.action.actionType then
        .ok {
          db := db.markStatus id .denied env.markedAt
          entry := entry .forbidden .deny .deniedByPolicy "forbidden action"
          verdict := denied .deny "forbidden" }
      else if belongsToAnother row call then
        .ok {
          db := db.markStatus id .denied env.markedAt
          entry := entry row.riskLevel row.decision .rejected
            "confirmation belongs to another actor"
          verdict := denied row.decision "denied" }
      else
        match validateConfirmation config env.now row call.action call.challenge with
        | .error reason =>
            if row.status ∈ [Status.used, .denied, .expired] then
              .ok {
                db
                entry := entry row.riskLevel row.decision .rejected
                  ("redundant resolution attempt: " ++ reason)
                verdict := denied row.decision reason }
            else
              .ok {
                db := db.markStatus id (if reason = "expired" then .expired else .denied)
                  env.markedAt
                entry := entry row.riskLevel row.decision
                  (if reason = "expired" then .expired else .rejected) reason
                verdict := denied row.decision reason }
        | .ok () =>
            let ctx := { call.ctx with
              executionScope := pyOr row.executionScope call.ctx.executionScope }
            let found := config.meta row.actionType ctx
            let entry (outcome : Outcome) (result : Option String) : AuditEntry :=
              config.auditEntry {
                action := call.action
                ctx
                riskLevel := some row.riskLevel
                decision := row.decision
                outcome
                policyVersion := row.policyVersion
                confirmationId := some id
                result
                providerId := found.providerId
                capabilityDomain := found.capabilityDomain
                credentialRef := found.credentialRef }
            let checked :=
              if requiresDualApproval row.riskLevel then dualApproval config env call row db
              else .ok (db, .passed)
            match checked with
            | .error failure => .error failure
            | .ok (db, .refused outcome result) =>
                .ok {
                  db := db.markStatus id .denied env.markedAt
                  entry := entry outcome (some result)
                  verdict := denied row.decision "denied" }
            | .ok (db, .awaiting) =>
                .ok {
                  db
                  entry := entry .pending (some "awaiting a distinct secondary approval")
                  verdict := .answered {
                    status := .awaitingApproval
                    decision := row.decision
                    confirmationId := some id
                    message := some "awaiting a distinct secondary approval" } }
            | .ok (db, .passed) =>
                .ok {
                  db := db.markStatus id .used env.markedAt
                  entry := entry .authorized none
                  verdict := .authorized row.decision row.policyVersion ctx }

/-- Commit what the transaction of `approve` has come to, and dispatch if it
authorises. -/
def finishApprove (env : CallEnv) (state : ServiceState) (call : ApproveCall)
    (body : Except Raised Resolution) : ServiceState × CallResult :=
  match body with
  | .error failure => raised state failure
  | .ok resolution =>
      match resolution.verdict with
      | .answered response => commitAnswer env state resolution.db resolution.entry response
      | .authorized decision policyVersion ctx =>
          commitDispatch config env state resolution.db resolution.entry
            { action := call.action, confirmationId := some call.confirmationId, decision }
            ctx policyVersion

/-- `ExecutionService.approve`. -/
def approve (env : CallEnv) (state : ServiceState) (call : ApproveCall) :
    ServiceState × CallResult :=
  finishApprove config env state call
    (approveBody config env call (state.db.confirmations call.confirmationId) state.db)

/-! ## deny -/

/-- `ExecutionService.deny`. -/
def deny (env : CallEnv) (state : ServiceState) (id : String) (ctx : ExecutionContext) :
    ServiceState × CallResult :=
  let denied (decision : Decision) (message : String) : ServiceState × CallResult :=
    (state, {
      answer := .ok { status := .denied, decision, message := some message }, events := [] })
  match state.db.confirmations id with
  | none => denied .deny "unknown confirmation"
  | some row =>
      if row.status ≠ .pending then denied row.decision ("already " ++ row.status.value)
      else if row.actorId ≠ none ∧ row.actorId ≠ some ctx.actorId then denied row.decision "denied"
      else
        let found := config.meta row.actionType ctx
        commitAnswer env state (state.db.markStatus id .denied env.markedAt)
          (config.auditEntry {
            action := { actionType := row.actionType, params := row.actionParamsRedacted }
            ctx
            riskLevel := some row.riskLevel
            decision := row.decision
            outcome := .deniedByUser
            policyVersion := row.policyVersion
            confirmationId := some id
            providerId := found.providerId
            capabilityDomain := found.capabilityDomain
            credentialRef := found.credentialRef })
          { status := .denied, decision := row.decision, message := some "denied by user" }

end Operations

end Era.Services
