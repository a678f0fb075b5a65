import Mathlib.Logic.Function.Basic
import Era.Core.CircuitBreaker
import Era.Core.Clock
import Era.Core.Platform
import Era.Security.Redaction
import Era.Security.Validation
import Era.Services.Policy

/-!
# Configuration, stored rows and the audit writer

The database holds the tables that the execution path reads and writes.  The
audit log only grows, and the audit service is its only writer.
-/

namespace Era.Services

open Era.Core Era.Security

/-! ## Configuration -/

structure Settings where
  confirmationTtlSeconds : Int
  confirmationTtlStrongSeconds : Int
  providerTimeoutSeconds : PyFloat
  providerResultMaxBytes : Int
  appVersion : String

/-- How the schema check of an action's parameters fails. -/
inductive SchemaFailure where
  | validationError (message : String)
  | exception (message : String)

/-- What a container wires together once.  The check of parameters against a
schema is any function. -/
structure Config where
  platform : Platform
  catalog : ActionCatalog
  registry : ToolRegistry
  settings : Settings
  retryPolicy : RetryPolicy
  circuitBreaker : CircuitBreakerConfig
  /-- Whether a dual-approval service has been injected. -/
  dualApprovalService : Bool
  validateParamSchema : Params → Value → Except SchemaFailure Unit

/-- `_forbidden`. -/
def Config.forbidden (config : Config) (actionType : String) : Bool :=
  (config.catalog.get actionType).any fun spec => spec.riskLevel = .forbidden

/-- What `_meta` looks up for an action type. -/
structure Meta where
  riskLevel : Option RiskLevel
  capabilityDomain : Option String
  providerId : Option String
  credentialRef : Option String

/-- `_credential_ref`. -/
def credentialRef (ctx : ExecutionContext) (domain : Option String) : Option String :=
  match domain with
  | some domain =>
      if domain = "" then ctx.credentials.head?.map Prod.snd
      else (ctx.credentials.lookup domain).or (ctx.credentials.head?.map Prod.snd)
  | none => ctx.credentials.head?.map Prod.snd

/-- `_meta`. -/
def Config.meta (config : Config) (actionType : String) (ctx : ExecutionContext) : Meta :=
  let spec := config.catalog.get actionType
  let domain := spec.map ActionSpec.capabilityDomain
  { riskLevel := spec.map ActionSpec.riskLevel
    capabilityDomain := domain
    providerId := (config.registry.get actionType).map Provider.id
    credentialRef := credentialRef ctx domain }

/-- The fields of an action that must not reach a log or a stored row. -/
def Config.sensitiveFields (config : Config) (actionType : String) : List String :=
  sensitiveFieldsForAction actionType
    (((config.catalog.get actionType).map ActionSpec.secretFields).getD [])

/-! ## Rows -/

/-- A row of `pending_confirmation`; its primary key is the key of the table. -/
structure PendingConfirmation where
  actorId : Option String
  executionScope : Option String
  actionType : String
  actionHash : String
  riskLevel : RiskLevel
  decision : Decision
  policyVersion : Int
  challengeHash : Option String
  actionParamsRedacted : Params
  createdAt : String
  expiresAt : String
  usedAt : Option String
  status : Status

/-- A row of `confirmation_approval`. -/
structure ConfirmationApproval where
  confirmationId : String
  actorId : String
  status : ApprovalStatus
  sequence : Nat
  contextHash : Option String
  createdAt : String

/-- `NewAuditEntry`. -/
structure AuditEntry where
  actorId : String
  actionType : String
  actionParams : Params
  riskLevel : String
  decision : Decision
  outcome : Outcome
  policyVersion : Int
  appVersion : String
  confirmationId : Option String
  result : Option String
  errorCode : Option ProviderErrorCode
  providerId : Option String
  capabilityDomain : Option String
  credentialRef : Option String

/-- The tables of the execution path.  Policies and approvals are only ever
added. -/
structure Database where
  confirmations : String → Option PendingConfirmation
  approvals : List ConfirmationApproval
  policies : List Policy
  auditLog : List AuditEntry

namespace Database

/-- `ConfirmationRepo.create`, `update`: write a row under its primary key. -/
def putConfirmation (db : Database) (id : String) (row : PendingConfirmation) : Database :=
  { db with confirmations := Function.update db.confirmations id (some row) }

/-- `ConfirmationApprovalRepo.create`. -/
def addApproval (db : Database) (approval : ConfirmationApproval) : Database :=
  { db with approvals := db.approvals ++ [approval] }

/-- `AuditRepo.append`. -/
def appendAudit (db : Database) (entry : AuditEntry) : Database :=
  { db with auditLog := db.auditLog ++ [entry] }

/-- `ConfirmationApprovalRepo.list_for_confirmation`. -/
def approvalsFor (db : Database) (id : String) : List ConfirmationApproval :=
  db.approvals.filter fun approval => approval.confirmationId == id

/-- The status of a stored confirmation. -/
def statusOf (db : Database) (id : String) : Option Status :=
  (db.confirmations id).map PendingConfirmation.status

@[simp] theorem putConfirmation_confirmations_self (db : Database) (id : String)
    (row : PendingConfirmation) : (db.putConfirmation id row).confirmations id = some row :=
  Function.update_self ..

theorem putConfirmation_confirmations_ne (db : Database) {id other : String}
    (row : PendingConfirmation) (different : other ≠ id) :
    (db.putConfirmation id row).confirmations other = db.confirmations other :=
  Function.update_of_ne different ..

@[simp] theorem putConfirmation_approvals (db : Database) (id : String)
    (row : PendingConfirmation) : (db.putConfirmation id row).approvals = db.approvals := rfl

@[simp] theorem putConfirmation_policies (db : Database) (id : String)
    (row : PendingConfirmation) : (db.putConfirmation id row).policies = db.policies := rfl

@[simp] theorem addApproval_confirmations (db : Database) (approval : ConfirmationApproval) :
    (db.addApproval approval).confirmations = db.confirmations := rfl

@[simp] theorem addApproval_approvals (db : Database) (approval : ConfirmationApproval) :
    (db.addApproval approval).approvals = db.approvals ++ [approval] := rfl

@[simp] theorem addApproval_policies (db : Database) (approval : ConfirmationApproval) :
    (db.addApproval approval).policies = db.policies := rfl

@[simp] theorem appendAudit_confirmations (db : Database) (entry : AuditEntry) :
    (db.appendAudit entry).confirmations = db.confirmations := rfl

@[simp] theorem appendAudit_approvals (db : Database) (entry : AuditEntry) :
    (db.appendAudit entry).approvals = db.approvals := rfl

@[simp] theorem appendAudit_policies (db : Database) (entry : AuditEntry) :
    (db.appendAudit entry).policies = db.policies := rfl

end Database

/-! ## The audit writer -/

/-- The arguments of `AuditService.record`. -/
structure AuditRecord where
  action : Action
  ctx : ExecutionContext
  riskLevel : Option RiskLevel
  decision : Decision
  outcome : Outcome
  policyVersion : Int
  confirmationId : Option String := none
  result : Option String := none
  errorCode : Option ProviderErrorCode := none
  providerId : Option String := none
  capabilityDomain : Option String := none
  credentialRef : Option String := none

/-- `AuditService.record`: the entry with redacted and bounded parameters. -/
def Config.auditEntry (config : Config) (fields : AuditRecord) : AuditEntry :=
  { actorId := fields.ctx.actorId
    actionType := fields.action.actionType
    actionParams :=
      capParams (redactParams (config.sensitiveFields fields.action.actionType)
        fields.action.params)
    riskLevel := (fields.riskLevel.map RiskLevel.value).getD "UNKNOWN"
    decision := fields.decision
    outcome := fields.outcome
    policyVersion := fields.policyVersion
    appVersion := config.settings.appVersion
    confirmationId := fields.confirmationId
    result := fields.result
    errorCode := fields.errorCode
    providerId := fields.providerId
    capabilityDomain := fields.capabilityDomain
    credentialRef := fields.credentialRef }

/-- An audit entry is about an action, under a confirmation if there is one. -/
structure AuditEntry.Concerns (config : Config) (entry : AuditEntry) (action : Action)
    (confirmationId : Option String) : Prop where
  actionType_eq : entry.actionType = action.actionType
  actionParams_eq : entry.actionParams =
    capParams (redactParams (config.sensitiveFields action.actionType) action.params)
  confirmationId_eq : entry.confirmationId = confirmationId

theorem Config.auditEntry_concerns (config : Config) (fields : AuditRecord) :
    (config.auditEntry fields).Concerns config fields.action fields.confirmationId :=
  ⟨rfl, rfl, rfl⟩

end Era.Services
