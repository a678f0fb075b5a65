import Mathlib.Data.List.Dedup
import Era.Services.Confirmation

/-!
# Dual approval of financial and booking confirmations

Each actor may grant or deny a confirmation once.  A financial or booking
confirmation can be dispatched with exactly two granting actors and no denial.
-/

namespace Era.Services

open Era.Core Era.Security

/-- `requires_dual_approval`. -/
def requiresDualApproval (riskLevel : RiskLevel) : Bool :=
  riskLevel = .financial || riskLevel = .booking

def requiredApprovals (riskLevel : RiskLevel) : Nat :=
  if requiresDualApproval riskLevel then 2 else 1

/-- The exceptions of the dual-approval service. -/
inductive DualApprovalError where
  | unknownConfirmation
  | confirmationNotPending
  | approvalAlreadyExists (actorId : String) (status : ApprovalStatus)
  | approvalNotRequired
  deriving DecidableEq, Repr

def DualApprovalError.message (platform : Platform) : DualApprovalError → String
  | .unknownConfirmation => "unknown confirmation"
  | .confirmationNotPending => "confirmation is no longer pending"
  | .approvalAlreadyExists actorId status =>
      "actor " ++ platform.reprString actorId ++ " has already " ++
        (match status with | .granted => "granted" | .denied => "denied") ++
        " this confirmation"
  | .approvalNotRequired => "required approvals are already recorded"

/-- `scalar_one_or_none` refuses a second row. -/
def multipleResultsFound : Raised :=
  .exception "MultipleResultsFound" "Multiple rows were found when one or none was required"

/-- `ConfirmationApprovalRepo.get_by_actor`, and `existing_approval_in_session`. -/
def Database.approvalByActor (db : Database) (id actorId : String) :
    Except Raised (Option ConfirmationApproval) :=
  match (db.approvalsFor id).filter fun approval => approval.actorId == actorId with
  | [] => .ok none
  | [approval] => .ok (some approval)
  | _ => .error multipleResultsFound

/-- How recording an approval fails. -/
inductive RecordFailure where
  | dualApproval (error : DualApprovalError)
  | raised (failure : Raised)

/-- `record_approval_in_session`, for the row that the session sees under the
confirmation id. -/
def recordApproval (db : Database) (row : Option PendingConfirmation) (id actorId : String)
    (status : ApprovalStatus) (contextHash : Option String) (now : Instant) :
    Except RecordFailure ConfirmationApproval :=
  match row with
  | none => .error (.dualApproval .unknownConfirmation)
  | some row =>
      if row.status ≠ .pending then .error (.dualApproval .confirmationNotPending)
      else
        match db.approvalByActor id actorId with
        | .error failure => .error (.raised failure)
        | .ok (some existing) =>
            .error (.dualApproval (.approvalAlreadyExists actorId existing.status))
        | .ok none =>
            if requiredApprovals row.riskLevel ≤ (db.approvalsFor id).length then
              .error (.dualApproval .approvalNotRequired)
            else
              .ok {
                confirmationId := id
                actorId
                status
                sequence := (db.approvalsFor id).length + 1
                contextHash
                createdAt := utcnowIso now }

/-- The actors that granted a confirmation, each once. -/
def grantingActors (approvals : List ConfirmationApproval) : List String :=
  ((approvals.filter fun approval => approval.status = .granted).map
    ConfirmationApproval.actorId).dedup

/-- Whether some actor denied. -/
def anyDenied (approvals : List ConfirmationApproval) : Bool :=
  approvals.any fun approval => approval.status = .denied

/-- `state_in_session`: `(dispatchable, denied)`. -/
def approvalState (db : Database) (id : String) (riskLevel : RiskLevel) : Bool × Bool :=
  let approvals := db.approvalsFor id
  let denied := anyDenied approvals
  let granted := (grantingActors approvals).length
  let dispatchable :=
    if requiresDualApproval riskLevel then granted = requiredApprovals riskLevel
    else requiredApprovals riskLevel ≤ granted
  (!denied && dispatchable, denied)

/-- `build_context_hash`. -/
def buildContextHash (platform : Platform) (ip userAgent : Option String) : String :=
  platform.sha256Hex (ip.getD "" ++ ":" ++ userAgent.getD "")

/-! ## What the functions guarantee -/

theorem mem_grantingActors {approvals : List ConfirmationApproval} {actorId : String} :
    actorId ∈ grantingActors approvals ↔
      ∃ approval ∈ approvals, approval.status = .granted ∧ approval.actorId = actorId := by
  simp [grantingActors, and_assoc]

theorem anyDenied_eq_false {approvals : List ConfirmationApproval} :
    anyDenied approvals = false ↔ ∀ approval ∈ approvals, approval.status = .granted := by
  have granted_iff : ∀ status : ApprovalStatus, ¬status = .denied ↔ status = .granted := by
    intro status
    cases status <;> simp
  simp [anyDenied, granted_iff]

/-- What is known of an approval that has been recorded. -/
structure RecordedApproval (db : Database) (row : Option PendingConfirmation)
    (id actorId : String) (status : ApprovalStatus) (approval : ConfirmationApproval) : Prop where
  stored : ∃ pending, row = some pending ∧ pending.status = .pending
  confirmationId_eq : approval.confirmationId = id
  actorId_eq : approval.actorId = actorId
  status_eq : approval.status = status

theorem recordApproval_ok {db : Database} {row : Option PendingConfirmation}
    {id actorId : String} {status : ApprovalStatus} {contextHash : Option String}
    {now : Instant} {approval : ConfirmationApproval}
    (recorded : recordApproval db row id actorId status contextHash now = .ok approval) :
    RecordedApproval db row id actorId status approval := by
  unfold recordApproval at recorded
  cases row with
  | none => simp at recorded
  | some row =>
      simp only at recorded
      split at recorded
      · simp at recorded
      next pending =>
        split at recorded
        · simp at recorded
        · simp at recorded
        · split at recorded
          · simp at recorded
          · obtain rfl := Except.ok.inj recorded
            exact ⟨⟨row, rfl, not_not.mp pending⟩, rfl, rfl, rfl⟩

/-- An approval found for an actor is one of the stored approvals. -/
theorem Database.approvalByActor_some {db : Database} {id actorId : String}
    {approval : ConfirmationApproval}
    (found : db.approvalByActor id actorId = .ok (some approval)) :
    approval ∈ db.approvalsFor id ∧ approval.actorId = actorId := by
  unfold Database.approvalByActor at found
  split at found
  · simp at found
  next stored single =>
    obtain rfl := Option.some.inj (Except.ok.inj found)
    have member : stored ∈ (db.approvalsFor id).filter
        fun candidate => candidate.actorId == actorId := by simp [single]
    simpa using member
  · simp at found

theorem Database.mem_approvalsFor {db : Database} {id : String}
    {approval : ConfirmationApproval} :
    approval ∈ db.approvalsFor id ↔ approval ∈ db.approvals ∧ approval.confirmationId = id := by
  simp [Database.approvalsFor]

/-- A dual-approved confirmation that can be dispatched has exactly two granting
actors and no denial. -/
theorem approvalState_dispatchable {db : Database} {id : String} {riskLevel : RiskLevel}
    (dual : requiresDualApproval riskLevel = true)
    (dispatchable : (approvalState db id riskLevel).1 = true) :
    anyDenied (db.approvalsFor id) = false ∧
      (grantingActors (db.approvalsFor id)).length = 2 := by
  simpa [approvalState, dual, requiredApprovals] using dispatchable

end Era.Services
