import Era.Security.Hashing
import Era.Services.Storage

/-!
# Confirmation lifecycle

A confirmation is created pending, bound to the fingerprint of an action and to
an expiry time, and is marked with a final status when it is resolved or swept.
-/

namespace Era.Services

open Era.Core Era.Security

variable (config : Config)

/-- The exception of a timestamp outside the calendar. -/
def timestampOverflow : Raised := .exception "OverflowError" "date value out of range"

/-- `ConfirmationService.create`: the new row and the challenge phrase, which is
only handed out here. -/
def createConfirmation (now : Instant) (token : String) (action : Action)
    (riskLevel : RiskLevel) (decision : Decision) (policyVersion : Int) :
    Except Raised (PendingConfirmation × Option String) :=
  let challenge := if decision = .confirmStrong then some token else none
  let ttl := if decision = .confirmStrong then config.settings.confirmationTtlStrongSeconds
    else config.settings.confirmationTtlSeconds
  let createdAt := utcnowIso now
  match addSeconds createdAt ttl with
  | none => .error timestampOverflow
  | some expiresAt =>
      .ok ({
        actorId := none
        executionScope := none
        actionType := action.actionType
        actionHash :=
          actionFingerprint config.platform action.actionType action.params riskLevel
        riskLevel
        decision
        policyVersion
        challengeHash := challenge.map config.platform.sha256Hex
        actionParamsRedacted :=
          redactParams (config.sensitiveFields action.actionType) action.params
        createdAt
        expiresAt
        usedAt := none
        status := .pending }, challenge)

/-- `ConfirmationService.validate`; the error is the reason of the refusal. -/
def validateConfirmation (now : Instant) (row : PendingConfirmation) (action : Action)
    (challenge : Option String) : Except String Unit :=
  if row.status ≠ .pending then .error "already resolved"
  else if row.usedAt.isSome then .error "already used"
  else if row.expiresAt < utcnowIso now then .error "expired"
  else if actionFingerprint config.platform action.actionType action.params row.riskLevel ≠
      row.actionHash then .error "action does not match confirmation (hash mismatch)"
  else if row.decision = .confirmStrong then
    match challenge, row.challengeHash with
    | some phrase, some expected =>
        if phrase = "" then .error "challenge required"
        else if config.platform.sha256Hex phrase ≠ expected then .error "challenge incorrect"
        else .ok ()
    | _, _ => .error "challenge required"
  else .ok ()

/-- Everything a confirmation that passes validation has been checked for. -/
structure ValidConfirmation (now : Instant) (row : PendingConfirmation) (action : Action)
    (challenge : Option String) : Prop where
  pending : row.status = .pending
  unused : row.usedAt = none
  notExpired : ¬row.expiresAt < utcnowIso now
  sameAction : actionFingerprint config.platform action.actionType action.params
    row.riskLevel = row.actionHash
  challenged : row.decision = .confirmStrong →
    ∃ phrase, challenge = some phrase ∧ phrase ≠ "" ∧
      row.challengeHash = some (config.platform.sha256Hex phrase)

variable {config}

theorem validateConfirmation_ok {now : Instant} {row : PendingConfirmation} {action : Action}
    {challenge : Option String}
    (valid : validateConfirmation config now row action challenge = .ok ()) :
    ValidConfirmation config now row action challenge := by
  unfold validateConfirmation at valid
  split at valid
  · simp at valid
  next pending =>
    split at valid
    · simp at valid
    next unused =>
      split at valid
      · simp at valid
      next notExpired =>
        split at valid
        · simp at valid
        next sameAction =>
          refine ⟨not_not.mp pending, by simpa using unused, notExpired, not_not.mp sameAction, ?_⟩
          intro strong
          rw [if_pos strong] at valid
          cases challenge with
          | none => simp at valid
          | some phrase =>
              cases hash : row.challengeHash with
              | none => simp [hash] at valid
              | some expected =>
                  simp only [hash] at valid
                  split at valid
                  · simp at valid
                  next nonempty =>
                    split at valid
                    · simp at valid
                    next same => exact ⟨phrase, rfl, nonempty, by rw [not_not.mp same]⟩

theorem ValidConfirmation.validate {now : Instant} {row : PendingConfirmation}
    {action : Action} {challenge : Option String}
    (valid : ValidConfirmation config now row action challenge) :
    validateConfirmation config now row action challenge = .ok () := by
  simp only [validateConfirmation, valid.pending, valid.unused, valid.notExpired,
    valid.sameAction, ne_eq, not_true_eq_false, if_false, Option.isSome_none, Bool.false_eq_true]
  split
  next strong =>
    obtain ⟨phrase, rfl, nonempty, hash⟩ := valid.challenged strong
    simp [hash, nonempty]
  · rfl

/-- What `create` puts into the row. -/
structure CreatedConfirmation (config : Config) (now : Instant) (token : String)
    (action : Action) (riskLevel : RiskLevel) (decision : Decision) (policyVersion : Int)
    (row : PendingConfirmation) (challenge : Option String) : Prop where
  actionType_eq : row.actionType = action.actionType
  actionHash_eq : row.actionHash =
    actionFingerprint config.platform action.actionType action.params riskLevel
  riskLevel_eq : row.riskLevel = riskLevel
  decision_eq : row.decision = decision
  policyVersion_eq : row.policyVersion = policyVersion
  challenge_eq : challenge = if decision = .confirmStrong then some token else none
  challengeHash_eq : row.challengeHash = challenge.map config.platform.sha256Hex
  expiresAt_eq : addSeconds (utcnowIso now)
    (if decision = .confirmStrong then config.settings.confirmationTtlStrongSeconds
      else config.settings.confirmationTtlSeconds) = some row.expiresAt
  usedAt_eq : row.usedAt = none
  status_eq : row.status = .pending

theorem createConfirmation_ok {now : Instant} {token : String} {action : Action}
    {riskLevel : RiskLevel} {decision : Decision} {policyVersion : Int}
    {row : PendingConfirmation} {challenge : Option String}
    (created : createConfirmation config now token action riskLevel decision policyVersion =
      .ok (row, challenge)) :
    CreatedConfirmation config now token action riskLevel decision policyVersion row
      challenge := by
  simp only [createConfirmation] at created
  split at created
  · simp at created
  next expiresAt added =>
    simp only [Except.ok.injEq, Prod.mk.injEq] at created
    obtain ⟨rfl, rfl⟩ := created
    exact ⟨rfl, rfl, rfl, rfl, rfl, rfl, rfl, added, rfl, rfl⟩

/-! ## Marking and sweeping -/

/-- The columns that `mark_status` writes. -/
def PendingConfirmation.marked (row : PendingConfirmation) (status : Status) (at_ : String) :
    PendingConfirmation :=
  { row with status, usedAt := some at_ }

namespace Database

/-- `mark_status`: an update by primary key, whatever status the row has. -/
def markStatus (db : Database) (id : String) (status : Status) (now : Instant) : Database :=
  match db.confirmations id with
  | none => db
  | some row => db.putConfirmation id (row.marked status (utcnowIso now))

/-- Rows that one sweep may touch. -/
def sweepBatchSize : Nat := 100

/-- A pending row whose expiry time has been reached. -/
def overdue (db : Database) (now : Instant) (id : String) : Bool :=
  (db.confirmations id).any fun row =>
    row.status = .pending && !decide (utcnowIso now < row.expiresAt)

/-- The rows that the sweeper's query returns; `order` is the order in which the
database finds rows. -/
def overdueRows (db : Database) (now : Instant) (order : List String) : List String :=
  (order.filter (db.overdue now)).take sweepBatchSize

/-- `ConfirmationSweeper.sweep`. -/
def sweep (db : Database) (now : Instant) (order : List String) : Database :=
  (db.overdueRows now order).foldl (fun swept id => swept.markStatus id .expired now) db

@[simp] theorem markStatus_approvals (db : Database) (id : String) (status : Status)
    (now : Instant) : (db.markStatus id status now).approvals = db.approvals := by
  unfold markStatus
  split <;> rfl

@[simp] theorem markStatus_policies (db : Database) (id : String) (status : Status)
    (now : Instant) : (db.markStatus id status now).policies = db.policies := by
  unfold markStatus
  split <;> rfl

theorem markStatus_confirmations_self {db : Database} {id : String}
    {row : PendingConfirmation} (stored : db.confirmations id = some row) (status : Status)
    (now : Instant) : (db.markStatus id status now).confirmations id =
      some (row.marked status (utcnowIso now)) := by
  simp [markStatus, stored]

theorem markStatus_confirmations_ne (db : Database) {id other : String} (status : Status)
    (now : Instant) (different : other ≠ id) :
    (db.markStatus id status now).confirmations other = db.confirmations other := by
  unfold markStatus
  split
  · rfl
  · exact db.putConfirmation_confirmations_ne _ different

/-- What a sweep does to the tables: some overdue rows become `EXPIRED`. -/
structure Swept (now : Instant) (db swept : Database) : Prop where
  approvals_eq : swept.approvals = db.approvals
  policies_eq : swept.policies = db.policies
  confirmations : ∀ id, swept.confirmations id = db.confirmations id ∨
    ∃ row, db.confirmations id = some row ∧ row.status = .pending ∧
      swept.confirmations id = some (row.marked .expired (utcnowIso now))

/-- By induction on the rows the query returned; a row listed twice is written
twice with the same columns. -/
theorem sweep_swept (db : Database) (now : Instant) (order : List String) :
    Swept now db (db.sweep now order) := by
  have fold : ∀ (ids : List String) (current : Database),
      (∀ id ∈ ids, db.overdue now id = true) → Swept now db current →
        Swept now db (ids.foldl (fun swept id => swept.markStatus id .expired now) current) := by
    intro ids
    induction ids with
    | nil => exact fun current _ swept => swept
    | cons id ids ih =>
        intro current overdue swept
        apply ih _ fun other member => overdue other (List.mem_cons_of_mem _ member)
        refine ⟨by simp [swept.approvals_eq], by simp [swept.policies_eq], ?_⟩
        intro other
        by_cases same : other = id
        · subst other
          obtain ⟨row, stored, isOverdue⟩ : ∃ row, db.confirmations id = some row ∧
              (row.status = .pending && !decide (utcnowIso now < row.expiresAt)) = true := by
            simpa [Database.overdue, Option.any_eq_true] using overdue id List.mem_cons_self
          have pending : row.status = .pending := by
            simp only [Bool.and_eq_true, decide_eq_true_eq] at isOverdue
            exact isOverdue.1
          refine .inr ⟨row, stored, pending, ?_⟩
          cases swept.confirmations id with
          | inl unchanged =>
              exact markStatus_confirmations_self (unchanged.trans stored) _ _
          | inr marked =>
              obtain ⟨original, originalStored, _, result⟩ := marked
              obtain rfl := Option.some.inj (stored.symm.trans originalStored)
              exact markStatus_confirmations_self result _ _
        · rw [markStatus_confirmations_ne _ _ _ same]
          exact swept.confirmations other
  refine fold _ db ?_ ⟨rfl, rfl, fun _ => .inl rfl⟩
  intro id member
  exact (List.mem_filter.mp (List.mem_of_mem_take member)).2

end Database

end Era.Services
