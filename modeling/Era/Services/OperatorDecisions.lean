import Era.Services.System

/-!
# Dual approval and operator denials over runs

A financial or booking confirmation is consumed only with two granting actors
and no denial.  For the other risk levels `approve` does not look at stored
approvals, so an operator's denial does not keep their confirmations from being
dispatched.
-/

namespace Era.Services

open Era.Core Era.Lib

/-! ## Dual approval -/

/-- An actor has granted a confirmation. -/
def Database.GrantedBy (db : Database) (id actorId : String) : Prop :=
  ∃ approval ∈ db.approvals, approval.confirmationId = id ∧ approval.status = .granted ∧
    approval.actorId = actorId

/-- Someone has denied a confirmation. -/
def Database.DeniedBySomeone (db : Database) (id : String) : Prop :=
  ∃ approval ∈ db.approvals, approval.confirmationId = id ∧ approval.status = .denied

/-- Every financial or booking confirmation that a call of the run consumes is
dispatched by that call, with grants from exactly two distinct actors, one of
them the caller, and without a denial. -/
def DualApprovedWhenUsed (config : Config) (start : ServiceState) (calls : List Call) : Prop :=
  ∀ before call after id row, calls = before ++ call :: after →
    ((service config).stateAfter start before).db.statusOf id ≠ some .used →
    ((service config).stateAfter start (before ++ [call])).db.confirmations id = some row →
    row.status = .used → row.riskLevel = .financial ∨ row.riskLevel = .booking →
    (step config ((service config).stateAfter start before) call).2.dispatches = true ∧
    ∃ approveCall first second, call.operation = .approve approveCall ∧
      approveCall.confirmationId = id ∧ first ≠ second ∧
      (∀ actorId, ((service config).stateAfter start (before ++ [call])).db.GrantedBy id actorId ↔
        actorId = first ∨ actorId = second) ∧
      ((service config).stateAfter start (before ++ [call])).db.GrantedBy id
        approveCall.ctx.actorId ∧
      ¬((service config).stateAfter start (before ++ [call])).db.DeniedBySomeone id

theorem Database.grantedBy_iff {db : Database} {id actorId : String} :
    db.GrantedBy id actorId ↔ actorId ∈ grantingActors (db.approvalsFor id) := by
  simp [Database.GrantedBy, mem_grantingActors, Database.mem_approvalsFor, and_assoc]

theorem Database.deniedBySomeone_iff {db : Database} {id : String} :
    db.DeniedBySomeone id ↔ anyDenied (db.approvalsFor id) = true := by
  simp [Database.DeniedBySomeone, anyDenied, Database.mem_approvalsFor, and_assoc]

/-- A list of two actors without repetition. -/
theorem exists_two_actors {approvals : List ConfirmationApproval}
    (twoActors : (grantingActors approvals).length = 2) :
    ∃ first second, first ≠ second ∧
      ∀ actorId, actorId ∈ grantingActors approvals ↔ actorId = first ∨ actorId = second := by
  obtain ⟨first, second, actors⟩ := List.length_eq_two.mp twoActors
  have distinct : (grantingActors approvals).Nodup := List.nodup_dedup _
  refine ⟨first, second, ?_, ?_⟩
  · rw [actors] at distinct
    simpa using distinct
  · simp [actors]

theorem dualApprovedWhenUsed (config : Config) (start : ServiceState) (calls : List Call) :
    DualApprovedWhenUsed config start calls := by
  intro before call after id row _ notUsed stored used risk
  rw [Machine.stateAfter_append] at stored ⊢
  change (step config ((service config).stateAfter start before) call).1.db.confirmations id =
    some row at stored
  change _ ∧ ∃ approveCall first second, _ ∧ _ ∧ _ ∧
    (∀ actorId, (step config ((service config).stateAfter start before)
      call).1.db.GrantedBy id actorId ↔ _) ∧
    (step config ((service config).stateAfter start before) call).1.db.GrantedBy id _ ∧
    ¬(step config ((service config).stateAfter start before) call).1.db.DeniedBySomeone id
  generalize (service config).stateAfter start before = state at *
  have changed := step_row config state call id
  rw [stored] at changed
  have dual : requiresDualApproval row.riskLevel = true := by
    cases risk with
    | inl financial => simp [requiresDualApproval, financial]
    | inr booking => simp [requiresDualApproval, booking]
  generalize previous : state.db.confirmations id = row? at changed
  cases changed with
  | same _ => simp [Database.statusOf, previous, used] at notUsed
  | created _ _ _ creates =>
      obtain ⟨_, created, _⟩ := creates.created
      simp [created.status_eq] at used
  | closed _ status _ _ final =>
      cases final with
      | inl denied => simp [PendingConfirmation.marked, denied] at used
      | inr expired => simp [PendingConfirmation.marked, expired] at used
  | consumed old approveCall _ consumes =>
      obtain ⟨approved, _, dualApproved, approvals⟩ := consumes.approvals
      have sameApprovals : (step config state call).1.db.approvalsFor id =
          approved.approvalsFor id := by simp only [Database.approvalsFor, approvals]
      obtain ⟨twoActors, caller, noDenial⟩ := dualApproved dual
      obtain ⟨first, second, distinct, granted⟩ := exists_two_actors twoActors
      refine ⟨consumes.dispatches, approveCall, first, second, consumes.operation_eq,
        consumes.id_eq, distinct, ?_, ?_, ?_⟩
      · simpa only [Database.grantedBy_iff, sameApprovals] using granted
      · rwa [Database.grantedBy_iff, sameApprovals]
      · rw [Database.deniedBySomeone_iff, sameApprovals, noDenial]
        exact Bool.false_ne_true
  | overruled _ _ _ => simp [PendingConfirmation.marked] at used

/-! ## Operator denials -/

/-- Once an operator's denial has been recorded, no later `approve` of the run
dispatches the confirmation's action. -/
def OperatorDenialFinal (config : Config) (start : ServiceState) (calls : List Call) : Prop :=
  ∀ before denial middle call after id actorId body approval approveCall,
    calls = before ++ denial :: (middle ++ call :: after) →
    denial.operation = .operatorApproval id actorId .denied body →
    (step config ((service config).stateAfter start before) denial).2.reply =
      .operator (.ok (.ok approval)) →
    call.operation = .approve approveCall → approveCall.confirmationId = id →
    (step config ((service config).stateAfter start (before ++ denial :: middle))
      call).2.dispatches = false

/-- A committed `approve` of a denied confirmation either needs dual approval or
fails the checks that every confirmation has to pass. -/
def HonoursDenial (config : Config) (state : ServiceState) (call : Call) : Prop :=
  ∀ approveCall row, call.operation = .approve approveCall →
    state.db.confirmations approveCall.confirmationId = some row →
    state.db.DeniedBySomeone approveCall.confirmationId →
    call.env.transactionFailure = none →
    requiresDualApproval row.riskLevel = true ∨ ¬Accepted config call.env approveCall row

section

variable {config : Config} {state : ServiceState} {call : Call}

/-- A single-approval confirmation that passes its checks is dispatched. -/
theorem dispatches_of_accepted {approveCall : ApproveCall} {row : PendingConfirmation}
    (approves : call.operation = .approve approveCall)
    (stored : state.db.confirmations approveCall.confirmationId = some row)
    (committed : call.env.transactionFailure = none)
    (single : requiresDualApproval row.riskLevel = false)
    (accepted : Accepted config call.env approveCall row) :
    (step config state call).2.dispatches = true := by
  have body : ∃ entry ctx, approveBody config call.env approveCall (some row) state.db = .ok {
      db := state.db.markStatus approveCall.confirmationId .used call.env.markedAt
      entry
      verdict := .authorized row.decision row.policyVersion ctx } := by
    simp only [approveBody, accepted.permitted, accepted.sameActor, accepted.valid.validate,
      single, if_false, Bool.false_eq_true]
    exact ⟨_, _, rfl⟩
  obtain ⟨entry, ctx, body⟩ := body
  have dispatched := dispatchAndRecord_dispatched config call.env.dispatch
    call.env.recordFailure
    { state with db := (state.db.markStatus approveCall.confirmationId .used
        call.env.markedAt).appendAudit entry }
    { action := approveCall.action, confirmationId := some approveCall.confirmationId,
      decision := row.decision } ctx row.policyVersion
  obtain ⟨calls, records, events, _⟩ := dispatched.events_eq
  simp [step, approves, approve, stored, body, finishApprove, commitDispatch, committed,
    CallResult.output, Output.dispatches, events]

/-- A denial that has been recorded is stored. -/
theorem deniedBySomeone_of_reply {id actorId : String}
    {body : Option (Option String × Option String)} {approval : ConfirmationApproval}
    (denies : call.operation = .operatorApproval id actorId .denied body)
    (recorded : (step config state call).2.reply = .operator (.ok (.ok approval))) :
    (step config state call).1.db.DeniedBySomeone id := by
  simp only [step, denies, operatorApproval] at recorded ⊢
  split at recorded
  · simp at recorded
  · simp at recorded
  next stored ok =>
    have facts := recordApproval_ok ok
    split at recorded
    · simp at recorded
    · exact ⟨stored, by simp [Database.addApproval], facts.confirmationId_eq, facts.status_eq⟩

/-- Denials stay. -/
theorem step_deniedBySomeone {id : String} (denied : state.db.DeniedBySomeone id) :
    (step config state call).1.db.DeniedBySomeone id := by
  obtain ⟨approval, stored, facts⟩ := denied
  exact ⟨approval, step_approvals_mono stored, facts⟩

/-- A denied confirmation is dispatched only if the condition is violated. -/
theorem not_dispatches_of_denied {approveCall : ApproveCall}
    (honours : HonoursDenial config state call)
    (approves : call.operation = .approve approveCall)
    (denied : state.db.DeniedBySomeone approveCall.confirmationId) :
    (step config state call).2.dispatches = false := by
  rw [← Bool.not_eq_true]
  intro dispatches
  obtain ⟨row, stored, consumes⟩ := consumes_of_dispatches approves dispatches
  cases honours approveCall row approves stored denied consumes.committed with
  | inl dual =>
      obtain ⟨after, granted, dualApproved, _⟩ := consumes.approvals
      obtain ⟨approval, member, facts⟩ := denied
      have kept : after.DeniedBySomeone approveCall.confirmationId := by
        cases granted with
        | already => exact ⟨approval, member, facts⟩
        | now _ _ _ _ => exact ⟨approval, List.mem_append_left _ member, facts⟩
      rw [Database.deniedBySomeone_iff, (dualApproved dual).noDenial] at kept
      simp at kept
  | inr rejected => exact rejected consumes.accepted

end

/-- In a run without approvals at its start, every stored denial was recorded by
an operator. -/
theorem exists_denial {config : Config} (policies : List Policy) (auditLog : List AuditEntry)
    (breakers : String → CircuitBreaker) (calls : List Call) {id : String}
    (denied : ((service config).stateAfter (initialState policies auditLog breakers)
      calls).db.DeniedBySomeone id) :
    ∃ before denial middle actorId body approval, calls = before ++ denial :: middle ∧
      denial.operation = .operatorApproval id actorId .denied body ∧
      (step config ((service config).stateAfter (initialState policies auditLog breakers) before)
        denial).2.reply = .operator (.ok (.ok approval)) := by
  revert denied
  refine (service config).run_induction (motive := fun calls state =>
    state.db.DeniedBySomeone id → ∃ before denial middle actorId body approval,
      calls = before ++ denial :: middle ∧
      denial.operation = .operatorApproval id actorId .denied body ∧
      (step config ((service config).stateAfter (initialState policies auditLog breakers) before)
        denial).2.reply = .operator (.ok (.ok approval)))
    (initialState policies auditLog breakers) ?_ ?_ calls
  · rintro ⟨approval, stored, _⟩
    simp [initialState] at stored
  · rintro before call ih ⟨approval, stored, confirmationId, status⟩
    change approval ∈ (step config _ call).1.db.approvals at stored
    have earlier : approval ∈ ((service config).stateAfter
        (initialState policies auditLog breakers) before).db.approvals →
        ∃ earlier denial middle actorId body approval,
          before ++ [call] = earlier ++ denial :: middle ∧
          denial.operation = .operatorApproval id actorId .denied body ∧
          (step config ((service config).stateAfter (initialState policies auditLog breakers)
            earlier) denial).2.reply = .operator (.ok (.ok approval)) := by
      intro old
      obtain ⟨earlier, denial, middle, actorId, body, recorded, calls_eq, denies, reply⟩ :=
        ih ⟨approval, old, confirmationId, status⟩
      exact ⟨earlier, denial, middle ++ [call], actorId, body, recorded, by simp [calls_eq],
        denies, reply⟩
    have changed := step_approvals config
      ((service config).stateAfter (initialState policies auditLog breakers) before) call
    generalize (step config _ call).1.db.approvals = after at stored changed
    cases changed with
    | same => exact earlier stored
    | granted added isGranted =>
        cases List.mem_append.mp stored with
        | inl old => exact earlier old
        | inr new =>
            obtain rfl := List.mem_singleton.mp new
            simp [isGranted] at status
    | operator added row body operation reply _ _ =>
        cases List.mem_append.mp stored with
        | inl old => exact earlier old
        | inr new =>
            obtain rfl := List.mem_singleton.mp new
            rw [confirmationId, status] at operation
            exact ⟨before, call, [], approval.actorId, body, approval, rfl, operation, reply⟩

/-- Operator denials are final in exactly the runs in which every committed
`approve` of a denied confirmation needs dual approval or fails its checks. -/
theorem operatorDenialFinal_iff (config : Config) (policies : List Policy)
    (auditLog : List AuditEntry) (breakers : String → CircuitBreaker) (calls : List Call) :
    OperatorDenialFinal config (initialState policies auditLog breakers) calls ↔
      (service config).Admits (HonoursDenial config) (initialState policies auditLog breakers)
        calls := by
  constructor
  · intro final reached call after calls_eq approveCall row approves stored denied committed
    by_contra violated
    rw [not_or, Bool.not_eq_true, not_not] at violated
    obtain ⟨before, denial, middle, actorId, body, approval, reached_eq, denies, recorded⟩ :=
      exists_denial policies auditLog breakers reached denied
    have refused := final before denial middle call after approveCall.confirmationId actorId body
      approval approveCall (by simp [calls_eq, reached_eq]) denies recorded approves rfl
    rw [← reached_eq, dispatches_of_accepted approves stored committed violated.1 violated.2]
      at refused
    cases refused
  · rintro admitted before denial middle call after id actorId body approval approveCall
      calls_eq denies recorded approves rfl
    have denied : ((service config).stateAfter (initialState policies auditLog breakers)
        (before ++ denial :: middle)).db.DeniedBySomeone approveCall.confirmationId := by
      rw [Machine.stateAfter_append, Machine.stateAfter_cons]
      exact Machine.invariant
        (motive := fun (state : ServiceState) =>
          state.db.DeniedBySomeone approveCall.confirmationId)
        (deniedBySomeone_of_reply denies recorded)
        (fun state other kept => step_deniedBySomeone kept) middle
    exact not_dispatches_of_denied
      (admitted (before ++ denial :: middle) call after (by simp [calls_eq])) approves denied

/-- An operator denies the write that Alice has requested. -/
def carolDenies : Call :=
  { operation := .operatorApproval "confirmation" "carol" .denied none, env := Demo.env }

theorem not_operatorDenialFinal : ¬OperatorDenialFinal Demo.config Demo.start
    ([Demo.request] ++ carolDenies :: ([] ++
      [{ operation := .approve Demo.approve, env := Demo.env }])) := by
  intro final
  have refused := final [Demo.request] carolDenies []
    { operation := .approve Demo.approve, env := Demo.env } [] "confirmation" "carol" none _
    Demo.approve rfl rfl rfl rfl rfl
  exact absurd refused (by decide +kernel)

end Era.Services
