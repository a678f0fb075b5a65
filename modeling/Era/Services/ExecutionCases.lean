import Era.Services.Execution

/-!
# What the calls of the execution service can do

Each operation is inverted once: the ways in which it ends, with everything that
was checked on the way.  Later results are case analyses over these.
-/

namespace Era.Services

open Era.Core Era.Security

/-! ## What the transaction of `approve` can do -/

section Approve

variable {config : Config} {env : CallEnv} {call : ApproveCall} {row : PendingConfirmation}
variable {db after : Database} {resolution : Resolution}

/-- Everything `approve` has checked before it looks at approvals. -/
structure Accepted (config : Config) (env : CallEnv) (call : ApproveCall)
    (row : PendingConfirmation) : Prop where
  permitted : ¬(config.forbidden row.actionType = true ∨
    config.forbidden call.action.actionType = true)
  sameActor : ¬belongsToAnother row call
  valid : ValidConfirmation config env.now row call.action call.challenge

/-- The tables differ by at most one approval, granted by the caller. -/
inductive Granted (call : ApproveCall) (db : Database) : Database → Prop where
  | already : Granted call db db
  | now (approval : ConfirmationApproval) :
      approval.confirmationId = call.confirmationId →
      approval.actorId = call.ctx.actorId → approval.status = .granted →
      Granted call db (db.addApproval approval)

/-- Exactly two actors granted, the caller is one of them and nobody denied. -/
structure DualApproved (db : Database) (id actorId : String) : Prop where
  twoActors : (grantingActors (db.approvalsFor id)).length = 2
  caller : actorId ∈ grantingActors (db.approvalsFor id)
  noDenial : anyDenied (db.approvalsFor id) = false

theorem Granted.confirmations_eq (granted : Granted call db after) :
    after.confirmations = db.confirmations := by
  cases granted <;> rfl

theorem Granted.policies_eq (granted : Granted call db after) :
    after.policies = db.policies := by
  cases granted <;> rfl

/-- The verdict on stored approvals, once the caller is known to be among them. -/
private theorem approvalState_passed {id : String} {riskLevel : RiskLevel} {actorId : String}
    {approval : ConfirmationApproval} (dual : requiresDualApproval riskLevel = true)
    (stored : approval ∈ db.approvalsFor id) (actor : approval.actorId = actorId)
    (dispatchable : (approvalState db id riskLevel).1 = true) : DualApproved db id actorId := by
  obtain ⟨noDenial, twoActors⟩ := approvalState_dispatchable dual dispatchable
  exact ⟨twoActors,
    mem_grantingActors.mpr ⟨approval, stored, anyDenied_eq_false.mp noDenial _ stored, actor⟩,
    noDenial⟩

theorem dualApproval_ok {verdict : DualVerdict}
    (dual : requiresDualApproval row.riskLevel = true)
    (checked : dualApproval config env call row db = .ok (after, verdict)) :
    Granted call db after ∧
      (verdict = .passed → DualApproved after call.confirmationId call.ctx.actorId) := by
  simp only [dualApproval] at checked
  split at checked
  · obtain ⟨rfl, rfl⟩ := Prod.mk.inj (Except.ok.inj checked)
    exact ⟨.already, nofun⟩
  · split at checked
    · simp at checked
    next existing found =>
      obtain ⟨stored, actor⟩ := Database.approvalByActor_some found
      split at checked
      · obtain ⟨rfl, rfl⟩ := Prod.mk.inj (Except.ok.inj checked)
        exact ⟨.already, nofun⟩
      · split at checked
        next dispatchable =>
          obtain ⟨rfl, rfl⟩ := Prod.mk.inj (Except.ok.inj checked)
          exact ⟨.already, fun _ => approvalState_passed dual stored actor dispatchable⟩
        · obtain ⟨rfl, rfl⟩ := Prod.mk.inj (Except.ok.inj checked)
          exact ⟨.already, nofun⟩
    next absent =>
      split at checked
      next approval recorded =>
        have facts := recordApproval_ok recorded
        have granted : Granted call db (db.addApproval approval) :=
          .now approval facts.confirmationId_eq facts.actorId_eq facts.status_eq
        have stored : approval ∈ (db.addApproval approval).approvalsFor call.confirmationId := by
          simp [Database.mem_approvalsFor, facts.confirmationId_eq]
        split at checked
        · obtain ⟨rfl, rfl⟩ := Prod.mk.inj (Except.ok.inj checked)
          exact ⟨granted, nofun⟩
        · split at checked
          next dispatchable =>
            obtain ⟨rfl, rfl⟩ := Prod.mk.inj (Except.ok.inj checked)
            exact ⟨granted, fun _ =>
              approvalState_passed dual stored facts.actorId_eq dispatchable⟩
          · obtain ⟨rfl, rfl⟩ := Prod.mk.inj (Except.ok.inj checked)
            exact ⟨granted, nofun⟩
      · simp at checked
      next actorId status recorded =>
        -- `get_by_actor` has just found nothing, so the replay branch is dead.
        simp only [recordApproval, absent] at recorded
        split at recorded
        · simp at recorded
        · split at recorded <;> simp at recorded
      · obtain ⟨rfl, rfl⟩ := Prod.mk.inj (Except.ok.inj checked)
        exact ⟨.already, nofun⟩

/-- The ways in which the transaction of `approve` ends. -/
inductive ApproveCase (config : Config) (env : CallEnv) (call : ApproveCall) (db : Database)
    (resolution : Resolution) : Option PendingConfirmation → Prop where
  | unknown :
      (∃ response, resolution.verdict = .answered response) → resolution.db = db →
      ApproveCase config env call db resolution none
  | overruled (row : PendingConfirmation) :
      (config.forbidden row.actionType = true ∨
        config.forbidden call.action.actionType = true) ∨ belongsToAnother row call →
      (∃ response, resolution.verdict = .answered response) →
      resolution.db = db.markStatus call.confirmationId .denied env.markedAt →
      ApproveCase config env call db resolution (some row)
  | redundant (row : PendingConfirmation) :
      row.status ≠ .pending → (∃ response, resolution.verdict = .answered response) →
      resolution.db = db → ApproveCase config env call db resolution (some row)
  | closed (row : PendingConfirmation) (status : Status) :
      row.status = .pending → status = .denied ∨ status = .expired →
      (∃ response, resolution.verdict = .answered response) →
      resolution.db = db.markStatus call.confirmationId status env.markedAt →
      ApproveCase config env call db resolution (some row)
  | refused (row : PendingConfirmation) (after : Database) :
      Accepted config env call row → Granted call db after →
      (∃ response, resolution.verdict = .answered response) →
      resolution.db = after.markStatus call.confirmationId .denied env.markedAt →
      ApproveCase config env call db resolution (some row)
  | awaiting (row : PendingConfirmation) :
      Accepted config env call row → Granted call db resolution.db →
      (∃ response, resolution.verdict = .answered response) →
      ApproveCase config env call db resolution (some row)
  | authorized (row : PendingConfirmation) (after : Database) (ctx : ExecutionContext) :
      Accepted config env call row → Granted call db after →
      (requiresDualApproval row.riskLevel = true →
        DualApproved after call.confirmationId call.ctx.actorId) →
      resolution.db = after.markStatus call.confirmationId .used env.markedAt →
      resolution.verdict = .authorized row.decision row.policyVersion ctx →
      resolution.entry.outcome = .authorized →
      resolution.entry.Concerns config call.action (some call.confirmationId) →
      ApproveCase config env call db resolution (some row)

theorem approveBody_cases {stored : Option PendingConfirmation}
    (body : approveBody config env call stored db = .ok resolution) :
    ApproveCase config env call db resolution stored := by
  cases stored with
  | none =>
      obtain rfl := Except.ok.inj body
      exact .unknown ⟨_, rfl⟩ rfl
  | some row =>
      simp only [approveBody] at body
      split at body
      next forbidden =>
        obtain rfl := Except.ok.inj body
        exact .overruled row (.inl forbidden) ⟨_, rfl⟩ rfl
      next permitted =>
        split at body
        next another =>
          obtain rfl := Except.ok.inj body
          exact .overruled row (.inr another) ⟨_, rfl⟩ rfl
        next sameActor =>
          split at body
          next reason invalid =>
            split at body
            next resolved =>
              obtain rfl := Except.ok.inj body
              refine .redundant row ?_ ⟨_, rfl⟩ rfl
              intro pending
              simp [pending] at resolved
            next unresolved =>
              have pending : row.status = .pending := by
                cases status : row.status <;> simp [status] at unresolved ⊢
              obtain rfl := Except.ok.inj body
              refine .closed row _ pending ?_ ⟨_, rfl⟩ rfl
              split
              · exact .inr rfl
              · exact .inl rfl
          next valid =>
            have accepted : Accepted config env call row :=
              ⟨permitted, sameActor, validateConfirmation_ok valid⟩
            split at body
            · simp at body
            next after outcome result checked =>
              obtain rfl := Except.ok.inj body
              have granted : Granted call db after := by
                split at checked
                next dual => exact (dualApproval_ok dual checked).1
                · simp at checked
              exact .refused row after accepted granted ⟨_, rfl⟩ rfl
            next after checked =>
              obtain rfl := Except.ok.inj body
              have granted : Granted call db after := by
                split at checked
                next dual => exact (dualApproval_ok dual checked).1
                · simp at checked
              exact .awaiting row accepted granted ⟨_, rfl⟩
            next after checked =>
              obtain rfl := Except.ok.inj body
              have approved : Granted call db after ∧
                  (requiresDualApproval row.riskLevel = true →
                    DualApproved after call.confirmationId call.ctx.actorId) := by
                split at checked
                next dual =>
                  obtain ⟨granted, passed⟩ := dualApproval_ok dual checked
                  exact ⟨granted, fun _ => passed rfl⟩
                next single =>
                  obtain ⟨rfl, -⟩ := Prod.mk.inj (Except.ok.inj checked)
                  exact ⟨.already, fun dual => absurd dual single⟩
              exact .authorized row after _ accepted approved.1 approved.2 rfl rfl rfl
                (config.auditEntry_concerns _)

end Approve

/-! ## How calls end -/

section Ends

variable {config : Config} {env : CallEnv} {state : ServiceState}

/-- The state and the events of a call that has dispatched. -/
structure DispatchedAfter (config : Config) (state : ServiceState) (db : Database)
    (entry : AuditEntry) (dispatch : Dispatch) (result : ServiceState × CallResult) : Prop where
  outcome_eq : entry.outcome = .authorized
  concerns : entry.Concerns config dispatch.action dispatch.confirmationId
  dispatched : ∃ done : ServiceState × CallResult,
    Dispatched config { state with db := db.appendAudit entry } dispatch done ∧
    result = (done.1, { done.2 with events := .audited entry :: done.2.events })

/-- The ways in which `request` ends. -/
inductive RequestCase (config : Config) (env : CallEnv) (state : ServiceState)
    (action : Action) (ctx : ExecutionContext) (result : ServiceState × CallResult) : Prop where
  | raised (failure : Raised) :
      result = raised state failure → RequestCase config env state action ctx result
  | refused (entry : AuditEntry) (response : ExecutionResponse) :
      result = ({ state with db := state.db.appendAudit entry },
        { answer := .ok response, events := [.audited entry] }) →
      RequestCase config env state action ctx result
  | created (riskLevel : RiskLevel) (decision : Decision) (row : PendingConfirmation)
      (challenge : Option String) (entry : AuditEntry) (response : ExecutionResponse) :
      config.forbidden action.actionType = false →
      env.engine action (currentPolicy state.db.policies) = .ok decision →
      decision = .confirm ∨ decision = .confirmStrong →
      (config.catalog.get action.actionType).map ActionSpec.riskLevel = some riskLevel →
      state.db.confirmations env.identifier = none →
      CreatedConfirmation config env.now env.token action riskLevel decision
        (((currentPolicy state.db.policies).map Policy.version).getD 0) row challenge →
      row.actorId = some ctx.actorId →
      response.confirmationId = some env.identifier → response.challenge = challenge →
      response.decision = decision →
      result = ({ state with
          db := (state.db.putConfirmation env.identifier row).appendAudit entry },
        { answer := .ok response, events := [.audited entry] }) →
      RequestCase config env state action ctx result
  | dispatched (entry : AuditEntry) :
      config.forbidden action.actionType = false →
      env.engine action (currentPolicy state.db.policies) = .ok .allow →
      DispatchedAfter config state state.db entry
        { action, confirmationId := none, decision := .allow } result →
      RequestCase config env state action ctx result

theorem requireConfirmation_cases {action : Action} {ctx : ExecutionContext}
    {decision : Decision} (permitted : config.forbidden action.actionType = false)
    (decided : env.engine action (currentPolicy state.db.policies) = .ok decision)
    (confirms : decision = .confirm ∨ decision = .confirmStrong) :
    RequestCase config env state action ctx
      (requireConfirmation config env state action ctx decision
        (((currentPolicy state.db.policies).map Policy.version).getD 0)) := by
  unfold requireConfirmation
  dsimp only
  split
  · exact .raised _ rfl
  next riskLevel catalogued =>
    split
    · exact .raised _ rfl
    next row challenge created =>
      split
      · exact .raised _ rfl
      next fresh =>
        unfold commitAnswer
        split
        · exact .raised _ rfl
        · have facts := createConfirmation_ok created
          have bound : CreatedConfirmation config env.now env.token action riskLevel decision
              (((currentPolicy state.db.policies).map Policy.version).getD 0)
              { row with actorId := some ctx.actorId, executionScope := ctx.executionScope }
              challenge :=
            ⟨facts.actionType_eq, facts.actionHash_eq, facts.riskLevel_eq, facts.decision_eq,
              facts.policyVersion_eq, facts.challenge_eq, facts.challengeHash_eq,
              facts.expiresAt_eq, facts.usedAt_eq, facts.status_eq⟩
          exact .created riskLevel decision _ challenge _ _ permitted decided confirms
            catalogued fresh bound rfl rfl rfl rfl rfl

/-- A transaction that answers either fails or is committed. -/
theorem commitAnswer_elim {motive : ServiceState × CallResult → Prop} {db : Database}
    {entry : AuditEntry} {response : ExecutionResponse}
    (onFailure : ∀ failure, motive (raised state failure))
    (onCommit : env.transactionFailure = none →
      motive ({ state with db := db.appendAudit entry },
        { answer := .ok response, events := [.audited entry] })) :
    motive (commitAnswer env state db entry response) := by
  unfold commitAnswer
  split
  · exact onFailure _
  next committed => exact onCommit committed

/-- A transaction that authorises either fails or is committed and followed by a
dispatch. -/
theorem commitDispatch_elim {motive : ServiceState × CallResult → Prop} {db : Database}
    {entry : AuditEntry} {dispatch : Dispatch} {ctx : ExecutionContext} {policyVersion : Int}
    (outcome : entry.outcome = .authorized)
    (concerns : entry.Concerns config dispatch.action dispatch.confirmationId)
    (onFailure : ∀ failure, motive (raised state failure))
    (onDispatch : ∀ result, env.transactionFailure = none →
      DispatchedAfter config state db entry dispatch result → motive result) :
    motive (commitDispatch config env state db entry dispatch ctx policyVersion) := by
  unfold commitDispatch
  split
  · exact onFailure _
  next committed =>
    exact onDispatch _ committed ⟨outcome, concerns, _,
      dispatchAndRecord_dispatched config env.dispatch env.recordFailure _ dispatch ctx
        policyVersion, rfl⟩

theorem request_cases (config : Config) (env : CallEnv) (state : ServiceState)
    (action : Action) (ctx : ExecutionContext) :
    RequestCase config env state action ctx (request config env state action ctx) := by
  have refused : ∀ entry response, RequestCase config env state action ctx
      (commitAnswer env state state.db entry response) := by
    intro entry response
    exact commitAnswer_elim (fun failure => .raised failure rfl)
      fun _ => .refused entry response rfl
  unfold request
  dsimp only
  split
  · exact refused _ _
  next permitted =>
    rw [Bool.not_eq_true] at permitted
    split
    · exact refused _ _
    · exact refused _ _
    next allowed =>
      exact commitDispatch_elim rfl (config.auditEntry_concerns _)
        (fun failure => .raised failure rfl)
        fun result _ done => .dispatched _ permitted allowed done
    next decision notDeny notAllow decided =>
      have confirms : decision = .confirm ∨ decision = .confirmStrong := by
        cases decision <;> simp_all
      exact requireConfirmation_cases permitted decided confirms

/-- The ways in which `approve` ends. -/
inductive ApproveEnd (config : Config) (env : CallEnv) (state : ServiceState)
    (call : ApproveCall) (result : ServiceState × CallResult) : Prop where
  | raised (failure : Raised) :
      result = raised state failure → ApproveEnd config env state call result
  | answered (resolution : Resolution) (response : ExecutionResponse) :
      env.transactionFailure = none →
      ApproveCase config env call state.db resolution
        (state.db.confirmations call.confirmationId) →
      resolution.verdict = .answered response →
      result = ({ state with db := resolution.db.appendAudit resolution.entry },
        { answer := .ok response, events := [.audited resolution.entry] }) →
      ApproveEnd config env state call result
  | dispatched (row : PendingConfirmation) (after : Database) (entry : AuditEntry) :
      env.transactionFailure = none →
      state.db.confirmations call.confirmationId = some row →
      Accepted config env call row → Granted call state.db after →
      (requiresDualApproval row.riskLevel = true →
        DualApproved after call.confirmationId call.ctx.actorId) →
      DispatchedAfter config state (after.markStatus call.confirmationId .used env.markedAt)
        entry { action := call.action, confirmationId := some call.confirmationId,
                decision := row.decision } result →
      ApproveEnd config env state call result

theorem approve_cases (config : Config) (env : CallEnv) (state : ServiceState)
    (call : ApproveCall) :
    ApproveEnd config env state call (approve config env state call) := by
  unfold approve finishApprove
  split
  · exact .raised _ rfl
  next resolution body =>
    have cases := approveBody_cases body
    split
    next response verdict =>
      exact commitAnswer_elim (fun failure => .raised failure rfl)
        fun committed => .answered resolution response committed cases verdict rfl
    next decision policyVersion ctx verdict =>
      generalize stored : state.db.confirmations call.confirmationId = row? at cases
      cases cases with
      | unknown answered | overruled _ _ answered | redundant _ _ answered
      | closed _ _ _ _ answered | refused _ _ _ _ answered | awaiting _ _ _ answered =>
          obtain ⟨response, other⟩ := answered
          simp [verdict] at other
      | authorized row after _ accepted granted dual db_eq authorized outcome concerns =>
          obtain ⟨rfl, rfl, rfl⟩ : decision = row.decision ∧ policyVersion = row.policyVersion ∧
              ctx = _ := by simpa [verdict] using authorized
          rw [db_eq]
          exact commitDispatch_elim outcome concerns (fun failure => .raised failure rfl)
            fun result committed done =>
              .dispatched row after _ committed stored accepted granted dual done

/-- The ways in which `deny` ends. -/
inductive DenyCase (env : CallEnv) (state : ServiceState) (id : String)
    (result : ServiceState × CallResult) : Prop where
  | unchanged : result.1 = state → result.2.events = [] → DenyCase env state id result
  | closed (row : PendingConfirmation) (entry : AuditEntry) (response : ExecutionResponse) :
      state.db.confirmations id = some row → row.status = .pending →
      result = ({ state with
          db := (state.db.markStatus id .denied env.markedAt).appendAudit entry },
        { answer := .ok response, events := [.audited entry] }) →
      DenyCase env state id result

theorem deny_cases (config : Config) (env : CallEnv) (state : ServiceState) (id : String)
    (ctx : ExecutionContext) : DenyCase env state id (deny config env state id ctx) := by
  unfold deny
  dsimp only
  split
  · exact .unchanged rfl rfl
  next row stored =>
    split
    · exact .unchanged rfl rfl
    next pending =>
      split
      · exact .unchanged rfl rfl
      · exact commitAnswer_elim (fun failure => .unchanged rfl rfl)
          fun _ => .closed row _ _ stored (not_not.mp pending) rfl

end Ends

end Era.Services
