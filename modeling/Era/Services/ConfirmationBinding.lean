import Era.Services.Provenance

/-!
# What a consumed confirmation is bound to

An `approve` that dispatches goes back to one earlier `request`: for the same
action and risk level, by the same actor unless the caller may act across
actors, before the expiry time and with the challenge that was handed out.
-/

namespace Era.Services

open Era.Core Era.Security Era.Lib

/-- The lifetime of a confirmation under a decision, in seconds. -/
def Settings.confirmationTtl (settings : Settings) (decision : Decision) : Int :=
  if decision = .confirmStrong then settings.confirmationTtlStrongSeconds
  else settings.confirmationTtlSeconds

/-- The request to which a dispatching `approve` is bound, after the calls
`before`. -/
structure BoundTo (config : Config) (start : ServiceState) (before : List Call) (call : Call)
    (approveCall : ApproveCall) (earlier : List Call) (issuer : Call) (later : List Call)
    (action : Action) (ctx : ExecutionContext) (response : ExecutionResponse) : Prop where
  precedes : before = earlier ++ issuer :: later
  requests : issuer.operation = .request action ctx
  answered : (step config ((service config).stateAfter start earlier) issuer).2.reply =
    .execution (.ok response)
  created : response.confirmationId = some approveCall.confirmationId
  sameType : approveCall.action.actionType = action.actionType
  sameParams : canonicalJson config.platform (.dict approveCall.action.params) =
    canonicalJson config.platform (.dict action.params)
  /-- The confirmation still has the risk level under which it was requested. -/
  sameRisk : ∃ row, ((service config).stateAfter start before).db.confirmations
      approveCall.confirmationId = some row ∧
    (config.catalog.get action.actionType).map ActionSpec.riskLevel = some row.riskLevel
  sameActor : approveCall.ctx.actorId = ctx.actorId ∨ approveCall.allowCrossActor = true
  /-- In microseconds: the time of validation is within the lifetime. -/
  notExpired : (call.env.now.microseconds : Int) ≤ issuer.env.now.microseconds +
    config.settings.confirmationTtl response.decision * 1000000
  challenged : response.decision = .confirmStrong →
    ∃ phrase, response.challenge = some phrase ∧ approveCall.challenge = some phrase

/-- A timestamp that has not passed is not earlier than now. -/
theorem notExpired_microseconds {created now : Instant} {seconds : Int} {expiresAt : String}
    (added : addSeconds (utcnowIso created) seconds = some expiresAt)
    (notPassed : ¬expiresAt < utcnowIso now) :
    (now.microseconds : Int) ≤ created.microseconds + seconds * 1000000 := by
  rw [utcnowIso, addSeconds_isoformat] at added
  obtain ⟨expires, shifted, rfl⟩ := Option.map_eq_some_iff.mp added
  rw [utcnowIso_gt_iff, Nat.not_lt] at notPassed
  have := Instant.addSeconds_microseconds shifted
  omega

theorem exists_boundTo {config : Config} (collisionFree : config.platform.CollisionFree)
    (policies : List Policy) (auditLog : List AuditEntry) (breakers : String → CircuitBreaker)
    (before : List Call) (call : Call) (approveCall : ApproveCall)
    (approves : call.operation = .approve approveCall)
    (dispatches : (step config ((service config).stateAfter
      (initialState policies auditLog breakers) before) call).2.dispatches = true) :
    ∃ earlier issuer later action ctx response, BoundTo config
      (initialState policies auditLog breakers) before call approveCall earlier issuer later
      action ctx response := by
  obtain ⟨row, stored, consumes⟩ := consumes_of_dispatches approves dispatches
  obtain ⟨earlier, issuer, later, action, ctx, issued, issuedIn⟩ :=
    exists_issuedIn config policies auditLog breakers before stored
  obtain ⟨status, usedAt, rfl⟩ := issuedIn.sameTerms
  obtain ⟨challenge, created, response, reply, responseId, responseChallenge, decision⟩ :=
    issuedIn.creates.created
  have valid := consumes.accepted.valid
  have sameHash := valid.sameAction
  simp only [created.actionHash_eq] at sameHash
  obtain ⟨sameType, sameParams⟩ := actionFingerprint_inj collisionFree sameHash
  refine ⟨earlier, issuer, later, action, ctx, response, issuedIn.calls_eq,
    issuedIn.creates.operation_eq, reply, responseId, sameType, sameParams, ⟨_, stored,
    issuedIn.creates.catalogued⟩, ?_, ?_, ?_⟩
  · by_contra another
    rw [not_or, Bool.not_eq_true] at another
    refine consumes.accepted.sameActor ⟨another.2, ?_, ?_⟩
    · simp [issuedIn.creates.actorId_eq]
    · simpa [issuedIn.creates.actorId_eq] using Ne.symm another.1
  · rw [decision]
    exact notExpired_microseconds created.expiresAt_eq valid.notExpired
  · intro strong
    rw [decision] at strong
    obtain ⟨phrase, presented, _, hash⟩ := valid.challenged strong
    have issuedHash : issued.challengeHash = some (config.platform.sha256Hex issuer.env.token) := by
      rw [created.challengeHash_eq, created.challenge_eq, if_pos strong]
      rfl
    have samePhrase : phrase = issuer.env.token :=
      collisionFree (Option.some.inj (hash.symm.trans issuedHash))
    refine ⟨phrase, ?_, presented⟩
    rw [responseChallenge, created.challenge_eq, if_pos strong, samePhrase]

theorem exists_boundTo_demo : ∃ earlier issuer later action ctx response,
    BoundTo Demo.config Demo.start [Demo.request]
      { operation := .approve Demo.approve, env := Demo.env } Demo.approve earlier issuer later
      action ctx response :=
  exists_boundTo (show Demo.config.platform.CollisionFree from Function.injective_id) _ _ _ _ _
    _ rfl (by decide +kernel)

/-! ## The policy behind a consumed confirmation -/

/-- The call consults the permission engine of the catalog. -/
def Call.UsesPermissionEngine (config : Config) (call : Call) : Prop :=
  call.env.engine = fun action policy => .ok (evaluate config.catalog action policy)

/-- The policy decision on which a dispatching `approve` rests, taken when the
confirmation was requested. -/
structure DecidedAtRequest (config : Config) (start : ServiceState) (before : List Call)
    (approveCall : ApproveCall) (earlier : List Call) (issuer : Call) (later : List Call)
    (action : Action) (ctx : ExecutionContext) (row : PendingConfirmation) : Prop where
  precedes : before = earlier ++ issuer :: later
  requests : issuer.operation = .request action ctx
  created : issuer.env.identifier = approveCall.confirmationId
  stored : ((service config).stateAfter start before).db.confirmations
    approveCall.confirmationId = some row
  /-- The approved action has the fingerprint of the requested one. -/
  sameAction : actionFingerprint config.platform approveCall.action.actionType
      approveCall.action.params row.riskLevel =
    actionFingerprint config.platform action.actionType action.params row.riskLevel
  /-- The policy that was current then decided the confirmation's decision. -/
  decided : evaluate config.catalog action
    (currentPolicy ((service config).stateAfter start earlier).db.policies) = row.decision
  confirms : row.decision = .confirm ∨ row.decision = .confirmStrong
  /-- The confirmation still names the version of that policy. -/
  policyVersion_eq : row.policyVersion =
    ((currentPolicy ((service config).stateAfter start earlier).db.policies).map
      Policy.version).getD 0
  permitted : config.forbidden approveCall.action.actionType = false

theorem exists_decidedAtRequest {config : Config} (policies : List Policy)
    (auditLog : List AuditEntry) (breakers : String → CircuitBreaker) (before : List Call)
    (call : Call) (approveCall : ApproveCall)
    (wired : ∀ other ∈ before, other.UsesPermissionEngine config)
    (approves : call.operation = .approve approveCall)
    (dispatches : (step config ((service config).stateAfter
      (initialState policies auditLog breakers) before) call).2.dispatches = true) :
    ∃ earlier issuer later action ctx row, DecidedAtRequest config
      (initialState policies auditLog breakers) before approveCall earlier issuer later action
      ctx row := by
  obtain ⟨row, stored, consumes⟩ := consumes_of_dispatches approves dispatches
  obtain ⟨earlier, issuer, later, action, ctx, issued, issuedIn⟩ :=
    exists_issuedIn config policies auditLog breakers before stored
  obtain ⟨status, usedAt, rfl⟩ := issuedIn.sameTerms
  obtain ⟨challenge, created, _⟩ := issuedIn.creates.created
  have engine : issuer.UsesPermissionEngine config := wired issuer (by simp [issuedIn.calls_eq])
  have decided := issuedIn.creates.decided
  rw [engine] at decided
  have permitted := consumes.accepted.permitted
  rw [not_or, Bool.not_eq_true, Bool.not_eq_true] at permitted
  exact ⟨earlier, issuer, later, action, ctx, _, issuedIn.calls_eq, issuedIn.creates.operation_eq,
    issuedIn.creates.identifier_eq, stored,
    consumes.accepted.valid.sameAction.trans created.actionHash_eq, Except.ok.inj decided,
    issuedIn.creates.confirms, created.policyVersion_eq, permitted.2⟩

theorem exists_decidedAtRequest_demo : ∃ earlier issuer later action ctx row,
    DecidedAtRequest Demo.config Demo.start [Demo.request] Demo.approve earlier issuer later
      action ctx row :=
  exists_decidedAtRequest _ _ _ _ { operation := .approve Demo.approve, env := Demo.env } _
    (by simp [Call.UsesPermissionEngine, Demo.request, Demo.env]) rfl (by decide +kernel)

/-- No `approve` of a run dispatches an action that the policy current at that
time denies. -/
def CurrentPolicyHonoured (config : Config) (start : ServiceState) (calls : List Call) : Prop :=
  ∀ before call after approveCall, calls = before ++ call :: after →
    call.operation = .approve approveCall →
    (step config ((service config).stateAfter start before) call).2.dispatches = true →
    evaluate config.catalog approveCall.action
      (currentPolicy ((service config).stateAfter start before).db.policies) ≠ .deny

/-- Between the request and its approval the policy denies the whole tier. -/
def denyMutating : Call :=
  { operation := .createPolicyVersion { tierDefaults := [(.mutating, .deny)] } "admin"
    env := Demo.env }

theorem not_currentPolicyHonoured : ¬CurrentPolicyHonoured Demo.config Demo.start
    ([Demo.request, denyMutating] ++
      [{ operation := .approve Demo.approve, env := Demo.env }]) := by
  intro honoured
  exact honoured [Demo.request, denyMutating] _ [] Demo.approve rfl rfl (by decide +kernel)
    (by decide +kernel)

end Era.Services
