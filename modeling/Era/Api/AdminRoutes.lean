import Era.Lib.Refinement
import Era.Services.AuthService

/-!
# Authenticated routes

A request is authenticated by its bearer token, and its route asks for a permission of the user,
before anything is done for it.  Administrators manage users and keys; an action is passed on in
the name of its user.
-/

namespace Era.Api

open Era.Core Era.Lib Era.Security Era.Services

/-! ## Requests -/

/-- `_bearer_token`. -/
def bearerToken (platform : Platform) (authorization : Option String) : Option String :=
  match (authorization.getD "").toList.span (· != ' ') with
  | (_, []) => none
  | (scheme, _ :: credentials) =>
      let credentials := pyStrip (String.ofList credentials)
      if platform.lower (String.ofList scheme) ≠ "bearer" ∨ credentials = "" then none
      else some credentials

inductive Endpoint where
  | createUser (body : Value)
  | listUsers
  | disableUser (userId : String)
  | enableUser (userId : String)
  | createApiKey (userId : String) (body : Value)
  | listUserKeys (userId : String)
  | revokeKey (keyId : String)
  | me
  /-- `POST /v1/actions/execute` with a well-formed body. -/
  | execute (actionType : String)

structure Request where
  endpoint : Endpoint
  authorization : Option String
  drawn : Drawn

/-! ## Bodies -/

/-- The fields of a body, of which there are no others. -/
def bodyFields (allowed : List String) : Value → Option Params
  | .dict fields => if fields.all fun field => allowed.contains field.1 then some fields else none
  | _ => none

def readName (value : Option Value) : Option String :=
  match value with
  | some (.str name) => (validateName name).toOption
  | _ => none

def readRole (value : Option Value) : Option String :=
  match value with
  | none => some Role.user.value
  | some (.str role) => if ["admin", "user"].contains role then some role else none
  | some _ => none

def readDisplayName (value : Option Value) : Option (Option String) :=
  match value with
  | none | some .none => some none
  | some (.str name) => some (some name)
  | some _ => none

def readCredentialRefs (value : Option Value) : Option (List (String × String)) :=
  match value with
  | none => some []
  | some (.dict refs) =>
      refs.mapM fun
        | (domain, .str ref) => some (domain, ref)
        | _ => none
  | some _ => none

/-- `UserCreate`. -/
def readUserCreate (body : Value) : Option NewUser := do
  let fields ← bodyFields ["username", "role", "display_name", "credential_refs"] body
  let username ← readName (fields.lookup "username")
  let role ← readRole (fields.lookup "role")
  let displayName ← readDisplayName (fields.lookup "display_name")
  let credentialRefs ← readCredentialRefs (fields.lookup "credential_refs")
  pure { username, role, displayName, credentialRefs }

/-- `ApiKeyCreate`. -/
def readApiKeyCreate (body : Value) : Option String := do
  let fields ← bodyFields ["name"] body
  readName (fields.lookup "name")

/-! ## Responses -/

structure UserOut where
  id : String
  username : String
  displayName : Option String
  role : String
  disabled : Bool
  createdAt : String
  deriving DecidableEq

def UserOut.ofUser (user : User) : UserOut :=
  { id := user.id
    username := user.username
    displayName := user.displayName
    role := user.role
    disabled := user.disabled
    createdAt := user.createdAt }

structure ApiKeyOut where
  id : String
  userId : String
  name : String
  keyPrefix : String
  createdAt : String
  lastUsedAt : Option String
  revokedAt : Option String
  deriving DecidableEq

def ApiKeyOut.ofKey (key : ApiKey) : ApiKeyOut :=
  { id := key.id
    userId := key.userId
    name := key.name
    keyPrefix := key.keyPrefix
    createdAt := key.createdAt
    lastUsedAt := key.lastUsedAt
    revokedAt := key.revokedAt }

/-- `MeOut`, without the flags of the settings. -/
structure MeOut where
  userId : String
  username : String
  displayName : Option String
  role : String
  deriving DecidableEq

inductive Response where
  | user (user : UserOut)
  | users (users : List UserOut)
  | createdApiKey (key : ApiKeyOut) (rawKey : String)
  | apiKeys (keys : List ApiKeyOut)
  | revokedApiKey (key : ApiKeyOut)
  | me (user : MeOut)
  /-- What goes on to the services, with the context of `build_ctx`. -/
  | passedOn (actorId sessionId actionType : String)
  | httpError (status : Nat) (detail : String)
  /-- The body is not what the schema says. -/
  | unprocessable
  /-- An exception that no handler catches. -/
  | serverError (raised : Raised)

/-! ## Routes -/

section Routes

variable (service : AuthService) (accounts : Accounts)

/-- `get_current_principal`. -/
def getCurrentPrincipal (request : Request) : Accounts × Except Response Principal :=
  let token := bearerToken service.platform request.authorization
  match service.authenticateToken accounts token request.drawn.now with
  | (after, .ok principal) => (after, .ok principal)
  | (after, .error _) => (after, .error (.httpError 401 "authentication required"))

/-- `require_permission`. -/
def requirePermission (user : User) (permission : String) : Except Response Unit :=
  match AuthService.requirePermission user permission with
  | .ok () => .ok ()
  | .error _ => .error (.httpError 403 ("forbidden: missing " ++ permission))

/-- What a route checks of the user before it does anything. -/
def Endpoint.guard (user : User) : Endpoint → Except Response Unit
  | .createUser _ | .listUsers | .disableUser _ | .enableUser _ =>
      requirePermission user Permission.usersManage
  | .createApiKey _ _ | .listUserKeys _ | .revokeKey _ =>
      requirePermission user Permission.apiKeysManage
  | .me => .ok ()
  | .execute actionType =>
      match AuthService.requirePermission user Permission.actionsExecute with
      | .error raised => .error (.serverError raised)
      | .ok () =>
          match service.authorizeAction user actionType with
          | .error _ => .error (.httpError 403 "forbidden: role not allowed for action")
          | .ok () => .ok ()

/-- `create_user`. -/
def Admin.createUser (body : Value) (drawn : Drawn) : Accounts × Response :=
  match readUserCreate body with
  | none => (accounts, .unprocessable)
  | some request =>
      match service.createUser accounts request drawn with
      | (after, .ok user) => (after, .user (UserOut.ofUser user))
      | (after, .error raised) => (after, .serverError raised)

/-- `disable_user` and `enable_user`. -/
def Admin.setUserDisabled (userId : String) (disabled : Bool) : Accounts × Response :=
  match AuthService.setUserDisabled accounts userId disabled with
  | (after, some user) => (after, .user (UserOut.ofUser user))
  | (after, none) => (after, .httpError 404 "user not found")

/-- Whether `except ValueError` catches it. -/
def isValueError (raised : Raised) : Bool :=
  ["ValueError", "ValidationError_"].contains raised.typeName

/-- `str(exc)`. -/
def raisedMessage : Raised → String
  | .toolError _ message | .exception _ message => message
  | .baseException typeName => typeName

/-- `create_api_key`. -/
def Admin.createApiKey (userId : String) (body : Value) (drawn : Drawn) : Accounts × Response :=
  match readApiKeyCreate body with
  | none => (accounts, .unprocessable)
  | some name =>
      match service.createApiKey accounts userId name drawn with
      | (after, .ok (key, raw)) => (after, .createdApiKey (ApiKeyOut.ofKey key) raw)
      | (after, .error raised) =>
          if isValueError raised then (after, .httpError 404 (raisedMessage raised))
          else (after, .serverError raised)

/-- `revoke_key`. -/
def Admin.revokeKey (keyId : String) (now : Instant) : Accounts × Response :=
  match AuthService.revokeKey accounts keyId now with
  | (after, some key) => (after, .revokedApiKey (ApiKeyOut.ofKey key))
  | (after, none) => (after, .httpError 404 "api key not found")

def Ui.me (user : User) : Response :=
  .me {
    userId := user.id
    username := user.username
    displayName := user.displayName
    role := user.role }

/-- The handler of a route. -/
def Endpoint.handle (principal : Principal) (drawn : Drawn) : Endpoint → Accounts × Response
  | .createUser body => Admin.createUser service accounts body drawn
  | .listUsers => (accounts, .users (accounts.listUsers.map UserOut.ofUser))
  | .disableUser userId => Admin.setUserDisabled accounts userId true
  | .enableUser userId => Admin.setUserDisabled accounts userId false
  | .createApiKey userId body => Admin.createApiKey service accounts userId body drawn
  | .listUserKeys userId =>
      (accounts, .apiKeys ((accounts.listKeys (some userId)).map ApiKeyOut.ofKey))
  | .revokeKey keyId => Admin.revokeKey accounts keyId drawn.now
  | .me => (accounts, Ui.me principal.user)
  | .execute actionType =>
      (accounts, .passedOn principal.user.id principal.apiKey.id actionType)

/-- Authentication, then the checks of the route. -/
def admission (request : Request) : Accounts × Except Response Principal :=
  match getCurrentPrincipal service accounts request with
  | (after, .error refused) => (after, .error refused)
  | (after, .ok principal) =>
      match request.endpoint.guard service principal.user with
      | .error refused => (after, .error refused)
      | .ok () => (after, .ok principal)

def serve (request : Request) : Accounts × Response :=
  match admission service accounts request with
  | (after, .error refused) => (after, refused)
  | (after, .ok principal) =>
      request.endpoint.handle service after principal request.drawn

end Routes

/-! ## The machine -/

/-- What comes in: a request, or a call from the console of the operator. -/
inductive ApiInput where
  | request (request : Request)
  | console (call : AuthCall)

inductive ApiOutput where
  | response (response : Response)
  | answer (answer : Except Raised AuthAnswer)

/-- What a client has been told of the accounts. -/
def ApiOutput.tells : ApiOutput → List AccountEvent
  | .answer reply => accountEvents reply
  | .response (.user user) => [.userSet user.id user.role user.disabled]
  | .response (.createdApiKey key raw) => [.keyIssued raw key.id key.userId]
  | .response (.revokedApiKey key) => [.keyRevoked key.id]
  | .response _ => []

def apiMachine (service : AuthService) : Machine Accounts ApiInput ApiOutput where
  step accounts
    | .request request =>
        let (after, response) := serve service accounts request
        (after, .response response)
    | .console call =>
        let (after, answer) := service.step accounts call
        (after, .answer answer)

/-- What clients and the operator have been told since the tables were empty. -/
def told (service : AuthService) (inputs : List ApiInput) : List AccountEvent :=
  (apiMachine service).trace ApiOutput.tells .empty inputs

/-! ## What clients are told -/

variable {service : AuthService} {accounts : Accounts} {seen : List AccountEvent}

theorem createUser_told (body : Value) (drawn : Drawn) : ∃ answer,
    Changes service accounts (Admin.createUser service accounts body drawn).1 answer ∧
      (ApiOutput.response (Admin.createUser service accounts body drawn).2).tells =
        accountEvents answer := by
  unfold Admin.createUser
  cases readUserCreate body with
  | none => exact ⟨.error (authenticationError ""), .unchanged _ rfl, rfl⟩
  | some request =>
      have changes : Changes service accounts (service.createUser accounts request drawn).1 _ :=
        createUser_changes request drawn
      dsimp only
      split
      next after user created =>
        rw [created] at changes
        exact ⟨_, changes, rfl⟩
      next after raised failed =>
        rw [failed] at changes
        exact ⟨_, changes, rfl⟩

theorem setUserDisabled_told (userId : String) (disabled : Bool) : ∃ answer,
    Changes service accounts (Admin.setUserDisabled accounts userId disabled).1 answer ∧
      (ApiOutput.response (Admin.setUserDisabled accounts userId disabled).2).tells =
        accountEvents answer := by
  unfold Admin.setUserDisabled
  have changes : Changes service accounts
      (AuthService.setUserDisabled accounts userId disabled).1 _ :=
    setUserDisabled_changes userId disabled
  split
  next after user written =>
    rw [written] at changes
    exact ⟨_, changes, rfl⟩
  next after missing =>
    rw [missing] at changes
    exact ⟨_, changes, rfl⟩

theorem createApiKey_told (userId : String) (body : Value) (drawn : Drawn) : ∃ answer,
    Changes service accounts (Admin.createApiKey service accounts userId body drawn).1 answer ∧
      (ApiOutput.response (Admin.createApiKey service accounts userId body drawn).2).tells =
        accountEvents answer := by
  unfold Admin.createApiKey
  cases readApiKeyCreate body with
  | none => exact ⟨.error (authenticationError ""), .unchanged _ rfl, rfl⟩
  | some name =>
      have changes : Changes service accounts
          (service.createApiKey accounts userId name drawn).1 _ :=
        createApiKey_changes userId name drawn
      dsimp only
      split
      next after key raw created =>
        rw [created] at changes
        exact ⟨_, changes, rfl⟩
      next after raised failed =>
        rw [failed] at changes
        refine ⟨.error raised, ?_, ?_⟩
        · split
          · exact changes
          · exact changes
        · split
          · rfl
          · rfl

theorem revokeKey_told (keyId : String) (now : Instant) : ∃ answer,
    Changes service accounts (Admin.revokeKey accounts keyId now).1 answer ∧
      (ApiOutput.response (Admin.revokeKey accounts keyId now).2).tells =
        accountEvents answer := by
  unfold Admin.revokeKey
  have changes : Changes service accounts (AuthService.revokeKey accounts keyId now).1 _ :=
    revokeKey_changes keyId now
  split
  next after key revoked =>
    rw [revoked] at changes
    exact ⟨_, changes, rfl⟩
  next after missing =>
    rw [missing] at changes
    exact ⟨_, changes, rfl⟩

/-- A client is told what the service has done for it. -/
theorem handle_told (service : AuthService) (accounts : Accounts) (principal : Principal)
    (drawn : Drawn) (endpoint : Endpoint) : ∃ answer,
    Changes service accounts (endpoint.handle service accounts principal drawn).1 answer ∧
      (ApiOutput.response (endpoint.handle service accounts principal drawn).2).tells =
        accountEvents answer := by
  have nothing : Changes service accounts accounts (.ok (.users [])) := .unchanged _ rfl
  cases endpoint with
  | createUser body => exact createUser_told body drawn
  | listUsers => exact ⟨_, nothing, rfl⟩
  | disableUser userId => exact setUserDisabled_told userId true
  | enableUser userId => exact setUserDisabled_told userId false
  | createApiKey userId body => exact createApiKey_told userId body drawn
  | listUserKeys userId => exact ⟨_, nothing, rfl⟩
  | revokeKey keyId => exact revokeKey_told keyId drawn.now
  | me => exact ⟨_, nothing, rfl⟩
  | execute actionType => exact ⟨_, nothing, rfl⟩

/-- Authentication tells nobody of a change. -/
theorem reflects_authenticated (collisionFree : service.platform.CollisionFree)
    (reflects : Reflects service seen accounts) (token : Option String) (now : Instant) :
    Reflects service seen (service.authenticateToken accounts token now).1 := by
  have kept := reflects.step collisionFree (authenticateToken_changes token now)
  cases answered : (service.authenticateToken accounts token now).2 with
  | error raised =>
      rw [answered] at kept
      exact (List.append_nil seen) ▸ kept
  | ok principal =>
      rw [answered] at kept
      exact (List.append_nil seen) ▸ kept

/-- A refusal passes nothing on. -/
def Response.isRefusal : Response → Bool
  | .httpError _ _ | .serverError _ => true
  | .user _ | .users _ | .createdApiKey _ _ | .apiKeys _ | .revokedApiKey _ | .me _
  | .passedOn _ _ _ | .unprocessable => false

theorem getCurrentPrincipal_cases (service : AuthService) (accounts : Accounts)
    (request : Request) :
    ∃ after answer, service.authenticateToken accounts
        (bearerToken service.platform request.authorization) request.drawn.now = (after, answer) ∧
      ((∃ principal, answer = .ok principal ∧
          getCurrentPrincipal service accounts request = (after, .ok principal)) ∨
        ∃ raised, answer = .error raised ∧
          getCurrentPrincipal service accounts request =
            (after, .error (.httpError 401 "authentication required"))) := by
  unfold getCurrentPrincipal
  dsimp only
  split
  next after principal authenticated =>
    exact ⟨after, _, authenticated, .inl ⟨principal, rfl, rfl⟩⟩
  next after raised failed =>
    exact ⟨after, _, failed, .inr ⟨raised, rfl, rfl⟩⟩

theorem requirePermission_error {user : User} {permission : String} {refused : Response}
    (failed : requirePermission user permission = .error refused) :
    refused = .httpError 403 ("forbidden: missing " ++ permission) := by
  unfold requirePermission at failed
  split at failed
  next => cases failed
  next =>
    cases failed
    rfl

theorem guard_error {user : User} {endpoint : Endpoint} {refused : Response}
    (failed : endpoint.guard service user = .error refused) : refused.isRefusal = true := by
  unfold Endpoint.guard at failed
  split at failed
  iterate 7
    next =>
      rw [requirePermission_error failed]
      rfl
  next => cases failed
  next =>
    split at failed
    next =>
      cases failed
      rfl
    next =>
      split at failed
      next =>
        cases failed
        rfl
      next => cases failed

theorem guard_execute {user : User} (enabled : user.disabled = false) (actionType : String) :
    Endpoint.guard service user (.execute actionType) = .ok () ↔
      roleHasPermission (some user.role) Permission.actionsExecute = true ∧
        roleDomainAllowed (some user.role)
          ((service.catalog.get actionType).map ActionSpec.capabilityDomain) = true := by
  unfold Endpoint.guard
  rw [← AuthService.requirePermission_ok_iff enabled, ← AuthService.authorizeAction_ok_iff enabled]
  cases AuthService.requirePermission user Permission.actionsExecute with
  | error raised => simp
  | ok granted =>
      dsimp only
      cases service.authorizeAction user actionType with
      | error raised => simp
      | ok allowed => simp

theorem handle_passedOn {principal : Principal} {drawn : Drawn} {endpoint : Endpoint}
    {actorId sessionId actionType : String} :
    (endpoint.handle service accounts principal drawn).2 =
        .passedOn actorId sessionId actionType ↔
      endpoint = .execute actionType ∧ principal.user.id = actorId ∧
        principal.apiKey.id = sessionId := by
  cases endpoint with
  | createUser body =>
      unfold Endpoint.handle Admin.createUser
      grind
  | listUsers => simp [Endpoint.handle]
  | disableUser userId =>
      unfold Endpoint.handle Admin.setUserDisabled
      grind
  | enableUser userId =>
      unfold Endpoint.handle Admin.setUserDisabled
      grind
  | createApiKey userId body =>
      unfold Endpoint.handle Admin.createApiKey
      grind
  | listUserKeys userId => simp [Endpoint.handle]
  | revokeKey keyId =>
      unfold Endpoint.handle Admin.revokeKey
      grind
  | me => simp [Endpoint.handle, Ui.me]
  | execute other =>
      simp only [Endpoint.handle, Response.passedOn.injEq, Endpoint.execute.injEq]
      tauto

theorem serve_passedOn_iff (reflects : Reflects service seen accounts) (request : Request)
    (actorId sessionId actionType : String) :
    (serve service accounts request).2 = .passedOn actorId sessionId actionType ↔
      request.endpoint = .execute actionType ∧ ∃ role,
        verdict seen (bearerToken service.platform request.authorization) =
          .ok { keyId := sessionId, userId := actorId, role } ∧
        roleHasPermission (some role) Permission.actionsExecute = true ∧
        roleDomainAllowed (some role)
          ((service.catalog.get actionType).map ActionSpec.capabilityDomain) = true := by
  have stands := reflects.verdict_eq (bearerToken service.platform request.authorization)
    request.drawn.now
  obtain ⟨after, answer, authenticated, ⟨principal, rfl, current⟩ | ⟨raised, rfl, current⟩⟩ :=
    getCurrentPrincipal_cases service accounts request
  · rw [authenticated] at stands
    rw [← stands]
    unfold serve admission
    rw [current]
    dsimp only [Except.map]
    obtain ⟨_, _, _, _, _, _, _, _, enabled⟩ := authenticateToken_ok authenticated
    constructor
    · intro passed
      cases checked : request.endpoint.guard service principal.user with
      | error refused =>
          rw [checked] at passed
          have refusal := guard_error checked
          rw [show refused = _ from passed] at refusal
          cases refusal
      | ok granted =>
          rw [checked] at passed
          obtain ⟨at_execute, rfl, rfl⟩ := handle_passedOn.mp passed
          rw [at_execute] at checked
          exact ⟨at_execute, principal.user.role, rfl,
            (guard_execute enabled actionType).mp checked⟩
    · rintro ⟨at_execute, role, same, granted⟩
      obtain ⟨rfl, rfl, rfl⟩ := Identity.mk.inj (Except.ok.inj same)
      rw [at_execute, (guard_execute enabled actionType).mpr granted]
      rfl
  · rw [authenticated] at stands
    rw [← stands]
    unfold serve admission
    rw [current]
    exact iff_of_false (by simp) (by simp [Except.map])

theorem tells_refusal {refused : Response} (refusal : refused.isRefusal = true) :
    (ApiOutput.response refused).tells = [] := by
  cases refused with
  | httpError status detail => rfl
  | serverError raised => rfl
  | user user => cases refusal
  | users users => cases refusal
  | createdApiKey key rawKey => cases refusal
  | apiKeys keys => cases refusal
  | revokedApiKey key => cases refusal
  | me user => cases refusal
  | passedOn actorId sessionId actionType => cases refusal
  | unprocessable => cases refusal

/-- A request keeps the tables and what clients are told in agreement. -/
theorem serve_reflects (collisionFree : service.platform.CollisionFree)
    (reflects : Reflects service seen accounts) (request : Request) :
    Reflects service (seen ++ (ApiOutput.response (serve service accounts request).2).tells)
      (serve service accounts request).1 := by
  have kept := reflects_authenticated collisionFree reflects
    (bearerToken service.platform request.authorization) request.drawn.now
  obtain ⟨after, answer, authenticated, ⟨principal, rfl, current⟩ | ⟨raised, rfl, current⟩⟩ :=
    getCurrentPrincipal_cases service accounts request
  · rw [authenticated] at kept
    unfold serve admission
    rw [current]
    dsimp only
    cases checked : request.endpoint.guard service principal.user with
    | error refused =>
        dsimp only
        rw [tells_refusal (guard_error checked), List.append_nil]
        exact kept
    | ok granted =>
        obtain ⟨reply, changes, same⟩ :=
          handle_told service after principal request.drawn request.endpoint
        dsimp only
        rw [same]
        exact kept.step collisionFree changes
  · rw [authenticated] at kept
    unfold serve admission
    rw [current]
    exact (List.append_nil seen).symm ▸ kept

theorem told_reflects (collisionFree : service.platform.CollisionFree) (inputs : List ApiInput) :
    Reflects service (told service inputs) ((apiMachine service).stateAfter .empty inputs) := by
  have admitted : (apiMachine service).Admits (fun _ _ => True) .empty inputs :=
    fun _ _ _ _ => True.intro
  refine Machine.trace_invariant_of_admits ApiOutput.tells Reflects.empty
    (fun seen accounts input reflects _ => ?_) admitted
  cases input with
  | request request => exact serve_reflects collisionFree reflects request
  | console call => exact reflects.step collisionFree (step_changes service accounts call)

namespace Demo

def apiService : AuthService :=
  { platform := .plain
    catalog := {
      specs := [{ actionType := "fs.read", riskLevel := .safe, capabilityDomain := "file" }] } }

/-- The operator creates an administrator with two keys and revokes the first. -/
def consoleCalls : List ApiInput := Services.Demo.authCalls.map .console

def readRequest : Request :=
  { endpoint := .execute "fs.read"
    authorization := some "Bearer era_second"
    drawn := ⟨"", "", Services.Demo.dayOne⟩ }

theorem bearerToken_readRequest :
    bearerToken .plain readRequest.authorization = some "era_second" := by decide +kernel

end Demo

end Era.Api
