import Era.Api.AdminRoutes

/-!
# Only administrators change accounts

Requests that no administrator has authorised have no influence on the accounts, but for when a
key was used last, nor on what the others are answered.
-/

namespace Era.Services

open Era.Core Era.Lib Era.Security

/-! ## Accounts without the times of use -/

def ApiKey.unused (key : ApiKey) : ApiKey := { key with lastUsedAt := none }

namespace Accounts

variable (accounts : Accounts)

theorem keyIds_unused : ((accounts.keys.map ApiKey.unused).map ApiKey.id).Nodup := by
  rw [List.map_map]
  exact accounts.keyIds

theorem keyHashes_unused : ((accounts.keys.map ApiKey.unused).map ApiKey.keyHash).Nodup := by
  rw [List.map_map]
  exact accounts.keyHashes

def unused : Accounts :=
  { accounts with
    keys := accounts.keys.map ApiKey.unused
    keyIds := accounts.keyIds_unused
    keyHashes := accounts.keyHashes_unused }

@[simp] theorem unused_unused : accounts.unused.unused = accounts.unused := by
  refine eq_of_tables rfl ?_
  unfold unused
  dsimp only
  rw [List.map_map]
  rfl

theorem keyById_unused (keyId : String) :
    accounts.unused.keyById keyId = (accounts.keyById keyId).map ApiKey.unused :=
  Table.find_map fun _ => rfl

theorem keyByHash_unused (keyHash : String) :
    accounts.unused.keyByHash keyHash = (accounts.keyByHash keyHash).map ApiKey.unused :=
  Table.find_map fun _ => rfl

theorem setRevoked_unused (keyId revokedAt : String) :
    (accounts.setRevoked keyId revokedAt).unused = accounts.unused.setRevoked keyId revokedAt := by
  refine eq_of_tables rfl ?_
  unfold unused setRevoked revokedRows Table.amend
  dsimp only
  rw [List.map_map, List.map_map]
  refine List.map_congr_left fun key _ => ?_
  exact apply_ite ApiKey.unused _ _ _

theorem setLastUsed_unused (keyId lastUsedAt : String) :
    (accounts.setLastUsed keyId lastUsedAt).unused = accounts.unused := by
  refine eq_of_tables rfl ?_
  unfold unused setLastUsed usedRows Table.amend
  dsimp only
  rw [List.map_map]
  refine List.map_congr_left fun key _ => ?_
  exact (apply_ite ApiKey.unused _ _ _).trans (ite_self _)

theorem addUser_unused (user : User) :
    accounts.unused.addUser user = (accounts.addUser user).map unused := by
  unfold addUser
  by_cases newId : accounts.userById user.id = none
  · by_cases newName : accounts.userByUsername user.username = none
    · rw [dif_pos newId, dif_pos newName]
      exact (dif_pos newId).trans (dif_pos newName)
    · rw [dif_pos newId, dif_neg newName]
      exact (dif_pos newId).trans (dif_neg newName)
  · rw [dif_neg newId]
    exact dif_neg newId

theorem addKey_unused (key : ApiKey) (new : key.unused = key) :
    accounts.unused.addKey key = (accounts.addKey key).map unused := by
  unfold addKey
  by_cases newId : accounts.keyById key.id = none
  · have stillNew : accounts.unused.keyById key.id = none := by rw [keyById_unused, newId]; rfl
    by_cases newHash : accounts.keyByHash key.keyHash = none
    · have hashNew : accounts.unused.keyByHash key.keyHash = none := by
        rw [keyByHash_unused, newHash]
        rfl
      rw [dif_pos newId, dif_pos newHash, dif_pos stillNew, dif_pos hashNew]
      refine congrArg Except.ok (eq_of_tables rfl ?_)
      unfold unused
      dsimp only
      rw [List.map_append, List.map_singleton, new]
    · have taken : ¬accounts.unused.keyByHash key.keyHash = none := by
        rwa [keyByHash_unused, Option.map_eq_none_iff]
      rw [dif_pos newId, dif_neg newHash, dif_pos stillNew, dif_neg taken]
      rfl
  · have taken : ¬accounts.unused.keyById key.id = none := by
      rwa [keyById_unused, Option.map_eq_none_iff]
    rw [dif_neg newId, dif_neg taken]
    rfl

theorem listKeys_unused (userId : Option String) :
    accounts.unused.listKeys userId = (accounts.listKeys userId).map ApiKey.unused := by
  unfold listKeys unused
  dsimp only
  rw [List.filter_map]
  exact (List.map_insertionSort _ _ ApiKey.unused _ fun _ _ _ _ => Iff.rfl).symm

end Accounts

/-! ## Calls without the times of use -/

def AuthAnswer.unused : AuthAnswer → AuthAnswer
  | .written user => .written user
  | .issued key raw => .issued key.unused raw
  | .revoked key => .revoked (key.map ApiKey.unused)
  | .authenticated principal =>
      .authenticated { user := principal.user, apiKey := principal.apiKey.unused }
  | .found user => .found user
  | .users rows => .users rows
  | .keys rows => .keys (rows.map ApiKey.unused)

variable {service : AuthService} {accounts : Accounts}

theorem bootstrapAdmin_unused (drawn : Drawn) :
    AuthService.bootstrapAdmin accounts.unused drawn =
      Prod.map Accounts.unused id (AuthService.bootstrapAdmin accounts drawn) := by
  unfold AuthService.bootstrapAdmin
  by_cases known : (accounts.userByUsername defaultAdminUsername).isSome
  · rw [if_pos known]
    exact if_pos known
  · rw [if_neg known]
    refine (if_neg known).trans ?_
    dsimp only [bind, Except.bind]
    rw [Accounts.addUser_unused]
    cases accounts.addUser _ with
    | error raised => rfl
    | ok after => rfl

theorem createUser_unused (request : NewUser) (drawn : Drawn) :
    service.createUser accounts.unused request drawn =
      Prod.map Accounts.unused id (service.createUser accounts request drawn) := by
  unfold AuthService.createUser
  cases validateName request.username with
  | error raised => rfl
  | ok username =>
      cases request.displayName.mapM validateName with
      | error raised => rfl
      | ok displayName =>
          cases Role.ofValue? request.role with
          | none => rfl
          | some role =>
              dsimp only [bind, Except.bind]
              by_cases known : (accounts.userByUsername username).isSome
              · rw [if_pos known, if_pos (show (accounts.unused.userByUsername username).isSome
                  from known)]
                rfl
              · rw [if_neg known, if_neg (show ¬(accounts.unused.userByUsername username).isSome
                  from known), Accounts.addUser_unused]
                cases accounts.addUser _ with
                | error raised => rfl
                | ok after => rfl

theorem setUserDisabled_unused (userId : String) (disabled : Bool) :
    AuthService.setUserDisabled accounts.unused userId disabled =
      Prod.map Accounts.unused id (AuthService.setUserDisabled accounts userId disabled) := by
  have same : accounts.unused.userById userId = accounts.userById userId := rfl
  unfold AuthService.setUserDisabled
  rw [same]
  cases accounts.userById userId with
  | none => rfl
  | some user => rfl

theorem createApiKey_unused (userId name : String) (drawn : Drawn) :
    service.createApiKey accounts.unused userId name drawn =
      Prod.map Accounts.unused id (service.createApiKey accounts userId name drawn) := by
  unfold AuthService.createApiKey
  cases validateName name with
  | error raised => rfl
  | ok name =>
      have same : accounts.unused.userById userId = accounts.userById userId := rfl
      dsimp only [bind, Except.bind]
      rw [same]
      split
      next => rfl
      next =>
        rw [Accounts.addKey_unused _ _ rfl]
        cases accounts.addKey _ with
        | error raised => rfl
        | ok after => rfl

theorem revokeKey_unused (keyId : String) (now : Instant) :
    AuthService.revokeKey accounts.unused keyId now =
      Prod.map Accounts.unused (Option.map ApiKey.unused)
        (AuthService.revokeKey accounts keyId now) := by
  unfold AuthService.revokeKey
  rw [Accounts.keyById_unused]
  cases accounts.keyById keyId with
  | none => rfl
  | some key =>
      obtain ⟨id, userId, name, keyHash, keyPrefix, createdAt, lastUsedAt, revokedAt⟩ := key
      cases revokedAt with
      | none =>
          dsimp only [Option.map_some, ApiKey.unused, Prod.map]
          rw [Accounts.setRevoked_unused]
          rfl
      | some revokedAt => rfl

def Principal.unused (principal : Principal) : Principal :=
  { user := principal.user, apiKey := principal.apiKey.unused }

/-- Authentication changes nothing but when the key was used last. -/
theorem authenticateToken_same (token : Option String) (now : Instant) :
    (service.authenticateToken accounts token now).1.unused = accounts.unused := by
  unfold AuthService.authenticateToken
  split
  next => rfl
  next =>
    split
    next => rfl
    next =>
      split
      next => rfl
      next =>
        split
        next => rfl
        next =>
          split
          next => rfl
          next => exact accounts.setLastUsed_unused _ _

theorem unused_of_authenticated {after : Accounts} {answer : Except Raised Principal}
    {token : Option String} {now : Instant}
    (authenticated : service.authenticateToken accounts token now = (after, answer)) :
    after.unused = accounts.unused := by
  have same : (service.authenticateToken accounts token now).1.unused = accounts.unused :=
    authenticateToken_same token now
  rwa [authenticated] at same

theorem authenticateToken_unused (token : Option String) (now : Instant) :
    (service.authenticateToken accounts.unused token now).2.map Principal.unused =
      (service.authenticateToken accounts token now).2.map Principal.unused := by
  unfold AuthService.authenticateToken
  split
  next => rfl
  next =>
    rw [Accounts.keyByHash_unused]
    cases accounts.keyByHash _ with
    | none => rfl
    | some key =>
        have same : accounts.unused.userById key.userId = accounts.userById key.userId := rfl
        dsimp only [Option.map_some, ApiKey.unused]
        split
        next => rfl
        next =>
          rw [same]
          cases accounts.userById key.userId with
          | none => rfl
          | some user =>
              dsimp only
              split
              next => rfl
              next => rfl

theorem authenticated_unused (answer : Except Raised Principal) :
    (answer.map AuthAnswer.authenticated).map AuthAnswer.unused =
      (answer.map Principal.unused).map AuthAnswer.authenticated := by
  cases answer with
  | error raised => rfl
  | ok principal => rfl

/-- A call has the same effect and the same answer whenever the keys have been used. -/
theorem step_unused (service : AuthService) (accounts : Accounts) (call : AuthCall) :
    (service.step accounts.unused call).1.unused = (service.step accounts call).1.unused ∧
      (service.step accounts.unused call).2.map AuthAnswer.unused =
        (service.step accounts call).2.map AuthAnswer.unused := by
  cases call with
  | bootstrapAdmin drawn =>
      unfold AuthService.step
      dsimp only
      rw [bootstrapAdmin_unused]
      exact ⟨Accounts.unused_unused _, rfl⟩
  | createUser request drawn =>
      unfold AuthService.step
      dsimp only
      rw [createUser_unused]
      exact ⟨Accounts.unused_unused _, rfl⟩
  | setUserDisabled userId disabled =>
      unfold AuthService.step
      dsimp only
      rw [setUserDisabled_unused]
      exact ⟨Accounts.unused_unused _, rfl⟩
  | createApiKey userId name drawn =>
      unfold AuthService.step
      dsimp only
      rw [createApiKey_unused]
      exact ⟨Accounts.unused_unused _, rfl⟩
  | revokeKey keyId now =>
      unfold AuthService.step
      dsimp only
      rw [revokeKey_unused]
      refine ⟨Accounts.unused_unused _, ?_⟩
      dsimp only [Prod.map]
      cases (AuthService.revokeKey accounts keyId now).2 with
      | none => rfl
      | some key => rfl
  | authenticateToken token now =>
      unfold AuthService.step
      dsimp only
      rw [authenticateToken_same, authenticateToken_same, Accounts.unused_unused]
      refine ⟨rfl, ?_⟩
      rw [authenticated_unused, authenticated_unused, authenticateToken_unused]
  | getUser userId => exact ⟨Accounts.unused_unused _, rfl⟩
  | getUserByUsername username => exact ⟨Accounts.unused_unused _, rfl⟩
  | listUsers => exact ⟨Accounts.unused_unused _, rfl⟩
  | listKeys userId =>
      refine ⟨Accounts.unused_unused _, ?_⟩
      dsimp only [AuthService.step]
      rw [Accounts.listKeys_unused]
      simp [Except.map, AuthAnswer.unused, ApiKey.unused]

end Era.Services

namespace Era.Api

open Era.Core Era.Lib Era.Security Era.Services

/-! ## Requests without the times of use -/

def ApiKeyOut.unused (key : ApiKeyOut) : ApiKeyOut := { key with lastUsedAt := none }

def Response.unused : Response → Response
  | .user out => .user out
  | .users rows => .users rows
  | .createdApiKey key raw => .createdApiKey key.unused raw
  | .apiKeys rows => .apiKeys (rows.map ApiKeyOut.unused)
  | .revokedApiKey key => .revokedApiKey key.unused
  | .me out => .me out
  | .passedOn actorId sessionId actionType => .passedOn actorId sessionId actionType
  | .httpError status detail => .httpError status detail
  | .unprocessable => .unprocessable
  | .serverError raised => .serverError raised

theorem Response.unused_unused (response : Response) :
    response.unused.unused = response.unused := by
  cases response with
  | apiKeys rows => simp [Response.unused, ApiKeyOut.unused]
  | user out => rfl
  | users rows => rfl
  | createdApiKey key raw => rfl
  | revokedApiKey key => rfl
  | me out => rfl
  | passedOn actorId sessionId actionType => rfl
  | httpError status detail => rfl
  | unprocessable => rfl
  | serverError raised => rfl

def ApiOutput.unused : ApiOutput → ApiOutput
  | .response out => .response out.unused
  | .answer reply => .answer (reply.map AuthAnswer.unused)

variable {service : AuthService} {accounts other : Accounts}

theorem adminCreateUser_unused (body : Value) (drawn : Drawn) :
    Admin.createUser service accounts.unused body drawn =
      Prod.map Accounts.unused id (Admin.createUser service accounts body drawn) := by
  unfold Admin.createUser
  cases readUserCreate body with
  | none => rfl
  | some request =>
      dsimp only
      rw [createUser_unused]
      obtain ⟨after, answer⟩ := service.createUser accounts request drawn
      cases answer with
      | error raised => rfl
      | ok user => rfl

theorem adminSetUserDisabled_unused (userId : String) (disabled : Bool) :
    Admin.setUserDisabled accounts.unused userId disabled =
      Prod.map Accounts.unused id (Admin.setUserDisabled accounts userId disabled) := by
  unfold Admin.setUserDisabled
  rw [setUserDisabled_unused]
  obtain ⟨after, answer⟩ := AuthService.setUserDisabled accounts userId disabled
  cases answer with
  | none => rfl
  | some user => rfl

theorem adminCreateApiKey_unused (userId : String) (body : Value) (drawn : Drawn) :
    Admin.createApiKey service accounts.unused userId body drawn =
      Prod.map Accounts.unused id (Admin.createApiKey service accounts userId body drawn) := by
  unfold Admin.createApiKey
  cases readApiKeyCreate body with
  | none => rfl
  | some name =>
      dsimp only
      rw [createApiKey_unused]
      obtain ⟨after, answer⟩ := service.createApiKey accounts userId name drawn
      cases answer with
      | error raised =>
          dsimp only [Prod.map, id]
          split
          next => rfl
          next => rfl
      | ok pair => rfl

theorem adminRevokeKey_unused (keyId : String) (now : Instant) :
    Admin.revokeKey accounts.unused keyId now =
      Prod.map Accounts.unused Response.unused (Admin.revokeKey accounts keyId now) := by
  unfold Admin.revokeKey
  rw [revokeKey_unused]
  obtain ⟨after, answer⟩ := AuthService.revokeKey accounts keyId now
  cases answer with
  | none => rfl
  | some key => rfl

theorem listed_unused (userId : String) :
    ((accounts.unused.listKeys (some userId)).map ApiKeyOut.ofKey).map ApiKeyOut.unused =
      ((accounts.listKeys (some userId)).map ApiKeyOut.ofKey).map ApiKeyOut.unused := by
  rw [Accounts.listKeys_unused, List.map_map, List.map_map, List.map_map]
  rfl

/-- A handler does the same whenever the keys have been used. -/
theorem handle_unused (service : AuthService) (accounts : Accounts)
    {principal current : Principal} (same : principal.unused = current.unused) (drawn : Drawn)
    (endpoint : Endpoint) :
    (endpoint.handle service accounts.unused principal drawn).1.unused =
        (endpoint.handle service accounts current drawn).1.unused ∧
      (endpoint.handle service accounts.unused principal drawn).2.unused =
        (endpoint.handle service accounts current drawn).2.unused := by
  obtain ⟨users, keys⟩ := Principal.mk.inj same
  have ids : principal.apiKey.unused.id = current.apiKey.unused.id := congrArg ApiKey.id keys
  cases endpoint with
  | createUser body =>
      unfold Endpoint.handle
      dsimp only
      rw [adminCreateUser_unused]
      exact ⟨Accounts.unused_unused _, rfl⟩
  | listUsers => exact ⟨Accounts.unused_unused _, rfl⟩
  | disableUser userId =>
      unfold Endpoint.handle
      dsimp only
      rw [adminSetUserDisabled_unused]
      exact ⟨Accounts.unused_unused _, rfl⟩
  | enableUser userId =>
      unfold Endpoint.handle
      dsimp only
      rw [adminSetUserDisabled_unused]
      exact ⟨Accounts.unused_unused _, rfl⟩
  | createApiKey userId body =>
      unfold Endpoint.handle
      dsimp only
      rw [adminCreateApiKey_unused]
      exact ⟨Accounts.unused_unused _, rfl⟩
  | listUserKeys userId =>
      exact ⟨Accounts.unused_unused _, congrArg Response.apiKeys (listed_unused userId)⟩
  | revokeKey keyId =>
      unfold Endpoint.handle
      dsimp only
      rw [adminRevokeKey_unused]
      exact ⟨Accounts.unused_unused _, Response.unused_unused _⟩
  | me =>
      unfold Endpoint.handle
      dsimp only
      rw [users]
      exact ⟨Accounts.unused_unused _, rfl⟩
  | execute actionType =>
      unfold Endpoint.handle
      dsimp only
      rw [users]
      exact ⟨Accounts.unused_unused _,
        congrArg (Response.passedOn current.user.id · actionType) ids⟩

/-- A request is served alike whenever the keys have been used. -/
theorem serve_unused (service : AuthService) (accounts : Accounts) (request : Request) :
    (serve service accounts.unused request).1.unused =
        (serve service accounts request).1.unused ∧
      (serve service accounts.unused request).2.unused =
        (serve service accounts request).2.unused := by
  have sameToken : (service.authenticateToken accounts.unused _ _).2.map Principal.unused = _ :=
    authenticateToken_unused (bearerToken service.platform request.authorization)
      request.drawn.now
  obtain ⟨left, leftAnswer, leftEq, leftCases⟩ :=
    getCurrentPrincipal_cases service accounts.unused request
  obtain ⟨right, rightAnswer, rightEq, rightCases⟩ :=
    getCurrentPrincipal_cases service accounts request
  have leftSame : left.unused = accounts.unused :=
    (unused_of_authenticated leftEq).trans (Accounts.unused_unused accounts)
  have rightSame : right.unused = accounts.unused := unused_of_authenticated rightEq
  rw [leftEq, rightEq] at sameToken
  unfold serve admission
  obtain ⟨principal, rfl, leftCurrent⟩ | ⟨raised, rfl, leftCurrent⟩ := leftCases
  · obtain ⟨current, rfl, rightCurrent⟩ | ⟨raised, rfl, rightCurrent⟩ := rightCases
    · have same : principal.unused = current.unused := Except.ok.inj sameToken
      have users : principal.user = current.user := (Principal.mk.inj same).1
      rw [leftCurrent, rightCurrent]
      dsimp only
      rw [users]
      cases request.endpoint.guard service current.user with
      | error refused => exact ⟨leftSame.trans rightSame.symm, rfl⟩
      | ok granted =>
          have fromLeft := handle_unused service left (rfl : principal.unused = _) request.drawn
            request.endpoint
          have fromRight := handle_unused service right same request.drawn request.endpoint
          rw [leftSame] at fromLeft
          rw [rightSame] at fromRight
          exact ⟨fromLeft.1.symm.trans fromRight.1, fromLeft.2.symm.trans fromRight.2⟩
    · cases sameToken
  · obtain ⟨current, rfl, rightCurrent⟩ | ⟨raised, rfl, rightCurrent⟩ := rightCases
    · cases sameToken
    · rw [leftCurrent, rightCurrent]
      exact ⟨leftSame.trans rightSame.symm, rfl⟩

/-! ## Who may change the accounts -/

/-- The routes that manage users and keys. -/
def Endpoint.manages : Endpoint → Bool
  | .createUser _ | .listUsers | .disableUser _ | .enableUser _ | .createApiKey _ _
  | .listUserKeys _ | .revokeKey _ => true
  | .me | .execute _ => false

/-- A token is a key of an enabled administrator that has not been revoked. -/
def administers (service : AuthService) (accounts : Accounts) (token : Option String) : Bool :=
  token.any fun text =>
    accounts.keys.any fun key =>
      key.keyHash == service.platform.sha256Hex text && key.revokedAt.isNone &&
        accounts.users.any fun user =>
          user.id == key.userId && !user.disabled && user.role == Role.admin.value

/-- The calls of the operator, and the requests to manage accounts that an administrator has
authorised. -/
def matters (service : AuthService) (accounts : Accounts) : ApiInput → Bool
  | .console _ => true
  | .request request =>
      request.endpoint.manages &&
        administers service accounts (bearerToken service.platform request.authorization)

theorem requirePermission_ok {user : User} {permission : String}
    (passed : requirePermission user permission = .ok ()) :
    AuthService.requirePermission user permission = .ok () := by
  unfold requirePermission at passed
  split at passed
  next granted => exact granted
  next => cases passed

theorem guard_manages {user : User} {endpoint : Endpoint} (enabled : user.disabled = false)
    (managed : endpoint.manages = true) (passed : endpoint.guard service user = .ok ()) :
    user.role = Role.admin.value := by
  have users (passed : requirePermission user Permission.usersManage = .ok ()) :=
    roleHasPermission_eq_true_of_admin usersManage_reserved
      ((AuthService.requirePermission_ok_iff enabled).mp (requirePermission_ok passed))
  have keys (passed : requirePermission user Permission.apiKeysManage = .ok ()) :=
    roleHasPermission_eq_true_of_admin apiKeysManage_reserved
      ((AuthService.requirePermission_ok_iff enabled).mp (requirePermission_ok passed))
  cases endpoint with
  | createUser body => exact users passed
  | listUsers => exact users passed
  | disableUser userId => exact users passed
  | enableUser userId => exact users passed
  | createApiKey userId body => exact keys passed
  | listUserKeys userId => exact keys passed
  | revokeKey keyId => exact keys passed
  | me => cases managed
  | execute actionType => cases managed

theorem guard_refuses {user : User} {endpoint : Endpoint} {refused : Response}
    (managed : endpoint.manages = true)
    (failed : endpoint.guard service user = .error refused) :
    ∃ detail, refused = .httpError 403 detail := by
  cases endpoint with
  | createUser body => exact ⟨_, requirePermission_error failed⟩
  | listUsers => exact ⟨_, requirePermission_error failed⟩
  | disableUser userId => exact ⟨_, requirePermission_error failed⟩
  | enableUser userId => exact ⟨_, requirePermission_error failed⟩
  | createApiKey userId body => exact ⟨_, requirePermission_error failed⟩
  | listUserKeys userId => exact ⟨_, requirePermission_error failed⟩
  | revokeKey keyId => exact ⟨_, requirePermission_error failed⟩
  | me => cases managed
  | execute actionType => cases managed

theorem administers_of_authenticated {after : Accounts} {token : Option String} {now : Instant}
    {principal : Principal}
    (authenticated : service.authenticateToken accounts token now = (after, .ok principal))
    (admin : principal.user.role = Role.admin.value) :
    administers service accounts token = true := by
  obtain ⟨text, rfl, key, stored, hash, valid, known, owner, enabled⟩ :=
    authenticateToken_ok authenticated
  refine List.any_eq_true.mpr ⟨key, stored, ?_⟩
  have owned : accounts.users.any (fun user =>
      user.id == key.userId && !user.disabled && user.role == Role.admin.value) = true :=
    List.any_eq_true.mpr ⟨principal.user, known, by simp [owner, enabled, admin]⟩
  simp [hash, valid, owned]

/-- A request without an administrator's authority is refused where it would manage accounts, and
changes nothing but when its key was used last. -/
theorem serve_unauthorised (request : Request)
    (ignored : matters service accounts (.request request) = false) :
    (serve service accounts request).1.unused = accounts.unused ∧
      (request.endpoint.manages = true → ∃ status detail,
        (serve service accounts request).2 = .httpError status detail ∧
          (status = 401 ∨ status = 403)) := by
  unfold serve admission
  obtain ⟨after, answer, authenticated, ⟨principal, rfl, current⟩ | ⟨raised, rfl, current⟩⟩ :=
    getCurrentPrincipal_cases service accounts request
  · have same := unused_of_authenticated authenticated
    rw [current]
    dsimp only
    cases checked : request.endpoint.guard service principal.user with
    | error refused =>
        refine ⟨same, fun managed => ?_⟩
        obtain ⟨detail, rfl⟩ := guard_refuses managed checked
        exact ⟨403, detail, rfl, .inr rfl⟩
    | ok granted =>
        obtain ⟨_, _, _, _, _, _, _, _, enabled⟩ := authenticateToken_ok authenticated
        have unmanaged : request.endpoint.manages = false := by
          by_contra managed
          have manages : request.endpoint.manages = true := by simpa using managed
          have admin := guard_manages enabled manages checked
          have authority := administers_of_authenticated authenticated admin
          rw [matters, manages, authority] at ignored
          cases ignored
        refine ⟨?_, fun managed => ?_⟩
        · cases endpoint_eq : request.endpoint with
          | me => exact same
          | execute actionType => exact same
          | _ =>
              rw [endpoint_eq] at unmanaged
              cases unmanaged
        · rw [unmanaged] at managed
          cases managed
  · rw [current]
    exact ⟨unused_of_authenticated authenticated,
      fun _ => ⟨401, "authentication required", rfl, .inl rfl⟩⟩

theorem api_kept {input : ApiInput} (same : accounts.unused = other.unused) :
    ((apiMachine service).step accounts input).1.unused =
        ((apiMachine service).step other input).1.unused ∧
      ((apiMachine service).step accounts input).2.unused =
        ((apiMachine service).step other input).2.unused := by
  cases input with
  | request request =>
      obtain ⟨left, leftResponse⟩ := serve_unused service accounts request
      obtain ⟨right, rightResponse⟩ := serve_unused service other request
      rw [same] at left leftResponse
      exact ⟨left.symm.trans right,
        congrArg ApiOutput.response (leftResponse.symm.trans rightResponse)⟩
  | console call =>
      obtain ⟨left, leftAnswer⟩ := step_unused service accounts call
      obtain ⟨right, rightAnswer⟩ := step_unused service other call
      rw [same] at left leftAnswer
      exact ⟨left.symm.trans right,
        congrArg ApiOutput.answer (leftAnswer.symm.trans rightAnswer)⟩

end Era.Api
