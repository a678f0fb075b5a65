import Era.Core.Clock
import Era.Core.Platform
import Era.Core.Result
import Era.Core.ToolRegistry
import Era.Lib.Machine
import Era.Lib.Table
import Era.Security.Rbac
import Mathlib.Data.List.Sort

/-!
# Users, API keys and authentication

The raw key is answered once and its hash is kept, so a token is looked up by its hash.  It
authenticates the owner of the key until the key is revoked or the owner disabled.
-/

namespace Era.Security

open Era.Core

/-- `MAX_NAME_LEN`. -/
def maxNameLen : Nat := 128

/-- `validate_name`. -/
def validateName (value : String) : Except Raised String :=
  if value = "" then .error (.exception "ValidationError_" "name must be a non-empty string")
  else if maxNameLen < value.length then .error (.exception "ValidationError_" "name too long")
  else .ok value

end Era.Security

namespace Era.Services

open Era.Core Era.Lib Era.Security

structure User where
  id : String
  username : String
  displayName : Option String
  role : String
  disabled : Bool
  createdAt : String
  credentialRefs : List (String × String)
  deriving DecidableEq

structure ApiKey where
  id : String
  userId : String
  name : String
  keyHash : String
  keyPrefix : String
  createdAt : String
  lastUsedAt : Option String := none
  revokedAt : Option String := none
  deriving DecidableEq

def User.withDisabled (disabled : Bool) (user : User) : User := { user with disabled }

def ApiKey.withLastUsedAt (lastUsedAt : String) (key : ApiKey) : ApiKey :=
  { key with lastUsedAt := some lastUsedAt }

def ApiKey.withRevokedAt (revokedAt : String) (key : ApiKey) : ApiKey :=
  { key with revokedAt := some revokedAt }

/-- The tables `user` and `api_key` with their unique columns. -/
structure Accounts where
  users : List User
  keys : List ApiKey
  userIds : (users.map User.id).Nodup
  usernames : (users.map User.username).Nodup
  keyIds : (keys.map ApiKey.id).Nodup
  keyHashes : (keys.map ApiKey.keyHash).Nodup

def Accounts.empty : Accounts := ⟨[], [], .nil, .nil, .nil, .nil⟩

theorem Accounts.eq_of_tables {accounts other : Accounts} (users : accounts.users = other.users)
    (keys : accounts.keys = other.keys) : accounts = other := by
  cases accounts
  cases other
  cases users
  cases keys
  rfl

/-! ## The tables -/

namespace Accounts

variable (accounts : Accounts)

def userById (userId : String) : Option User := Table.find User.id accounts.users userId

def userByUsername (username : String) : Option User :=
  Table.find User.username accounts.users username

def keyById (keyId : String) : Option ApiKey := Table.find ApiKey.id accounts.keys keyId

def keyByHash (keyHash : String) : Option ApiKey :=
  Table.find ApiKey.keyHash accounts.keys keyHash

def uniqueFailed (column : String) : Raised :=
  .exception "IntegrityError" ("UNIQUE constraint failed: " ++ column)

/-- `SQLiteUserRepo.create`. -/
def addUser (user : User) : Except Raised Accounts :=
  if newId : accounts.userById user.id = none then
    if newName : accounts.userByUsername user.username = none then
      .ok { accounts with
        users := accounts.users ++ [user]
        userIds := Table.nodup_append accounts.userIds newId
        usernames := Table.nodup_append accounts.usernames newName }
    else .error (uniqueFailed "user.username")
  else .error (uniqueFailed "user.id")

/-- `SQLiteApiKeyRepo.create`. -/
def addKey (key : ApiKey) : Except Raised Accounts :=
  if newId : accounts.keyById key.id = none then
    if newHash : accounts.keyByHash key.keyHash = none then
      .ok { accounts with
        keys := accounts.keys ++ [key]
        keyIds := Table.nodup_append accounts.keyIds newId
        keyHashes := Table.nodup_append accounts.keyHashes newHash }
    else .error (uniqueFailed "api_key.key_hash")
  else .error (uniqueFailed "api_key.id")

def disabledRows (userId : String) (disabled : Bool) : List User :=
  Table.amend User.id accounts.users userId (User.withDisabled disabled)

theorem userIds_disabled (userId : String) (disabled : Bool) :
    ((accounts.disabledRows userId disabled).map User.id).Nodup :=
  Table.nodup_amend (fun _ => rfl) accounts.userIds

theorem usernames_disabled (userId : String) (disabled : Bool) :
    ((accounts.disabledRows userId disabled).map User.username).Nodup :=
  Table.nodup_amend (fun _ => rfl) accounts.usernames

def setDisabled (userId : String) (disabled : Bool) : Accounts :=
  { accounts with
    users := accounts.disabledRows userId disabled
    userIds := accounts.userIds_disabled userId disabled
    usernames := accounts.usernames_disabled userId disabled }

def revokedRows (keyId revokedAt : String) : List ApiKey :=
  Table.amend ApiKey.id accounts.keys keyId (ApiKey.withRevokedAt revokedAt)

theorem keyIds_revoked (keyId revokedAt : String) :
    ((accounts.revokedRows keyId revokedAt).map ApiKey.id).Nodup :=
  Table.nodup_amend (fun _ => rfl) accounts.keyIds

theorem keyHashes_revoked (keyId revokedAt : String) :
    ((accounts.revokedRows keyId revokedAt).map ApiKey.keyHash).Nodup :=
  Table.nodup_amend (fun _ => rfl) accounts.keyHashes

def setRevoked (keyId revokedAt : String) : Accounts :=
  { accounts with
    keys := accounts.revokedRows keyId revokedAt
    keyIds := accounts.keyIds_revoked keyId revokedAt
    keyHashes := accounts.keyHashes_revoked keyId revokedAt }

def usedRows (keyId lastUsedAt : String) : List ApiKey :=
  Table.amend ApiKey.id accounts.keys keyId (ApiKey.withLastUsedAt lastUsedAt)

theorem keyIds_used (keyId lastUsedAt : String) :
    ((accounts.usedRows keyId lastUsedAt).map ApiKey.id).Nodup :=
  Table.nodup_amend (fun _ => rfl) accounts.keyIds

theorem keyHashes_used (keyId lastUsedAt : String) :
    ((accounts.usedRows keyId lastUsedAt).map ApiKey.keyHash).Nodup :=
  Table.nodup_amend (fun _ => rfl) accounts.keyHashes

def setLastUsed (keyId lastUsedAt : String) : Accounts :=
  { accounts with
    keys := accounts.usedRows keyId lastUsedAt
    keyIds := accounts.keyIds_used keyId lastUsedAt
    keyHashes := accounts.keyHashes_used keyId lastUsedAt }

section Found

variable {accounts} {user : User}

theorem userById_setDisabled_self {disabled : Bool}
    (found : accounts.userById user.id = some user) :
    (accounts.setDisabled user.id disabled).userById user.id =
      some (user.withDisabled disabled) := by
  unfold userById setDisabled disabledRows
  exact Table.find_amend_self (by intro row; rfl) found

theorem userById_setDisabled_ne {userId other : String} {disabled : Bool}
    (different : userId ≠ other) :
    (accounts.setDisabled other disabled).userById userId = accounts.userById userId := by
  unfold userById setDisabled disabledRows
  exact Table.find_amend_ne (by intro row; rfl) different

theorem keyById_setRevoked (keyId other revokedAt : String) :
    (accounts.setRevoked keyId revokedAt).keyById other = (accounts.keyById other).map fun key =>
      if key.id = keyId then key.withRevokedAt revokedAt else key := by
  unfold keyById setRevoked revokedRows
  exact Table.find_amend (by intro row; rfl) other

theorem keyById_setLastUsed (keyId other lastUsedAt : String) :
    (accounts.setLastUsed keyId lastUsedAt).keyById other =
      (accounts.keyById other).map fun key =>
        if key.id = keyId then key.withLastUsedAt lastUsedAt else key := by
  unfold keyById setLastUsed usedRows
  exact Table.find_amend (by intro row; rfl) other

theorem ids_setRevoked (keyId revokedAt keyHash : String) :
    ((accounts.setRevoked keyId revokedAt).keyByHash keyHash).map
        (fun key => (key.id, key.userId)) =
      (accounts.keyByHash keyHash).map fun key => (key.id, key.userId) := by
  unfold keyByHash setRevoked revokedRows
  dsimp only
  rw [Table.find_amend (by intro row; rfl), Option.map_map]
  congr 1
  funext key
  exact apply_ite (fun row : ApiKey => (row.id, row.userId)) _ _ _ |>.trans (ite_self _)

theorem ids_setLastUsed (keyId lastUsedAt keyHash : String) :
    ((accounts.setLastUsed keyId lastUsedAt).keyByHash keyHash).map
        (fun key => (key.id, key.userId)) =
      (accounts.keyByHash keyHash).map fun key => (key.id, key.userId) := by
  unfold keyByHash setLastUsed usedRows
  dsimp only
  rw [Table.find_amend (by intro row; rfl), Option.map_map]
  congr 1
  funext key
  exact apply_ite (fun row : ApiKey => (row.id, row.userId)) _ _ _ |>.trans (ite_self _)

end Found

/-- `SQLiteUserRepo.list`. -/
def listUsers : List User :=
  accounts.users.insertionSort fun left right => left.username ≤ right.username

/-- `SQLiteApiKeyRepo.list` and `list_by_user`. -/
def listKeys (userId : Option String) : List ApiKey :=
  (accounts.keys.filter fun key => userId.all fun wanted => key.userId == wanted).insertionSort
    fun left right => left.createdAt ≤ right.createdAt

end Accounts

/-! ## The service -/

/-- `KEY_PREFIX`. -/
def keyPrefix : String := "era_"

def defaultAdminUsername : String := "admin"

/-- What a call draws: `uuid4().hex`, `secrets.token_urlsafe(32)` and the time. -/
structure Drawn where
  id : String
  secret : String
  now : Instant

structure NewUser where
  username : String
  role : String
  displayName : Option String := none
  disabled : Bool := false
  credentialRefs : List (String × String) := []

/-- `AuthenticatedPrincipal`. -/
structure Principal where
  user : User
  apiKey : ApiKey
  deriving DecidableEq

structure AuthService where
  platform : Platform
  catalog : ActionCatalog

def authenticationError (message : String) : Raised := .exception "AuthenticationError" message

def authorizationError (message : String) : Raised := .exception "AuthorizationError" message

/-- A change that is rolled back if it raises. -/
def orRollback {Answer : Type} (accounts : Accounts)
    (changed : Except Raised (Accounts × Answer)) : Accounts × Except Raised Answer :=
  match changed with
  | .ok (after, answer) => (after, .ok answer)
  | .error raised => (accounts, .error raised)

namespace AuthService

variable (service : AuthService) (accounts : Accounts)

/-- `bootstrap_admin`, with the user that it creates. -/
def bootstrapAdmin (drawn : Drawn) : Accounts × Except Raised (Option User) :=
  if (accounts.userByUsername defaultAdminUsername).isSome then (accounts, .ok none)
  else
    orRollback accounts <| do
      let user : User :=
        { id := drawn.id
          username := defaultAdminUsername
          displayName := some "System Administrator"
          role := Role.admin.value
          disabled := false
          createdAt := utcnowIso drawn.now
          credentialRefs := [] }
      let after ← accounts.addUser user
      pure (after, some user)

/-- `create_user`. -/
def createUser (request : NewUser) (drawn : Drawn) : Accounts × Except Raised User :=
  orRollback accounts <| do
    let username ← validateName request.username
    let displayName ← request.displayName.mapM validateName
    match Role.ofValue? request.role with
    | none =>
        .error (.exception "ValueError"
          ("invalid role: " ++ service.platform.reprString request.role))
    | some role =>
        if (accounts.userByUsername username).isSome then
          .error (.exception "ValueError"
            ("username already exists: " ++ service.platform.reprString username))
        else
          let user : User :=
            { id := drawn.id
              username
              displayName
              role := role.value
              disabled := request.disabled
              createdAt := utcnowIso drawn.now
              credentialRefs := request.credentialRefs }
          let after ← accounts.addUser user
          pure (after, user)

/-- `set_user_disabled`. -/
def setUserDisabled (userId : String) (disabled : Bool) : Accounts × Option User :=
  match accounts.userById userId with
  | none => (accounts, none)
  | some user => (accounts.setDisabled userId disabled, some (user.withDisabled disabled))

/-- `create_api_key`, with what `generate_api_key` draws. -/
def createApiKey (userId name : String) (drawn : Drawn) :
    Accounts × Except Raised (ApiKey × String) :=
  orRollback accounts <| do
    let name ← validateName name
    if (accounts.userById userId).isNone then
      .error (.exception "ValueError" ("no such user: " ++ service.platform.reprString userId))
    else
      let raw := keyPrefix ++ drawn.secret
      let key : ApiKey :=
        { id := drawn.id
          userId
          name
          keyHash := service.platform.sha256Hex raw
          keyPrefix := pyTake drawn.secret 10
          createdAt := utcnowIso drawn.now }
      let after ← accounts.addKey key
      pure (after, (key, raw))

/-- `revoke_key`. -/
def revokeKey (keyId : String) (now : Instant) : Accounts × Option ApiKey :=
  match accounts.keyById keyId with
  | none => (accounts, none)
  | some key =>
      match key.revokedAt with
      | some _ => (accounts, some key)
      | none =>
          (accounts.setRevoked keyId (utcnowIso now), some (key.withRevokedAt (utcnowIso now)))

/-- `authenticate_token`. -/
def authenticateToken (token : Option String) (now : Instant) :
    Accounts × Except Raised Principal :=
  if token.getD "" = "" then (accounts, .error (authenticationError "missing API token"))
  else
    match accounts.keyByHash (service.platform.sha256Hex (token.getD "")) with
    | none => (accounts, .error (authenticationError "unknown API token"))
    | some key =>
        if key.revokedAt.isSome then (accounts, .error (authenticationError "API token revoked"))
        else
          match accounts.userById key.userId with
          | none => (accounts, .error (authenticationError "user disabled or not found"))
          | some user =>
              if user.disabled then
                (accounts, .error (authenticationError "user disabled or not found"))
              else
                (accounts.setLastUsed key.id (utcnowIso now),
                  .ok { user, apiKey := key.withLastUsedAt (utcnowIso now) })

/-- `require_permission`. -/
def requirePermission (user : User) (permission : String) : Except Raised Unit :=
  if user.disabled then .error (authorizationError "user not active")
  else if roleHasPermission (some user.role) permission then .ok ()
  else .error (authorizationError ("missing permission: " ++ permission))

/-- `authorize_action`. -/
def authorizeAction (user : User) (actionType : String) : Except Raised Unit :=
  if user.disabled then .error (authorizationError "user not active")
  else if roleDomainAllowed (some user.role)
      ((service.catalog.get actionType).map ActionSpec.capabilityDomain) then .ok ()
  else .error (authorizationError ("role not allowed for action: " ++ actionType))

section Authorization

variable {service} {user : User}

theorem requirePermission_ok_iff (enabled : user.disabled = false) {permission : String} :
    requirePermission user permission = .ok () ↔
      roleHasPermission (some user.role) permission = true := by
  have active : ¬user.disabled = true := by
    rw [enabled]
    decide
  unfold requirePermission
  rw [if_neg active]
  by_cases granted : roleHasPermission (some user.role) permission = true
  · rw [if_pos granted]
    exact iff_of_true rfl granted
  · rw [if_neg granted]
    exact iff_of_false (by simp) granted

theorem authorizeAction_ok_iff (enabled : user.disabled = false) {actionType : String} :
    service.authorizeAction user actionType = .ok () ↔
      roleDomainAllowed (some user.role)
        ((service.catalog.get actionType).map ActionSpec.capabilityDomain) = true := by
  have active : ¬user.disabled = true := by
    rw [enabled]
    decide
  unfold authorizeAction
  rw [if_neg active]
  split
  next allowed => exact iff_of_true rfl allowed
  next refused => exact iff_of_false (by simp) refused

end Authorization

end AuthService

inductive AuthCall where
  | bootstrapAdmin (drawn : Drawn)
  | createUser (request : NewUser) (drawn : Drawn)
  | setUserDisabled (userId : String) (disabled : Bool)
  | createApiKey (userId name : String) (drawn : Drawn)
  | revokeKey (keyId : String) (now : Instant)
  | authenticateToken (token : Option String) (now : Instant)
  | getUser (userId : String)
  | getUserByUsername (username : String)
  | listUsers
  | listKeys (userId : Option String)

inductive AuthAnswer where
  /-- The user that has been written, if there is one. -/
  | written (user : Option User)
  | issued (key : ApiKey) (raw : String)
  | revoked (key : Option ApiKey)
  | authenticated (principal : Principal)
  | found (user : Option User)
  | users (users : List User)
  | keys (keys : List ApiKey)

def AuthService.step (service : AuthService) (accounts : Accounts) :
    AuthCall → Accounts × Except Raised AuthAnswer
  | .bootstrapAdmin drawn =>
      let (after, answer) := bootstrapAdmin accounts drawn
      (after, answer.map .written)
  | .createUser request drawn =>
      let (after, answer) := service.createUser accounts request drawn
      (after, answer.map fun user => .written (some user))
  | .setUserDisabled userId disabled =>
      let (after, answer) := setUserDisabled accounts userId disabled
      (after, .ok (.written answer))
  | .createApiKey userId name drawn =>
      let (after, answer) := service.createApiKey accounts userId name drawn
      (after, answer.map fun (key, raw) => .issued key raw)
  | .revokeKey keyId now =>
      let (after, answer) := revokeKey accounts keyId now
      (after, .ok (.revoked answer))
  | .authenticateToken token now =>
      let (after, answer) := service.authenticateToken accounts token now
      (after, answer.map .authenticated)
  | .getUser userId => (accounts, .ok (.found (accounts.userById userId)))
  | .getUserByUsername username =>
      (accounts, .ok (.found (accounts.userByUsername username)))
  | .listUsers => (accounts, .ok (.users accounts.listUsers))
  | .listKeys userId => (accounts, .ok (.keys (accounts.listKeys userId)))

def AuthService.machine (service : AuthService) :
    Machine Accounts AuthCall (Except Raised AuthAnswer) :=
  { step := service.step }

/-- The accounts after calls from empty tables on. -/
def AuthService.after (service : AuthService) (calls : List AuthCall) : Accounts :=
  service.machine.stateAfter .empty calls

/-! ## What a call changes -/

/-- What callers have been told of the accounts. -/
inductive AccountEvent where
  | userSet (userId role : String) (disabled : Bool)
  | keyIssued (token keyId userId : String)
  | keyRevoked (keyId : String)
  deriving DecidableEq

def accountEvents : Except Raised AuthAnswer → List AccountEvent
  | .ok (.written (some user)) => [.userSet user.id user.role user.disabled]
  | .ok (.issued key raw) => [.keyIssued raw key.id key.userId]
  | .ok (.revoked (some key)) => [.keyRevoked key.id]
  | _ => []

/-- What a call changes, and what it answers then. -/
inductive Changes (service : AuthService) (accounts : Accounts) :
    Accounts → Except Raised AuthAnswer → Prop where
  | userAdded {after : Accounts} (user : User) (unused : accounts.userById user.id = none)
      (users : after.users = accounts.users ++ [user]) (keys : after.keys = accounts.keys) :
      Changes service accounts after (.ok (.written (some user)))
  | userSet (user : User) (disabled : Bool) (found : accounts.userById user.id = some user) :
      Changes service accounts (accounts.setDisabled user.id disabled)
        (.ok (.written (some (user.withDisabled disabled))))
  | keyAdded {after : Accounts} (key : ApiKey) (raw : String)
      (hash : key.keyHash = service.platform.sha256Hex raw) (valid : key.revokedAt = none)
      (newId : accounts.keyById key.id = none) (newHash : accounts.keyByHash key.keyHash = none)
      (users : after.users = accounts.users) (keys : after.keys = accounts.keys ++ [key]) :
      Changes service accounts after (.ok (.issued key raw))
  | keyRevoked (key : ApiKey) (revokedAt : String) (found : accounts.keyById key.id = some key) :
      Changes service accounts (accounts.setRevoked key.id revokedAt)
        (.ok (.revoked (some (key.withRevokedAt revokedAt))))
  | keyUsed (key : ApiKey) (user : User) (lastUsedAt : String) :
      Changes service accounts (accounts.setLastUsed key.id lastUsedAt)
        (.ok (.authenticated { user, apiKey := key.withLastUsedAt lastUsedAt }))
  | keyKept (key : ApiKey) (found : accounts.keyById key.id = some key)
      (revoked : key.revokedAt.isSome) :
      Changes service accounts accounts (.ok (.revoked (some key)))
  | unchanged (answer : Except Raised AuthAnswer) (silent : accountEvents answer = []) :
      Changes service accounts accounts answer

variable {service : AuthService} {accounts after : Accounts}

theorem Accounts.addUser_ok {user : User} (added : accounts.addUser user = .ok after) :
    accounts.userById user.id = none ∧ after.users = accounts.users ++ [user] ∧
      after.keys = accounts.keys := by
  unfold Accounts.addUser at added
  split at added
  next newId =>
    split at added
    next =>
      cases added
      exact ⟨newId, rfl, rfl⟩
    next => cases added
  next => cases added

theorem Accounts.addKey_ok {key : ApiKey} (added : accounts.addKey key = .ok after) :
    accounts.keyById key.id = none ∧ accounts.keyByHash key.keyHash = none ∧
      after.users = accounts.users ∧ after.keys = accounts.keys ++ [key] := by
  unfold Accounts.addKey at added
  split at added
  next newId =>
    split at added
    next newHash =>
      cases added
      exact ⟨newId, newHash, rfl, rfl⟩
    next => cases added
  next => cases added

theorem bootstrapAdmin_changes (drawn : Drawn) :
    Changes service accounts (AuthService.bootstrapAdmin accounts drawn).1
      ((AuthService.bootstrapAdmin accounts drawn).2.map .written) := by
  unfold AuthService.bootstrapAdmin
  split
  next => exact .unchanged _ rfl
  next =>
    dsimp only
    generalize created_eq : User.mk _ _ _ _ _ _ _ = created
    cases added : accounts.addUser created with
    | error raised => exact .unchanged _ rfl
    | ok after =>
        obtain ⟨unused, users, keys⟩ := Accounts.addUser_ok added
        exact .userAdded created unused users keys

theorem createUser_changes (request : NewUser) (drawn : Drawn) :
    Changes service accounts (service.createUser accounts request drawn).1
      ((service.createUser accounts request drawn).2.map fun user => .written (some user)) := by
  unfold AuthService.createUser
  cases validateName request.username with
  | error raised => exact .unchanged _ rfl
  | ok username =>
      cases request.displayName.mapM validateName with
      | error raised => exact .unchanged _ rfl
      | ok displayName =>
          cases Role.ofValue? request.role with
          | none => exact .unchanged _ rfl
          | some role =>
              dsimp only [bind, Except.bind]
              split
              next => exact .unchanged _ rfl
              next =>
                generalize created_eq : User.mk _ _ _ _ _ _ _ = created
                cases added : accounts.addUser created with
                | error raised => exact .unchanged _ rfl
                | ok after =>
                    obtain ⟨unused, users, keys⟩ := Accounts.addUser_ok added
                    exact .userAdded created unused users keys

theorem setUserDisabled_changes (userId : String) (disabled : Bool) :
    Changes service accounts (AuthService.setUserDisabled accounts userId disabled).1
      (.ok (.written (AuthService.setUserDisabled accounts userId disabled).2)) := by
  unfold AuthService.setUserDisabled
  cases found : accounts.userById userId with
  | none => exact .unchanged _ rfl
  | some user =>
      obtain rfl := (Table.find_eq_some found).2
      exact .userSet user disabled found

theorem createApiKey_changes (userId name : String) (drawn : Drawn) :
    Changes service accounts (service.createApiKey accounts userId name drawn).1
      ((service.createApiKey accounts userId name drawn).2.map
        fun (key, raw) => .issued key raw) := by
  unfold AuthService.createApiKey
  cases validateName name with
  | error raised => exact .unchanged _ rfl
  | ok name =>
      dsimp only [bind, Except.bind]
      split
      next => exact .unchanged _ rfl
      next =>
        generalize created_eq : ApiKey.mk _ _ _ _ _ _ _ _ = created
        cases added : accounts.addKey created with
        | error raised => exact .unchanged _ rfl
        | ok after =>
            obtain ⟨newId, newHash, users, keys⟩ := Accounts.addKey_ok added
            subst created_eq
            exact .keyAdded _ _ rfl rfl newId newHash users keys

theorem revokeKey_changes (keyId : String) (now : Instant) :
    Changes service accounts (AuthService.revokeKey accounts keyId now).1
      (.ok (.revoked (AuthService.revokeKey accounts keyId now).2)) := by
  unfold AuthService.revokeKey
  cases found : accounts.keyById keyId with
  | none => exact .unchanged _ rfl
  | some key =>
      obtain rfl := (Table.find_eq_some found).2
      dsimp only
      cases revoked : key.revokedAt with
      | none => exact .keyRevoked key _ found
      | some revokedAt => exact .keyKept key found (Option.isSome_of_eq_some revoked)

theorem authenticateToken_changes (token : Option String) (now : Instant) :
    Changes service accounts (service.authenticateToken accounts token now).1
      ((service.authenticateToken accounts token now).2.map .authenticated) := by
  unfold AuthService.authenticateToken
  split
  next => exact .unchanged _ rfl
  next =>
    split
    next => exact .unchanged _ rfl
    next key _ =>
      split
      next => exact .unchanged _ rfl
      next =>
        split
        next => exact .unchanged _ rfl
        next user _ =>
          split
          next => exact .unchanged _ rfl
          next => exact .keyUsed key user _

/-- Who is authenticated is an enabled user with a key that has not been revoked. -/
theorem authenticateToken_ok {token : Option String} {now : Instant} {principal : Principal}
    (authenticated : service.authenticateToken accounts token now = (after, .ok principal)) :
    ∃ text, token = some text ∧ ∃ key ∈ accounts.keys,
      key.keyHash = service.platform.sha256Hex text ∧ key.revokedAt = none ∧
      principal.user ∈ accounts.users ∧ principal.user.id = key.userId ∧
      principal.user.disabled = false := by
  unfold AuthService.authenticateToken at authenticated
  split at authenticated
  next => cases (Prod.mk.inj authenticated).2
  next given =>
    split at authenticated
    next => cases (Prod.mk.inj authenticated).2
    next key at_hash =>
      split at authenticated
      next => cases (Prod.mk.inj authenticated).2
      next valid =>
        split at authenticated
        next => cases (Prod.mk.inj authenticated).2
        next user at_user =>
          split at authenticated
          next => cases (Prod.mk.inj authenticated).2
          next enabled =>
            obtain rfl := Except.ok.inj (Prod.mk.inj authenticated).2
            obtain ⟨stored, hash⟩ := Table.find_eq_some at_hash
            obtain ⟨known, owner⟩ := Table.find_eq_some at_user
            cases token with
            | none => exact absurd rfl given
            | some text =>
                exact ⟨text, rfl, key, stored, hash, by simpa using valid, known, owner,
                  by simpa using enabled⟩

/-- What a call of the service does. -/
theorem step_changes (service : AuthService) (accounts : Accounts) (call : AuthCall) :
    Changes service accounts (service.step accounts call).1 (service.step accounts call).2 := by
  cases call with
  | bootstrapAdmin drawn => exact bootstrapAdmin_changes drawn
  | createUser request drawn => exact createUser_changes request drawn
  | setUserDisabled userId disabled => exact setUserDisabled_changes userId disabled
  | createApiKey userId name drawn => exact createApiKey_changes userId name drawn
  | revokeKey keyId now => exact revokeKey_changes keyId now
  | authenticateToken token now => exact authenticateToken_changes token now
  | getUser userId => exact .unchanged _ rfl
  | getUserByUsername username => exact .unchanged _ rfl
  | listUsers => exact .unchanged _ rfl
  | listKeys userId => exact .unchanged _ rfl

/-! ## What callers have been told -/

/-- The key that a token has been issued as, and its user. -/
def AccountEvent.issuedTo (token : String) : AccountEvent → Option (String × String)
  | .keyIssued raw keyId userId => if raw = token then some (keyId, userId) else none
  | .userSet _ _ _ | .keyRevoked _ => none

def AccountEvent.setting (userId : String) : AccountEvent → Option (String × Bool)
  | .userSet user role disabled => if user = userId then some (role, disabled) else none
  | .keyIssued _ _ _ | .keyRevoked _ => none

/-- The role of a user and whether the user is disabled, as it has been told last. -/
def lastSetting (history : List AccountEvent) (userId : String) : Option (String × Bool) :=
  (history.filterMap (AccountEvent.setting userId)).getLast?

structure Identity where
  keyId : String
  userId : String
  role : String
  deriving DecidableEq

def Principal.identity (principal : Principal) : Identity :=
  { keyId := principal.apiKey.id, userId := principal.user.id, role := principal.user.role }

/-- Who a token stands for, by what callers have been told. -/
def verdict (history : List AccountEvent) (token : Option String) : Except Raised Identity :=
  if token.getD "" = "" then .error (authenticationError "missing API token")
  else
    match history.findSome? (AccountEvent.issuedTo (token.getD "")) with
    | none => .error (authenticationError "unknown API token")
    | some (keyId, userId) =>
        if .keyRevoked keyId ∈ history then .error (authenticationError "API token revoked")
        else
          match lastSetting history userId with
          | some (role, false) => .ok { keyId, userId, role }
          | some (_, true) | none =>
              .error (authenticationError "user disabled or not found")

/-- What calls from empty tables on have told their callers. -/
def AuthService.history (service : AuthService) (calls : List AuthCall) : List AccountEvent :=
  service.machine.trace accountEvents .empty calls

variable {seen : List AccountEvent} {event : AccountEvent}

theorem findSome?_issuedTo_concat (token : String) :
    (seen ++ [event]).findSome? (AccountEvent.issuedTo token) =
      (seen.findSome? (AccountEvent.issuedTo token)).or (event.issuedTo token) := by
  rw [List.findSome?_append]
  cases told : event.issuedTo token with
  | none => rw [List.findSome?_cons, told, List.findSome?_nil]
  | some pair => rw [List.findSome?_cons, told]

theorem lastSetting_concat (userId : String) :
    lastSetting (seen ++ [event]) userId =
      (event.setting userId).or (lastSetting seen userId) := by
  unfold lastSetting
  rw [List.filterMap_append]
  cases told : event.setting userId with
  | none => rw [List.filterMap_cons_none told, List.filterMap_nil, List.append_nil, Option.none_or]
  | some disabled =>
      rw [List.filterMap_cons_some told, List.filterMap_nil, List.getLast?_concat, Option.some_or]

/-- What callers have been told is what the tables say. -/
structure Reflects (service : AuthService) (seen : List AccountEvent) (accounts : Accounts) :
    Prop where
  issued : ∀ token, (accounts.keyByHash (service.platform.sha256Hex token)).map
    (fun key => (key.id, key.userId)) = seen.findSome? (AccountEvent.issuedTo token)
  revoked : ∀ key ∈ accounts.keys, key.revokedAt.isSome ↔ .keyRevoked key.id ∈ seen
  known : ∀ keyId, .keyRevoked keyId ∈ seen → ∃ key, accounts.keyById keyId = some key
  setting : ∀ userId, (accounts.userById userId).map (fun user => (user.role, user.disabled)) =
    lastSetting seen userId

namespace Reflects

theorem empty : Reflects service [] .empty where
  issued _ := rfl
  revoked _ member := absurd member List.not_mem_nil
  known _ told := absurd told List.not_mem_nil
  setting _ := rfl

theorem userAdded (reflects : Reflects service seen accounts) {user : User}
    (unused : accounts.userById user.id = none) (users : after.users = accounts.users ++ [user])
    (keys : after.keys = accounts.keys) :
    Reflects service (seen ++ [.userSet user.id user.role user.disabled]) after where
  issued token := by
    rw [findSome?_issuedTo_concat, ← reflects.issued token, Accounts.keyByHash, keys]
    exact (Option.or_none).symm
  revoked key member := by
    rw [reflects.revoked key (keys ▸ member)]
    simp
  known keyId told := by
    rw [Accounts.keyById, keys]
    exact reflects.known keyId (by simpa using told)
  setting userId := by
    rw [lastSetting_concat, Accounts.userById, users]
    by_cases same : user.id = userId
    · obtain rfl := same
      rw [Table.find_append_self unused, AccountEvent.setting, if_pos rfl]
      rfl
    · rw [Table.find_append_ne (Ne.symm same), AccountEvent.setting, if_neg same, Option.none_or]
      exact reflects.setting userId

theorem userSet (reflects : Reflects service seen accounts) {user : User} (disabled : Bool)
    (found : accounts.userById user.id = some user) :
    Reflects service (seen ++ [.userSet user.id user.role disabled])
      (accounts.setDisabled user.id disabled) where
  issued token := by
    rw [findSome?_issuedTo_concat]
    exact (reflects.issued token).trans Option.or_none.symm
  revoked key member := by
    rw [reflects.revoked key member]
    simp
  known keyId told := reflects.known keyId (by simpa using told)
  setting userId := by
    rw [lastSetting_concat]
    by_cases same : user.id = userId
    · obtain rfl := same
      rw [AccountEvent.setting, if_pos rfl]
      rw [Accounts.userById_setDisabled_self found]
      rfl
    · rw [AccountEvent.setting, if_neg same, Option.none_or, ← reflects.setting userId,
        Accounts.userById_setDisabled_ne (Ne.symm same)]

theorem keyAdded (reflects : Reflects service seen accounts)
    (collisionFree : service.platform.CollisionFree) {key : ApiKey} {raw : String}
    (hash : key.keyHash = service.platform.sha256Hex raw) (valid : key.revokedAt = none)
    (newId : accounts.keyById key.id = none) (newHash : accounts.keyByHash key.keyHash = none)
    (users : after.users = accounts.users) (keys : after.keys = accounts.keys ++ [key]) :
    Reflects service (seen ++ [.keyIssued raw key.id key.userId]) after where
  issued token := by
    rw [findSome?_issuedTo_concat, AccountEvent.issuedTo, Accounts.keyByHash, keys]
    by_cases same : raw = token
    · obtain rfl := same
      rw [if_pos rfl, ← hash, Table.find_append_self newHash, ← reflects.issued raw, ← hash,
        newHash]
      rfl
    · have other : service.platform.sha256Hex token ≠ key.keyHash := by
        rw [hash]
        exact fun equal => same (collisionFree equal).symm
      rw [if_neg same, Option.or_none, Table.find_append_ne other]
      exact reflects.issued token
  revoked row member := by
    rw [keys] at member
    obtain stored | new := List.mem_append.mp member
    · rw [reflects.revoked row stored]
      simp
    · obtain rfl := List.mem_singleton.mp new
      simp only [valid, Option.isSome_none, Bool.false_eq_true, false_iff]
      intro told
      obtain ⟨earlier, found⟩ := reflects.known row.id (by simpa using told)
      rw [newId] at found
      cases found
  known keyId told := by
    obtain ⟨earlier, found⟩ := reflects.known keyId (by simpa using told)
    rw [Accounts.keyById, keys]
    exact ⟨earlier, Table.find_append_of_some found⟩
  setting userId := by
    rw [lastSetting_concat, Accounts.userById, users]
    exact reflects.setting userId

theorem keyRevoked (reflects : Reflects service seen accounts) {key : ApiKey} (revokedAt : String)
    (found : accounts.keyById key.id = some key) :
    Reflects service (seen ++ [.keyRevoked key.id]) (accounts.setRevoked key.id revokedAt) where
  issued token := by
    rw [findSome?_issuedTo_concat, Accounts.ids_setRevoked, reflects.issued token]
    exact Option.or_none.symm
  revoked row member := by
    obtain ⟨earlier, stored, rfl⟩ := Table.mem_amend member
    by_cases same : earlier.id = key.id
    · have told : AccountEvent.keyRevoked earlier.id ∈ seen ++ [.keyRevoked key.id] := by
        simp [same]
      rw [if_pos same]
      exact iff_of_true rfl told
    · rw [if_neg same, reflects.revoked earlier stored]
      simp [same]
  known keyId told := by
    rw [Accounts.keyById_setRevoked]
    obtain earlier | same := List.mem_append.mp told
    · obtain ⟨row, at_id⟩ := reflects.known keyId earlier
      exact ⟨_, congrArg (Option.map _) at_id⟩
    · obtain rfl := AccountEvent.keyRevoked.inj (List.mem_singleton.mp same)
      exact ⟨_, congrArg (Option.map _) found⟩
  setting userId := by
    rw [lastSetting_concat]
    exact reflects.setting userId

theorem keyUsed (reflects : Reflects service seen accounts) (keyId lastUsedAt : String) :
    Reflects service seen (accounts.setLastUsed keyId lastUsedAt) where
  issued token := by
    rw [Accounts.ids_setLastUsed, reflects.issued token]
  revoked row member := by
    obtain ⟨earlier, stored, rfl⟩ := Table.mem_amend member
    have same := reflects.revoked earlier stored
    split
    · exact same
    · exact same
  known other told := by
    obtain ⟨row, at_id⟩ := reflects.known other told
    rw [Accounts.keyById_setLastUsed]
    exact ⟨_, congrArg (Option.map _) at_id⟩
  setting userId := reflects.setting userId

theorem keyKept (reflects : Reflects service seen accounts) {key : ApiKey}
    (found : accounts.keyById key.id = some key) (revoked : key.revokedAt.isSome) :
    Reflects service (seen ++ [.keyRevoked key.id]) accounts where
  issued token := by
    rw [findSome?_issuedTo_concat]
    exact (reflects.issued token).trans Option.or_none.symm
  revoked row member := by
    rw [reflects.revoked row member, List.mem_append, List.mem_singleton]
    have told := (reflects.revoked key (Table.find_eq_some found).1).mp revoked
    constructor
    · exact .inl
    · rintro (earlier | same)
      · exact earlier
      · rwa [AccountEvent.keyRevoked.inj same]
  known keyId told := by
    obtain earlier | same := List.mem_append.mp told
    · exact reflects.known keyId earlier
    · obtain rfl := AccountEvent.keyRevoked.inj (List.mem_singleton.mp same)
      exact ⟨key, found⟩
  setting userId := by
    rw [lastSetting_concat]
    exact reflects.setting userId

/-- A call keeps the tables and what callers are told in agreement. -/
theorem step (collisionFree : service.platform.CollisionFree)
    (reflects : Reflects service seen accounts) {answer : Except Raised AuthAnswer}
    (changes : Changes service accounts after answer) :
    Reflects service (seen ++ accountEvents answer) after := by
  cases changes with
  | userAdded user unused users keys => exact reflects.userAdded unused users keys
  | userSet user disabled found =>
      have kept := reflects.userSet disabled found
      exact kept
  | keyAdded key raw hash valid newId newHash users keys =>
      exact reflects.keyAdded collisionFree hash valid newId newHash users keys
  | keyRevoked key revokedAt found =>
      have kept := reflects.keyRevoked revokedAt found
      exact kept
  | keyUsed key user lastUsedAt =>
      exact (List.append_nil seen).symm ▸ reflects.keyUsed key.id lastUsedAt
  | keyKept key found revoked => exact reflects.keyKept found revoked
  | unchanged answer silent =>
      rw [silent, List.append_nil]
      exact reflects

theorem run (collisionFree : service.platform.CollisionFree) (calls : List AuthCall) :
    Reflects service (service.history calls) (service.after calls) := by
  have admitted : service.machine.Admits (fun _ _ => True) .empty calls :=
    fun _ _ _ _ => True.intro
  exact Machine.trace_invariant_of_admits accountEvents empty
    (fun _ accounts call reflects _ =>
      reflects.step collisionFree (step_changes service accounts call)) admitted

/-- What a token stands for is read off what callers have been told. -/
theorem verdict_eq (reflects : Reflects service seen accounts) (token : Option String)
    (now : Instant) :
    (service.authenticateToken accounts token now).2.map Principal.identity =
      verdict seen token := by
  unfold AuthService.authenticateToken verdict
  split
  next => rfl
  next =>
    rw [← reflects.issued]
    cases at_hash : accounts.keyByHash (service.platform.sha256Hex (token.getD "")) with
    | none => rfl
    | some key =>
        dsimp only [Option.map_some]
        have stored := (Table.find_eq_some at_hash).1
        rw [← reflects.setting key.userId]
        by_cases revoked : key.revokedAt.isSome
        · rw [if_pos revoked, if_pos ((reflects.revoked key stored).mp revoked)]
          rfl
        · rw [if_neg revoked, if_neg (mt (reflects.revoked key stored).mpr revoked)]
          cases at_user : accounts.userById key.userId with
          | none => rfl
          | some user =>
              have named := (Table.find_eq_some at_user).2
              cases disabled : user.disabled with
              | true => simp [disabled, Except.map]
              | false =>
                  simp [disabled, Except.map, Principal.identity, named, ApiKey.withLastUsedAt]

end Reflects

/-- Whatever the users, the keys and the order of the calls, a token is answered as callers have
been told: it is unknown before it has been issued, revoked from its revocation on, and
otherwise good while the owner of its key is enabled. -/
theorem authenticateToken_after (service : AuthService)
    (collisionFree : service.platform.CollisionFree) (calls : List AuthCall)
    (token : Option String) (now : Instant) :
    (service.authenticateToken (service.after calls) token now).2.map Principal.identity =
      verdict (service.history calls) token :=
  (Reflects.run collisionFree calls).verdict_eq token now

namespace Demo

def authService : AuthService := { platform := .plain, catalog := { specs := [] } }

def dayOne : Instant := ⟨0, zero_inRange⟩

/-- The administrator has two keys, and the first is revoked. -/
def authCalls : List AuthCall :=
  [.bootstrapAdmin ⟨"user-1", "", dayOne⟩,
    .createApiKey "user-1" "laptop" ⟨"key-1", "first", dayOne⟩,
    .createApiKey "user-1" "phone" ⟨"key-2", "second", dayOne⟩,
    .revokeKey "key-1" dayOne]

end Demo

theorem demo_authenticateToken_after :
    (Demo.authService.authenticateToken (Demo.authService.after Demo.authCalls)
        (some "era_first") Demo.dayOne).2.map Principal.identity =
      .error (authenticationError "API token revoked") ∧
    (Demo.authService.authenticateToken (Demo.authService.after Demo.authCalls)
        (some "era_second") Demo.dayOne).2.map Principal.identity =
      .ok { keyId := "key-2", userId := "user-1", role := "admin" } :=
  ⟨(authenticateToken_after Demo.authService Function.injective_id Demo.authCalls
      (some "era_first") Demo.dayOne).trans (by rfl),
    (authenticateToken_after Demo.authService Function.injective_id Demo.authCalls
      (some "era_second") Demo.dayOne).trans (by rfl)⟩

end Era.Services
