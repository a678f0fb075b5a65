import Mathlib.Logic.Function.Basic
import Era.Core.Clock
import Era.Core.Enums
import Era.Lib.Machine
import Era.Security.Vault
import Era.Services.Execution
import Mathlib

/-!
# The credential vault

A secret is stored, rotated and revoked under a domain and a name, and resolved by a reference
that names it.  Values are kept encrypted, bound to their domain and name; the cipher is a
parameter of the vault.
-/

namespace Era.Security

open Era.Core

/-- Authenticated encryption: nothing but the key, the nonce and the associated data that a text
was encrypted with decrypts it. -/
structure Aead (Key Cipher : Type*) where
  encrypt : Key → List UInt8 → ByteArray → ByteArray → Cipher
  decrypt : Key → List UInt8 → ByteArray → Cipher → Option ByteArray
  decrypt_encrypt : ∀ key nonce data text,
    decrypt key nonce data (encrypt key nonce data text) = some text
  authentic : ∀ key nonce data text other otherNonce otherData,
    (decrypt other otherNonce otherData (encrypt key nonce data text)).isSome →
      other = key ∧ otherData = data

/-- `_aad`. -/
def aad (domain name : String) : ByteArray := ("era-vault/v1/" ++ domain ++ "/" ++ name).toUTF8

inductive VaultErrorCode where
  | disabled
  | validation
  | unknown
  | auth
  | revoked
  | tampered
  | notFound
  deriving DecidableEq, Repr

structure VaultError where
  message : String
  code : VaultErrorCode

/-- `MAX_VAULT_VALUE_LENGTH`. -/
def maxVaultValueLength : Nat := 16384

/-- `validate_vault_part`. -/
def validateVaultPart (part what : String) : Except VaultError Unit :=
  if isVaultPart part.toList then .ok ()
  else
    .error {
      message := what ++ " must be 1-64 chars of [A-Za-z0-9_-] starting alphanumeric"
      code := .validation }

section Cipher

variable {Key Cipher : Type*} (aead : Aead Key Cipher)

/-- `vault_encrypt`, with the nonce that it draws. -/
def vaultEncrypt (plaintext : String) (masterKey : Key) (nonce : List UInt8)
    (domain name : String) : Cipher :=
  aead.encrypt masterKey nonce (aad domain name) plaintext.toUTF8

/-- `vault_decrypt`. -/
def vaultDecrypt (ciphertext : Cipher) (nonce : List UInt8) (masterKey : Key)
    (domain name : String) : Except VaultError String :=
  match aead.decrypt masterKey nonce (aad domain name) ciphertext with
  | none =>
      .error {
        message := "vault value failed authentication (tampered or wrong key)"
        code := .tampered }
  | some plaintext =>
      match String.fromUTF8? plaintext with
      | none => .error { message := "vault value is not valid UTF-8", code := .tampered }
      | some text => .ok text

theorem fromUTF8?_toUTF8 (text : String) : String.fromUTF8? text.toUTF8 = some text := by
  unfold String.fromUTF8?
  rw [dif_pos (by simp [text.isValidUTF8])]
  rfl

theorem vaultDecrypt_vaultEncrypt (plaintext : String) (masterKey : Key) (nonce : List UInt8)
    (domain name : String) :
    vaultDecrypt aead (vaultEncrypt aead plaintext masterKey nonce domain name) nonce masterKey
      domain name = .ok plaintext := by
  unfold vaultDecrypt vaultEncrypt
  rw [aead.decrypt_encrypt]
  dsimp only
  rw [fromUTF8?_toUTF8]

end Cipher

end Era.Security

namespace Era.Services

open Era.Core Era.Lib Era.Security

/-! ## The service -/

/-- `SYSTEM_ACTOR`. -/
def vaultSystemActor : String := "vault-system"

/-- A row of `vault_secret`; its domain and its name are the key of the table. -/
structure VaultSecret (Cipher : Type*) where
  ownerUserId : String
  ciphertext : Cipher
  nonce : List UInt8
  valueLength : Nat
  revision : Nat
  revokedAt : Option String

/-- What `_audit` records of an operation. -/
structure VaultAudit where
  op : String
  domain : String
  name : String
  actorId : String
  outcome : Outcome
  errorCode : Option String := none

abbrev VaultKey := String × String

structure VaultState (Cipher : Type*) where
  secrets : VaultKey → Option (VaultSecret Cipher)

/-- A row is written under its domain and its name. -/
def VaultState.put {Cipher : Type*} (state : VaultState Cipher) (key : VaultKey)
    (secret : VaultSecret Cipher) : VaultState Cipher :=
  { secrets := Function.update state.secrets key (some secret) }

structure VaultService (Key Cipher : Type*) where
  aead : Aead Key Cipher
  masterKey : Option Key

structure StoreCall where
  domain : String
  name : String
  value : String
  actorId : String
  ownerUserId : Option String := none
  /-- The nonce that is drawn. -/
  nonce : List UInt8

structure RevokeCall where
  domain : String
  name : String
  actorId : String
  now : Instant

structure ResolveCall where
  ref : String
  actorId : String := vaultSystemActor
  requireOwner : Bool := false

inductive VaultCall where
  | store (call : StoreCall)
  | revoke (call : RevokeCall)
  | resolve (call : ResolveCall)

inductive VaultAnswer (Cipher : Type*) where
  | secret (secret : VaultSecret Cipher)
  | value (value : String)

/-- How a call is answered, and what it leaves in the audit log. -/
structure VaultReply (Cipher : Type*) where
  answer : Except VaultError (VaultAnswer Cipher)
  audits : List VaultAudit := []

/-- The owner that a call names, or else its actor. -/
def StoreCall.owner (call : StoreCall) : String :=
  (pyOr call.ownerUserId (some call.actorId)).getD call.actorId

section Service

variable {Key Cipher : Type*} (service : VaultService Key Cipher)

/-- `_require_enabled`. -/
def VaultService.requireEnabled : Except VaultError Key :=
  match service.masterKey with
  | some masterKey => .ok masterKey
  | none =>
      .error {
        message := "credential vault disabled: set ERA_VAULT_MASTER_KEY " ++
          "(32 bytes, hex or base64)"
        code := .disabled }

/-- The checks of `store_or_rotate_secret`. -/
def VaultService.checkStore (call : StoreCall) : Except VaultError Key :=
  match validateVaultPart call.domain "domain", validateVaultPart call.name "name" with
  | .error error, _ | .ok (), .error error => .error error
  | .ok (), .ok () =>
      if call.owner = "" then
        .error { message := "owner_user_id must be non-empty", code := .validation }
      else if call.value = "" then
        .error { message := "value must be a non-empty string", code := .validation }
      else if maxVaultValueLength < call.value.length then
        .error {
          message := "value too long (max " ++ toString maxVaultValueLength ++ " chars)"
          code := .validation }
      else service.requireEnabled

/-- The row that a call stores. -/
def VaultService.stored (masterKey : Key) (call : StoreCall) :
    Option (VaultSecret Cipher) → VaultSecret Cipher
  | none =>
      { ownerUserId := call.owner
        ciphertext :=
          vaultEncrypt service.aead call.value masterKey call.nonce call.domain call.name
        nonce := call.nonce
        valueLength := call.value.length
        revision := 1
        revokedAt := none }
  | some existing =>
      { ownerUserId := if call.ownerUserId.isSome then call.owner else existing.ownerUserId
        ciphertext :=
          vaultEncrypt service.aead call.value masterKey call.nonce call.domain call.name
        nonce := call.nonce
        valueLength := call.value.length
        revision := (if existing.revision = 0 then 1 else existing.revision) + 1
        revokedAt := none }

/-- `store_or_rotate_secret`. -/
def VaultService.storeOrRotateSecret (state : VaultState Cipher) (call : StoreCall) :
    VaultState Cipher × VaultReply Cipher :=
  match service.checkStore call with
  | .error error => (state, { answer := .error error })
  | .ok masterKey =>
      let existing := state.secrets (call.domain, call.name)
      let secret := service.stored masterKey call existing
      (state.put (call.domain, call.name) secret, {
        answer := .ok (.secret secret)
        audits := [{
          op := if existing.isNone then "vault.store" else "vault.rotate"
          domain := call.domain
          name := call.name
          actorId := call.actorId
          outcome := .executed }] })

/-- The checks of `revoke_secret`. -/
def VaultService.checkRevoke (call : RevokeCall) : Except VaultError Key :=
  match validateVaultPart call.domain "domain", validateVaultPart call.name "name" with
  | .error error, _ | .ok (), .error error => .error error
  | .ok (), .ok () => service.requireEnabled

/-- `revoke_secret`. -/
def VaultService.revokeSecret (state : VaultState Cipher) (call : RevokeCall) :
    VaultState Cipher × VaultReply Cipher :=
  match service.checkRevoke call with
  | .error error => (state, { answer := .error error })
  | .ok _ =>
      match state.secrets (call.domain, call.name) with
      | none =>
          (state, {
            answer := .error {
              message := "no such vault secret: " ++ call.domain ++ "/" ++ call.name
              code := .notFound } })
      | some secret =>
          let revoked := { secret with
            revokedAt := secret.revokedAt.or (some (utcnowIso call.now)) }
          (state.put (call.domain, call.name) revoked, {
            answer := .ok (.secret revoked)
            audits := [{
              op := "vault.revoke"
              domain := call.domain
              name := call.name
              actorId := call.actorId
              outcome := .executed }] })

/-- `resolve_ref`. -/
def VaultService.resolveRef (state : VaultState Cipher) (call : ResolveCall) :
    VaultReply Cipher :=
  if !"vault:".toList.isPrefixOf call.ref.toList then
    { answer := .error {
        message := "not a vault reference (expected 'vault:<domain>/<name>')"
        code := .validation } }
  else
    match parseVaultRef call.ref with
    | none => { answer := .error { message := "malformed vault reference", code := .validation } }
    | some (domain, name) =>
        let audit (outcome : Outcome) (errorCode : Option String) : VaultAudit :=
          { op := "vault.resolve", domain, name, actorId := call.actorId, outcome, errorCode }
        match service.requireEnabled with
        | .error error => { answer := .error error }
        | .ok masterKey =>
            match state.secrets (domain, name) with
            | none =>
                { answer := .error {
                    message := "unknown vault secret: " ++ domain ++ "/" ++ name
                    code := .unknown }
                  audits := [audit .failed (some "UNKNOWN")] }
            | some secret =>
                if call.requireOwner && secret.ownerUserId != call.actorId then
                  { answer := .error {
                      message := "vault secret belongs to another actor", code := .auth }
                    audits := [audit .failed (some "AUTH")] }
                else if secret.revokedAt.isSome then
                  { answer := .error {
                      message := "vault secret revoked: " ++ domain ++ "/" ++ name
                      code := .revoked }
                    audits := [audit .failed (some "REVOKED")] }
                else
                  match vaultDecrypt service.aead secret.ciphertext secret.nonce masterKey
                      domain name with
                  | .error error =>
                      { answer := .error error, audits := [audit .failed (some "TAMPERED")] }
                  | .ok value =>
                      { answer := .ok (.value value), audits := [audit .executed none] }

def VaultService.step (state : VaultState Cipher) :
    VaultCall → VaultState Cipher × VaultReply Cipher
  | .store call => service.storeOrRotateSecret state call
  | .revoke call => service.revokeSecret state call
  | .resolve call => (state, service.resolveRef state call)

def VaultService.machine : Machine (VaultState Cipher) VaultCall (VaultReply Cipher) :=
  { step := service.step }

/-- The vault after calls from an empty table on. -/
def VaultService.after (calls : List VaultCall) : VaultState Cipher :=
  service.machine.stateAfter { secrets := fun _ => none } calls

/-! ## The history of a secret -/

/-- What has been done to a secret. -/
inductive SecretEvent where
  /-- A value is stored; the owner may be named. -/
  | stored (value owner : String) (named : Bool)
  | revoked

/-- What a call does to the secret of a key, if it is accepted. -/
def VaultService.effect (key : VaultKey) : VaultCall → Option SecretEvent
  | .store call =>
      match service.checkStore call with
      | .ok _ =>
          if (call.domain, call.name) = key then
            some (.stored call.value call.owner call.ownerUserId.isSome)
          else none
      | .error _ => none
  | .revoke call =>
      match service.checkRevoke call with
      | .ok _ => if (call.domain, call.name) = key then some .revoked else none
      | .error _ => none
  | .resolve _ => none

/-- What calls have done to the secret of a key, in order. -/
def VaultService.history (key : VaultKey) (calls : List VaultCall) : List SecretEvent :=
  calls.filterMap (service.effect key)

def SecretEvent.value? : SecretEvent → Option String
  | .stored value _ _ => some value
  | .revoked => none

/-- The value that has been stored last. -/
def latestValue (history : List SecretEvent) : Option String :=
  (history.filterMap SecretEvent.value?).getLast?

/-- Nothing has been stored since the last revocation. -/
def revokedLast (history : List SecretEvent) : Prop := history.getLast? = some .revoked

/-- The first value to be stored gives a secret to its owner, and every later one gives it away
if its call names an owner. -/
def SecretEvent.record (owner : Option String) : SecretEvent → Option String
  | .stored _ new named => if named then some new else some (owner.getD new)
  | .revoked => owner

def recordedOwner (history : List SecretEvent) : Option String :=
  history.foldl SecretEvent.record none

theorem latestValue_concat (history : List SecretEvent) (event : SecretEvent) :
    latestValue (history ++ [event]) = event.value?.or (latestValue history) := by
  unfold latestValue
  rw [List.filterMap_append]
  cases event with
  | stored value owner named => exact List.getLast?_concat
  | revoked => exact congrArg List.getLast? (List.append_nil _)

theorem revokedLast_concat (history : List SecretEvent) (event : SecretEvent) :
    revokedLast (history ++ [event]) ↔ event = .revoked := by
  unfold revokedLast
  rw [List.getLast?_concat, Option.some_inj]

theorem recordedOwner_concat (history : List SecretEvent) (event : SecretEvent) :
    recordedOwner (history ++ [event]) = event.record (recordedOwner history) := by
  unfold recordedOwner
  rw [List.foldl_append]
  rfl

/-! ## What a row tells -/

/-- What the row of a secret says of its history. -/
inductive RowTells (key : VaultKey) (history : List SecretEvent) :
    Option (VaultSecret Cipher) → Prop where
  | missing (never : latestValue history = none) (unowned : recordedOwner history = none) :
      RowTells key history none
  | present (secret : VaultSecret Cipher) (value : String) (masterKey : Key)
      (enabled : service.masterKey = some masterKey)
      (latest : latestValue history = some value)
      (owned : recordedOwner history = some secret.ownerUserId)
      (encrypted : secret.ciphertext =
        vaultEncrypt service.aead value masterKey secret.nonce key.1 key.2)
      (revoked : secret.revokedAt.isSome = true ↔ revokedLast history) :
      RowTells key history (some secret)

variable {service}

theorem checkStore_ok {call : StoreCall} {masterKey : Key}
    (accepted : service.checkStore call = .ok masterKey) :
    service.masterKey = some masterKey := by
  unfold VaultService.checkStore VaultService.requireEnabled at accepted
  cases stored : service.masterKey with
  | none =>
      rw [stored] at accepted
      split at accepted
      · cases accepted
      · cases accepted
      · split at accepted
        · cases accepted
        · split at accepted
          · cases accepted
          · split at accepted <;> cases accepted
  | some found =>
      rw [stored] at accepted
      split at accepted
      · cases accepted
      · cases accepted
      · split at accepted
        · cases accepted
        · split at accepted
          · cases accepted
          · split at accepted
            · cases accepted
            · exact congrArg some (Except.ok.inj accepted)

/-- A stored row tells of its storing. -/
theorem RowTells.store {key : VaultKey} {history : List SecretEvent}
    {row : Option (VaultSecret Cipher)} (tells : RowTells service key history row)
    {call : StoreCall} (own : (call.domain, call.name) = key) {masterKey : Key}
    (accepted : service.checkStore call = .ok masterKey) :
    RowTells service key (history ++ [.stored call.value call.owner call.ownerUserId.isSome])
      (some (service.stored masterKey call row)) := by
  subst own
  have enabled := checkStore_ok accepted
  have fresh : ∀ event : SecretEvent, event ≠ .revoked →
      ((none : Option String).isSome = true ↔ revokedLast (history ++ [event])) := by
    intro event other
    rw [revokedLast_concat]
    exact iff_of_false (by decide) other
  cases tells with
  | missing never unowned =>
      refine .present _ call.value masterKey enabled ?_ ?_ rfl (fresh _ nofun)
      · rw [latestValue_concat]
        rfl
      · rw [recordedOwner_concat, unowned]
        unfold SecretEvent.record VaultService.stored
        dsimp only
        split <;> rfl
  | present secret value found _ latest owned encrypted revoked =>
      refine .present _ call.value masterKey enabled ?_ ?_ rfl (fresh _ nofun)
      · rw [latestValue_concat]
        rfl
      · rw [recordedOwner_concat, owned]
        unfold SecretEvent.record VaultService.stored
        dsimp only
        split <;> rfl

theorem RowTells.revoke {key : VaultKey} {history : List SecretEvent}
    {row : Option (VaultSecret Cipher)} (tells : RowTells service key history row) (now : Instant) :
    RowTells service key (history ++ [.revoked]) (row.map fun secret =>
      { secret with revokedAt := secret.revokedAt.or (some (utcnowIso now)) }) := by
  cases tells with
  | missing never unowned =>
      refine .missing ?_ ?_
      · rw [latestValue_concat, never]
        rfl
      · rw [recordedOwner_concat, unowned]
        rfl
  | present secret value masterKey enabled latest owned encrypted revoked =>
      refine .present _ value masterKey enabled ?_ ?_ encrypted ?_
      · rw [latestValue_concat, latest]
        rfl
      · rw [recordedOwner_concat, owned]
        rfl
      · rw [revokedLast_concat]
        refine iff_of_true ?_ rfl
        change (secret.revokedAt.or (some (utcnowIso now))).isSome = true
        cases secret.revokedAt <;> rfl

/-! ## What one call does to a row -/

theorem VaultState.put_self (state : VaultState Cipher) (key : VaultKey)
    (secret : VaultSecret Cipher) : (state.put key secret).secrets key = some secret :=
  Function.update_self ..

theorem VaultState.put_ne (state : VaultState Cipher) {key other : VaultKey}
    (secret : VaultSecret Cipher) (different : other ≠ key) :
    (state.put key secret).secrets other = state.secrets other :=
  Function.update_of_ne different ..

theorem store_tells {state : VaultState Cipher} {key : VaultKey} {history : List SecretEvent}
    (tells : RowTells service key history (state.secrets key)) (call : StoreCall) :
    RowTells service key (history ++ (service.effect key (.store call)).toList)
      ((service.storeOrRotateSecret state call).1.secrets key) := by
  unfold VaultService.storeOrRotateSecret VaultService.effect
  dsimp only
  cases accepted : service.checkStore call with
  | error error =>
      rw [Option.toList_none, List.append_nil]
      exact tells
  | ok masterKey =>
      dsimp only
      by_cases own : (call.domain, call.name) = key
      · rw [if_pos own, own, VaultState.put_self]
        exact tells.store own accepted
      · rw [if_neg own, VaultState.put_ne _ _ (Ne.symm own), Option.toList_none, List.append_nil]
        exact tells

theorem revoke_tells {state : VaultState Cipher} {key : VaultKey} {history : List SecretEvent}
    (tells : RowTells service key history (state.secrets key)) (call : RevokeCall) :
    RowTells service key (history ++ (service.effect key (.revoke call)).toList)
      ((service.revokeSecret state call).1.secrets key) := by
  unfold VaultService.revokeSecret VaultService.effect
  dsimp only
  cases accepted : service.checkRevoke call with
  | error error =>
      rw [Option.toList_none, List.append_nil]
      exact tells
  | ok masterKey =>
      dsimp only
      by_cases own : (call.domain, call.name) = key
      · rw [if_pos own, own]
        have revoked := tells.revoke call.now
        cases found : state.secrets key with
        | none =>
            rw [found] at revoked
            dsimp only
            rw [found]
            exact revoked
        | some secret =>
            rw [found] at revoked
            dsimp only
            rw [VaultState.put_self]
            exact revoked
      · rw [if_neg own, Option.toList_none, List.append_nil]
        cases found : state.secrets (call.domain, call.name) with
        | none => exact tells
        | some secret =>
            dsimp only
            rw [VaultState.put_ne _ _ (Ne.symm own)]
            exact tells

variable (service)

/-- Every row tells the history of its secret. -/
theorem after_tells (calls : List VaultCall) (key : VaultKey) :
    RowTells service key (service.history key calls) ((service.after calls).secrets key) := by
  unfold VaultService.history
  refine service.machine.run_induction _
    (motive := fun calls state =>
      RowTells service key (calls.filterMap (service.effect key)) (state.secrets key))
    (.missing rfl rfl) ?_ calls
  intro before call tells
  rw [List.filterMap_append]
  have effect_eq : [call].filterMap (service.effect key) = (service.effect key call).toList := by
    rw [List.filterMap_cons]
    cases service.effect key call <;> rfl
  rw [effect_eq]
  cases call with
  | store call => exact store_tells tells call
  | revoke call => exact revoke_tells tells call
  | resolve call =>
      rw [show service.effect key (.resolve call) = none from rfl, Option.toList_none,
        List.append_nil]
      exact tells

variable {service}

/-- What is needed to resolve a reference whose row has been found. -/
theorem resolve_present {state : VaultState Cipher} {call : ResolveCall} {domain name : String}
    {masterKey : Key} {secret : VaultSecret Cipher} {stored : String}
    (parsed : parseVaultRef call.ref = some (domain, name))
    (enabled : service.masterKey = some masterKey)
    (found : state.secrets (domain, name) = some secret)
    (encrypted : secret.ciphertext =
      vaultEncrypt service.aead stored masterKey secret.nonce domain name) (value : String) :
    (service.resolveRef state call).answer = .ok (.value value) ↔
      stored = value ∧ secret.revokedAt.isSome = false ∧
        (call.requireOwner = true → secret.ownerUserId = call.actorId) := by
  have prefixed : "vault:".toList.isPrefixOf call.ref.toList = true := by
    unfold parseVaultRef at parsed
    by_contra other
    rw [if_neg other] at parsed
    cases parsed
  unfold VaultService.resolveRef VaultService.requireEnabled
  rw [prefixed, parsed, enabled]
  dsimp only
  rw [if_neg (by decide), found]
  dsimp only
  rw [encrypted, vaultDecrypt_vaultEncrypt]
  by_cases foreign : (call.requireOwner && secret.ownerUserId != call.actorId) = true
  · rw [if_pos foreign]
    rw [Bool.and_eq_true, bne_iff_ne] at foreign
    exact iff_of_false nofun fun ⟨_, _, owner⟩ => foreign.2 (owner foreign.1)
  · rw [if_neg foreign]
    have owner : call.requireOwner = true → secret.ownerUserId = call.actorId := by
      intro required
      by_contra different
      exact foreign (by rw [required, Bool.true_and, bne_iff_ne]; exact different)
    by_cases revoked : secret.revokedAt.isSome = true
    · rw [if_pos revoked]
      exact iff_of_false nofun fun ⟨_, active, _⟩ => by
        rw [revoked] at active
        cases active
    · rw [if_neg revoked]
      constructor
      · intro answered
        exact ⟨VaultAnswer.value.inj (Except.ok.inj answered), Bool.eq_false_of_not_eq_true revoked,
          owner⟩
      · rintro ⟨rfl, _⟩
        rfl

/-- A reference that does not name a row resolves to nothing. -/
theorem resolve_absent {state : VaultState Cipher} {call : ResolveCall}
    (absent : ∀ key, parseVaultRef call.ref = some key → state.secrets key = none)
    (value : VaultAnswer Cipher) : (service.resolveRef state call).answer ≠ .ok value := by
  unfold VaultService.resolveRef
  split
  · exact nofun
  · split
    · exact nofun
    next domain name parsed =>
      dsimp only
      split
      · exact nofun
      · rw [absent _ parsed]
        exact nofun

variable (service)

/-- A reference resolves exactly if the vault is enabled, the secret has been stored and not been
revoked since, and its recorded owner asks where this is required; and it resolves to the value
that has been stored last. -/
theorem resolveRef_iff (calls : List VaultCall) (call : ResolveCall) (value : String) :
    (service.resolveRef (service.after calls) call).answer = .ok (.value value) ↔
      service.masterKey.isSome = true ∧ ∃ key, parseVaultRef call.ref = some key ∧
        latestValue (service.history key calls) = some value ∧
        ¬revokedLast (service.history key calls) ∧
        (call.requireOwner = true →
          recordedOwner (service.history key calls) = some call.actorId) := by
  cases parsed : parseVaultRef call.ref with
  | none =>
      refine iff_of_false (resolve_absent (fun key found => ?_) _) ?_
      · rw [parsed] at found
        cases found
      · rintro ⟨_, key, found, _⟩
        cases found
  | some key =>
      have tells := after_tells service calls key
      have at_key : (∃ other, some key = some other ∧
          latestValue (service.history other calls) = some value ∧
          ¬revokedLast (service.history other calls) ∧
          (call.requireOwner = true →
            recordedOwner (service.history other calls) = some call.actorId)) ↔
          latestValue (service.history key calls) = some value ∧
          ¬revokedLast (service.history key calls) ∧
          (call.requireOwner = true →
            recordedOwner (service.history key calls) = some call.actorId) := by
        constructor
        · rintro ⟨_, ⟨⟩, facts⟩
          exact facts
        · exact fun facts => ⟨key, rfl, facts⟩
      rw [at_key]
      generalize row_eq : (service.after calls).secrets key = row at tells
      cases tells with
      | missing never unowned =>
          refine iff_of_false (resolve_absent (fun other found => ?_) _) ?_
          · rw [parsed] at found
            cases found
            exact row_eq
          · rw [never]
            rintro ⟨_, latest, _⟩
            cases latest
      | present secret stored masterKey enabled latest owned encrypted revoked =>
          rw [resolve_present parsed enabled row_eq encrypted, enabled, latest, owned, ← revoked,
            Bool.not_eq_true]
          simp only [Option.isSome_some, true_and, Option.some_inj]

end Service

/-! ## A box for a cipher -/

namespace Demo

/-- A box is opened with what it has been closed with. -/
def box : Aead Nat (Nat × List UInt8 × ByteArray × ByteArray) :=
  { encrypt := fun key nonce data text => (key, nonce, data, text)
    decrypt := fun key nonce data cipher =>
      if cipher.1 = key ∧ cipher.2.1 = nonce ∧ cipher.2.2.1 = data then some cipher.2.2.2 else none
    decrypt_encrypt := by
      intro key nonce data text
      exact if_pos ⟨rfl, rfl, rfl⟩
    authentic := by
      intro key nonce data text other otherNonce otherData opened
      dsimp only at opened
      split at opened
      next same => exact ⟨same.1.symm, same.2.2.symm⟩
      next => cases opened }

def vault : VaultService Nat (Nat × List UInt8 × ByteArray × ByteArray) :=
  { aead := box, masterKey := some 7 }

def storedSecret : VaultCall :=
  .store {
    domain := "email", name := "password", value := "hunter2", actorId := "alice", nonce := [] }

end Demo

example : (Demo.vault.history ("email", "password") [Demo.storedSecret]).length = 1 := by
  decide +kernel

end Era.Services
