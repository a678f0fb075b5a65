import Era.Repositories.AuditVerify
import Era.Services.Storage

/-!
# What the audit service appends

Redacted and bounded parameters are again a document, so every entry of the services
is one that the audit table takes.
-/

namespace Era.Services

open Era.Core Era.Lib Era.Security Era.Repositories

/-! ## Redaction and bounds keep documents -/

theorem redactFields_keys (secretFields : List String) (fields : Params) :
    (redact.redactFields secretFields fields).map Prod.fst = fields.map Prod.fst := by
  induction fields with
  | nil => rfl
  | cons field fields ih => rw [redact.redactFields, List.map_cons, List.map_cons, ih]

mutual

theorem distinctKeys_redact (secretFields : List String) (value : Value)
    (distinct : DistinctKeys value) : DistinctKeys (redact secretFields value) := by
  match value, distinct with
  | .none, _ | .bool _, _ | .int _, _ | .float _, _ | .str _, _ => trivial
  | .list items, distinct => exact distinctItems_redactItems secretFields items distinct
  | .dict fields, ⟨keys, distinct⟩ =>
      constructor
      · rw [redactFields_keys]
        exact keys
      · exact distinctFields_redactFields secretFields fields distinct

theorem distinctItems_redactItems (secretFields : List String) (items : List Value)
    (distinct : DistinctKeys.distinctItems items) :
    DistinctKeys.distinctItems (redact.redactItems secretFields items) := by
  match items, distinct with
  | [], _ => trivial
  | item :: items, ⟨first, later⟩ =>
      exact ⟨distinctKeys_redact secretFields item first,
        distinctItems_redactItems secretFields items later⟩

theorem distinctFields_redactFields (secretFields : List String) (fields : Params)
    (distinct : DistinctKeys.distinctFields fields) :
    DistinctKeys.distinctFields (redact.redactFields secretFields fields) := by
  match fields, distinct with
  | [], _ => trivial
  | (key, item) :: fields, ⟨first, later⟩ =>
      refine ⟨?_, distinctFields_redactFields secretFields fields later⟩
      split
      · trivial
      · exact distinctKeys_redact secretFields item first

end

theorem capFields_keys (limit depth : Nat) (fields : Params) :
    (capStrings.capFields limit depth fields).map Prod.fst = fields.map Prod.fst := by
  induction fields with
  | nil => simp [capStrings.capFields]
  | cons field fields ih => rw [capStrings.capFields, List.map_cons, List.map_cons, ih]

mutual

theorem distinctKeys_capStrings (limit depth : Nat) (value : Value)
    (distinct : DistinctKeys value) : DistinctKeys (capStrings limit depth value) := by
  match value, distinct with
  | .none, _ | .bool _, _ | .int _, _ | .float _, _ =>
      rw [capStrings]
      split <;> trivial
      all_goals intros; contradiction
  | .str text, _ =>
      rw [capStrings]
      split
      · trivial
      · split <;> trivial
  | .list items, distinct =>
      rw [capStrings]
      split
      · trivial
      · exact distinctItems_capItems limit depth items distinct
  | .dict fields, ⟨keys, distinct⟩ =>
      rw [capStrings]
      split
      · trivial
      · constructor
        · rw [capFields_keys]
          exact keys
        · exact distinctFields_capFields limit depth fields distinct

theorem distinctItems_capItems (limit depth : Nat) (items : List Value)
    (distinct : DistinctKeys.distinctItems items) :
    DistinctKeys.distinctItems (capStrings.capItems limit depth items) := by
  match items, distinct with
  | [], _ => simp [capStrings.capItems, DistinctKeys.distinctItems]
  | item :: items, ⟨first, later⟩ =>
      rw [capStrings.capItems]
      exact ⟨distinctKeys_capStrings limit (depth + 1) item first,
        distinctItems_capItems limit depth items later⟩

theorem distinctFields_capFields (limit depth : Nat) (fields : Params)
    (distinct : DistinctKeys.distinctFields fields) :
    DistinctKeys.distinctFields (capStrings.capFields limit depth fields) := by
  match fields, distinct with
  | [], _ => simp [capStrings.capFields, DistinctKeys.distinctFields]
  | (key, item) :: fields, ⟨first, later⟩ =>
      rw [capStrings.capFields]
      exact ⟨distinctKeys_capStrings limit (depth + 1) item first,
        distinctFields_capFields limit depth fields later⟩

end

/-- The parameters of an entry are a document when those of the action are. -/
theorem Config.auditEntry_distinct (config : Config) (fields : AuditRecord)
    (distinct : DistinctKeys (.dict fields.action.params)) :
    DistinctKeys (.dict (config.auditEntry fields).actionParams) := by
  obtain ⟨keys, values⟩ := distinct
  constructor
  · rw [Config.auditEntry, capParams, capFields_keys, redactParams, redactFields_keys]
    exact keys
  · exact distinctFields_capFields _ 0 _ (distinctFields_redactFields _ _ values)

/-! ## Recording -/

/-- The `NewAuditEntry` of `AuditService.record`, whose callers on the execution path
give no metadata. -/
def Config.newAuditEntry (config : Config) (fields : AuditRecord)
    (distinct : DistinctKeys (.dict fields.action.params)) : NewAuditEntry :=
  let entry := config.auditEntry fields
  { actorId := entry.actorId
    actionType := entry.actionType
    actionParams := entry.actionParams
    riskLevel := entry.riskLevel
    decision := entry.decision.value
    outcome := entry.outcome.value
    policyVersion := entry.policyVersion
    appVersion := entry.appVersion
    confirmationId := entry.confirmationId
    result := entry.result
    errorCode := entry.errorCode.map ProviderErrorCode.value
    providerId := entry.providerId
    capabilityDomain := entry.capabilityDomain
    credentialRef := entry.credentialRef
    metadata := []
    actionParams_distinct := config.auditEntry_distinct fields distinct
    metadata_distinct := distinctKeys_empty }

/-- `AuditService.record` in a transaction of its own, over and over. -/
def Config.recordAll (config : Config) {library : SigningLibrary}
    (floats : FloatReading config.platform) (repo : SQLiteAuditRepo library)
    (records : List (Instant × { fields : AuditRecord //
      DistinctKeys (.dict fields.action.params) })) : List AuditLogRow :=
  (repo.machine floats).stateAfter []
    (records.map fun record => (record.1, config.newAuditEntry record.2.1 record.2.2))

/-- Whatever the services record, every prefix of the log verifies. -/
theorem Config.verify_recordAll (config : Config) {library : SigningLibrary}
    (floats : FloatReading config.platform) (repo : SQLiteAuditRepo library)
    (records : List (Instant × { fields : AuditRecord //
      DistinctKeys (.dict fields.action.params) })) (count : Nat) :
    ∃ result, repo.verify floats ((config.recordAll floats repo records).take count) =
      some result ∧ result.valid = true :=
  ((honest_stateAfter floats repo _).take count).verify_valid

end Era.Services
