import Era.Services.Storage

/-!
# Where secrets do not flow

Two trees of parameters may differ in what they store under secret keys.  Redaction makes them
equal, and so the audit log does not tell them apart.
-/

namespace Era.Security

open Era.Core

/-! ## Trees that differ in secrets -/

/-- Two values that differ only in what is stored under secret keys, at any depth. -/
def SameButSecrets (secretFields : List String) : Value → Value → Prop
  | .list lefts, .list rights => sameItems lefts rights
  | .dict lefts, .dict rights => sameFields lefts rights
  | left, right => left = right
where
  sameItems : List Value → List Value → Prop
    | [], [] => True
    | left :: lefts, right :: rights =>
        SameButSecrets secretFields left right ∧ sameItems lefts rights
    | _, _ => False
  sameFields : Params → Params → Prop
    | [], [] => True
    | (key, left) :: lefts, (other, right) :: rights =>
        key = other ∧
          (isSecretKey key secretFields = true ∨ SameButSecrets secretFields left right) ∧
          sameFields lefts rights
    | _, _ => False

example : SameButSecrets []
    (.dict [("user", .str "bob"), ("accounts", .list [.dict [("api_key", .int 1)]])])
    (.dict [("user", .str "bob"), ("accounts", .list [.dict [("api_key", .str "two")]])]) :=
  ⟨rfl, .inr rfl, rfl, .inr ⟨⟨rfl, .inl (by decide), trivial⟩, trivial⟩, trivial⟩

mutual

theorem redact_eq_of_sameButSecrets (secretFields : List String) (left right : Value)
    (same : SameButSecrets secretFields left right) :
    redact secretFields left = redact secretFields right := by
  match left, right, same with
  | .list lefts, .list rights, same =>
      exact congrArg Value.list (redactItems_eq_of_same secretFields lefts rights same)
  | .dict lefts, .dict rights, same =>
      exact congrArg Value.dict (redactFields_eq_of_same secretFields lefts rights same)
  | .none, right, same | .bool _, right, same | .int _, right, same | .float _, right, same
  | .str _, right, same =>
      rw [SameButSecrets] at same
      · rw [same]
      all_goals intros; contradiction

theorem redactItems_eq_of_same (secretFields : List String) (lefts rights : List Value)
    (same : SameButSecrets.sameItems secretFields lefts rights) :
    redact.redactItems secretFields lefts = redact.redactItems secretFields rights := by
  match lefts, rights, same with
  | [], [], _ => rfl
  | left :: lefts, right :: rights, ⟨first, later⟩ =>
      rw [redact.redactItems, redact.redactItems,
        redact_eq_of_sameButSecrets secretFields left right first,
        redactItems_eq_of_same secretFields lefts rights later]

theorem redactFields_eq_of_same (secretFields : List String) (lefts rights : Params)
    (same : SameButSecrets.sameFields secretFields lefts rights) :
    redact.redactFields secretFields lefts = redact.redactFields secretFields rights := by
  match lefts, rights, same with
  | [], [], _ => rfl
  | (key, left) :: lefts, (_, right) :: rights, ⟨rfl, hidden, later⟩ =>
      rw [redact.redactFields, redact.redactFields,
        redactFields_eq_of_same secretFields lefts rights later]
      by_cases secret : isSecretKey key secretFields = true
      · rw [if_pos secret, if_pos secret]
      · rw [if_neg secret, if_neg secret,
          redact_eq_of_sameButSecrets secretFields left right (hidden.resolve_left secret)]

end

/-! ## Redaction twice -/

mutual

theorem storable_redact (secretFields : List String) (value : Value) :
    storable secretFields (redact secretFields value) = true := by
  match value with
  | .none | .bool _ | .int _ | .float _ | .str _ => rfl
  | .list items => exact storableItems_redactItems secretFields items
  | .dict fields => exact storableFields_redactFields secretFields fields

theorem storableItems_redactItems (secretFields : List String) (items : List Value) :
    storable.storableItems secretFields (redact.redactItems secretFields items) = true := by
  match items with
  | [] => rfl
  | item :: items =>
      rw [redact.redactItems, storable.storableItems, storable_redact secretFields item,
        storableItems_redactItems secretFields items]
      rfl

theorem storableFields_redactFields (secretFields : List String) (fields : Params) :
    storable.storableFields secretFields (redact.redactFields secretFields fields) = true := by
  match fields with
  | [] => rfl
  | (key, item) :: fields =>
      rw [redact.redactFields, storable.storableFields,
        storableFields_redactFields secretFields fields, Bool.and_true]
      by_cases secret : isSecretKey key secretFields = true
      · rw [if_pos secret, if_pos secret]
        rfl
      · rw [if_neg secret, if_neg secret]
        exact storable_redact secretFields item

end

/-- What has been redacted holds no secrets any more. -/
theorem redact_redact (secretFields : List String) (value : Value) :
    redact secretFields (redact secretFields value) = redact secretFields value :=
  (redact_eq_self_iff secretFields _).mpr (storable_redact secretFields value)

end Era.Security

namespace Era.Services

open Era.Core Era.Security

/-! ## The pipeline of the audit service -/

/-- The parameters of an audit entry, from those of its action. -/
def Config.auditParams (config : Config) (actionType : String) (params : Value) : Value :=
  capStrings auditParamStrLimit 0 (redact (config.sensitiveFields actionType) params)

/-- Redaction is idempotent, and neither redaction nor an audit entry shows in what secrets two
trees differ. -/
structure RedactsSecrets (config : Config) (secretFields : List String) (actionType : String)
    (left right : Value) : Prop where
  redact_eq : SameButSecrets secretFields left right →
    redact secretFields left = redact secretFields right
  audit_eq : SameButSecrets (config.sensitiveFields actionType) left right →
    config.auditParams actionType left = config.auditParams actionType right
  idempotent : redact secretFields (redact secretFields left) = redact secretFields left

theorem redactsSecrets (config : Config) (secretFields : List String) (actionType : String)
    (left right : Value) : RedactsSecrets config secretFields actionType left right :=
  { redact_eq := redact_eq_of_sameButSecrets secretFields left right
    audit_eq := by
      intro same
      unfold Config.auditParams
      rw [redact_eq_of_sameButSecrets _ left right same]
    idempotent := redact_redact secretFields left }

end Era.Services
