import Era.Core.Value

/-!
# Redaction before anything reaches the audit log
-/

namespace Era.Security

open Era.Core

def redacted : String := "[REDACTED]"

/-- Substrings that mark a key as secret-bearing. -/
def secretHints : List String :=
  ["key", "token", "secret", "password", "passwd", "pin", "credential",
    "authorization", "cookie", "auth"]

/-- Communication and booking fields that are confidential without being
credentials. -/
def actionPrivateFields (actionType : String) : List String :=
  match actionType with
  | "email.draft" => ["body"]
  | "email.send" => ["body", "attachments", "bcc"]
  | "whatsapp.send" => ["message", "text", "media"]
  | "booking.hold" => ["passenger_name", "passengers", "guests"]
  | "booking.confirm" => ["payment_ref"]
  | "device.sms_send" => ["message"]
  | _ => []

/-- Declared credential fields plus audited private fields. -/
def sensitiveFieldsForAction (actionType : String) (declaredFields : List String) :
    List String :=
  declaredFields ++ actionPrivateFields actionType

/-- `str.lower` as far as it can produce an ASCII letter: besides `A` to `Z`
these are the Kelvin sign and the dotted capital I.  All hints are ASCII letters,
so the other characters may stay as they are. -/
def lowerChar (char : Char) : List Char :=
  if 'A' ≤ char ∧ char ≤ 'Z' then [Char.ofNat (char.toNat + 32)]
  else if char = '\u212a' then ['k']
  else if char = '\u0130' then ['i', '\u0307']
  else [char]

/-- `hint in key.lower()`. -/
def hintInLower (hint key : String) : Bool :=
  (key.toList.flatMap lowerChar).tails.any fun suffix => hint.toList.isPrefixOf suffix

def isSecretKey (key : String) (secretFields : List String) : Bool :=
  secretFields.contains key || secretHints.any fun hint => hintInLower hint key

/-- A copy of a value with the values of secret keys replaced. -/
def redact (secretFields : List String) : Value → Value
  | .list items => .list (redactItems items)
  | .dict fields => .dict (redactFields fields)
  | value => value
where
  redactItems : List Value → List Value
    | [] => []
    | item :: rest => redact secretFields item :: redactItems rest
  redactFields : Params → Params
    | [] => []
    | (key, item) :: rest =>
        (key, if isSecretKey key secretFields then .str redacted
          else redact secretFields item) :: redactFields rest

/-- `redact` on a dictionary of parameters. -/
def redactParams (secretFields : List String) (params : Params) : Params :=
  redact.redactFields secretFields params

/-! ## What redaction leaves alone -/

def isMarker : Value → Bool
  | .str text => text == redacted
  | _ => false

/-- Whether every value under a secret key, at any depth, is the marker itself. -/
def storable (secretFields : List String) : Value → Bool
  | .list items => storableItems items
  | .dict fields => storableFields fields
  | _ => true
where
  storableItems : List Value → Bool
    | [] => true
    | item :: rest => storable secretFields item && storableItems rest
  storableFields : Params → Bool
    | [] => true
    | (key, item) :: rest =>
        (if isSecretKey key secretFields then isMarker item
          else storable secretFields item) && storableFields rest

def storableParams (secretFields : List String) (params : Params) : Bool :=
  storable.storableFields secretFields params

theorem marker_eq_iff (value : Value) : .str redacted = value ↔ isMarker value = true := by
  cases value with
  | str text =>
      rw [isMarker, beq_iff_eq, Value.str.injEq]
      exact eq_comm
  | none | bool | int | float | list | dict => exact ⟨nofun, nofun⟩

mutual

theorem redact_eq_self_iff (secretFields : List String) (value : Value) :
    redact secretFields value = value ↔ storable secretFields value = true := by
  cases value with
  | none | bool | int | float | str => exact ⟨fun _ => rfl, fun _ => rfl⟩
  | list items =>
      rw [redact, storable, Value.list.injEq]
      exact redactItems_eq_self_iff secretFields items
  | dict fields =>
      rw [redact, storable, Value.dict.injEq]
      exact redactParams_eq_self_iff secretFields fields

theorem redactItems_eq_self_iff (secretFields : List String) (items : List Value) :
    redact.redactItems secretFields items = items ↔
      storable.storableItems secretFields items = true := by
  cases items with
  | nil => exact ⟨fun _ => rfl, fun _ => rfl⟩
  | cons item rest =>
      rw [redact.redactItems, storable.storableItems, List.cons.injEq, Bool.and_eq_true,
        redact_eq_self_iff secretFields item, redactItems_eq_self_iff secretFields rest]

/-- Redaction leaves parameters alone that hold no secret. -/
theorem redactParams_eq_self_iff (secretFields : List String) (params : Params) :
    redactParams secretFields params = params ↔ storableParams secretFields params = true := by
  cases params with
  | nil => exact ⟨fun _ => rfl, fun _ => rfl⟩
  | cons field rest =>
      obtain ⟨key, item⟩ := field
      rw [redactParams, redact.redactFields, storableParams, storable.storableFields,
        List.cons.injEq, Prod.mk.injEq, Bool.and_eq_true]
      have at_rest := redactParams_eq_self_iff secretFields rest
      rw [redactParams, storableParams] at at_rest
      rw [at_rest]
      split
      next => rw [marker_eq_iff, eq_self, true_and]
      next => rw [redact_eq_self_iff secretFields item, eq_self, true_and]

end

/-! ## Long strings -/

/-- Audit rows store longer strings as length markers. -/
def auditParamStrLimit : Nat := 2000

/-- `_cap_strings`. -/
def capStrings (limit : Nat) (depth : Nat) (value : Value) : Value :=
  if 6 < depth then .str "[truncated]"
  else
    match value with
    | .str text =>
        if text.length ≤ limit then .str text
        else .str ("<truncated:" ++ toString text.length ++ " chars>")
    | .dict fields => .dict (capFields depth fields)
    | .list items => .list (capItems depth items)
    | value => value
where
  capFields (depth : Nat) : Params → Params
    | [] => []
    | (key, item) :: rest => (key, capStrings limit (depth + 1) item) :: capFields depth rest
  capItems (depth : Nat) : List Value → List Value
    | [] => []
    | item :: rest => capStrings limit (depth + 1) item :: capItems depth rest

/-- `_cap_strings` on the top-level dictionary of parameters. -/
def capParams (params : Params) : Params :=
  capStrings.capFields auditParamStrLimit 0 params

end Era.Security
