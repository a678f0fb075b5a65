import Era.Core.ToolRegistry
import Era.Providers.Http
import Era.Security.Hashing

/-!
# The booking provider

Confirming and cancelling a booking cannot be undone.  Both go to the partner
with an idempotency key, and both report `SIDE_EFFECT_UNKNOWN` when the partner
may or may not have acted.
-/

namespace Era.Providers

open Era.Core Era.Security

/-- The action types that cannot be undone. -/
inductive Irreversible where
  | confirm
  | cancel
  deriving DecidableEq, Repr

def Irreversible.actionType : Irreversible → String
  | .confirm => "booking.confirm"
  | .cancel => "booking.cancel"

/-- What the provider declares to the registry. -/
def bookingDeclaration : Provider :=
  { id := "booking"
    actionTypes := ["booking.search", "booking.hold", "booking.confirm", "booking.cancel"]
    nonRetryableActionTypes := ["booking.confirm", "booking.cancel"]
    ambiguousOnFailureActionTypes := ["booking.confirm", "booking.cancel"] }

/-- A configured provider.  The runtime never registers one without a partner. -/
structure BookingProvider where
  partnerApiKeyRef : String
  partnerUrl : String
  configured : partnerApiKeyRef ≠ "" ∧ partnerUrl ≠ ""

namespace Demo

theorem partner_configured : "key" ≠ "" ∧ "https://partner.example" ≠ "" := by decide

end Demo

/-- A request to the partner. -/
structure PartnerRequest where
  path : String
  payload : Params
  idempotencyKey : String

/-- `_idempotent_results`. -/
abbrev IdempotentResults := List ((String × String) × ProviderReturn)

/-- One call of `execute`: its answer, the request it has sent and the cache. -/
structure BookingRun where
  answer : Except Raised ProviderReturn
  sent : Option PartnerRequest
  cache : IdempotentResults

section

variable (platform : Platform)

def bookingError (code : ProviderErrorCode) (message : String) : Raised :=
  .toolError code message

/-- `_validate_idempotency_key`. -/
def validateIdempotencyKey (params : Params) : Except Raised Unit :=
  let refused := bookingError .validation "idempotency_key must be a bounded non-empty string"
  match params.get "idempotency_key" with
  | .none => .ok ()
  | .str key => if pyStrip key = "" ∨ 128 < key.length then .error refused else .ok ()
  | _ => .error refused

/-- The reference that the action is about: the first truthy parameter. -/
def Irreversible.reference (kind : Irreversible) (params : Params) : Value :=
  match kind with
  | .confirm =>
      ((params.get "hold_ref").or (params.get "draft_id")).or (params.get "booking_id")
  | .cancel => (params.get "booking_ref").or (params.get "booking_id")

/-- `validate`. -/
def Irreversible.validate (kind : Irreversible) (params : Params) : Except Raised Unit :=
  let refused := bookingError .validation <| match kind with
    | .confirm => "booking.confirm requires 'hold_ref' or 'draft_id'"
    | .cancel => "booking.cancel requires 'booking_ref' or 'booking_id'"
  match kind.reference params with
  | .str reference =>
      if pyStrip reference = "" then .error refused else validateIdempotencyKey params
  | _ => .error refused

/-- `_idempotency_key`. -/
def idempotencyKey (actionType : String) (params : Params) : String :=
  let derived := platform.sha256Hex <| String.ofList <| canonicalJson platform <| .dict [
    ("action_type", .str actionType),
    ("params", .dict (params.filter fun field => field.1 ∉ ["token", "payment_token"]))]
  match params.get "idempotency_key" with
  | .str supplied => if pyStrip supplied = "" then derived else pyStrip supplied
  | _ => derived

def bookingTexts : HttpTexts :=
  { oversized := "booking partner response exceeded size cap"
    timedOut := "booking partner request timed out"
    networkDown := "booking partner network unavailable"
    httpError := fun status _ =>
      "booking partner request failed (HTTP " ++ toString status ++ ")" }

/-- `_partner_call`, after the check of the scheme. -/
def partnerCall (reply : HttpReply) : Except Raised Params :=
  match reply.document bookingTexts with
  | .error failure => .error failure
  | .ok (.dict fields) => .ok fields
  | .ok _ => .error (bookingError .providerError "booking partner returned invalid JSON")

/-- `_first`. -/
def firstOf (response : Params) : List String → String
  | [] => ""
  | key :: keys =>
      match response.get key with
      | .none => firstOf response keys
      | value =>
          if value.pyStr platform = "" then firstOf response keys
          else pyTake (value.pyStr platform) 256

/-- A non-negative integer. -/
def minorUnits : Value → Option Int
  | .int amount => if 0 ≤ amount then some amount else none
  | _ => none

/-- `_response_amount_minor`. -/
def responseAmountMinor (response : Params) (keyStart : String) : Option Int :=
  (["amount_minor", "price_minor", "amount"].findSome? fun key =>
    minorUnits (response.get (keyStart ++ key))).or <|
    match response.get "price" with
    | .dict price => minorUnits (Params.get price "amount_minor")
    | _ => none

/-- The optional amount and currency of a result. -/
def moneyFields (response : Params) (keyStart amountKey : String) :
    List (Option String × ProviderValue) :=
  (match responseAmountMinor response keyStart with
    | some amount => [(some amountKey, .int amount)]
    | none => []) ++
  if (response.get "currency").truthy then
    [(some "currency", .str (platform.upper ((response.get "currency").pyStr platform)))]
  else []

/-- The request of `_remote_confirm` and `_remote_cancel`. -/
def Irreversible.request (kind : Irreversible) (params : Params) (key : String) :
    PartnerRequest :=
  let reference := Value.str ((kind.reference params).pyStr platform)
  match kind with
  | .confirm =>
      { path := "/confirm"
        payload := ("hold_ref", reference) ::
          if (params.get "payment_ref").truthy then
            [("payment_ref", .str ((params.get "payment_ref").pyStr platform))]
          else []
        idempotencyKey := key }
  | .cancel =>
      { path := "/cancel"
        payload := [("booking_ref", reference),
          ("reason", .str (((params.get "reason").or (.str "")).pyStr platform))]
        idempotencyKey := key }

/-- What `_remote_confirm` and `_remote_cancel` make of the partner's answer. -/
def Irreversible.result (kind : Irreversible) (params response : Params) :
    Except Raised ProviderReturn :=
  match kind with
  | .confirm =>
      let reference := firstOf platform response
        ["booking_ref", "booking_id", "reference", "id"]
      if reference = "" then
        .error (bookingError .providerError
          "booking partner did not return a booking reference")
      else
        .ok (.actionResult true "booking confirmed"
          ((some "booking_ref", .str reference) :: (some "status", .str "confirmed") ::
            moneyFields platform response "" "amount_minor"))
  | .cancel =>
      let booking := (kind.reference params).pyStr platform
      let found := firstOf platform response ["cancellation_ref", "cancel_ref", "id"]
      .ok (.actionResult true "booking cancelled"
        ((some "booking_ref", .str booking) ::
          (some "cancellation_ref", .str (if found = "" then booking else found)) ::
          (some "status", .str "cancelled") ::
          moneyFields platform response "refund_" "refund_amount_minor"))

/-- The `except ToolError` of `execute`. -/
def unknownOutcome : Raised → Raised
  | .toolError code message =>
      if code ∈ [ProviderErrorCode.unavailable, .timeout, .providerError] then
        bookingError .sideEffectUnknown
          "booking partner outcome is unknown; do not retry automatically"
      else .toolError code message
  | failure => failure

/-- `_remote_confirm` and `_remote_cancel`, given the partner's reply, under the
handler of `execute`. -/
def Irreversible.answer (kind : Irreversible) (reply : HttpReply) (params : Params) :
    Except Raised ProviderReturn :=
  ((partnerCall reply).bind (kind.result platform params)).mapError unknownOutcome

/-- `execute` for an action type that cannot be undone; `apiKey` is what resolving
the key reference comes to. -/
def BookingProvider.execute (provider : BookingProvider) (apiKey : Except Raised String)
    (reply : HttpReply) (cache : IdempotentResults) (kind : Irreversible) (params : Params) :
    BookingRun :=
  let stopped (answer : Except Raised ProviderReturn) : BookingRun :=
    { answer, sent := none, cache }
  match kind.validate params with
  | .error failure => stopped (.error failure)
  | .ok () =>
      match apiKey with
      | .error failure => stopped (.error failure)
      | .ok "" =>
          stopped (.error (bookingError .notImplemented
            "booking partner API key is not configured"))
      | .ok _ =>
          let key := idempotencyKey platform kind.actionType params
          match cache.lookup (kind.actionType, key) with
          | some cached => stopped (.ok cached)
          | none =>
              if (platform.lower provider.partnerUrl).startsWith "https://" then
                let answer := kind.answer platform reply params
                { answer
                  sent := some (kind.request platform params key)
                  cache := match answer with
                    | .ok result => ((kind.actionType, key), result) :: cache
                    | .error _ => cache }
              else
                stopped (.error (bookingError .forbidden
                  "booking partner URL must use HTTPS"))

end

end Era.Providers
