import Era.Core.Platform
import Era.Core.Result

/-!
# HTTP exchanges of the providers

The partner's side of an exchange is an input.  Every provider reads a reply in
the same way and words its own errors.
-/

namespace Era.Providers

open Era.Core

/-- The body of a successful reply. -/
inductive HttpBody where
  | empty
  /-- More than a mebibyte. -/
  | oversized
  | json (document : Value)
  /-- Neither UTF-8 nor JSON; the decoder raises this exception. -/
  | undecodable (typeName : String) (message : String)

/-- What sending a request and reading the reply comes to. -/
inductive HttpReply where
  | success (body : HttpBody)
  /-- `HTTPError`, with the message of the vendor's error document. -/
  | httpError (status : Nat) (message : String)
  /-- `TimeoutError`. -/
  | timedOut
  /-- `URLError` and every other `OSError`. -/
  | networkDown
  /-- Any other exception, such as `http.client.IncompleteRead`. -/
  | raised (typeName : String) (message : String)

/-- The code of an HTTP status. -/
def errorCodeOfStatus (status : Nat) : ProviderErrorCode :=
  if status ∈ [401, 403] then .auth
  else if status = 404 then .notFound
  else if status = 409 then .conflict
  else if status ∈ [400, 422] then .validation
  else if status = 429 ∨ 500 ≤ status then .unavailable
  else .providerError

/-- How a provider words the failures of an exchange. -/
structure HttpTexts where
  oversized : String
  timedOut : String
  networkDown : String
  httpError : Nat → String → String

/-- The document of a reply, or the exception of the exchange. -/
def HttpReply.document (texts : HttpTexts) : HttpReply → Except Raised Value
  | .success .empty => .ok (.dict [])
  | .success .oversized => .error (.toolError .providerError texts.oversized)
  | .success (.json document) => .ok document
  | .success (.undecodable typeName message) => .error (.exception typeName message)
  | .httpError status message =>
      .error (.toolError (errorCodeOfStatus status) (texts.httpError status message))
  | .timedOut => .error (.toolError .timeout texts.timedOut)
  | .networkDown => .error (.toolError .unavailable texts.networkDown)
  | .raised typeName message => .error (.exception typeName message)

end Era.Providers
