import Era.Core.Platform
import Era.Core.Result
import Era.Security.Redaction
import Era.Security.Validation
import Mathlib.Algebra.GroupWithZero.Nat

/-!
# Safety boundary for provider results

Every successful provider answer is turned into bounded, recursively redacted
JSON or refused as unsafe.
-/

namespace Era.Security

open Era.Core

def maxResultDepth : Nat := 8
def maxResultItems : Nat := 1000
def maxResultKeyChars : Nat := 256
def maxResultSummaryChars : Nat := 4000

/-- `UnsafeResultError`: a result that is not JSON, unsafe or oversized. -/
structure UnsafeResult where
  message : String
  deriving DecidableEq, Repr

section

variable (platform : Platform)

/-- `_sanitize`. -/
def sanitizeValue (value : ProviderValue) (depth : Nat) : Except UnsafeResult Value :=
  if maxResultDepth < depth then .error ⟨"provider result nesting is too deep"⟩
  else
    match value with
    | .none => .ok .none
    | .bool flag => .ok (.bool flag)
    | .int number => .ok (.int number)
    | .str text => .ok (.str (platform.redactSensitiveText text))
    | .float number =>
        if number.isFinite then .ok (.float number)
        else .error ⟨"provider result contains a non-finite number"⟩
    | .dict fields =>
        if maxResultItems < fields.length then
          .error ⟨"provider result contains too many object fields"⟩
        else (sanitizeFields fields depth).map .dict
    | .list items =>
        if maxResultItems < items.length then
          .error ⟨"provider result contains too many list items"⟩
        else (sanitizeItems items depth).map .list
    | .other typeName => .error ⟨"provider result contains unsupported type: " ++ typeName⟩
where
  sanitizeFields (fields : List (Option String × ProviderValue)) (depth : Nat) :
      Except UnsafeResult Params :=
    match fields with
    | [] => .ok []
    | (some key, item) :: rest =>
        if key = "" ∨ maxResultKeyChars < key.length then
          .error ⟨"provider result contains an invalid object key"⟩
        else do
          let safe ←
            if isSecretKey key [] then .ok (.str redacted) else sanitizeValue item (depth + 1)
          let safeRest ← sanitizeFields rest depth
          return (key, safe) :: safeRest
    | (none, _) :: _ => .error ⟨"provider result contains an invalid object key"⟩
  sanitizeItems (items : List ProviderValue) (depth : Nat) :
      Except UnsafeResult (List Value) :=
    match items with
    | [] => .ok []
    | item :: rest => do
        let safe ← sanitizeValue item (depth + 1)
        let safeRest ← sanitizeItems rest depth
        return safe :: safeRest

/-- UTF-8 bytes of a string literal written with `ensure_ascii=False`. -/
def stringBytes (text : String) : Nat :=
  2 + (text.toList.map fun char =>
    if char ∈ ['"', '\\', '\n', '\r', '\t', '\x0c', '\x08'] then 2
    else if char.toNat < 0x20 then 6
    else char.utf8Size).sum

/-- Bytes of the compact JSON encoding of a value, or nothing when an integer is
too long to print. -/
def encodedBytes : Value → Option Nat
  | .none => some 4
  | .bool flag => some (if flag then 4 else 5)
  | .int number =>
      if (toString number.natAbs).length ≤ intMaxStrDigits then
        some (toString number).length
      else none
  | .float number => some (platform.floatRepr number).length
  | .str text => some (stringBytes text)
  | .list items => (itemsBytes items).map fun bytes => 2 + bytes + (items.length - 1)
  | .dict fields => (fieldsBytes fields).map fun bytes => 2 + bytes + (fields.length - 1)
where
  itemsBytes : List Value → Option Nat
    | [] => some 0
    | item :: rest => do
        let bytes ← encodedBytes item
        let others ← itemsBytes rest
        return bytes + others
  fieldsBytes : Params → Option Nat
    | [] => some 0
    | (key, item) :: rest => do
        let bytes ← encodedBytes item
        let others ← fieldsBytes rest
        return stringBytes key + 1 + bytes + others

/-- A summary with credential patterns masked, cut to its bound. -/
def safeSummary (summary : String) : String :=
  let masked := platform.redactSensitiveText summary
  if maxResultSummaryChars < masked.length then
    String.ofList (masked.toList.take maxResultSummaryChars) ++ "…"
  else masked

/-- `_sanitize` on the data of a result, which is always a dictionary. -/
def sanitizeData (data : List (Option String × ProviderValue)) :
    Except UnsafeResult Params :=
  if maxResultItems < data.length then
    .error ⟨"provider result contains too many object fields"⟩
  else sanitizeValue.sanitizeFields platform data 0

/-- `sanitize_action_result`. -/
def sanitizeActionResult (maxBytes : Int) : ProviderReturn → Except UnsafeResult ActionResult
  | .object _ => .error ⟨"provider did not return ActionResult"⟩
  | .actionResult success summary data =>
      if maxBytes ≤ 0 then .error ⟨"result byte limit must be positive"⟩
      else do
        let summary := safeSummary platform summary
        let data ← sanitizeData platform data
        match encodedBytes platform (.dict [("summary", .str summary), ("data", .dict data)]) with
        | none => .error ⟨"provider result is not valid JSON"⟩
        | some bytes =>
            if maxBytes < bytes then
              .error ⟨"provider result exceeds configured limit (" ++ toString bytes ++ " > " ++
                toString maxBytes ++ " bytes)"⟩
            else .ok { success, summary, data }

end

end Era.Security
