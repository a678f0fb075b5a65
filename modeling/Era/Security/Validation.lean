import Era.Core.Value

/-!
# Parameter bounds checked before dispatch
-/

namespace Era.Security

open Era.Core

def maxParams : Nat := 32
def maxParamKeyLen : Nat := 64
def maxStrLen : Nat := 2000
def maxContentLen : Nat := 1048576

/-- Actions whose parameters legitimately carry file content. -/
def contentActions : List String :=
  ["fs.write", "photo.edit", "photo.upload", "github.file_commit", "code.run",
    "code.exec", "email.send"]

/-- `sys.get_int_max_str_digits()`: converting a longer integer to a string
raises `ValueError`. -/
def intMaxStrDigits : Nat := 4300

/-- How parameter validation fails: with its own `ValidationError_`, or with the
plain `ValueError` of an integer too long to print. -/
inductive ValidationFailure where
  | validationError (message : String)
  | valueError (message : String)
  deriving DecidableEq, Repr

/-- `len(str(value))` for an integer. -/
def intStrLength (value : Int) : Except ValidationFailure Nat :=
  if (toString value.natAbs).length ≤ intMaxStrDigits then .ok (toString value).length
  else .error (.valueError "Exceeds the limit (4300 digits) for integer string conversion")

section Walk

variable (floatRepr : PyFloat → String) (strLimit : Nat)

/-- `_walk`: an approximate character count of a value, validating bounds. -/
def walk (value : Value) (depth : Nat) : Except ValidationFailure Nat :=
  if 4 < depth then .error (.validationError "params nesting too deep")
  else
    match value with
    | .str text =>
        if strLimit < text.length then
          .error (.validationError "string parameter value too long")
        else .ok text.length
    | .bool _ => .ok 1
    | .int number => intStrLength number
    | .float number => .ok (floatRepr number).length
    | .none => .ok 0
    | .dict fields =>
        if maxParams < fields.length then
          .error (.validationError "too many nested parameters")
        else walkFields fields depth
    | .list items =>
        if maxParams < items.length then .error (.validationError "too many list elements")
        else walkItems items depth
where
  walkFields (fields : Params) (depth : Nat) : Except ValidationFailure Nat :=
    match fields with
    | [] => .ok 0
    | (key, item) :: rest =>
        if key = "" ∨ maxParamKeyLen < key.length then
          .error (.validationError "invalid parameter name")
        else do
          let count ← walk item (depth + 1)
          let total ← walkFields rest depth
          return count + total
  walkItems (items : List Value) (depth : Nat) : Except ValidationFailure Nat :=
    match items with
    | [] => .ok 0
    | item :: rest => do
        let count ← walk item (depth + 1)
        let total ← walkItems rest depth
        return count + total

end Walk

def stringLimitFor (actionType : String) : Nat :=
  if contentActions.contains actionType then maxContentLen else maxStrLen

/-- `validate_params(params, action_type=...)`; the count `_walk` returns is not
used. -/
def validateParams (floatRepr : PyFloat → String) (params : Params) (actionType : String) :
    Except ValidationFailure Unit :=
  (walk floatRepr (stringLimitFor actionType) (.dict params) 0).map fun _ => ()

end Era.Security
