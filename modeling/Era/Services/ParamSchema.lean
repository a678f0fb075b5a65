import Era.Services.Storage

/-!
# Parameters under a schema

Every action type describes its parameters by a schema: which are required, of which type and
size each is, and which shapes of presence and absence are allowed.
-/

namespace Era.Services

open Era.Core

variable (platform : Platform)

def invalid {α : Type} (message : String) : Except SchemaFailure α :=
  .error (.validationError message)

/-- The dictionary whose `get` is called. -/
def fieldsOf : Value → Except SchemaFailure Params
  | .dict fields => .ok fields
  | value => .error (.exception ("'" ++ value.typeName ++ "' object has no attribute 'get'"))

/-- `params[key] is not None` for a key that may be missing. -/
def isPresent (params : Params) (key : String) : Bool := (params.get key).typeName != "NoneType"

/-! ## Types and sizes -/

/-- Whether a value has a type of JSON Schema; a boolean is no number. -/
def hasType (value : Value) (expected : String) : Bool :=
  match expected, value with
  | "string", .str _ | "integer", .int _ | "number", .int _ | "number", .float _
  | "boolean", .bool _ | "array", .list _ | "object", .dict _ => true
  | "string", _ | "integer", _ | "number", _ | "boolean", _ | "array", _ | "object", _ => false
  | _, _ => true

/-- Whether `_check_prop_type` accepts a value; a list of types is a union. -/
def fitsType (value : Value) : Value → Bool
  | .str expected => value.typeName == "NoneType" || hasType value expected
  | .list candidates => value.typeName == "NoneType" || fitsAny candidates
  | _ => true
where
  fitsAny : List Value → Bool
    | [] => false
    | candidate :: rest => fitsType value candidate || fitsAny rest

/-- The article of a type in messages. -/
def article (expected : String) : String :=
  if ["integer", "array", "object"].contains expected then "an " else "a "

/-- `_check_prop_type`. -/
def checkPropType (name : String) (value expected : Value) : Except SchemaFailure Unit :=
  if fitsType value expected then .ok ()
  else
    let parameter := "parameter " ++ platform.reprString name ++ " must be "
    match expected with
    | .list candidates =>
        invalid (parameter ++ "one of types: " ++
          ", ".intercalate (candidates.map fun candidate => candidate.pyStr platform))
    | expected =>
        let kind := expected.pyStr platform
        invalid (parameter ++ article kind ++ kind ++ ", got " ++ value.typeName)

/-- A bound that a property may have: its key, whether it is a lower one, what it measures, and
what the message says around the bound. -/
structure Bound where
  key : String
  isLower : Bool
  measure : Value → Option PyFloat
  text : String → String

def itemCount : Value → Option PyFloat
  | .list items => some (.finite items.length)
  | _ => none

def textLength : Value → Option PyFloat
  | .str text => some (.finite text.length)
  | _ => none

def itemBounds : List Bound :=
  [{ key := "minItems", isLower := true, measure := itemCount
     text := fun bound => " must contain at least " ++ bound ++ " items" },
    { key := "maxItems", isLower := false, measure := itemCount
      text := fun bound => " must contain at most " ++ bound ++ " items" }]

def scalarBounds : List Bound :=
  [{ key := "minLength", isLower := true, measure := textLength
     text := fun bound => " must be at least " ++ bound ++ " chars" },
    { key := "maxLength", isLower := false, measure := textLength
      text := fun bound => " must be at most " ++ bound ++ " chars" },
    { key := "minimum", isLower := true, measure := Value.number?
      text := fun bound => " must be >= " ++ bound },
    { key := "maximum", isLower := false, measure := Value.number?
      text := fun bound => " must be <= " ++ bound }]

/-- One bound of a property. -/
def Bound.check (bound : Bound) (spec : Params) (name : String) (value : Value) :
    Except SchemaFailure Unit :=
  match spec.lookup bound.key, bound.measure value with
  | some limit, some measured =>
      match limit.number? with
      | none =>
          .error (.exception ("'" ++ (if bound.isLower then "<" else ">") ++
            "' not supported between instances of 'int' and '" ++ limit.typeName ++ "'"))
      | some number =>
          if (if bound.isLower then measured.lt number else number.lt measured) then
            invalid ("parameter " ++ platform.reprString name ++ bound.text (limit.pyStr platform))
          else .ok ()
  | _, _ => .ok ()

/-- The values that a property is limited to. -/
def checkEnum (spec : Params) (name : String) (value : Value) : Except SchemaFailure Unit :=
  match spec.lookup "enum" with
  | none => .ok ()
  | some (.list allowed) =>
      if allowed.any value.pyEq then .ok ()
      else
        invalid ("parameter " ++ platform.reprString name ++ " must be one of " ++
          (Value.list allowed).pyStr platform)
  | some other =>
      .error (.exception ("argument of type '" ++ other.typeName ++ "' is not iterable"))

/-- The checks of one parameter against the description of its property. -/
def checkProperty (name : String) (value : Value) (spec : Params) :
    Except SchemaFailure Unit := do
  let expected := spec.get "type"
  if expected.truthy then checkPropType platform name value expected
  itemBounds.forM fun bound => bound.check platform spec name value
  checkEnum platform spec name value
  scalarBounds.forM fun bound => bound.check platform spec name value

/-! ## Shapes -/

/-- `_matches_schema_condition`. -/
def matchesCondition (params : Params) : Value → Bool
  | .dict condition =>
      hasRequired (Params.getOr condition "required" (.list [])) && meetsAnyOf condition &&
        !meetsNegated condition
  | _ => false
where
  hasRequired : Value → Bool
    | .list keys => keys.all fun
        | .str key => isPresent params key
        | _ => false
    | _ => false
  meetsAnyOf : Params → Bool
    | [] => true
    | (key, value) :: rest =>
        if key == "anyOf" then
          match value with
          | .list conditions => meetsSome conditions
          | _ => true
        else meetsAnyOf rest
  meetsNegated : Params → Bool
    | [] => false
    | (key, value) :: rest =>
        if key == "not" then matchesCondition params value else meetsNegated rest
  meetsSome : List Value → Bool
    | [] => false
    | condition :: rest => matchesCondition params condition || meetsSome rest

/-- Exactly one of several conditions is met. -/
def meetsOneOf (params : Params) (conditions : List Value) : Bool :=
  (conditions.filter (matchesCondition params)).length == 1

/-- The message for a shape that is met never or more than once. -/
def shapeMessage : String := "parameters must satisfy exactly one allowed schema shape"

/-- One branch of `allOf`. -/
def checkBranch (params : Params) : Value → Except SchemaFailure Unit
  | .dict condition =>
      match Params.get condition "oneOf" with
      | .list nested => if meetsOneOf params nested then .ok () else invalid shapeMessage
      | _ =>
          if matchesCondition params (.dict condition) then .ok ()
          else invalid "parameters do not satisfy the required schema shape"
  | _ => invalid "invalid allOf condition in action schema"

/-! ## The whole check -/

/-- `_PARAM_ALIASES`. -/
def paramAliases (key : String) : List String :=
  (List.lookup key [("q", ["query"]), ("content", ["content_from"])]).getD []

/-- One required parameter, which may be given under an alias. -/
def checkRequired (params : Params) : Value → Except SchemaFailure Unit
  | .str key =>
      if isPresent params key || (paramAliases key).any (isPresent params) then .ok ()
      else invalid ("missing required parameter: " ++ platform.reprString key)
  | .list _ => .error (.exception "unhashable type: 'list'")
  | .dict _ => .error (.exception "unhashable type: 'dict'")
  | key => invalid ("missing required parameter: " ++ key.repr platform)

/-- The keys that `required` lists. -/
def requiredKeys : Value → Except SchemaFailure (List Value)
  | .list keys => .ok keys
  | .str text => .ok (text.toList.map fun char => .str (String.singleton char))
  | .dict fields => .ok (fields.map fun field => .str field.1)
  | value =>
      if value.truthy then
        .error (.exception ("'" ++ value.typeName ++ "' object is not iterable"))
      else .ok []

/-- The parameters against `properties`. -/
def checkProperties (params schema : Params) : Except SchemaFailure Unit :=
  match schema.get "properties" with
  | .none => .ok ()
  | .dict properties =>
      params.forM fun (name, value) =>
        match properties.lookup name with
        | some spec => do checkProperty platform name value (← fieldsOf spec)
        | none =>
            if (schema.getOr "additionalProperties" (.bool false)).truthy then .ok ()
            else invalid ("unknown parameter: " ++ platform.reprString name)
  | other =>
      .error (.exception ("argument of type '" ++ other.typeName ++ "' is not iterable"))

/-- The shapes of which exactly one is allowed. -/
def checkOneOf (params schema : Params) : Except SchemaFailure Unit :=
  match schema.get "oneOf" with
  | .list conditions => if meetsOneOf params conditions then .ok () else invalid shapeMessage
  | _ => .ok ()

/-- The shapes that are all required. -/
def checkAllOf (params schema : Params) : Except SchemaFailure Unit :=
  match schema.get "allOf" with
  | .list conditions => conditions.forM (checkBranch params)
  | _ => .ok ()

/-- `validate_param_schema`. -/
def validateParamSchema (params : Params) (schema : Value) : Except SchemaFailure Unit := do
  let fields ← fieldsOf schema
  let required ← requiredKeys (fields.get "required")
  required.forM (checkRequired platform params)
  checkProperties platform params fields
  checkOneOf params fields
  checkAllOf params fields

variable {platform}

/-- Parameters under a schema meet every branch of its `allOf`. -/
theorem checkBranch_of_ok {params schema : Params} {conditions : List Value}
    (ok : validateParamSchema platform params (.dict schema) = .ok ())
    (all_of : schema.get "allOf" = .list conditions) :
    ∀ condition ∈ conditions, checkBranch params condition = .ok () := by
  unfold validateParamSchema at ok
  simp only [bind, bind_eq_ok_iff, fieldsOf] at ok
  obtain ⟨fields, fields_eq, _, _, _, _, _, _, _, _, shapes⟩ := ok
  cases fields_eq
  rw [checkAllOf, all_of] at shapes
  exact forM_eq_ok_iff.mp shapes

/-- A branch with `oneOf` has exactly one of its conditions met. -/
theorem meetsOneOf_of_branch {params condition : Params} {nested : List Value}
    (ok : checkBranch params (.dict condition) = .ok ())
    (one_of : Params.get condition "oneOf" = .list nested) : meetsOneOf params nested = true := by
  unfold checkBranch at ok
  dsimp only at ok
  rw [one_of] at ok
  dsimp only at ok
  by_contra unmet
  rw [if_neg unmet] at ok
  cases ok

end Era.Services
