import Era.Security.Redaction
import Era.Security.Validation
import Era.Security.Vault
import Era.Workflows.Definition

/-!
# Rendering templates

A placeholder `{{name}}` in a parameter template stands for a parameter of the run.  At
registration time, templates are rendered with a synthetic token instead.
-/

namespace Era.Workflows

open Era.Core Era.Security

/-! ## Placeholders -/

/-- The name of a placeholder at the start of a text, and what follows it. -/
def placeholder? (text : List Char) : Option (List Char × List Char) :=
  match text with
  | '\x7b' :: '\x7b' :: rest =>
      let inner := rest.dropWhile isPySpace
      let name := inner.takeWhile isIdentifierChar
      match name, (inner.dropWhile isIdentifierChar).dropWhile isPySpace with
      | _ :: _, '\x7d' :: '\x7d' :: after => some (name, after)
      | _, _ => none
  | _ => none

/-- `_PLACEHOLDER_RE.search`. -/
def hasPlaceholder (text : List Char) : Bool :=
  text.tails.any fun suffix => (placeholder? suffix).isSome

/-- `_PLACEHOLDER_RE.sub`; every match makes the text shorter, so its length bounds the
number of rounds. -/
def substitute (value : String → Except WorkflowError String) :
    Nat → List Char → Except WorkflowError (List Char)
  | 0, text => .ok text
  | _ + 1, [] => .ok []
  | rounds + 1, char :: rest =>
      match placeholder? (char :: rest) with
      | some (name, after) => do
          let found ← value (String.ofList name)
          let rendered ← substitute value rounds after
          return found.toList ++ rendered
      | none => do
          let rendered ← substitute value rounds rest
          return char :: rendered

/-- Whether two equal characters stand next to each other. -/
def hasPair (char : Char) (text : List Char) : Bool :=
  text.tails.any fun suffix => [char, char].isPrefixOf suffix

section Rendering

variable (platform : Platform)

/-- `str` of an integer, which must not be too long to print. -/
def intStr (number : Int) : Except WorkflowError String :=
  if (toString number.natAbs).length ≤ intMaxStrDigits then .ok (toString number)
  else
    .error (.exception "ValueError"
      "Exceeds the limit (4300 digits) for integer string conversion")

/-- `_lookup`. -/
def lookup (params : Params) (path name : String) : Except WorkflowError String :=
  let described := "workflow param " ++ platform.reprString name
  let placed := "(placeholder at " ++ path ++ ")"
  match List.lookup name params with
  | none => fail (described ++ " not supplied " ++ placed)
  | some .none => fail (described ++ " is None " ++ placed)
  | some (.list _) | some (.dict _) => fail (described ++ " is not a scalar " ++ placed)
  | some (.int number) => intStr number
  | some value => .ok (value.pyStr platform)

/-- The token that stands for every parameter when only the shape is checked. -/
def synthPlaceholder : String := "wf-param"

/-- `_render` of a string. -/
def renderText (params : Params) (lax : Bool) (path text : String) :
    Except WorkflowError String :=
  let chars := text.toList
  if !hasPlaceholder chars then .ok text
  else if lax then
    (substitute (fun _ => .ok synthPlaceholder) chars.length chars).map String.ofList
  else if params.isEmpty then
    fail ("step param placeholder referenced with no workflow params at " ++ path)
  else do
    let rendered ← substitute (lookup platform params path) chars.length chars
    -- A placeholder that is left would reach the provider as literal text.
    if hasPair '\x7b' rendered || hasPair '\x7d' rendered then
      fail ("unresolved placeholder at " ++ path)
    else return String.ofList rendered

/-- `_render`. -/
def render (params : Params) (lax : Bool) (path : String) (value : Value) :
    Except WorkflowError Value :=
  match value with
  | .str text => (renderText platform params lax path text).map .str
  | .dict fields => (renderFields path fields).map .dict
  | .list items => (renderItems path 0 items).map .list
  | value => .ok value
where
  renderFields (path : String) : Params → Except WorkflowError Params
    | [] => .ok []
    | (key, item) :: rest => do
        let rendered ← render params lax (path ++ "." ++ key) item
        let others ← renderFields path rest
        return (key, rendered) :: others
  renderItems (path : String) (index : Nat) : List Value → Except WorkflowError (List Value)
    | [] => .ok []
    | item :: rest => do
        let rendered ← render params lax (path ++ "[" ++ toString index ++ "]") item
        let others ← renderItems path (index + 1) rest
        return rendered :: others

/-- `render_workflow_params`. -/
def renderWorkflowParams (step : WorkflowStep) (params : Params) (lax : Bool) :
    Except WorkflowError Params :=
  render.renderFields platform params lax ("step." ++ step.id) step.params

/-- `WorkflowExpect.model_dump`. -/
def WorkflowExpect.modelDump (expect : WorkflowExpect) : Params :=
  [("kind", .str expect.kind.value),
    ("url_contains", (expect.urlContains.map Value.str).getD .none)]

/-- `render_step_expect`. -/
def renderStepExpect (step : WorkflowStep) (params : Params) (lax : Bool) :
    Except WorkflowError (Option Params) :=
  match step.expect with
  | none => .ok none
  | some expect =>
      (render.renderFields platform params lax ("step." ++ step.id ++ ".expect")
        expect.modelDump).map some

end Rendering

/-! ## Run parameters -/

/-- `_is_vault`. -/
def isVaultValue : Value → Bool
  | .str text => (parseVaultRef text).isSome
  | _ => false

/-- `redact_run_params`: vault references stay, other values under secret-hinting names are
replaced. -/
def redactRunParams : Params → Params
  | [] => []
  | (key, item) :: rest =>
      (key, if isVaultValue item then item
        else if isSecretKey key [] then .str redacted
        else redactNested item) :: redactRunParams rest
where
  redactNested : Value → Value
    | .dict fields => .dict (redactRunParams fields)
    | .list items => .list (redactItems items)
    | value => value
  redactItems : List Value → List Value
    | [] => []
    | item :: rest => redactNested item :: redactItems rest

/-- Whether every value under a secret-hinting name, at any depth, is a vault reference or the
marker itself. -/
def storableRunParams : Params → Bool
  | [] => true
  | (key, item) :: rest =>
      (isVaultValue item || if isSecretKey key [] then isMarker item else storableNested item) &&
        storableRunParams rest
where
  storableNested : Value → Bool
    | .dict fields => storableRunParams fields
    | .list items => storableItems items
    | _ => true
  storableItems : List Value → Bool
    | [] => true
    | item :: rest => storableNested item && storableItems rest

mutual

/-- `redact_run_params` leaves parameters alone that may be stored, and no others. -/
theorem redactRunParams_eq_self_iff (params : Params) :
    redactRunParams params = params ↔ storableRunParams params = true := by
  cases params with
  | nil => exact ⟨fun _ => rfl, fun _ => rfl⟩
  | cons field rest =>
      obtain ⟨key, item⟩ := field
      rw [redactRunParams, storableRunParams, List.cons.injEq, Prod.mk.injEq, eq_self, true_and,
        Bool.and_eq_true, redactRunParams_eq_self_iff rest, Bool.or_eq_true]
      apply and_congr_left'
      by_cases vault : isVaultValue item = true
      · simp [vault]
      · rw [if_neg vault, or_iff_right vault]
        split
        next => exact marker_eq_iff item
        next => exact redactNested_eq_self_iff item

theorem redactNested_eq_self_iff (value : Value) :
    redactRunParams.redactNested value = value ↔
      storableRunParams.storableNested value = true := by
  cases value with
  | none | bool | int | float | str => exact ⟨fun _ => rfl, fun _ => rfl⟩
  | dict fields =>
      rw [redactRunParams.redactNested, storableRunParams.storableNested, Value.dict.injEq]
      exact redactRunParams_eq_self_iff fields
  | list items =>
      rw [redactRunParams.redactNested, storableRunParams.storableNested, Value.list.injEq]
      exact redactRunItems_eq_self_iff items

theorem redactRunItems_eq_self_iff (items : List Value) :
    redactRunParams.redactItems items = items ↔
      storableRunParams.storableItems items = true := by
  cases items with
  | nil => exact ⟨fun _ => rfl, fun _ => rfl⟩
  | cons item rest =>
      rw [redactRunParams.redactItems, storableRunParams.storableItems, List.cons.injEq,
        Bool.and_eq_true, redactNested_eq_self_iff item, redactRunItems_eq_self_iff rest]

end

mutual

theorem storableRunParams_redact (params : Params) :
    storableRunParams (redactRunParams params) = true := by
  cases params with
  | nil => rfl
  | cons field rest =>
      obtain ⟨key, item⟩ := field
      rw [redactRunParams, storableRunParams, Bool.and_eq_true, Bool.or_eq_true]
      refine ⟨?_, storableRunParams_redact rest⟩
      split
      next vault => exact .inl vault
      next =>
        right
        split
        next => rfl
        next => exact storableNested_redact item

theorem storableNested_redact (value : Value) :
    storableRunParams.storableNested (redactRunParams.redactNested value) = true := by
  cases value with
  | none | bool | int | float | str => rfl
  | dict fields => exact storableRunParams_redact fields
  | list items => exact storableRunItems_redact items

theorem storableRunItems_redact (items : List Value) :
    storableRunParams.storableItems (redactRunParams.redactItems items) = true := by
  cases items with
  | nil => rfl
  | cons item rest =>
      rw [redactRunParams.redactItems, storableRunParams.storableItems, Bool.and_eq_true]
      exact ⟨storableNested_redact item, storableRunItems_redact rest⟩

end

/-- Parameters that have been stored are stored again as they are. -/
theorem redactRunParams_idem (params : Params) :
    redactRunParams (redactRunParams params) = redactRunParams params :=
  (redactRunParams_eq_self_iff _).mpr (storableRunParams_redact params)

end Era.Workflows
