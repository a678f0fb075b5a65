import Era.Core.Platform

/-!
# Workflow definitions

A workflow is a bounded list of steps, each naming one browser action with a template of
its parameters.  Steps may depend on each other, carry a condition over the receipts of
earlier steps and be grouped into parallel blocks.  The model validators below run
whenever a definition is built.
-/

namespace Era.Workflows

open Era.Core

/-- What the workflow layer raises: its own two errors, a definition error always under
the code `validation`, and whatever else escapes. -/
inductive WorkflowError where
  | definitionError (message : String)
  | serviceError (message : String)
  | exception (typeName message : String)
  deriving DecidableEq, Repr

/-- `_fail`. -/
def fail {α : Type} (message : String) : Except WorkflowError α :=
  .error (.definitionError message)

/-- Fail with a message unless a check passes. -/
def require (check : Bool) (message : String) : Except WorkflowError Unit :=
  if check then .ok () else fail message

theorem require_eq_ok_iff {check : Bool} {message : String} :
    require check message = .ok () ↔ check = true := by
  cases check <;> simp [require, fail]

/-! ## The parts of a definition -/

/-- Inspect-time descriptor that is resolved to a fresh element reference. -/
structure WorkflowTarget where
  role : Option String := none
  name : Option String := none
  tag : Option String := none
  inputType : Option String := none
  frameId : Option String := none
  /-- Which of several matching elements is meant. -/
  index : Option Nat := none

inductive ExpectKind where
  | navigation
  | tabOpened
  | elementDetached
  deriving DecidableEq, Repr

def ExpectKind.value : ExpectKind → String
  | .navigation => "navigation"
  | .tabOpened => "tab_opened"
  | .elementDetached => "element_detached"

/-- Deterministic post-condition of a step. -/
structure WorkflowExpect where
  kind : ExpectKind
  urlContains : Option String := none

inductive ConditionKind where
  | stepResult
  | urlContains
  | elementPresent
  deriving DecidableEq, Repr

inductive ConditionOp where
  | eq
  | ne
  deriving DecidableEq, Repr

/-- A pure predicate over the receipts of earlier steps. -/
structure WorkflowCondition where
  kind : ConditionKind
  stepId : Option String := none
  op : Option ConditionOp := none
  value : Value := .none

/-- A bounded parallel group of existing steps. -/
structure WorkflowParallelBlock where
  steps : List String
  dependsOn : List String := []
  maxConcurrency : Int := 1

/-- What becomes of a step whose confirmation is denied. -/
inductive OnDenied where
  | stop
  | skip
  deriving DecidableEq, Repr

/-- One workflow step referencing exactly one catalogued browser action. -/
structure WorkflowStep where
  id : String
  action : String
  params : Params := []
  target : Option WorkflowTarget := none
  expect : Option WorkflowExpect := none
  onDenied : OnDenied := .stop
  description : Option String := none
  outputs : List (String × String) := []
  dependsOn : List String := []
  condition : Option WorkflowCondition := none

/-- A bounded, declarative multi-step browser workflow definition. -/
structure WorkflowDefinition where
  name : String
  version : Int := 1
  description : Option String := none
  paramsSchema : Params := []
  steps : List WorkflowStep
  parallel : List WorkflowParallelBlock := []

namespace WorkflowDefinition

variable (definition : WorkflowDefinition)

/-- `by_id[id]`, the index of the step of an identifier. -/
def indexOf (id : String) : Option Nat := definition.steps.findIdx? (·.id == id)

end WorkflowDefinition

/-! ## Model validators -/

/-- The actions a workflow step may reference. -/
def allowedStepActions : List String :=
  ["browser.navigate", "browser.screenshot", "browser.extract_dom", "browser.click",
    "browser.fill", "browser.submit", "browser.inspect", "browser.tabs",
    "browser.activate_tab", "browser.download", "browser.upload"]

def isIdentifierStart (char : Char) : Bool :=
  ('A' ≤ char && char ≤ 'Z') || ('a' ≤ char && char ≤ 'z') || ('0' ≤ char && char ≤ '9') ||
    char == '_'

def isIdentifierChar (char : Char) : Bool := isIdentifierStart char || char == '-'

/-- `_IDENTIFIER_RE.match`. -/
def isIdentifier (text : String) : Bool :=
  match withoutFinalNewline text.toList with
  | [] => false
  | first :: rest => isIdentifierStart first && rest.all isIdentifierChar && rest.length ≤ 63

/-- `bool(text)` of an optional string. -/
def nonempty (text : Option String) : Bool :=
  match text with
  | some text => text != ""
  | none => false

/-- Whether a condition may compare with a value. -/
def isScalarOrNull : Value → Bool
  | .list _ | .dict _ => false
  | _ => true

/-- `WorkflowCondition._validate`. -/
def WorkflowCondition.validate (condition : WorkflowCondition) :
    Except WorkflowError Unit :=
  match condition.kind with
  | .stepResult => do
      require (nonempty condition.stepId) "step_result condition requires step_id"
      require condition.op.isSome "step_result condition requires op '==' or '!='"
      require (isScalarOrNull condition.value)
        "step_result condition value must be a scalar or null"
  | .urlContains =>
      match condition.value with
      | .str text => do
          require (text != "") "url_contains condition requires a non-empty string value"
          require (text.length ≤ 1000) "url_contains condition value too long"
      | _ => fail "url_contains condition requires a non-empty string value"
  | .elementPresent =>
      require (nonempty condition.stepId) "element_present condition requires step_id"

section Validators

variable (platform : Platform)

/-- `WorkflowParallelBlock._validate` with the bounds of its field. -/
def WorkflowParallelBlock.validate (block : WorkflowParallelBlock) :
    Except WorkflowError Unit := do
  if block.maxConcurrency < 1 then
    throw (.exception "ValidationError" "Input should be greater than or equal to 1")
  if 8 < block.maxConcurrency then
    throw (.exception "ValidationError" "Input should be less than or equal to 8")
  require (2 ≤ block.steps.length) "parallel block must contain at least two steps"
  require (decide block.steps.Nodup) "parallel block contains duplicate step ids"
  (block.steps ++ block.dependsOn).forM fun id =>
    require (isIdentifier id)
      ("parallel block references invalid step id " ++ platform.reprString id)

/-- `WorkflowStep._validate`. -/
def WorkflowStep.validate (step : WorkflowStep) : Except WorkflowError Unit := do
  require (isIdentifier step.id)
    "step id must be 1-64 chars of [A-Za-z0-9_-] starting alphanumeric"
  require (allowedStepActions.contains step.action)
    ("step " ++ platform.reprString step.id ++
      " references a non-workflow/uncatalogued action " ++ platform.reprString step.action)
  require (step.dependsOn.length ≤ 8)
    "step depends_on is limited to 8 dependencies (bounded fan-out)"
  require (!step.dependsOn.contains step.id)
    ("step " ++ platform.reprString step.id ++ " cannot depend on itself")
  step.dependsOn.forM fun dep =>
    require (isIdentifier dep)
      ("step " ++ platform.reprString step.id ++ " references invalid dependency " ++
        platform.reprString dep)
  require (!step.condition.any fun condition => condition.stepId == some step.id)
    ("step " ++ platform.reprString step.id ++ " condition cannot reference itself")

/-- Step identifiers differ from each other and from those seen before. -/
def checkDistinct : List String → List String → Except WorkflowError Unit
  | _, [] => .ok ()
  | seen, id :: rest => do
      require (!seen.contains id) ("duplicate step id: " ++ platform.reprString id)
      checkDistinct (id :: seen) rest

/-- Members of parallel blocks are known, and in no block seen before. -/
def checkMembers (ids : List String) :
    List String → List String → Except WorkflowError Unit
  | _, [] => .ok ()
  | seen, id :: rest => do
      require (ids.contains id)
        ("parallel block references unknown step " ++ platform.reprString id)
      require (!seen.contains id)
        ("step " ++ platform.reprString id ++ " appears in more than one parallel block")
      checkMembers ids (id :: seen) rest

/-- `WorkflowDefinition._validate`. -/
def WorkflowDefinition.validate (definition : WorkflowDefinition) :
    Except WorkflowError Unit := do
  let ids := definition.steps.map WorkflowStep.id
  require (isIdentifier definition.name)
    "workflow name must be 1-64 chars of [A-Za-z0-9_-] starting alphanumeric"
  require (1 ≤ definition.version) "workflow version must be a positive integer"
  require (!definition.steps.isEmpty) "a workflow must have at least one step"
  checkDistinct platform [] ids
  checkMembers platform ids [] (definition.parallel.flatMap WorkflowParallelBlock.steps)

/-- Every model of a definition is valid: its conditions, blocks, steps and itself. -/
def WorkflowDefinition.build (definition : WorkflowDefinition) :
    Except WorkflowError Unit := do
  definition.steps.forM fun step =>
    match step.condition with
    | some condition => condition.validate
    | none => pure ()
  definition.steps.forM (WorkflowStep.validate platform)
  definition.parallel.forM (WorkflowParallelBlock.validate platform)
  definition.validate platform

end Validators

end Era.Workflows
