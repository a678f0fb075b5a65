import Era.Services.Storage
import Era.Workflows.Rendering

/-!
# Registration-time validation

A definition is registered only if its parameters have the shape of their actions, its
dependency graph is acyclic and bounded, and its parallel blocks are deterministic.
-/

namespace Era.Workflows

open Era.Core Era.Security Era.Services

/-! ## The dependency graph -/

section Graph

variable (platform : Platform) (definition : WorkflowDefinition)

/-- `edges[id]`: the steps that depend on a step, one entry for each mention. -/
def dependents (id : String) : List String :=
  definition.steps.flatMap fun step =>
    (step.dependsOn.filter (· == id)).map fun _ => step.id

/-- `indegree[id]` before the sort. -/
def indegree (id : String) : Nat :=
  (definition.steps.find? (·.id == id)).elim 0 fun step => step.dependsOn.length

/-- One dependent of a finished step loses an open dependency, and queues without any. -/
def relax (frontier : (String → Nat) × List String) (id : String) :
    (String → Nat) × List String :=
  let left := frontier.1 id - 1
  (Function.update frontier.1 id left, if left = 0 then frontier.2 ++ [id] else frontier.2)

/-- Kahn's loop: how many steps leave the queue.  Every step enters it at most once, so the
number of steps bounds the number of rounds. -/
def topologicalCount : Nat → (String → Nat) × List String → Nat
  | 0, _ | _, (_, []) => 0
  | rounds + 1, (degrees, id :: queue) =>
      1 + topologicalCount rounds ((dependents definition id).foldl relax (degrees, queue))

/-- `_validate_dag`. -/
def validateDag : Except WorkflowError Unit := do
  let ids := definition.steps.map WorkflowStep.id
  require (decide ids.Nodup) "duplicate step id"
  definition.steps.forM fun step =>
    step.dependsOn.forM fun dep =>
      require (ids.contains dep)
        ("step " ++ platform.reprString step.id ++ " depends on unknown step " ++
          platform.reprString dep)
  ids.forM fun id =>
    let count := (dependents definition id).length
    require (count ≤ 8)
      ("step " ++ platform.reprString id ++ " has unbounded fan-out (" ++ toString count ++
        " dependents)")
  let ready := ids.filter fun id => indegree definition id == 0
  require (topologicalCount definition ids.length (indegree definition, ready) == ids.length)
    "workflow step dependency graph contains a cycle"

/-- The block checks of one member of a parallel block. -/
def validateMember (block : WorkflowParallelBlock) (id : String) : Except WorkflowError Unit :=
  match definition.steps.find? (·.id == id) with
  | none => throw (.exception "KeyError" (platform.reprString id))
  | some step => do
      (step.dependsOn ++ block.dependsOn).forM fun dep =>
        require (!block.steps.contains dep)
          ("step " ++ platform.reprString id ++
            " depends on a parallel sibling's conditional outcome inside the same block")
      require (!(step.condition.bind WorkflowCondition.stepId).any block.steps.contains)
        ("parallel step " ++ platform.reprString id ++ " condition cannot reference a sibling")

/-- The members of a block are in no block so far. -/
def registerMembers : List String → List String → Except WorkflowError Unit
  | _, [] => .ok ()
  | seen, id :: rest => do
      require (!seen.contains id)
        ("step " ++ platform.reprString id ++ " appears in more than one parallel block")
      registerMembers (id :: seen) rest

/-- The members of a block are in no earlier block, and its dependencies are known. -/
def registerBlocks (ids : List String) :
    List String → List WorkflowParallelBlock → Except WorkflowError Unit
  | _, [] => .ok ()
  | seen, block :: rest => do
      registerMembers platform seen block.steps
      block.dependsOn.forM fun dep =>
        require (ids.contains dep)
          ("parallel block depends on unknown step " ++ platform.reprString dep)
      registerBlocks ids (seen ++ block.steps) rest

/-- `_validate_parallel`. -/
def validateParallel : Except WorkflowError Unit := do
  registerBlocks platform (definition.steps.map WorkflowStep.id) [] definition.parallel
  definition.parallel.forM fun block => block.steps.forM (validateMember platform definition block)

end Graph

/-! ## Steps -/

section Steps

variable (config : Config)

/-- `_approx_chars`. -/
def approxChars (value : Value) : Except WorkflowError Nat :=
  match value with
  | .str text => .ok text.length
  | .dict fields => approxFields fields
  | .list items => approxItems items
  | .int number => (intStr number).map String.length
  | value => .ok (value.pyStr config.platform).length
where
  approxFields : Params → Except WorkflowError Nat
    | [] => .ok 0
    | (_, item) :: rest => do return (← approxChars item) + (← approxFields rest)
  approxItems : List Value → Except WorkflowError Nat
    | [] => .ok 0
    | item :: rest => do return (← approxChars item) + (← approxItems rest)

/-- `_char_budget`. -/
def charBudget : List WorkflowStep → Except WorkflowError Nat
  | [] => .ok 0
  | step :: rest => do return (← approxChars.approxFields config step.params) + (← charBudget rest)

/-- `_is_vault_or_placeholder`. -/
def isVaultOrPlaceholder : Value → Bool
  | .str text =>
      pyStrip text != "" &&
        ((parseVaultRef text).isSome ||
          ((placeholder? (pyStrip text).toList).any fun found => found.2.isEmpty))
  | _ => false

/-- The secret rule of `browser.fill` steps. -/
def validateFill (step : WorkflowStep) : Except WorkflowError Unit := do
  let named := "step " ++ config.platform.reprString step.id
  let hasRef := step.params.contains "value_ref"
  require (!(step.target.any fun target => target.inputType == some "password") || hasRef)
    (named ++ " fills a password field but has no value_ref — use vault:browser/<name>")
  require (step.target.isSome || hasRef)
    (named ++ " is a browser.fill with no target descriptor and no value_ref — its " ++
      "sensitivity is unknown, so it must reference vault:browser/<name>")
  require (!hasRef || isVaultOrPlaceholder (step.params.get "value_ref"))
    (named ++
      " value_ref must be a vault:browser/<name> reference or \x7b\x7bname\x7d\x7d template")
  require (!(step.params.contains "text" && hasRef)) (named ++ " sets both text and value_ref")

/-- The reference that stands for a target when only the shape is checked. -/
def syntheticRef : String := "er_" ++ String.ofList (List.replicate 40 'w')

/-- `_inject_target`. -/
def injectTarget (step : WorkflowStep) (rendered : Params) : Except WorkflowError Params :=
  if step.target.isNone then .ok rendered
  else do
    ["element_ref", "selector"].forM fun forbidden =>
      require (!rendered.contains forbidden)
        ("step " ++ config.platform.reprString step.id ++
          " declares a target and must not also set " ++ config.platform.reprString forbidden)
    return rendered.set "element_ref" (.str syntheticRef)

/-- The bounds and the schema that rendered parameters must satisfy. -/
def validateShape (step : WorkflowStep) (spec : ActionSpec) (effective : Params) :
    Except WorkflowError Unit :=
  let named := "step " ++ config.platform.reprString step.id
  let invalid (message : String) := fail (named ++ " params fail schema validation: " ++ message)
  let broken (message : String) := fail (named ++ " params could not be validated: " ++ message)
  -- `validate_params` is called without an action type, so the general limit applies.
  match validateParams config.platform.floatRepr effective "" with
  | .error (.validationError message) => invalid message
  | .error (.valueError message) => broken message
  | .ok () =>
      match spec.paramSchema with
      | none => .ok ()
      | some schema =>
          match config.validateParamSchema effective schema with
          | .error (.validationError message) => invalid message
          | .error (.exception message) => broken message
          | .ok () => .ok ()

/-- The checks of `validate_workflow_definition` for one step. -/
def validateStep (step : WorkflowStep) : Except WorkflowError Unit :=
  let named := "step " ++ config.platform.reprString step.id
  match config.catalog.get step.action with
  | none => fail (named ++ " references unknown action " ++ config.platform.reprString step.action)
  | some spec => do
      require (allowedStepActions.contains step.action)
        (named ++ " references a non-workflow action " ++ config.platform.reprString step.action)
      if step.action = "browser.fill" then validateFill config step
      let rendered ← renderWorkflowParams config.platform step [] true
      let effective ← injectTarget config step rendered
      validateShape config step spec effective

/-- The step checks in order, with the check for a repeated identifier in front. -/
def validateSteps : List String → List WorkflowStep → Except WorkflowError Unit
  | _, [] => .ok ()
  | seen, step :: rest => do
      require (!seen.contains step.id)
        ("duplicate step id: " ++ config.platform.reprString step.id)
      validateStep config step
      validateSteps (step.id :: seen) rest

/-- `DEFAULT_MAX_WORKFLOW_PARAM_CHARS`. -/
def maxWorkflowParamChars : Nat := 16384

/-- `validate_workflow_definition`. -/
def validateWorkflowDefinition (maxSteps : Int) (definition : WorkflowDefinition) :
    Except WorkflowError Unit := do
  require (definition.steps.length ≤ maxSteps)
    ("workflow exceeds the maximum of " ++ toString maxSteps ++ " steps")
  let count ← charBudget config definition.steps
  require (count ≤ maxWorkflowParamChars)
    ("workflow params exceed the maximum of " ++ toString maxWorkflowParamChars ++ " characters")
  validateSteps config [] definition.steps
  validateDag config.platform definition
  validateParallel config.platform definition

end Steps

end Era.Workflows
