import Era.Workflows.Rows

/-!
# The decisions of the engine

Which steps are ready, which of them run next, what the rows say about the run, and how
the answer to a step becomes its outcome.
-/

namespace Era.Workflows

open Era.Core Era.Security Era.Services

/-! ## Choosing steps -/

/-- `items[:stop]`. -/
def sliceTo {α : Type} (items : List α) (stop : Int) : List α :=
  if 0 ≤ stop then items.take stop.toNat else items.take (items.length - stop.natAbs)

section Choice

variable (definition : WorkflowDefinition) (rows : List WorkflowStepRun)

/-- Whether the dependency of a step is satisfied. -/
def dependencyDone (id : String) : Bool :=
  match definition.indexOf id with
  | none => false
  | some index => (statusAt rows index).done

/-- Whether a step may start. -/
def isReady (index : Nat) (step : WorkflowStep) : Bool :=
  let status := statusAt rows index
  !(status.settled || status == .running || status == .waiting) &&
    step.dependsOn.all (dependencyDone definition rows)

/-- `_ready_indices`. -/
def readyIndices : List Nat :=
  (definition.steps.zipIdx.filter fun entry => isReady definition rows entry.2 entry.1).map
    Prod.snd

/-- The ready members of a block. -/
def groupIndices (ready : List Nat) (block : WorkflowParallelBlock) : List Nat :=
  ready.filter fun index =>
    definition.steps[index]?.any fun step => block.steps.contains step.id

/-- `_choose_batch`. -/
def chooseBatch (maxPendingConfirmations : Int) (ready : List Nat) : List Nat :=
  match ready with
  | [] => []
  | first :: rest =>
      match definition.parallel.find? fun block =>
          1 < block.maxConcurrency && 1 < (groupIndices definition ready block).length with
      | some block =>
          sliceTo (groupIndices definition ready block)
            (min block.maxConcurrency maxPendingConfirmations)
      | none => [rest.foldl min first]

/-- Whether every step has a settled row. -/
def allSettled : Bool :=
  (List.range definition.steps.length).all fun index =>
    rows[index]?.any fun row => row.status.settled

end Choice

/-! ## What the rows say about the run -/

/-- Python's `text or default`. -/
def orDefault (text : Option String) (default : String) : String :=
  if nonempty text then text.getD default else default

/-- `_refresh_run_status`: how the run has to be written, if its rows settle it. -/
def refreshRunStatus (rows : List WorkflowStepRun) : Option RunUpdate :=
  if rows.any fun row => row.status == .ambiguous then some .ambiguous
  else
    match rows.find? fun row => row.status == .failed && nonempty row.errorCode with
    | none => none
    | some row =>
        if rows.any fun row => row.status == .pending then none
        else some (.failed (orDefault row.errorMessage "workflow step failed"))

/-- What `_classify_step_outcome` does with an executed step. -/
inductive Classified where
  | idle
  | settled (update : RunUpdate)

/-- `_classify_step_outcome`. -/
def classify (index : Nat) (row : WorkflowStepRun) : Classified :=
  match row.status with
  | .completed | .skipped | .skippedConditional => .idle
  | .waiting => .settled (.waiting (some index))
  | .ambiguous => .settled .ambiguous
  | .pending | .running | .failed | .cancelled =>
      .settled (.failed (orDefault row.errorMessage "workflow step failed"))

/-- The current step after an idle step: the first that is pending or running. -/
def nextCurrent (rows : List WorkflowStepRun) : Nat :=
  rows.findIdx fun row => row.status == .pending || row.status == .running

/-! ## Conditions -/

/-- `needle in text`. -/
def textContains (needle text : String) : Bool :=
  text.toList.tails.any fun suffix => needle.toList.isPrefixOf suffix

/-- `isinstance(value, (str, bool, int, float))`. -/
def isScalar : Value → Bool
  | .str _ | .bool _ | .int _ | .float _ => true
  | .none | .list _ | .dict _ => false

/-- `_result_value`. -/
def resultValue : Value → Value
  | .dict receipt =>
      match ["result", "value", "url", "status"].find? fun key => Params.contains receipt key with
      | some key => Params.get receipt key
      | none => ((receipt.map Prod.snd).find? isScalar).getD .none
  | receipt => receipt

/-- The URL that a completed step has recorded. -/
def observedUrl (row : WorkflowStepRun) : Option String :=
  if row.status = .completed then
    match row.resultReceipt with
    | some (.dict receipt) =>
        match Params.get receipt "url" with
        | .str url => if url = "" then none else some url
        | _ => none
    | _ => none
  else none

/-- `_recent_observation_url`. -/
def recentObservationUrl (rows : List WorkflowStepRun) : Option String :=
  rows.reverse.findSome? observedUrl

/-- `_evaluate_condition`. -/
def evaluateCondition (definition : WorkflowDefinition) (rows : List WorkflowStepRun)
    (step : WorkflowStep) : Option Bool :=
  match step.condition with
  | none => none
  | some condition =>
      let dependency :=
        if nonempty condition.stepId then condition.stepId.bind definition.indexOf else none
      match condition.kind with
      | .stepResult => do
          let row ← rows[← dependency]?
          let value := resultValue (← row.resultReceipt)
          return if condition.op = some .ne then !value.pyEq condition.value
            else value.pyEq condition.value
      | .urlContains =>
          match condition.value with
          | .str needle => (recentObservationUrl rows).map (textContains needle)
          | _ => none
      | .elementPresent => do
          let row := rows[← dependency]?
          return row.any fun row =>
            match row.resultReceipt with
            | some (.dict receipt) =>
                match Params.get receipt "elements_present" with
                | .none => false
                | _ => true
            | _ => false

/-! ## Receipts -/

/-- Keys that never reach a receipt. -/
def isDroppedKey (key : String) : Bool :=
  key == "element_ref" || key == "snapshot_id" ||
    key.toList.flatMap lowerChar == "ref".toList || isSecretKey key []

/-- `_sanitize_receipt` on a dictionary. -/
def sanitizeFields : Params → Params
  | [] => []
  | (key, item) :: rest =>
      if isDroppedKey key then sanitizeFields rest
      else (key, sanitizeValue item) :: sanitizeFields rest
where
  sanitizeValue : Value → Value
    | .dict fields => .dict (sanitizeFields fields)
    | .list items => .list (sanitizeItems items)
    | value => value
  /-- Only dictionaries are sanitised inside of a list. -/
  sanitizeItems : List Value → List Value
    | [] => []
    | .dict fields :: rest => .dict (sanitizeFields fields) :: sanitizeItems rest
    | item :: rest => item :: sanitizeItems rest

/-- `_sanitize_receipt`. -/
def sanitizeReceipt : Value → Value
  | .dict fields => .dict (sanitizeFields fields)
  | _ => .dict []

/-- `_capture_outputs`. -/
def captureOutputs (receipt : Params) (outputs : List (String × String)) : Params :=
  outputs.foldl (fun safe output => safe.set output.1 (sanitizeReceipt (safe.get output.2))) receipt

/-! ## Targets -/

/-- `for element in value`. -/
def iterate : Value → Except WorkflowError (List Value)
  | .list items => .ok items
  | .dict fields => .ok (fields.map fun field => .str field.1)
  | .str text => .ok (text.toList.map fun char => .str (String.singleton char))
  | value =>
      .error (.exception "TypeError" ("'" ++ value.typeName ++ "' object is not iterable"))

/-- `value.get(key)`. -/
def getAttribute (value : Value) (key : String) : Except WorkflowError Value :=
  match value with
  | .dict fields => .ok (Params.get fields key)
  | value =>
      .error (.exception "AttributeError"
        ("'" ++ value.typeName ++ "' object has no attribute 'get'"))

/-- The descriptor fields with the keys of the elements that they are compared with. -/
def WorkflowTarget.fields (target : WorkflowTarget) : List (String × Option String) :=
  [("role", target.role), ("name", target.name), ("tag", target.tag),
    ("input_type", target.inputType), ("frame_id", target.frameId)]

/-- `WorkflowTarget.matches`. -/
def WorkflowTarget.matches (target : WorkflowTarget) (element : Value) :
    Except WorkflowError Bool :=
  check target.fields
where
  check : List (String × Option String) → Except WorkflowError Bool
    | [] => .ok true
    | (_, none) :: rest => check rest
    | (key, some wanted) :: rest => do
        if (← getAttribute element key).pyEq (.str wanted) then check rest else return false

/-- An answer of the execution service.  A required confirmation has been created under an
identifier that is not empty. -/
structure StepResponse where
  response : ExecutionResponse
  created : response.status = .confirmationRequired →
    nonempty response.confirmationId = true := by decide

/-- An exception that `except Exception` catches. -/
structure PyException where
  typeName : String
  message : String

def PyException.error (exception : PyException) : WorkflowError :=
  .exception exception.typeName exception.message

/-- `response.result.data`, or nothing. -/
def responseData (response : ExecutionResponse) : Params :=
  (response.result.map ActionResult.data).getD []

/-- `_acquire_target`, from the answer to the inspection of the page. -/
def acquireTarget (target : WorkflowTarget) (answer : Except PyException StepResponse) :
    Except WorkflowError String := do
  let response ← match answer with
    | .error exception => .error exception.error
    | .ok answer => .ok answer.response
  if response.status ≠ .executed ∨ ¬response.result.any ActionResult.success then
    throw (.serviceError "could not inspect the page to acquire a fresh element reference")
  let elements ← iterate ((responseData response).getOr "elements" (.list []))
  let found ← elements.filterM target.matches
  let chosen ← match found, target.index with
    | [], _ =>
        .error (.serviceError "no element matches the step's target descriptor (re-inspect)")
    | [chosen], none => .ok chosen
    | _ :: _ :: _, none =>
        .error (.serviceError "target descriptor matched multiple elements (ambiguous)")
    | found, some index =>
        match found[index]? with
        | some chosen => .ok chosen
        | none =>
            .error (.serviceError
              "target descriptor matched fewer elements than the requested index")
  match ← getAttribute chosen "element_ref" with
  | .str ref =>
      if ref = "" then throw (.serviceError "fresh element reference is missing") else return ref
  | _ => throw (.serviceError "fresh element reference is missing")

/-! ## Outcomes of steps -/

/-- The mark of a step that raises. -/
def WorkflowError.mark : WorkflowError → StepMark
  | .definitionError message | .serviceError message =>
      .failed (some ProviderErrorCode.validation.value) message
  | .exception typeName message =>
      .failed (some ProviderErrorCode.internal.value)
        ("workflow engine error: " ++ typeName ++ ": " ++ message)

/-- The mark that `_execute_step` derives from the answer to the action of a step. -/
def markOf (step : WorkflowStep) (answer : Except PyException StepResponse) : StepMark :=
  match answer with
  | .error exception => exception.error.mark
  | .ok { response, .. } =>
      match response.status with
      | .executed =>
          .completed (.dict (captureOutputs (sanitizeFields (responseData response)) step.outputs))
      | .confirmationRequired => .awaiting response.confirmationId
      | .denied =>
          match step.onDenied with
          | .skip => .skipped "step denied and skipped"
          | .stop => .failed none "step denied by policy"
      | .failed | .rejected | .awaitingApproval =>
          if response.errorCode = some .sideEffectUnknown then
            .ambiguous ProviderErrorCode.sideEffectUnknown.value
              "step outcome is unknown (SIDE_EFFECT_UNKNOWN)"
          else
            .failed (some (response.errorCode.getD .providerError).value)
              (orDefault response.message "workflow step failed")

/-- `_confirmation_dispatch_outcome`, from the outcomes of the first entries of the audit
log for the confirmation. -/
def dispatchOutcome (entries : List Outcome) : Option Outcome :=
  (entries.filter fun outcome =>
    [Outcome.executed, .failed, .rejected, .deniedByUser, .deniedByPolicy].contains
      outcome).getLast?

/-- `_revalidate_post_condition` of an expectation, from the answer to the inspection of the
page; whatever it raises counts as a violation. -/
def revalidate (platform : Platform) (step : WorkflowStep) (expect : WorkflowExpect)
    (rendered : Params) (answer : Except PyException StepResponse) : Bool :=
  match answer with
  | .error _ => false
  | .ok { response, .. } =>
      if response.status ≠ .executed ∨ response.result.isNone then false
      else
        let url := ((responseData response).getOr "url" (.str "")).pyStr platform
        match pyInt? ((responseData response).getOr "tab_count" (.int 0)) with
        | none => false
        | some tabCount =>
            match expect.kind with
            | .navigation =>
                let target := ((rendered.get "url_contains").or (.str "")).pyStr platform
                target != "" && textContains target url
            | .tabOpened => 2 ≤ tabCount
            | .elementDetached =>
                match step.target with
                | none => true
                | some target =>
                    match iterate ((responseData response).getOr "elements" (.list [])) with
                    | .error _ => false
                    | .ok elements =>
                        match elements.mapM target.matches with
                        | .error _ => false
                        | .ok found => !found.any id

end Era.Workflows
