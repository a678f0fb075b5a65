import Era.Core.Timeout
import Era.Security.ResultSafety
import Era.Services.Storage

/-!
# Dispatch: running a provider and recording the result

A dispatch passes the circuit breaker, validates parameters, lets the provider
validate, runs `execute` under the retry loop and the hard timeout, and records
one terminal audit entry.  The answers of the provider and the clocks are inputs
of the dispatch.
-/

namespace Era.Services

open Era.Core Era.Security

/-! ## Observable events -/

/-- One authorised call into the provider layer. -/
structure Dispatch where
  action : Action
  confirmationId : Option String
  decision : Decision

/-- What an observer of the service sees: committed audit entries, the start of
a dispatch and the calls into providers. -/
inductive Event where
  | audited (entry : AuditEntry)
  | dispatched (dispatch : Dispatch)
  | validateCalled (dispatch : Dispatch)
  | executeCalled (dispatch : Dispatch) (answer : Except Raised ProviderReturn)

namespace Event

/-- The dispatch on whose behalf a provider is called. -/
def providerCall? : Event → Option Dispatch
  | .validateCalled dispatch | .executeCalled dispatch _ => some dispatch
  | .audited _ | .dispatched _ => none

/-- The answer of a call of `execute`. -/
def executeAnswer? : Event → Option (Except Raised ProviderReturn)
  | .executeCalled _ answer => some answer
  | .audited _ | .dispatched _ | .validateCalled _ => none

end Event

/-- `ExecutionResponse`. -/
structure ExecutionResponse where
  status : ExecutionStatus
  decision : Decision
  confirmationId : Option String := none
  challenge : Option String := none
  result : Option ActionResult := none
  message : Option String := none
  errorCode : Option ProviderErrorCode := none

/-! ## Running the provider -/

/-- The three ways a dispatch ends. -/
inductive DispatchOutcome where
  | executed
  | failed
  | rejected
  deriving DecidableEq, Repr

def DispatchOutcome.outcome : DispatchOutcome → Outcome
  | .executed => .executed
  | .failed => .failed
  | .rejected => .rejected

theorem DispatchOutcome.outcome_ne_authorized (outcome : DispatchOutcome) :
    outcome.outcome ≠ .authorized := by
  cases outcome <;> simp [DispatchOutcome.outcome]

def DispatchOutcome.status : DispatchOutcome → ExecutionStatus
  | .executed => .executed
  | .failed => .failed
  | .rejected => .rejected

/-- What `_run_provider` returns. -/
structure Conclusion where
  outcome : DispatchOutcome
  result : ActionResult
  errorCode : Option ProviderErrorCode

/-- A failure or rejection with a summary and a code. -/
def Conclusion.unsuccessful (outcome : DispatchOutcome) (summary : String)
    (code : ProviderErrorCode) : Conclusion :=
  { outcome, result := { success := false, summary }, errorCode := some code }

/-- What one dispatch does not compute itself: the provider's answers, whether
the worker of a stage is still alive when it is joined, and the clocks. -/
structure DispatchEnv where
  validateAnswer : Except Raised Unit
  validateOverrun : Bool
  attempts : Attempts ProviderReturn
  executeOverrun : Bool
  monotonic : PyFloat
  gateClock : ℚ
  outcomeClock : ℚ

/-- A run of `_run_provider`: its answer or the exception that escapes, the
breaker afterwards and the calls it made. -/
structure ProviderRun where
  answer : Except Raised Conclusion
  breaker : CircuitBreaker
  validated : Bool
  calls : List (Except Raised ProviderReturn)

section RunProvider

variable (config : Config)

/-- `_timeout_budget`. -/
def Config.timeoutBudget (config : Config) : PyFloat := config.settings.providerTimeoutSeconds

/-- `_retry_policy_for`. -/
def Config.retryPolicyFor (config : Config) (provider : Provider) (actionType : String) :
    RetryPolicy :=
  if provider.nonRetryableActionTypes.contains actionType ∧ config.retryPolicy.maxAttempts ≠ 1
  then config.retryPolicy.singleAttempt
  else config.retryPolicy

/-- `_dispatch_context`. -/
def Config.dispatchContext (config : Config) (monotonic : PyFloat) (ctx : ExecutionContext) :
    ExecutionContext :=
  if config.timeoutBudget.le (.finite 0) ∨ ctx.deadline.isSome then ctx
  else { ctx with deadline := some (monotonic.add config.timeoutBudget) }

def Config.timeoutTexts (config : Config) (stage : String) : TimeoutTexts :=
  { stage, formatSeconds := config.platform.formatSeconds }

def Config.retryTexts (config : Config) : RetryTexts :=
  { formatSeconds := config.platform.formatSeconds }

/-- The code under which a `ToolError` raised by `execute` is reported. -/
def reportedCode (provider : Provider) (actionType : String) (code : ProviderErrorCode) :
    ProviderErrorCode :=
  if provider.ambiguousOnFailureActionTypes.contains actionType ∧
      code ∈ [ProviderErrorCode.unavailable, .timeout, .providerError]
  then .sideEffectUnknown
  else code

/-- The code under which a `ToolError` raised by `validate` is rejected. -/
def rejectedCode (code : ProviderErrorCode) : ProviderErrorCode :=
  if code ∈ [ProviderErrorCode.validation, .forbidden, .notFound, .timeout] then code
  else .validation

/-- From the answer of the execute stage to its conclusion. -/
def concludeExecute (provider : Provider) (actionType : String) (now : ℚ)
    (breaker : CircuitBreaker) (answer : Except Raised ProviderReturn) :
    Except Raised Conclusion × CircuitBreaker :=
  match answer with
  | .ok returned =>
      match sanitizeActionResult config.platform config.settings.providerResultMaxBytes
          returned with
      | .error _ =>
          (.ok (.unsuccessful .failed "provider returned an unsafe result" .internal),
            breaker.recordFailure config.circuitBreaker now .internal)
      | .ok result =>
          if result.success then
            (.ok { outcome := .executed, result, errorCode := none }, breaker.recordSuccess)
          else
            (.ok (.unsuccessful .failed
                (if result.summary = "" then "provider returned failure" else result.summary)
                .providerError),
              breaker.recordFailure config.circuitBreaker now .providerError)
  | .error (.toolError code message) =>
      let code := reportedCode provider actionType code
      (.ok (.unsuccessful .failed (config.platform.redactSensitiveText message) code),
        breaker.recordFailure config.circuitBreaker now code)
  | .error (.exception typeName _) =>
      (.ok (.unsuccessful .failed ("provider error: " ++ typeName) .internal),
        breaker.recordFailure config.circuitBreaker now .internal)
  | .error (.baseException typeName) => (.error (.baseException typeName), breaker)

/-- The calls of the execute stage: the retry loop under the deadline. -/
def executeRun (env : DispatchEnv) (provider : Provider) (action : Action)
    (ctx : ExecutionContext) : RetryRun ProviderReturn :=
  withRetry (config.retryPolicyFor provider action.actionType)
    (config.dispatchContext env.monotonic ctx).deadline config.retryTexts env.attempts

/-- What the hard timeout makes of the execute stage. -/
def executeAnswer (env : DispatchEnv) (provider : Provider) (action : Action)
    (ctx : ExecutionContext) : Except Raised ProviderReturn :=
  runWithTimeout (config.timeoutTexts "execute") config.timeoutBudget env.executeOverrun
    (executeRun config env provider action ctx).result

/-- What the hard timeout makes of the validate stage. -/
def validateStageAnswer (env : DispatchEnv) : Except Raised Unit :=
  runWithTimeout (config.timeoutTexts "validate") config.timeoutBudget env.validateOverrun
    env.validateAnswer

/-- The stages that call the provider.  An abandoned worker still makes its
calls. -/
def callProvider (env : DispatchEnv) (provider : Provider) (action : Action)
    (ctx : ExecutionContext) (breaker : CircuitBreaker) : ProviderRun :=
  match validateStageAnswer config env with
  | .error (.toolError code message) =>
      let summary := config.platform.redactSensitiveText message
      if code = .unavailable then
        { answer := .ok (.unsuccessful .failed summary code)
          breaker := breaker.recordFailure config.circuitBreaker env.outcomeClock code
          validated := true
          calls := [] }
      else
        { answer := .ok (.unsuccessful .rejected summary (rejectedCode code))
          breaker, validated := true, calls := [] }
  | .error failure => { answer := .error failure, breaker, validated := true, calls := [] }
  | .ok () =>
      let concluded := concludeExecute config provider action.actionType env.outcomeClock
        breaker (executeAnswer config env provider action ctx)
      { answer := concluded.1
        breaker := concluded.2
        validated := true
        calls := (executeRun config env provider action ctx).calls }

/-- The check of the parameters against the schema of the catalog, as the
summary of its rejection. -/
def schemaRejection (action : Action) : Option String :=
  match (config.catalog.get action.actionType).bind ActionSpec.paramSchema with
  | none => none
  | some schema =>
      match config.validateParamSchema action.params schema with
      | .ok () => none
      | .error (.validationError message) => some ("parameter validation failed: " ++ message)
      | .error (.exception message) => some ("parameter validation error: " ++ message)

/-- `_run_provider`. -/
def runProvider (env : DispatchEnv) (provider : Provider) (action : Action)
    (ctx : ExecutionContext) (breaker : CircuitBreaker) : ProviderRun :=
  let gate := breaker.allowRequest config.circuitBreaker env.gateClock
  let stopped (answer : Except Raised Conclusion) : ProviderRun :=
    { answer, breaker := gate.2, validated := false, calls := [] }
  if gate.1 = false then
    stopped (.ok (.unsuccessful .failed
      ("provider " ++ provider.id ++ " circuit open: dispatch blocked") .unavailable))
  else
    match schemaRejection config action with
    | some summary => stopped (.ok (.unsuccessful .rejected summary .validation))
    | none =>
        match validateParams config.platform.floatRepr action.params action.actionType with
        | .error (.validationError message) =>
            stopped (.ok (.unsuccessful .rejected
              ("parameter validation failed: " ++ message) .validation))
        -- Only `ValidationError_` is caught here.
        | .error (.valueError message) => stopped (.error (.exception "ValueError" message))
        | .ok () => callProvider config env provider action ctx gate.2

end RunProvider

/-! ## Dispatching and recording -/

/-- The state of the service: its tables and the breaker of each provider. -/
structure ServiceState where
  db : Database
  breakers : String → CircuitBreaker

/-- What a public call comes to: a response or an exception, and the events it
caused, in order. -/
structure CallResult where
  answer : Except Raised ExecutionResponse
  events : List Event

/-- `_record` after a dispatch, in a transaction of its own that may fail. -/
def recordResult (config : Config) (failure : Option Raised) (state : ServiceState)
    (dispatch : Dispatch) (ctx : ExecutionContext) (policyVersion : Int)
    (conclusion : Conclusion) : ServiceState × CallResult :=
  let found := config.meta dispatch.action.actionType ctx
  let entry := config.auditEntry {
    action := dispatch.action
    ctx
    riskLevel := found.riskLevel
    decision := dispatch.decision
    outcome := conclusion.outcome.outcome
    policyVersion
    confirmationId := dispatch.confirmationId
    result := some conclusion.result.summary
    errorCode := conclusion.errorCode
    providerId := found.providerId
    capabilityDomain := found.capabilityDomain
    credentialRef := found.credentialRef }
  match failure with
  | some failure => (state, { answer := .error failure, events := [] })
  | none =>
      ({ state with db := state.db.appendAudit entry }, {
        answer := .ok {
          status := conclusion.outcome.status
          decision := dispatch.decision
          result := some conclusion.result
          message := if conclusion.result.success then none else some conclusion.result.summary
          errorCode := conclusion.errorCode }
        events := [.audited entry] })

/-- The calls that a run of the provider stages made, as events. -/
def ProviderRun.events (run : ProviderRun) (dispatch : Dispatch) : List Event :=
  (if run.validated then [.validateCalled dispatch] else []) ++
    run.calls.map (.executeCalled dispatch)

/-- `_dispatch_and_record`. -/
def dispatchAndRecord (config : Config) (env : DispatchEnv) (recordFailure : Option Raised)
    (state : ServiceState) (dispatch : Dispatch) (ctx : ExecutionContext)
    (policyVersion : Int) : ServiceState × CallResult :=
  match config.registry.get dispatch.action.actionType with
  | none =>
      let recorded := recordResult config recordFailure state dispatch ctx policyVersion
        (.unsuccessful .rejected "no provider registered for action" .notImplemented)
      (recorded.1, { recorded.2 with events := .dispatched dispatch :: recorded.2.events })
  | some provider =>
      let run := runProvider config env provider dispatch.action ctx (state.breakers provider.id)
      let state := { state with breakers := Function.update state.breakers provider.id run.breaker }
      match run.answer with
      | .error failure =>
          (state, { answer := .error failure
                    events := .dispatched dispatch :: run.events dispatch })
      | .ok conclusion =>
          let recorded := recordResult config recordFailure state dispatch ctx policyVersion
            conclusion
          (recorded.1, {
            recorded.2 with
            events := .dispatched dispatch :: (run.events dispatch ++ recorded.2.events) })

/-! ## What a dispatch does -/

section Facts

variable {config : Config} {env : DispatchEnv} {provider : Provider} {action : Action}
variable {ctx : ExecutionContext} {breaker : CircuitBreaker}

/-- Most attempts that a dispatch of an action type may make. -/
def Config.attemptLimit (config : Config) (actionType : String) : Nat :=
  match config.registry.get actionType with
  | none => 0
  | some provider =>
      if provider.nonRetryableActionTypes.contains actionType then 1
      else config.retryPolicy.maxAttempts

theorem retryPolicyFor_maxAttempts_le (config : Config) (provider : Provider)
    (actionType : String) :
    (config.retryPolicyFor provider actionType).maxAttempts ≤
      if provider.nonRetryableActionTypes.contains actionType then 1
      else config.retryPolicy.maxAttempts := by
  simp only [Config.retryPolicyFor, List.contains_eq_mem, decide_eq_true_eq]
  by_cases declared : actionType ∈ provider.nonRetryableActionTypes
  · by_cases single : config.retryPolicy.maxAttempts = 1 <;> simp [declared, single]
  · simp [declared]

theorem callProvider_calls (config : Config) (env : DispatchEnv) (provider : Provider)
    (action : Action) (ctx : ExecutionContext) (breaker : CircuitBreaker) :
    (callProvider config env provider action ctx breaker).calls = [] ∨
      (callProvider config env provider action ctx breaker).calls =
        (executeRun config env provider action ctx).calls := by
  unfold callProvider
  split
  · split <;> exact .inl rfl
  · exact .inl rfl
  · exact .inr rfl

/-- A run that does not get past the gate and the parameter checks calls nothing;
otherwise it is the run of the provider stages. -/
theorem runProvider_cases (config : Config) (env : DispatchEnv) (provider : Provider)
    (action : Action) (ctx : ExecutionContext) (breaker : CircuitBreaker) :
    let run := runProvider config env provider action ctx breaker
    (run.validated = false ∧ run.calls = []) ∨
      run = callProvider config env provider action ctx
        (breaker.allowRequest config.circuitBreaker env.gateClock).2 := by
  intro run
  simp only [run, runProvider]
  split
  · exact .inl ⟨rfl, rfl⟩
  · split
    · exact .inl ⟨rfl, rfl⟩
    · split
      · exact .inl ⟨rfl, rfl⟩
      · exact .inl ⟨rfl, rfl⟩
      · exact .inr rfl

theorem runProvider_calls_length_le :
    (runProvider config env provider action ctx breaker).calls.length ≤
      if provider.nonRetryableActionTypes.contains action.actionType then 1
      else config.retryPolicy.maxAttempts := by
  refine le_trans ?_ (retryPolicyFor_maxAttempts_le config provider action.actionType)
  have bounded : (executeRun config env provider action ctx).calls.length ≤
      (config.retryPolicyFor provider action.actionType).maxAttempts :=
    withRetry_calls_length_le
  cases runProvider_cases config env provider action ctx breaker with
  | inl stopped => simp [stopped.2]
  | inr called =>
      rw [called]
      cases callProvider_calls config env provider action ctx
        (breaker.allowRequest config.circuitBreaker env.gateClock).2 with
      | inl none => simp [none]
      | inr all => rwa [all]

/-- What a dispatch leaves in the tables and shows to an observer: it starts, it
calls the provider within the limit, and it appends at most one entry. -/
structure Dispatched (config : Config) (state : ServiceState) (dispatch : Dispatch)
    (result : ServiceState × CallResult) : Prop where
  confirmations_eq : result.1.db.confirmations = state.db.confirmations
  approvals_eq : result.1.db.approvals = state.db.approvals
  policies_eq : result.1.db.policies = state.db.policies
  events_eq : ∃ calls records,
    result.2.events = .dispatched dispatch :: (calls ++ records) ∧
    (∀ event ∈ calls, event.providerCall? = some dispatch) ∧
    (∀ event ∈ records, ∃ entry, event = .audited entry ∧ entry.outcome ≠ .authorized) ∧
    (calls.filterMap Event.executeAnswer?).length ≤
      config.attemptLimit dispatch.action.actionType
  decision_eq : ∀ response, result.2.answer = .ok response → response.decision = dispatch.decision

theorem ProviderRun.events_providerCall {run : ProviderRun} {dispatch : Dispatch}
    {event : Event} (member : event ∈ run.events dispatch) :
    event.providerCall? = some dispatch := by
  simp only [ProviderRun.events, List.mem_append, List.mem_map] at member
  obtain validated | ⟨answer, _, rfl⟩ := member
  · split at validated
    · obtain rfl := List.mem_singleton.mp validated
      rfl
    · simp at validated
  · rfl

theorem ProviderRun.events_executeAnswers (run : ProviderRun) (dispatch : Dispatch) :
    (run.events dispatch).filterMap Event.executeAnswer? = run.calls := by
  have executes : (run.calls.map (Event.executeCalled dispatch)).filterMap
      Event.executeAnswer? = run.calls := by
    simp [List.filterMap_map, Function.comp_def, Event.executeAnswer?]
  cases validated : run.validated <;>
    simp [ProviderRun.events, validated, executes, List.filterMap_cons, Event.executeAnswer?]

/-- Recording a result changes only the audit log. -/
theorem recordResult_spec (config : Config) (failure : Option Raised) (state : ServiceState)
    (dispatch : Dispatch) (ctx : ExecutionContext) (policyVersion : Int)
    (conclusion : Conclusion) :
    let recorded := recordResult config failure state dispatch ctx policyVersion conclusion
    recorded.1.db.confirmations = state.db.confirmations ∧
      recorded.1.db.approvals = state.db.approvals ∧
      recorded.1.db.policies = state.db.policies ∧
      (∀ event ∈ recorded.2.events,
        ∃ entry, event = .audited entry ∧ entry.outcome ≠ .authorized) ∧
      ∀ response, recorded.2.answer = .ok response → response.decision = dispatch.decision := by
  intro recorded
  cases failure with
  | some failure =>
      refine ⟨rfl, rfl, rfl, ?_, ?_⟩
      · intro event member
        exact absurd member List.not_mem_nil
      · intro response answered
        simp [recorded, recordResult] at answered
  | none =>
      refine ⟨rfl, rfl, rfl, ?_, ?_⟩
      · intro event member
        obtain rfl := List.mem_singleton.mp member
        refine ⟨_, rfl, ?_⟩
        exact conclusion.outcome.outcome_ne_authorized
      · intro response answered
        obtain rfl := Except.ok.inj answered
        rfl

theorem dispatchAndRecord_dispatched (config : Config) (env : DispatchEnv)
    (recordFailure : Option Raised) (state : ServiceState) (dispatch : Dispatch)
    (ctx : ExecutionContext) (policyVersion : Int) :
    Dispatched config state dispatch
      (dispatchAndRecord config env recordFailure state dispatch ctx policyVersion) := by
  unfold dispatchAndRecord
  cases registered : config.registry.get dispatch.action.actionType with
  | none =>
      obtain ⟨confirmations, approvals, policies, records, decision⟩ := recordResult_spec config
        recordFailure state dispatch ctx policyVersion
        (.unsuccessful .rejected "no provider registered for action" .notImplemented)
      exact ⟨confirmations, approvals, policies,
        ⟨[], _, rfl, by simp, records, by simp⟩, decision⟩
  | some provider =>
      have limited : (((runProvider config env provider dispatch.action ctx
          (state.breakers provider.id)).events dispatch).filterMap
            Event.executeAnswer?).length ≤ config.attemptLimit dispatch.action.actionType := by
        rw [ProviderRun.events_executeAnswers]
        simp only [Config.attemptLimit, registered]
        exact runProvider_calls_length_le
      dsimp only
      split
      · exact ⟨rfl, rfl, rfl, ⟨_, [], by rw [List.append_nil],
          fun event => ProviderRun.events_providerCall, by simp, limited⟩, by simp⟩
      next conclusion _ =>
        obtain ⟨confirmations, approvals, policies, records, decision⟩ := recordResult_spec
          config recordFailure { state with breakers := _ } dispatch ctx policyVersion conclusion
        exact ⟨confirmations, approvals, policies,
          ⟨_, _, rfl, fun event => ProviderRun.events_providerCall, records, limited⟩, decision⟩

end Facts

end Era.Services
