import Era.Services.System

/-!
# What closes a dispatch

A dispatch is closed when it answers and leaves one terminal audit entry that
says the same.  The exceptions that pass every handler of `_run_provider` leave
it open.
-/

namespace Era.Services

open Era.Core Era.Security

/-- The dispatch answers with its conclusion and records it as its only entry. -/
structure Closes (config : Config) (state : ServiceState) (dispatch : Dispatch)
    (result : ServiceState × CallResult) (conclusion : Conclusion) : Prop where
  answered : ∃ response, result.2.answer = .ok response ∧
    response.status = conclusion.outcome.status ∧ response.errorCode = conclusion.errorCode
  recorded : ∃ entry, result.1.db.auditLog = state.db.auditLog ++ [entry] ∧
    entry.outcome = conclusion.outcome.outcome ∧ entry.errorCode = conclusion.errorCode ∧
    entry.Concerns config dispatch.action dispatch.confirmationId

def Closed (config : Config) (state : ServiceState) (dispatch : Dispatch)
    (result : ServiceState × CallResult) : Prop :=
  ∃ conclusion, Closes config state dispatch result conclusion

/-! ## Exceptions that nothing catches -/

/-- The dispatch gets past the circuit breaker and the schema check. -/
structure ReachesParams (config : Config) (env : DispatchEnv) (action : Action)
    (breaker : CircuitBreaker) : Prop where
  admitted : (breaker.allowRequest config.circuitBreaker env.gateClock).1 = true
  conforms : schemaRejection config action = none

/-- Exceptions that escape from the stages which call the provider. -/
inductive StageEscapes (config : Config) (env : DispatchEnv) (provider : Provider)
    (action : Action) (ctx : ExecutionContext) : Prop where
  /-- The timeout is no number of seconds that a thread can be joined for. -/
  | timeout (failure : Raised) :
      config.timeoutBudget.le (.finite 0) = false →
      joinError config.timeoutBudget = some failure →
      StageEscapes config env provider action ctx
  /-- `validate` runs in place, where only a `ToolError` is caught. -/
  | validate (failure : Raised) :
      config.timeoutBudget.le (.finite 0) = true →
      env.validateAnswer = .error failure → failure.code? = none →
      StageEscapes config env provider action ctx
  /-- `execute` runs in place, where only an `Exception` is caught. -/
  | execute (typeName : String) :
      config.timeoutBudget.le (.finite 0) = true → env.validateAnswer = .ok () →
      .error (.baseException typeName) ∈ (executeRun config env provider action ctx).calls →
      StageEscapes config env provider action ctx

/-- Exceptions that escape from `_run_provider`. -/
inductive Escapes (config : Config) (env : DispatchEnv) (provider : Provider)
    (action : Action) (ctx : ExecutionContext) (breaker : CircuitBreaker) : Prop where
  | params (message : String) :
      ReachesParams config env action breaker →
      validateParams config.platform.floatRepr action.params action.actionType =
        .error (.valueError message) →
      Escapes config env provider action ctx breaker
  | stages :
      ReachesParams config env action breaker →
      validateParams config.platform.floatRepr action.params action.actionType = .ok () →
      StageEscapes config env provider action ctx →
      Escapes config env provider action ctx breaker

section Facts

variable {config : Config} {env : DispatchEnv} {provider : Provider} {action : Action}
variable {ctx : ExecutionContext} {breaker : CircuitBreaker}

theorem concludeExecute_error_iff {actionType : String} {now : ℚ}
    {answer : Except Raised ProviderReturn} :
    (∃ failure, (concludeExecute config provider actionType now breaker answer).1 =
      .error failure) ↔ ∃ typeName, answer = .error (.baseException typeName) := by
  unfold concludeExecute
  split
  · split
    · simp
    · split <;> simp
  · simp
  · simp
  · simp

/-- The stages raise what the validate stage raises, unless it is a `ToolError`,
and what passes the handlers of the execute stage. -/
theorem callProvider_error_iff_stages :
    (∃ failure, (callProvider config env provider action ctx breaker).answer =
      .error failure) ↔
      (∃ failure, validateStageAnswer config env = .error failure ∧ failure.code? = none) ∨
      (validateStageAnswer config env = .ok () ∧ ∃ typeName,
        executeAnswer config env provider action ctx = .error (.baseException typeName)) := by
  unfold callProvider
  split
  next code message stage =>
    rw [stage]
    split <;> simp [Raised.code?]
  next failure notTool stage =>
    have plain : failure.code? = none := by
      cases failure with
      | toolError code message => exact absurd rfl (notTool code message)
      | exception _ _ | baseException _ => rfl
    simp [stage, plain]
  next stage =>
    rw [concludeExecute_error_iff]
    simp [stage]

theorem callProvider_error_iff :
    (∃ failure, (callProvider config env provider action ctx breaker).answer =
      .error failure) ↔ StageEscapes config env provider action ctx := by
  rw [callProvider_error_iff_stages]
  by_cases disabled : config.timeoutBudget.le (.finite 0) = true
  · have validated : validateStageAnswer config env = env.validateAnswer :=
      runWithTimeout_disabled disabled
    have executed : executeAnswer config env provider action ctx =
        (executeRun config env provider action ctx).result := runWithTimeout_disabled disabled
    simp only [validated, executed, executeRun, withRetry_baseException_iff]
    constructor
    · rintro (⟨failure, raised, plain⟩ | ⟨valid, typeName, called⟩)
      · exact .validate failure disabled raised plain
      · exact .execute typeName disabled valid called
    · rintro (⟨_, enabled, _⟩ | ⟨failure, _, raised, plain⟩ | ⟨typeName, _, valid, called⟩)
      · simp [disabled] at enabled
      · exact .inl ⟨failure, raised, plain⟩
      · exact .inr ⟨valid, typeName, called⟩
  · have enabled : config.timeoutBudget.le (.finite 0) = false := by simpa using disabled
    cases refused : joinError config.timeoutBudget with
    | some failure =>
        have validated : validateStageAnswer config env = .error failure :=
          runWithTimeout_unusable enabled refused
        exact iff_of_true (.inl ⟨failure, validated, joinError_code refused⟩)
          (.timeout failure enabled refused)
    | none =>
        refine iff_of_false ?_ ?_
        · rintro (⟨failure, raised, plain⟩ | ⟨_, typeName, raised⟩)
          · obtain ⟨code, message, rfl⟩ :=
              runWithTimeout_error_isToolError ⟨enabled, refused⟩ raised
            simp [Raised.code?] at plain
          · obtain ⟨code, message, tool⟩ :=
              runWithTimeout_error_isToolError ⟨enabled, refused⟩ raised
            simp at tool
        · rintro (⟨failure, _, other⟩ | ⟨_, other, _⟩ | ⟨_, other, _⟩)
          · simp [refused] at other
          · simp [enabled] at other
          · simp [enabled] at other

theorem runProvider_error_iff :
    (∃ failure, (runProvider config env provider action ctx breaker).answer =
      .error failure) ↔ Escapes config env provider action ctx breaker := by
  unfold runProvider
  dsimp only
  split
  next blocked =>
    refine iff_of_false (by simp) ?_
    rintro (⟨_, reaches, _⟩ | ⟨reaches, _⟩) <;> simp [reaches.admitted] at blocked
  next admitted =>
    have admitted : (breaker.allowRequest config.circuitBreaker env.gateClock).1 = true := by
      simpa using admitted
    split
    next summary rejected =>
      refine iff_of_false (by simp) ?_
      rintro (⟨_, reaches, _⟩ | ⟨reaches, _⟩) <;> simp [reaches.conforms] at rejected
    next conforms =>
      split
      next message checked =>
        refine iff_of_false (by simp) ?_
        rintro (⟨_, _, other⟩ | ⟨_, other, _⟩) <;> simp [checked] at other
      next message checked =>
        exact iff_of_true ⟨_, rfl⟩ (.params message ⟨admitted, conforms⟩ checked)
      next checked =>
        rw [callProvider_error_iff]
        constructor
        · exact .stages ⟨admitted, conforms⟩ checked
        · rintro (⟨_, _, other⟩ | ⟨_, _, escapes⟩)
          · simp [checked] at other
          · exact escapes

/-- A conclusion that can be recorded closes its dispatch. -/
theorem recordResult_closes (config : Config) (before state : ServiceState)
    (dispatch : Dispatch) (policyVersion : Int) (conclusion : Conclusion) (events : List Event)
    (same : state.db = before.db) :
    let recorded := recordResult config none state dispatch ctx policyVersion conclusion
    Closes config before dispatch (recorded.1, { recorded.2 with events }) conclusion := by
  intro recorded
  obtain ⟨entry, appended, outcome, errorCode, concerns⟩ : ∃ entry,
      recorded.1.db = state.db.appendAudit entry ∧
      entry.outcome = conclusion.outcome.outcome ∧ entry.errorCode = conclusion.errorCode ∧
      entry.Concerns config dispatch.action dispatch.confirmationId :=
    ⟨_, rfl, rfl, rfl, config.auditEntry_concerns _⟩
  exact ⟨⟨_, rfl, rfl, rfl⟩, entry, by simp [appended, same, Database.appendAudit], outcome,
    errorCode, concerns⟩

end Facts

/-- With an audit log that does not fail, exactly the escaping exceptions leave a
dispatch open. -/
theorem closed_iff (config : Config) (env : DispatchEnv) (state : ServiceState)
    (dispatch : Dispatch) (ctx : ExecutionContext) (policyVersion : Int) :
    Closed config state dispatch
        (dispatchAndRecord config env none state dispatch ctx policyVersion) ↔
      ∀ provider, config.registry.get dispatch.action.actionType = some provider →
        ¬Escapes config env provider dispatch.action ctx (state.breakers provider.id) := by
  unfold dispatchAndRecord
  cases registered : config.registry.get dispatch.action.actionType with
  | none =>
      exact iff_of_true ⟨_, recordResult_closes config state state dispatch policyVersion _ _ rfl⟩
        nofun
  | some provider =>
      simp only [Option.some.injEq, forall_eq']
      rw [← runProvider_error_iff]
      split
      next failure escaped =>
        refine iff_of_false ?_ (not_not.mpr ⟨failure, escaped⟩)
        rintro ⟨conclusion, ⟨⟨response, answered, _⟩, _⟩⟩
        simp at answered
      next conclusion concluded =>
        refine iff_of_true ⟨conclusion, recordResult_closes config state _ dispatch policyVersion
          conclusion _ rfl⟩ ?_
        rintro ⟨failure, escaped⟩
        simp [concluded] at escaped

namespace Demo

/-- The hard timeout is switched off. -/
def untimed : Config :=
  { config with settings := { config.settings with providerTimeoutSeconds := .finite 0 } }

/-- `validate` of the provider raises a plain exception. -/
def validateRaises : DispatchEnv :=
  { dispatchEnv with validateAnswer := .error (.exception "KeyError" "path") }

def authorizedWrite : Dispatch :=
  { action := write, confirmationId := some "confirmation", decision := .confirm }

end Demo

theorem not_closed : ¬Closed Demo.untimed Demo.start Demo.authorizedWrite
    (dispatchAndRecord Demo.untimed Demo.validateRaises none Demo.start Demo.authorizedWrite
      { actorId := "alice" } 1) := by
  rintro ⟨conclusion, ⟨⟨response, answered, _⟩, _⟩⟩
  have escaped : (dispatchAndRecord Demo.untimed Demo.validateRaises none Demo.start
      Demo.authorizedWrite { actorId := "alice" } 1).2.answer.isOk = false := by
    decide +kernel
  rw [answered] at escaped
  cases escaped

end Era.Services
