import Era.Providers.Booking
import Era.Services.DispatchClosure

/-!
# Outcomes of irreversible actions

For an action type that is ambiguous on failure, a caller has to learn that the
side effect may have happened.  The conversion to `SIDE_EFFECT_UNKNOWN` looks at
the code of a `ToolError` only; other failures keep a definite code.
-/

namespace Era.Services

open Era.Core Era.Security Era.Providers

/-- The answers of `execute`, in the order of its calls. -/
def executeAnswers (result : ServiceState × CallResult) : List (Except Raised ProviderReturn) :=
  result.2.events.filterMap Event.executeAnswer?

/-- Codes with which a provider says that nothing has happened. -/
def definiteRejectionCodes : List ProviderErrorCode :=
  [.validation, .auth, .forbidden, .notFound, .conflict, .notImplemented]

/-- A conclusion that does not hide a side effect. -/
def Conclusion.Honest (conclusion : Conclusion) : Prop :=
  conclusion.outcome = .executed ∨ conclusion.errorCode = some .sideEffectUnknown

/-- The dispatch is closed as executed or as unknown, or `execute` itself has
rejected the action. -/
def ReportsUnknown (config : Config) (state : ServiceState) (dispatch : Dispatch)
    (result : ServiceState × CallResult) : Prop :=
  (∃ conclusion, Closes config state dispatch result conclusion ∧ conclusion.Honest) ∨
  ∃ code message, code ∈ definiteRejectionCodes ∧
    .error (.toolError code message) ∈ executeAnswers result

/-- An answer of `execute` whose outcome is clear to the service: a success that
passes the sanitizer, or a `ToolError` whose code says something about the side
effect. -/
def ClearAnswer (config : Config) (answer : Except Raised ProviderReturn) : Prop :=
  match answer with
  | .ok returned => ∃ result, sanitizeActionResult config.platform
      config.settings.providerResultMaxBytes returned = .ok result ∧ result.success = true
  | .error (.toolError code _) => code ≠ .internal ∧ code ≠ .unknown
  | .error (.exception _ _) | .error (.baseException _) => False

/-- The hard timeout has cut `execute` off, or its last answer is clear. -/
def EndsClearly (config : Config) (env : DispatchEnv)
    (answers : List (Except Raised ProviderReturn)) : Prop :=
  (UsableTimeout config.timeoutBudget ∧ env.executeOverrun = true) ∨
    ∃ last ∈ answers.getLast?, ClearAnswer config last

section Facts

variable {config : Config} {env : DispatchEnv} {provider : Provider} {action : Action}
variable {ctx : ExecutionContext} {breaker : CircuitBreaker} {state : ServiceState}

theorem reportedCode_eq_unknown_iff {actionType : String}
    (ambiguous : provider.ambiguousOnFailureActionTypes.contains actionType = true)
    (code : ProviderErrorCode) :
    reportedCode provider actionType code = .sideEffectUnknown ↔
      code ∉ definiteRejectionCodes ∧ code ≠ .internal ∧ code ≠ .unknown := by
  have member : actionType ∈ provider.ambiguousOnFailureActionTypes := by
    simpa using ambiguous
  cases code <;> simp [reportedCode, member, definiteRejectionCodes]

/-- The conclusion about an answer is honest, or the answer is a rejection,
exactly if the answer is clear. -/
theorem concludeExecute_clear_iff (config : Config) {actionType : String} (now : ℚ)
    (breaker : CircuitBreaker) (answer : Except Raised ProviderReturn)
    (ambiguous : provider.ambiguousOnFailureActionTypes.contains actionType = true) :
    ((∃ conclusion, (concludeExecute config provider actionType now breaker answer).1 =
        .ok conclusion ∧ conclusion.Honest) ∨
      ∃ code message, code ∈ definiteRejectionCodes ∧
        answer = .error (.toolError code message)) ↔ ClearAnswer config answer := by
  unfold concludeExecute
  split
  next returned =>
    split
    next unsafeResult refused =>
      simp [ClearAnswer, refused, Conclusion.Honest, Conclusion.unsuccessful]
    next result accepted =>
      split
      next success => simp [ClearAnswer, accepted, Conclusion.Honest, success]
      next failure =>
        simp [ClearAnswer, accepted, Conclusion.Honest, Conclusion.unsuccessful, failure]
  next code message =>
    have unknown := reportedCode_eq_unknown_iff ambiguous code
    have clear : code ∈ definiteRejectionCodes → code ≠ .internal ∧ code ≠ .unknown := by
      cases code <;> simp [definiteRejectionCodes]
    simp only [ClearAnswer, Conclusion.Honest, Conclusion.unsuccessful, Except.ok.injEq,
      exists_eq_left', reduceCtorEq, false_or, Option.some.injEq, unknown, Except.error.injEq,
      Raised.toolError.injEq]
    constructor
    · rintro (hidden | ⟨_, _, definite, rfl, rfl⟩)
      · exact hidden.2
      · exact clear definite
    · intro known
      by_cases definite : code ∈ definiteRejectionCodes
      · exact .inr ⟨code, message, definite, rfl, rfl⟩
      · exact .inl ⟨definite, known⟩
  · simp [ClearAnswer, Conclusion.Honest, Conclusion.unsuccessful]
  · simp [ClearAnswer]

/-! ## The execute stage -/

/-- How the execute stage answers, given the last answer of `execute`. -/
inductive ExecuteEnds (config : Config) (env : DispatchEnv) (policy : RetryPolicy)
    (last : Except Raised ProviderReturn) : Except Raised ProviderReturn → Prop where
  | overran (message : String) :
      UsableTimeout config.timeoutBudget → env.executeOverrun = true →
      ExecuteEnds config env policy last (.error (.toolError .timeout message))
  | answered :
      ¬(UsableTimeout config.timeoutBudget ∧ env.executeOverrun = true) →
      ExecuteEnds config env policy last last
  | gaveUp (message : String) :
      ¬(UsableTimeout config.timeoutBudget ∧ env.executeOverrun = true) →
      RetriedAnswer policy last →
      ExecuteEnds config env policy last (.error (.toolError .timeout message))
  | wrapped (failure : Raised) (message : String) :
      ¬(UsableTimeout config.timeoutBudget ∧ env.executeOverrun = true) →
      last = .error failure → failure.code? = none →
      ExecuteEnds config env policy last (.error (.toolError .internal message))

/-- The hard timeout passes a completed stage on, up to exceptions that are no
`ToolError`. -/
theorem executeEnds_of_completed {policy : RetryPolicy}
    {last result : Except Raised ProviderReturn} {texts : TimeoutTexts}
    (notOverran : ¬(UsableTimeout config.timeoutBudget ∧ env.executeOverrun = true))
    (started : config.timeoutBudget.le (.finite 0) = true ∨ UsableTimeout config.timeoutBudget)
    (ends : result = last ∨ RetriedAnswer policy last ∧
      ∃ message, result = .error (.toolError .timeout message)) :
    ExecuteEnds config env policy last
      (runWithTimeout texts config.timeoutBudget env.executeOverrun result) := by
  cases started with
  | inl disabled =>
      rw [runWithTimeout_disabled disabled]
      obtain rfl | ⟨retried, message, rfl⟩ := ends
      · exact .answered notOverran
      · exact .gaveUp message notOverran retried
  | inr usable =>
      have completed : env.executeOverrun = false := by
        simpa [usable] using notOverran
      rw [completed, runWithTimeout_completed usable]
      obtain rfl | ⟨retried, message, rfl⟩ := ends
      · split
        · exact .answered notOverran
        · exact .answered notOverran
        next failure notTool =>
          refine .wrapped failure _ notOverran rfl ?_
          cases failure with
          | toolError code message => exact absurd rfl (notTool code message)
          | exception _ _ | baseException _ => rfl
      · exact .gaveUp message notOverran retried

theorem executeAnswer_ends (validated : validateStageAnswer config env = .ok ())
    (called : (executeRun config env provider action ctx).calls ≠ []) :
    ∃ earlier last, (executeRun config env provider action ctx).calls = earlier ++ [last] ∧
      (∀ answer ∈ earlier,
        RetriedAnswer (config.retryPolicyFor provider action.actionType) answer) ∧
      ExecuteEnds config env (config.retryPolicyFor provider action.actionType) last
        (executeAnswer config env provider action ctx) := by
  obtain ⟨earlier, last, calls, retried, ends⟩ := withRetry_follows.ends called
  refine ⟨earlier, last, calls, retried, ?_⟩
  have started : config.timeoutBudget.le (.finite 0) = true ∨
      UsableTimeout config.timeoutBudget := by
    by_cases disabled : config.timeoutBudget.le (.finite 0) = true
    · exact .inl disabled
    · have enabled : config.timeoutBudget.le (.finite 0) = false := by simpa using disabled
      cases refused : joinError config.timeoutBudget with
      | none => exact .inr ⟨enabled, refused⟩
      | some failure =>
          rw [validateStageAnswer, runWithTimeout_unusable enabled refused] at validated
          cases validated
  by_cases overran : UsableTimeout config.timeoutBudget ∧ env.executeOverrun = true
  · have answer : executeAnswer config env provider action ctx =
        .error ((config.timeoutTexts "execute").timedOut config.timeoutBudget) := by
      rw [executeAnswer, overran.2, runWithTimeout_overrun overran.1]
    rw [answer]
    exact .overran _ overran.1 overran.2
  · exact executeEnds_of_completed overran started ends

/-- A retried answer is clear, and no rejection. -/
theorem clearAnswer_of_retried {policy : RetryPolicy} {answer : Except Raised ProviderReturn}
    (retried : RetriedAnswer policy answer) : ClearAnswer config answer := by
  obtain ⟨code, message, rfl, retryable⟩ := retried
  cases RetryPolicy.isRetryable_transient retryable with
  | inl same | inr same =>
      subst same
      simp [ClearAnswer]

theorem ne_rejection_of_retried {policy : RetryPolicy}
    {answer : Except Raised ProviderReturn} {code : ProviderErrorCode} {message : String}
    (retried : RetriedAnswer policy answer) (definite : code ∈ definiteRejectionCodes) :
    answer ≠ .error (.toolError code message) := by
  obtain ⟨other, _, rfl, retryable⟩ := retried
  rintro equal
  obtain ⟨rfl, -⟩ : other = code ∧ _ := by simpa using equal
  cases RetryPolicy.isRetryable_transient retryable with
  | inl same | inr same =>
      subst same
      simp [definiteRejectionCodes] at definite

/-- The stage answers clearly if it was cut off or its last answer was clear. -/
theorem ExecuteEnds.clear_iff {policy : RetryPolicy} {last answer : Except Raised ProviderReturn}
    (ends : ExecuteEnds config env policy last answer) :
    ClearAnswer config answer ↔
      (UsableTimeout config.timeoutBudget ∧ env.executeOverrun = true) ∨
        ClearAnswer config last := by
  cases ends with
  | overran message usable overrun =>
      exact iff_of_true (by simp [ClearAnswer]) (.inl ⟨usable, overrun⟩)
  | answered notOverran => simp only [notOverran, false_or]
  | gaveUp message notOverran retried =>
      exact iff_of_true (by simp [ClearAnswer]) (.inr (clearAnswer_of_retried retried))
  | wrapped failure message notOverran last_eq plain =>
      refine iff_of_false (by simp [ClearAnswer]) (not_or.mpr ⟨notOverran, ?_⟩)
      subst last_eq
      cases failure with
      | toolError code message => simp [Raised.code?] at plain
      | exception _ _ | baseException _ => simp [ClearAnswer]

/-- A rejection by the stage is a rejection by `execute`. -/
theorem ExecuteEnds.rejection {policy : RetryPolicy} {last : Except Raised ProviderReturn}
    {code : ProviderErrorCode} {message : String}
    (ends : ExecuteEnds config env policy last (.error (.toolError code message)))
    (definite : code ∈ definiteRejectionCodes) : last = .error (.toolError code message) := by
  cases ends with
  | answered _ => rfl
  | overran _ _ _ | gaveUp _ _ _ | wrapped _ _ _ _ _ =>
      simp [definiteRejectionCodes] at definite

/-! ## What is reported -/

/-- The dispatch gets to the execute stage. -/
structure ReachesExecute (config : Config) (env : DispatchEnv) (action : Action)
    (breaker : CircuitBreaker) : Prop where
  reaches : ReachesParams config env action breaker
  checked : validateParams config.platform.floatRepr action.params action.actionType = .ok ()
  validated : validateStageAnswer config env = .ok ()

theorem runProvider_of_reachesExecute (reaches : ReachesExecute config env action breaker) :
    runProvider config env provider action ctx breaker =
      callProvider config env provider action ctx
        (breaker.allowRequest config.circuitBreaker env.gateClock).2 := by
  simp [runProvider, reaches.reaches.admitted, reaches.reaches.conforms, reaches.checked]

theorem reachesExecute_of_called
    (called : (runProvider config env provider action ctx breaker).calls ≠ []) :
    ReachesExecute config env action breaker := by
  unfold runProvider at called
  dsimp only at called
  split at called
  · exact absurd rfl called
  next admitted =>
    split at called
    · exact absurd rfl called
    next conforms =>
      split at called
      · exact absurd rfl called
      · exact absurd rfl called
      next checked =>
        refine ⟨⟨by simpa using admitted, conforms⟩, checked, ?_⟩
        unfold callProvider at called
        split at called
        · split at called <;> exact absurd rfl called
        · exact absurd rfl called
        next validated => exact validated

/-- A run that gets to the execute stage makes the calls of the retry loop, and
concludes from the answer of the stage. -/
theorem runProvider_reached (reaches : ReachesExecute config env action breaker) :
    let run := runProvider config env provider action ctx breaker
    run.calls = (executeRun config env provider action ctx).calls ∧
      ∃ admitted, run.answer = (concludeExecute config provider action.actionType
        env.outcomeClock admitted (executeAnswer config env provider action ctx)).1 := by
  intro run
  simp only [run, runProvider_of_reachesExecute reaches, callProvider, reaches.validated,
    true_and]
  exact ⟨_, rfl⟩

theorem DispatchOutcome.status_injective : Function.Injective DispatchOutcome.status := by
  intro left right equal
  cases left <;> cases right <;> first | rfl | exact absurd equal (by decide)

/-- Recording shows no calls. -/
theorem recordResult_executeAnswers (config : Config) (failure : Option Raised)
    (state : ServiceState) (dispatch : Dispatch) (ctx : ExecutionContext) (policyVersion : Int)
    (conclusion : Conclusion) :
    (recordResult config failure state dispatch ctx policyVersion conclusion).2.events.filterMap
      Event.executeAnswer? = [] := by
  have records := (recordResult_spec config failure state dispatch ctx policyVersion
    conclusion).2.2.2.1
  refine List.filterMap_eq_nil_iff.mpr fun event member => ?_
  obtain ⟨entry, rfl, _⟩ := records event member
  rfl

/-- A dispatch shows the calls of its run. -/
theorem executeAnswers_registered (env : DispatchEnv) (recordFailure : Option Raised)
    (state : ServiceState) {dispatch : Dispatch} (ctx : ExecutionContext) (policyVersion : Int)
    (registered : config.registry.get dispatch.action.actionType = some provider) :
    executeAnswers (dispatchAndRecord config env recordFailure state dispatch ctx policyVersion) =
      (runProvider config env provider dispatch.action ctx (state.breakers provider.id)).calls := by
  unfold dispatchAndRecord executeAnswers
  rw [registered]
  dsimp only
  split
  · simp [Event.executeAnswer?, List.filterMap_cons, ProviderRun.events_executeAnswers]
  · simp [Event.executeAnswer?, List.filterMap_cons, ProviderRun.events_executeAnswers,
      recordResult_executeAnswers]

/-- Two conclusions that close one dispatch are what its response says. -/
theorem Closes.honest_iff {dispatch : Dispatch} {result : ServiceState × CallResult}
    {conclusion : Conclusion} (closes : Closes config state dispatch result conclusion) :
    (∃ other, Closes config state dispatch result other ∧ other.Honest) ↔ conclusion.Honest := by
  constructor
  · rintro ⟨other, otherCloses, honest⟩
    obtain ⟨response, answered, status, errorCode⟩ := closes.answered
    obtain ⟨_, otherAnswered, otherStatus, otherCode⟩ := otherCloses.answered
    obtain rfl := Except.ok.inj (answered.symm.trans otherAnswered)
    have sameOutcome : conclusion.outcome = other.outcome :=
      DispatchOutcome.status_injective (status.symm.trans otherStatus)
    rwa [Conclusion.Honest, sameOutcome, ← errorCode, otherCode]
  · exact fun honest => ⟨conclusion, closes, honest⟩

/-- A recorded dispatch closes with the conclusion of its run. -/
theorem dispatchAndRecord_closes_iff (env : DispatchEnv) (state : ServiceState)
    {dispatch : Dispatch} (ctx : ExecutionContext) (policyVersion : Int)
    (registered : config.registry.get dispatch.action.actionType = some provider) :
    (∃ conclusion, Closes config state dispatch
      (dispatchAndRecord config env none state dispatch ctx policyVersion) conclusion ∧
        conclusion.Honest) ↔
      ∃ conclusion, (runProvider config env provider dispatch.action ctx
        (state.breakers provider.id)).answer = .ok conclusion ∧ conclusion.Honest := by
  unfold dispatchAndRecord
  rw [registered]
  dsimp only
  cases (runProvider config env provider dispatch.action ctx
      (state.breakers provider.id)).answer with
  | error failure =>
      refine iff_of_false ?_ (by simp)
      rintro ⟨conclusion, ⟨⟨response, answered, _⟩, _⟩, _⟩
      simp at answered
  | ok conclusion =>
      simp only [Except.ok.injEq, exists_eq_left']
      exact Closes.honest_iff
        (recordResult_closes config state _ dispatch policyVersion conclusion _ rfl)

end Facts

/-- Once `execute` has been called for an ambiguous action type, the dispatch is
reported as executed, as unknown or as rejected by the provider exactly if the
stage was cut off or ended with a clear answer. -/
theorem reportsUnknown_iff (config : Config) (env : DispatchEnv) (state : ServiceState)
    (dispatch : Dispatch) (ctx : ExecutionContext) (policyVersion : Int) (provider : Provider)
    (registered : config.registry.get dispatch.action.actionType = some provider)
    (ambiguous : provider.ambiguousOnFailureActionTypes.contains
      dispatch.action.actionType = true)
    (begun : executeAnswers
      (dispatchAndRecord config env none state dispatch ctx policyVersion) ≠ []) :
    let result := dispatchAndRecord config env none state dispatch ctx policyVersion
    ReportsUnknown config state dispatch result ↔
      EndsClearly config env (executeAnswers result) := by
  intro result
  have answers := executeAnswers_registered env none state ctx policyVersion registered
  have closes := dispatchAndRecord_closes_iff env state ctx policyVersion registered
  have called := answers ▸ begun
  have reaches := reachesExecute_of_called called
  obtain ⟨calls, admitted, answer⟩ := runProvider_reached reaches
  rw [calls] at called answers
  obtain ⟨earlier, last, split, retried, ends⟩ := executeAnswer_ends reaches.validated called
  have clear : EndsClearly config env (executeAnswers result) ↔
      ClearAnswer config (executeAnswer config env provider dispatch.action ctx) := by
    rw [ends.clear_iff, EndsClearly, answers, split]
    simp
  have conclusions := concludeExecute_clear_iff config env.outcomeClock admitted
    (executeAnswer config env provider dispatch.action ctx) ambiguous
  rw [← answer] at conclusions
  constructor
  · rintro (honest | ⟨code, message, definite, member⟩)
    · exact clear.mpr (conclusions.mp (.inl (closes.mp honest)))
    · rw [answers, split] at member
      cases List.mem_append.mp member with
      | inl old => exact absurd rfl (ne_rejection_of_retried (retried _ old) definite)
      | inr new =>
          refine .inr ⟨last, by simp [result, answers, split], ?_⟩
          rw [← List.mem_singleton.mp new]
          cases code <;> simp [ClearAnswer, definiteRejectionCodes] at definite ⊢
  · intro endsClearly
    cases conclusions.mpr (clear.mp endsClearly) with
    | inl honest => exact .inl (closes.mpr honest)
    | inr rejected =>
        obtain ⟨code, message, definite, rejection⟩ := rejected
        rw [rejection] at ends
        refine .inr ⟨code, message, definite, ?_⟩
        simp [result, answers, split, ends.rejection definite]

namespace Demo

/-- A deployment with the booking provider. -/
def booking : Config :=
  { config with
    catalog := { specs := [
      { actionType := "booking.confirm", riskLevel := .booking, capabilityDomain := "booking" }] }
    registry := { providers := [bookingDeclaration] } }

def partner : BookingProvider :=
  { partnerApiKeyRef := "key", partnerUrl := "https://partner.example"
    configured := Providers.Demo.partner_configured }

def confirmHold : Dispatch :=
  { action := { actionType := "booking.confirm", params := [("hold_ref", .str "H-1")] }
    confirmationId := some "confirmation"
    decision := .confirmStrong }

/-- The partner answers every call of `execute` with one reply. -/
def partnerReplies (reply : HttpReply) : DispatchEnv :=
  { dispatchEnv with
    attempts := {
      answer := fun _ =>
        (partner.execute platform (.ok "key") reply [] .confirm confirmHold.action.params).answer
      clock := dispatchEnv.attempts.clock } }

/-- A reply that is not JSON, after the booking may have been made. -/
def garbled : HttpReply :=
  .success (.undecodable "JSONDecodeError" "Expecting value: line 1 column 1 (char 0)")

def confirmed (env : DispatchEnv) : ServiceState × CallResult :=
  dispatchAndRecord booking env none start confirmHold { actorId := "alice" } 1

/-- The code with which `execute` raises a `ToolError`. -/
def toolCode? : Except Raised ProviderReturn → Option ProviderErrorCode
  | .ok _ => none
  | .error exc => exc.code?

end Demo

theorem not_reportsUnknown : ¬ReportsUnknown Demo.booking Demo.start Demo.confirmHold
    (Demo.confirmed (Demo.partnerReplies Demo.garbled)) := by
  have reported : ((Demo.confirmed (Demo.partnerReplies Demo.garbled)).2.answer.toOption.map
      fun response => (response.status, response.errorCode)) =
        some (.failed, some .internal) := by
    decide +kernel
  have plain : (executeAnswers (Demo.confirmed (Demo.partnerReplies Demo.garbled))).all
      (fun answer => (Demo.toolCode? answer).isNone) = true := by
    decide +kernel
  rintro (⟨conclusion, ⟨⟨response, answered, status, errorCode⟩, _⟩, honest⟩ |
    ⟨code, message, _, member⟩)
  · rw [answered] at reported
    obtain ⟨failed, internal⟩ : response.status = .failed ∧
        response.errorCode = some .internal := by
      simpa [Except.toOption] using reported
    cases honest with
    | inl executed =>
        rw [failed, executed] at status
        cases status
    | inr unknown =>
        rw [internal, unknown] at errorCode
        cases errorCode
  · have notTool := List.all_eq_true.mp plain _ member
    simp [Demo.toolCode?, Raised.code?] at notTool

/-- A confirmation that the hard timeout cuts off is reported as unknown. -/
theorem reportsUnknown_iff_demo : ReportsUnknown Demo.booking Demo.start Demo.confirmHold
    (Demo.confirmed { Demo.partnerReplies Demo.garbled with executeOverrun := true }) := by
  have begun : (executeAnswers (Demo.confirmed
      { Demo.partnerReplies Demo.garbled with executeOverrun := true })).isEmpty = false := by
    decide +kernel
  refine (reportsUnknown_iff Demo.booking _ Demo.start Demo.confirmHold { actorId := "alice" } 1
    bookingDeclaration rfl rfl ?_).mpr (.inl ⟨by decide +kernel, rfl⟩)
  intro none
  rw [Demo.confirmed, none] at begun
  cases begun

end Era.Services
