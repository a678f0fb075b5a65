import Era.Providers.EmailSmtp
import Era.Providers.WhatsApp
import Era.Services.SideEffects

/-!
# Messages and the retry loop

The retry loop repeats a whole call of `execute`.  A call that fails after the
server has accepted some of its messages is repeated like any other, because the
messaging providers do not opt out of retries.
-/

namespace Era.Services

open Era.Core Era.Providers

/-- A provider that sends messages, with what each numbered call finds around it. -/
inductive Messenger where
  | whatsApp (provider : WhatsAppProvider) (around : Nat → WhatsAppSurroundings)
  | email (provider : EmailSmtpProvider) (around : Nat → EmailSurroundings)

namespace Messenger

/-- One numbered call of `execute`. -/
def deliver (messenger : Messenger) (platform : Platform) (params : Params) (attempt : Nat) :
    Delivery :=
  match messenger with
  | .whatsApp provider around => provider.execute platform (around attempt) params
  | .email provider around => provider.execute platform (around attempt) params

/-- The surroundings of a dispatch to the messenger. -/
def env (messenger : Messenger) (platform : Platform) (params : Params) (base : DispatchEnv) :
    DispatchEnv :=
  { base with
    attempts := {
      answer := fun attempt => (messenger.deliver platform params attempt).answer
      clock := base.attempts.clock } }

/-- A dispatch to the messenger. -/
def dispatched (messenger : Messenger) (config : Config) (base : DispatchEnv)
    (recordFailure : Option Raised) (state : ServiceState) (dispatch : Dispatch)
    (ctx : ExecutionContext) (policyVersion : Int) : ServiceState × CallResult :=
  dispatchAndRecord config (messenger.env config.platform dispatch.action.params base)
    recordFailure state dispatch ctx policyVersion

/-- The calls that the dispatch makes. -/
def deliveries (messenger : Messenger) (config : Config) (base : DispatchEnv)
    (recordFailure : Option Raised) (state : ServiceState) (dispatch : Dispatch)
    (ctx : ExecutionContext) (policyVersion : Int) : List Delivery :=
  (List.range (executeAnswers (messenger.dispatched config base recordFailure state dispatch ctx
    policyVersion)).length).map fun index =>
      messenger.deliver config.platform dispatch.action.params (1 + index)

end Messenger

section Facts

variable (messenger : Messenger) (config : Config) (base : DispatchEnv)
variable (recordFailure : Option Raised) (state : ServiceState) (dispatch : Dispatch)
variable (ctx : ExecutionContext) (policyVersion : Int)

theorem deliveries_sameMessages :
    SameMessages
      (messenger.deliveries config base recordFailure state dispatch ctx policyVersion) := by
  cases messenger with
  | whatsApp provider around =>
      refine sameMessages_of_followsPlan
        (whatsAppPlan_nodup config.platform dispatch.action.params) fun delivery member => ?_
      obtain ⟨index, _, rfl⟩ := List.mem_map.mp member
      exact provider.execute_followsPlan _ _
  | email provider around =>
      refine sameMessages_of_allOrNothing
        (emailPlan_nodup config.platform dispatch.action.params) fun delivery member => ?_
      obtain ⟨index, _, rfl⟩ := List.mem_map.mp member
      exact provider.execute_allOrNothing _ _

/-- No call of `execute` in which the server has accepted something is followed by a
call that the loop gets to and that sends. -/
def RepeatsOnlyUnaccepted : Prop :=
  let env := messenger.env config.platform dispatch.action.params base
  ∀ provider, config.registry.get dispatch.action.actionType = some provider →
    ReachesExecute config env dispatch.action (state.breakers provider.id) →
    ∀ earlier later, earlier < later →
      GetsTo (config.retryPolicyFor provider dispatch.action.actionType)
        (config.dispatchContext env.monotonic ctx).deadline env.attempts 1 later →
      (messenger.deliver config.platform dispatch.action.params (1 + earlier)).accepted = [] ∨
        (messenger.deliver config.platform dispatch.action.params (1 + later)).sent = []

theorem lt_executeAnswers_length_iff (env : DispatchEnv) {index : Nat} :
    index < (executeAnswers
        (dispatchAndRecord config env recordFailure state dispatch ctx policyVersion)).length ↔
      ∃ provider, config.registry.get dispatch.action.actionType = some provider ∧
        ReachesExecute config env dispatch.action (state.breakers provider.id) ∧
        GetsTo (config.retryPolicyFor provider dispatch.action.actionType)
          (config.dispatchContext env.monotonic ctx).deadline env.attempts 1 index := by
  cases registered : config.registry.get dispatch.action.actionType with
  | none =>
      simp [executeAnswers, dispatchAndRecord, registered, Event.executeAnswer?,
        List.filterMap_cons, recordResult_executeAnswers]
  | some provider =>
      rw [executeAnswers_registered env recordFailure state ctx policyVersion registered]
      simp only [Option.some.injEq, exists_eq_left']
      by_cases reaches : ReachesExecute config env dispatch.action (state.breakers provider.id)
      · rw [(runProvider_reached reaches).1, executeRun, lt_withRetry_calls_length_iff]
        simp [reaches]
      · have silent : (runProvider config env provider dispatch.action ctx
            (state.breakers provider.id)).calls = [] :=
          by_contra fun called => reaches (reachesExecute_of_called called)
        simp [silent, reaches]

theorem stopsAfterAcceptance_deliveries_iff :
    StopsAfterAcceptance
        (messenger.deliveries config base recordFailure state dispatch ctx policyVersion) ↔
      RepeatsOnlyUnaccepted messenger config base state dispatch ctx := by
  rw [StopsAfterAcceptance, Messenger.deliveries, List.pairwise_map, List.pairwise_iff_getElem]
  simp only [List.length_range, List.getElem_range, Messenger.dispatched,
    lt_executeAnswers_length_iff]
  constructor
  · intro stops provider registered reaches earlier later before gets
    have made := (lt_executeAnswers_length_iff config recordFailure state dispatch ctx
      policyVersion _).mpr ⟨provider, registered, reaches, gets⟩
    exact stops earlier later ((lt_executeAnswers_length_iff ..).mp (before.trans made))
      ⟨provider, registered, reaches, gets⟩ before
  · rintro unaccepted earlier later - ⟨provider, registered, reaches, gets⟩ before
    exact unaccepted provider registered reaches earlier later before gets

/-- A dispatch delivers once exactly if the loop repeats only calls of which the
server has accepted nothing. -/
theorem messagesDeliveredOnce_iff :
    DeliversOnce
        (messenger.deliveries config base recordFailure state dispatch ctx policyVersion) ↔
      RepeatsOnlyUnaccepted messenger config base state dispatch ctx :=
  (deliversOnce_iff (deliveries_sameMessages messenger config base recordFailure state dispatch
    ctx policyVersion)).trans (stopsAfterAcceptance_deliveries_iff ..)

end Facts

/-! ## Two recipients, the second refused at first -/

namespace Demo

def messaging : Config :=
  { config with
    catalog := { specs := [
      { actionType := "whatsapp.send", riskLevel := .communication
        capabilityDomain := "whatsapp" }] }
    registry := { providers := [whatsAppDeclaration, emailSmtpDeclaration] } }

def greeting : Dispatch :=
  { action := {
      actionType := "whatsapp.send"
      params := [("to", .list [.str "+1 415 555 0101", .str "+1 415 555 0102"]),
        ("message", .str "hello")] }
    confirmationId := some "confirmation"
    decision := .confirm }

def takenOn : Exchange :=
  { reply := .success (.json (.dict [("messages", .list [.dict [("id", .str "wamid.1")]])]))
    acceptedUnanswered := false }

def overloaded : Exchange :=
  { reply := .httpError 503 "provider error", acceptedUnanswered := false }

/-- The API takes on everything but the second request of the first call. -/
def flaky : Messenger :=
  .whatsApp { phoneNumberId := "1" } fun attempt => {
    token := .ok "token"
    allowMany := fun _ => true
    now := 0
    lastInboundAt := fun _ => 0
    exchange := fun request => if attempt = 1 ∧ request = 1 then overloaded else takenOn }

end Demo

theorem not_messagesDeliveredOnce : ¬DeliversOnce
    (Demo.flaky.deliveries Demo.messaging Demo.dispatchEnv none Demo.start Demo.greeting
      { actorId := "alice" } 1) := by
  rintro ⟨acceptedOnce, _⟩
  exact absurd acceptedOnce (by decide +kernel)

end Era.Services
