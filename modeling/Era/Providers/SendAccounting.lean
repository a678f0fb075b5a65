import Era.Providers.ActorRateLimit
import Era.Providers.WhatsApp

/-!
# What the WhatsApp provider charges and what it posts

`execute` computes how many slots of the rate limiter it takes, and `_send_message` posts in two
nested loops.
-/

namespace Era.Providers

open Era.Core Era.Lib

section

variable (platform : Platform)

/-! ## Reactions -/

/-- `validate` for `whatsapp.react`. -/
def validateReaction (params : Params) : Except Raised Unit := do
  let refuse (message : String) : Except Raised Unit :=
    .error (whatsAppError .validation message)
  let messageId := pyStrip ((params.getOr "message_id" (.str "")).pyStr platform)
  let emoji := pyStrip ((params.getOr "emoji" (.str "")).pyStr platform)
  if messageId = "" ∨ 512 < messageId.length then
    refuse "whatsapp.react requires a valid 'message_id'"
  if emoji = "" ∨ 32 < emoji.length then refuse "whatsapp.react requires a bounded 'emoji'"
  let numbers ← recipients platform (params.get "to")
  if numbers.length ≠ 1 then refuse "whatsapp.react requires exactly one 'to' recipient"

/-- The payload of `_send_reaction`. -/
def reactionPayload (params : Params) (recipient : String) : Value :=
  let messageId := pyStrip ((params.getOr "message_id" (.str "")).pyStr platform)
  let emoji := pyStrip ((params.getOr "emoji" (.str "")).pyStr platform)
  envelope recipient "reaction" (.dict [("message_id", .str messageId), ("emoji", .str emoji)])

/-- `_send_reaction`. -/
def sendReaction (around : WhatsAppSurroundings) (params : Params) (recipient : String) :
    Delivery :=
  let messageId := pyStrip ((params.getOr "message_id" (.str "")).pyStr platform)
  let emoji := pyStrip ((params.getOr "emoji" (.str "")).pyStr platform)
  let sending := sendAll platform around.exchange 0
    [({ recipient, part := 0 }, reactionPayload platform params recipient)]
  { answer := sending.answer.map fun _ =>
      .actionResult true "WhatsApp reaction sent"
        [(some "message_id", .str messageId), (some "emoji", .str emoji),
          (some "status", .str "reacted")]
    sent := sending.sent
    accepted := sending.accepted }

/-- `execute` for `whatsapp.react`. -/
def WhatsAppProvider.executeReaction (provider : WhatsAppProvider)
    (around : WhatsAppSurroundings) (params : Params) : Delivery :=
  match validateReaction platform params with
  | .error failure => .unsent failure
  | .ok () =>
      match around.token with
      | .error failure => .unsent failure
      | .ok token =>
          if token = "" ∨ provider.phoneNumberId = "" then
            .unsent (whatsAppError .notImplemented "WhatsApp provider is not configured")
          else if around.allowMany 1 = false then
            .unsent (whatsAppError .forbidden "WhatsApp send rate limit exceeded for actor")
          else
            match recipients platform (params.get "to") with
            | .error failure => .unsent failure
            | .ok numbers => sendReaction platform around params (numbers.headD "")

/-! ## A provider with its rate limiter -/

inductive WhatsAppAction where
  | send (params : Params)
  | react (params : Params)

structure WhatsAppCall (Time : Type*) where
  actorId : Option String
  now : Time
  action : WhatsAppAction
  around : WhatsAppSurroundings

/-- How many slots an action takes if it gets to the rate limiter. -/
def WhatsAppProvider.slotsAsked (provider : WhatsAppProvider) (around : WhatsAppSurroundings)
    (action : WhatsAppAction) : Option Nat :=
  let configured (slots : Nat) : Option Nat :=
    match around.token with
    | .error _ => none
    | .ok token => if token = "" ∨ provider.phoneNumberId = "" then none else some slots
  match action with
  | .send params =>
      match provider.validate platform params, recipients platform (params.get "to"),
        media (params.get "media") with
      | .ok (), .ok numbers, .ok attachments =>
          configured (outboundCount params numbers attachments)
      | _, _, _ => none
  | .react params =>
      match validateReaction platform params with
      | .ok () => configured 1
      | .error _ => none

def WhatsAppProvider.run (provider : WhatsAppProvider) (around : WhatsAppSurroundings) :
    WhatsAppAction → Delivery
  | .send params => provider.execute platform around params
  | .react params => provider.executeReaction platform around params

variable {Time : Type*} [LinearOrder Time] (provider : WhatsAppProvider)
  (limiter : ActorRateLimiter Time)

/-- What an action posts, as units of its actor. -/
def WhatsAppCall.posts (call : WhatsAppCall Time) (delivery : Delivery) : List (String × Time) :=
  List.replicate delivery.sent.length (bucketKey call.actorId, call.now)

/-- An action, with the payloads that it posts. -/
def whatsAppStep (buckets : Buckets Time) (call : WhatsAppCall Time) :
    Buckets Time × List (String × Time) :=
  match provider.slotsAsked platform call.around call.action with
  | none => (buckets, call.posts (provider.run platform call.around call.action))
  | some slots =>
      let answer := allowMany limiter buckets call.actorId slots call.now
      (answer.1, call.posts
        (provider.run platform { call.around with allowMany := fun _ => answer.2 } call.action))

def whatsAppMachine : Machine (Buckets Time) (WhatsAppCall Time) (List (String × Time)) :=
  { step := whatsAppStep platform provider limiter }

/-- When an actor has posted a payload. -/
def postedTimes (calls : List (WhatsAppCall Time)) (key : String) : List Time :=
  logged ((whatsAppMachine platform provider limiter).trace id (fun _ => []) calls) key

/-! ## What is promised -/

/-- The slots of valid parameters are the payloads that are posted when every post succeeds. -/
def ChargesWhatItPosts (params : Params) : Prop :=
  ∀ numbers attachments, recipients platform (params.get "to") = .ok numbers →
    media (params.get "media") = .ok attachments → ∀ around result,
      (provider.sendMessage platform around params numbers attachments).answer = .ok result →
        (provider.sendMessage platform around params numbers attachments).sent.length =
          outboundCount params numbers attachments

/-- A template and attachments are posted, and no message is given. -/
def TemplateBesideMedia (params : Params) : Prop :=
  (params.get "template").truthy = true ∧ (messageOf params).truthy = false ∧
    ∃ attachments, media (params.get "media") = .ok attachments ∧ attachments ≠ []

/-- No action of a call posts a template beside attachments without a message. -/
def WhatsAppAction.Plain : WhatsAppAction → Prop
  | .send params => ¬TemplateBesideMedia params
  | .react _ => True

end

/-! ## One action -/

section Facts

variable {platform : Platform} {provider : WhatsAppProvider} {params : Params}
  {numbers : List String} {attachments : List Params}

/-- How many payloads a recipient is sent. -/
def payloadCount (params : Params) (attachments : List Params) : Nat :=
  (if (params.get "template").truthy ∨ (messageOf params).truthy then 1 else 0) +
    attachments.length

theorem length_messagePayload (recipient : String) :
    (messagePayload platform params recipient).length =
      if (params.get "template").truthy ∨ (messageOf params).truthy then 1 else 0 := by
  unfold messagePayload
  split
  next template => simp [template]
  next plain =>
    split
    next message => simp [message]
    next silent => simp [plain, silent]

theorem length_plan (numbers : List String) :
    (numbers.flatMap (payloadsFor platform params attachments)).length =
      numbers.length * payloadCount params attachments := by
  have each (recipient : String) :
      (payloadsFor platform params attachments recipient).length =
        payloadCount params attachments := by
    simp [payloadsFor, payloadCount, length_messagePayload]
  rw [List.length_flatMap]
  simp [each]

/-- A call that goes to its end has sent everything. -/
theorem sendAll_sent {exchange : Nat → Exchange} {payloads : List (MessageUnit × Value)}
    {next : Nat} {identifiers : List String}
    (answered : (sendAll platform exchange next payloads).answer = .ok identifiers) :
    (sendAll platform exchange next payloads).sent.length = payloads.length := by
  induction payloads generalizing next identifiers with
  | nil => rfl
  | cons payload rest ih =>
      obtain ⟨message, document⟩ := payload
      simp only [sendAll] at answered ⊢
      split at answered
      next => cases answered
      next first sent =>
        dsimp only at answered
        cases others : (sendAll platform exchange (next + 1) rest).answer with
        | error failure =>
            rw [others] at answered
            cases answered
        | ok later => exact congrArg Nat.succ (ih others)

theorem sendMessage_sent {around : WhatsAppSurroundings} {result : ProviderReturn}
    (answered : (provider.sendMessage platform around params numbers attachments).answer =
      .ok result) :
    (provider.sendMessage platform around params numbers attachments).sent.length =
      numbers.length * payloadCount params attachments := by
  unfold WhatsAppProvider.sendMessage at answered ⊢
  split at answered
  next => cases answered
  next runs =>
    rw [if_neg runs]
    dsimp only at answered ⊢
    cases sent : (sendAll platform around.exchange 0
        (numbers.flatMap (payloadsFor platform params attachments))).answer with
    | error failure =>
        rw [sent] at answered
        cases answered
    | ok identifiers => rw [sendAll_sent sent, length_plan]

/-- Every post succeeds. -/
def allPosted : WhatsAppSurroundings :=
  { token := .ok "token"
    allowMany := fun _ => true
    now := 0
    lastInboundAt := fun _ => 0
    exchange := fun _ => { reply := .success .empty, acceptedUnanswered := true } }

theorem sendAll_allPosted (platform : Platform) (payloads : List (MessageUnit × Value))
    (next : Nat) :
    ∃ identifiers, (sendAll platform allPosted.exchange next payloads).answer =
      .ok identifiers := by
  induction payloads generalizing next with
  | nil => exact ⟨[], rfl⟩
  | cons payload rest ih =>
      obtain ⟨later, answered⟩ := ih (next + 1)
      exact ⟨_, congrArg (Except.map _) answered⟩

/-- A template is not held back by the customer window. -/
theorem sendMessage_allPosted (platform : Platform) (provider : WhatsAppProvider)
    (numbers : List String) (attachments : List Params)
    (template : (params.get "template").truthy = true) :
    ∃ result, (provider.sendMessage platform allPosted params numbers attachments).answer =
      .ok result := by
  obtain ⟨identifiers, answered⟩ := sendAll_allPosted platform
    (numbers.flatMap (payloadsFor platform params attachments)) 0
  unfold WhatsAppProvider.sendMessage
  rw [if_neg fun held => held.2.1 template]
  exact ⟨_, congrArg (Except.map _) answered⟩

theorem validate_facts (valid : provider.validate platform params = .ok ())
    (collected : recipients platform (params.get "to") = .ok numbers)
    (attached : media (params.get "media") = .ok attachments) :
    numbers ≠ [] ∧ ((messageOf params).truthy = true ∨ (params.get "template").truthy = true ∨
      attachments ≠ []) := by
  unfold WhatsAppProvider.validate at valid
  rw [collected, attached] at valid
  constructor
  · rintro rfl
    cases valid
  · by_contra nothing
    obtain ⟨message, template, media⟩ : ¬(messageOf params).truthy = true ∧
        ¬(params.get "template").truthy = true ∧ attachments = [] := by
      rwa [not_or, not_or, not_not] at nothing
    simp only [message, template, media] at valid
    dsimp only [bind, Except.bind] at valid
    split at valid
    next => cases valid
    next =>
      split at valid
      next => cases valid
      next =>
        rw [if_pos (by simp)] at valid
        cases valid

/-- A recipient's payloads are as many as its slots, but for a template beside attachments. -/
theorem count_eq_iff {message template : Bool} {count : Nat}
    (content : message = true ∨ template = true ∨ 0 < count) :
    (if template = true ∨ message = true then 1 else 0) + count =
        max 1 (count + if message = true then 1 else 0) ↔
      ¬(template = true ∧ message = false ∧ 0 < count) := by
  cases template <;> cases message <;> simp at content ⊢ <;> omega

theorem charged_iff (valid : provider.validate platform params = .ok ())
    (collected : recipients platform (params.get "to") = .ok numbers)
    (attached : media (params.get "media") = .ok attachments) :
    numbers.length * payloadCount params attachments = outboundCount params numbers attachments ↔
      ¬TemplateBesideMedia params := by
  obtain ⟨addressed, content⟩ := validate_facts valid collected attached
  have beside : TemplateBesideMedia params ↔ (params.get "template").truthy = true ∧
      (messageOf params).truthy = false ∧ 0 < attachments.length := by
    rw [List.length_pos_iff]
    constructor
    · rintro ⟨template, silent, found, same, filled⟩
      rw [attached] at same
      cases same
      exact ⟨template, silent, filled⟩
    · rintro ⟨template, silent, filled⟩
      exact ⟨template, silent, attachments, attached, filled⟩
  rw [← List.length_pos_iff] at content
  rw [beside, outboundCount, payloadCount, Nat.mul_right_inj (by simpa using addressed)]
  exact count_eq_iff content

theorem chargesWhatItPosts_iff (valid : provider.validate platform params = .ok ()) :
    ChargesWhatItPosts platform provider params ↔ ¬TemplateBesideMedia params := by
  constructor
  · intro charges beside
    have template := beside.1
    obtain ⟨attachments, attached, -⟩ := beside.2.2
    cases collected : recipients platform (params.get "to") with
    | error failure =>
        unfold WhatsAppProvider.validate at valid
        rw [collected] at valid
        cases valid
    | ok numbers =>
        obtain ⟨result, answered⟩ := sendMessage_allPosted platform provider numbers attachments
          template
        have charged := charges numbers attachments collected attached _ _ answered
        rw [sendMessage_sent answered] at charged
        exact (charged_iff valid collected attached).mp charged beside
  · intro plain numbers attachments collected attached around result answered
    rw [sendMessage_sent answered]
    exact (charged_iff valid collected attached).mpr plain

/-- An action does not get to the rate limiter and posts nothing; or it asks for slots, posts
nothing if it is not granted them, and posts no more than them if it is plain. -/
theorem run_cases (platform : Platform) (provider : WhatsAppProvider)
    (around : WhatsAppSurroundings) (action : WhatsAppAction) :
    provider.slotsAsked platform around action = none ∧
        (provider.run platform around action).sent = [] ∨
      ∃ slots, provider.slotsAsked platform around action = some slots ∧
        (around.allowMany slots = false → (provider.run platform around action).sent = []) ∧
        (action.Plain → (provider.run platform around action).sent.length ≤ slots) := by
  cases action with
  | send params =>
      unfold WhatsAppProvider.slotsAsked WhatsAppProvider.run WhatsAppProvider.execute
      dsimp only
      cases valid : provider.validate platform params with
      | error failure => exact .inl ⟨rfl, rfl⟩
      | ok checked =>
          cases collected : recipients platform (params.get "to") with
          | error failure =>
              unfold WhatsAppProvider.validate at valid
              rw [collected] at valid
              cases valid
          | ok numbers =>
              cases attached : media (params.get "media") with
              | error failure =>
                  refine .inl ⟨rfl, ?_⟩
                  dsimp only
                  split
                  next => rfl
                  next => split <;> rfl
              | ok attachments =>
                  cases resolved : around.token with
                  | error failure => exact .inl ⟨rfl, rfl⟩
                  | ok token =>
                      dsimp only
                      by_cases configured : token = "" ∨ provider.phoneNumberId = ""
                      · rw [if_pos configured, if_pos configured]
                        exact .inl ⟨rfl, rfl⟩
                      · rw [if_neg configured, if_neg configured]
                        refine .inr ⟨_, rfl, fun refused => by rw [if_pos refused]; rfl, ?_⟩
                        intro plain
                        split
                        next => exact Nat.zero_le _
                        next =>
                          rw [← (charged_iff valid collected attached).mpr plain, ← length_plan]
                          have follows : FollowsPlan _ (provider.sendMessage platform around
                              params numbers attachments) :=
                            provider.sendMessage_followsPlan around params numbers attachments
                          exact follows.sentFirst.length_le.trans_eq (List.length_map _)
  | react params =>
      unfold WhatsAppProvider.slotsAsked WhatsAppProvider.run WhatsAppProvider.executeReaction
      dsimp only
      cases valid : validateReaction platform params with
      | error failure => exact .inl ⟨rfl, rfl⟩
      | ok checked =>
          cases resolved : around.token with
          | error failure => exact .inl ⟨rfl, rfl⟩
          | ok token =>
              dsimp only
              by_cases configured : token = "" ∨ provider.phoneNumberId = ""
              · rw [if_pos configured, if_pos configured]
                exact .inl ⟨rfl, rfl⟩
              · rw [if_neg configured, if_neg configured]
                refine .inr ⟨_, rfl, fun refused => by rw [if_pos refused]; rfl, ?_⟩
                intro _
                split
                next => exact Nat.zero_le _
                next =>
                  split
                  next => exact Nat.zero_le _
                  next numbers collected =>
                    have follows : FollowsPlan [{ recipient := numbers.headD "", part := 0 }]
                        (sendReaction platform around params (numbers.headD "")) :=
                      sendAll_followsPlan around.exchange 0 [(_, _)] _
                    exact follows.sentFirst.length_le

/-! ## Whole runs -/

variable {Time : Type*} [LinearOrder Time]

/-- What a call asks of the rate limiter. -/
def WhatsAppCall.asks (platform : Platform) (provider : WhatsAppProvider)
    (call : WhatsAppCall Time) : Option (LimiterCall Time) :=
  (provider.slotsAsked platform call.around call.action).map fun slots =>
    { actorId := call.actorId, now := call.now, request := .allowMany slots }

variable (platform provider) (limiter : ActorRateLimiter Time)

/-- The provider leaves its rate limiter as what it asks of it does, and a plain action posts no
more than it is admitted. -/
theorem whatsAppStep_asks (buckets : Buckets Time) (call : WhatsAppCall Time)
    (plain : call.action.Plain) (key : String) :
    (whatsAppStep platform provider limiter buckets call).1 =
        (rateLimiter limiter).stateAfter buckets (call.asks platform provider).toList ∧
      (logged (whatsAppStep platform provider limiter buckets call).2 key).Sublist
        (logged ((rateLimiter limiter).trace id buckets (call.asks platform provider).toList)
          key) := by
  unfold whatsAppStep WhatsAppCall.asks
  cases asked : provider.slotsAsked platform call.around call.action with
  | none =>
      refine ⟨rfl, ?_⟩
      rcases run_cases platform provider call.around call.action with
        ⟨-, silent⟩ | ⟨slots, sought, -⟩
      · simp [WhatsAppCall.posts, silent, logged]
      · rw [asked] at sought
        cases sought
  | some slots =>
      refine ⟨rfl, ?_⟩
      have units : (call.posts (provider.run platform { call.around with
          allowMany := fun _ => (allowMany limiter buckets call.actorId slots call.now).2 }
            call.action)).Sublist
          (if (allowMany limiter buckets call.actorId slots call.now).2 then
            List.replicate slots (bucketKey call.actorId, call.now) else []) := by
        rcases run_cases platform provider { call.around with allowMany := fun _ =>
            (allowMany limiter buckets call.actorId slots call.now).2 } call.action with
          ⟨unasked, -⟩ | ⟨found, sought, refused, bounded⟩
        · cases asked.symm.trans unasked
        cases Option.some.inj (asked.symm.trans sought)
        cases granted : (allowMany limiter buckets call.actorId slots call.now).2 with
        | false =>
            rw [granted] at refused
            simp [WhatsAppCall.posts, refused rfl]
        | true =>
            rw [granted] at bounded
            exact (List.replicate_sublist_replicate _).mpr (bounded plain)
      have admitted : (rateLimiter limiter).trace id buckets
          [{ actorId := call.actorId, now := call.now, request := .allowMany slots }] =
          if (allowMany limiter buckets call.actorId slots call.now).2 then
            List.replicate slots (bucketKey call.actorId, call.now) else [] := by
        rw [Machine.trace_cons, Machine.trace_nil, List.append_nil]
        rfl
      have kept := (units.filter fun unit => unit.1 == key).map Prod.snd
      rw [← admitted] at kept
      exact kept

theorem posted_sublist (calls : List (WhatsAppCall Time))
    (plain : ∀ call ∈ calls, call.action.Plain) (key : String) :
    (whatsAppMachine platform provider limiter).stateAfter (fun _ => []) calls =
        (rateLimiter limiter).stateAfter (fun _ => [])
          (calls.filterMap (WhatsAppCall.asks platform provider)) ∧
      (postedTimes platform provider limiter calls key).Sublist
        (admittedTimes limiter (calls.filterMap (WhatsAppCall.asks platform provider)) key) := by
  induction calls using List.reverseRecOn with
  | nil => exact ⟨rfl, List.Sublist.refl _⟩
  | append_singleton before call ih =>
      obtain ⟨same, sublist⟩ := ih fun earlier member => plain earlier (by simp [member])
      obtain ⟨same_step, sublist_step⟩ := whatsAppStep_asks platform provider limiter
        ((rateLimiter limiter).stateAfter (fun _ => [])
          (before.filterMap (WhatsAppCall.asks platform provider))) call
        (plain call (by simp)) key
      have asked : (before ++ [call]).filterMap (WhatsAppCall.asks platform provider) =
          before.filterMap (WhatsAppCall.asks platform provider) ++
            (call.asks platform provider).toList := by
        rw [List.filterMap_append]
        refine congrArg _ ?_
        cases found : call.asks platform provider <;> simp [found]
      rw [asked]
      constructor
      · rw [Machine.stateAfter_append, Machine.stateAfter_append, same]
        exact same_step
      · unfold postedTimes admittedTimes logged
        rw [Machine.trace_append, Machine.trace_append, List.filter_append, List.filter_append,
          List.map_append, List.map_append, same]
        refine sublist.append ?_
        rw [Machine.trace_cons, Machine.trace_nil, List.append_nil]
        exact sublist_step

end Facts

namespace Demo

/-- A platform for texts in lower case. -/
def lowerCase : Platform := { Platform.plain with lower := id }

def whatsApp : WhatsAppProvider := { phoneNumberId := "100" }

/-- A template with an image. -/
def templateWithImage : Params :=
  [("to", .str "+49 170 1234567"), ("template", .str "invoice"),
    ("media", .list [.dict [("type", .str "image"), ("id", .str "m1")]])]

def greeting : Params := [("to", .str "+49 170 1234567"), ("message", .str "hello")]

end Demo

end Era.Providers
