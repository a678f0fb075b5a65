import Era.Core.ToolRegistry
import Era.Providers.Delivery
import Era.Providers.Http

/-!
# The WhatsApp provider: `whatsapp.send`

One action goes to several recipients, and each recipient gets one text or
template message and every media attachment.  Each of these is a request of its
own, and the first failure ends the call.
-/

namespace Era.Providers

open Era.Core

/-- What the provider declares to the registry; no action type opts out of
retries. -/
def whatsAppDeclaration : Provider :=
  { id := "whatsapp", actionTypes := ["whatsapp.send", "whatsapp.read", "whatsapp.react"] }

theorem defaultMaxMessageChars_pos : 1 ≤ 1000 := by decide

theorem defaultMaxRecipients_pos : 1 ≤ 10 := by decide

structure WhatsAppProvider where
  phoneNumberId : String
  maxMessageChars : Nat := 1000
  maxMedia : Nat := 5
  maxRecipients : Nat := 10
  enforceCustomerWindow : Bool := false
  maxMessageChars_pos : 1 ≤ maxMessageChars := by
    first | exact defaultMaxMessageChars_pos | decide
  maxRecipients_pos : 1 ≤ maxRecipients := by
    first | exact defaultMaxRecipients_pos | decide

/-- One request to the API.  A reply of success means that the API has accepted
the payload; a lost or failed reply leaves that open. -/
structure Exchange where
  reply : HttpReply
  acceptedUnanswered : Bool

def Exchange.accepted (exchange : Exchange) : Bool :=
  match exchange.reply with
  | .success _ => true
  | .httpError _ _ | .timedOut | .networkDown | .raised _ _ => exchange.acceptedUnanswered

/-- What one call of `execute` finds around it. -/
structure WhatsAppSurroundings where
  /-- What resolving the access token comes to. -/
  token : Except Raised String
  /-- Whether the rate limiter grants so many messages. -/
  allowMany : Nat → Bool
  now : ℚ
  lastInboundAt : String → ℚ
  exchange : Nat → Exchange

section

variable (platform : Platform)

def whatsAppError (code : ProviderErrorCode) (message : String) : Raised :=
  .toolError code message

/-! ## Parameters -/

def supportedMediaTypes : List String := ["image", "document", "audio", "video", "sticker"]

/-- `_PHONE_RE`. -/
def isPhone (text : String) : Bool :=
  match text.toList with
  | [] => false
  | first :: rest =>
      '1' ≤ first && first ≤ '9' && rest.all platform.isDecimal &&
        6 ≤ rest.length && rest.length ≤ 15

/-- A number without separators. -/
def cleanPhone (raw : String) : String :=
  String.ofList (raw.toList.filter fun char =>
    !(isPySpace char || ['-', '(', ')', '+'].contains char))

/-- The loop of `_recipients`. -/
def collectRecipients : List String → List String → Except Raised (List String)
  | result, [] => .ok result
  | result, raw :: rest =>
      let cleaned := cleanPhone raw
      if isPhone platform cleaned = false then
        .error (whatsAppError .validation "invalid recipient phone number")
      else if cleaned ∈ result then collectRecipients result rest
      else collectRecipients (result ++ [cleaned]) rest

/-- `_recipients`. -/
def recipients (value : Value) : Except Raised (List String) :=
  let refused := whatsAppError .validation
    "'to' must be a phone number or an array of phone numbers"
  match value with
  | .str number => collectRecipients platform [] [number]
  | .list items =>
      match Value.strings? items with
      | some numbers => collectRecipients platform [] numbers
      | none => .error refused
  | .none => .ok []
  | _ => .error refused

/-- `_media`. -/
def media (value : Value) : Except Raised (List Params) :=
  let refused := whatsAppError .validation "'media' must be an array of objects"
  match value with
  | .none => .ok []
  | .list items =>
      match Value.dicts? items with
      | some attachments => .ok attachments
      | none => .error refused
  | _ => .error refused

/-- `params.get("message", params.get("text"))`. -/
def messageOf (params : Params) : Value := params.getOr "message" (params.get "text")

def mediaType (attachment : Params) : String :=
  platform.lower ((attachment.getOr "type" (.str "")).pyStr platform)

/-- The check of one attachment in `validate`. -/
def validateAttachment (attachment : Params) : Except Raised Unit :=
  if mediaType platform attachment ∉ supportedMediaTypes then
    .error (whatsAppError .validation "unsupported WhatsApp media type")
  else
    match (attachment.get "id").or (attachment.get "link") with
    | .str _ => .ok ()
    | _ => .error (whatsAppError .validation
        "media item requires Meta media 'id' or HTTPS 'link'")

/-- `validate` for `whatsapp.send`. -/
def WhatsAppProvider.validate (provider : WhatsAppProvider) (params : Params) :
    Except Raised Unit := do
  let refuse (message : String) : Except Raised Unit :=
    .error (whatsAppError .validation message)
  let numbers ← recipients platform (params.get "to")
  if numbers = [] then refuse "whatsapp.send requires 'to' recipient number"
  if provider.maxRecipients < numbers.length then
    refuse ("whatsapp.send allows at most " ++ toString provider.maxRecipients ++ " recipients")
  let message := messageOf params
  let template := params.get "template"
  let attachments ← media (params.get "media")
  if ¬message.truthy ∧ ¬template.truthy ∧ attachments = [] then
    refuse "whatsapp.send requires 'message', 'template', or 'media'"
  match message with
  | .none => pure ()
  | .str text =>
      if provider.maxMessageChars < text.length then
        refuse ("'message' exceeds max length (" ++ toString provider.maxMessageChars ++ " chars)")
  | _ =>
      refuse ("'message' exceeds max length (" ++ toString provider.maxMessageChars ++ " chars)")
  match template with
  | .none => pure ()
  | .str text =>
      if pyStrip text = "" ∨ 512 < text.length then refuse "invalid WhatsApp template name"
  | _ => refuse "invalid WhatsApp template name"
  if provider.maxMedia < attachments.length then
    refuse ("whatsapp.send allows at most " ++ toString provider.maxMedia ++
      " media attachments")
  attachments.forM (validateAttachment platform)

/-! ## Payloads -/

/-- The envelope of a payload. -/
def envelope (recipient kind : String) (body : Value) : Value :=
  .dict [("messaging_product", .str "whatsapp"), ("recipient_type", .str "individual"),
    ("to", .str recipient), ("type", .str kind), (kind, body)]

/-- The template or text message of a recipient, if there is one. -/
def messagePayload (params : Params) (recipient : String) : List Value :=
  if (params.get "template").truthy then
    [envelope recipient "template" (.dict [
      ("name", .str ((params.get "template").pyStr platform)),
      ("language", .dict [("code",
        .str ((params.getOr "language_code" (.str "en_US")).pyStr platform))]),
      ("components", params.getOr "template_params" (.list []))])]
  else if (messageOf params).truthy then
    [envelope recipient "text" (.dict [("body", .str ((messageOf params).pyStr platform))])]
  else []

/-- The payload of one attachment. -/
def mediaPayload (recipient : String) (attachment : Params) : Value :=
  let kind := mediaType platform attachment
  let source :=
    if (attachment.get "id").truthy then ("id", .str ((attachment.get "id").pyStr platform))
    else ("link", .str ((attachment.get "link").pyStr platform))
  let caption :=
    if (attachment.get "caption").truthy ∧ kind ∈ ["image", "document", "video"] then
      [("caption", .str (pyTake ((attachment.get "caption").pyStr platform) 1024))]
    else []
  envelope recipient kind (.dict (source :: caption))

/-- What a recipient is sent, in order. -/
def payloadsFor (params : Params) (attachments : List Params) (recipient : String) :
    List (MessageUnit × Value) :=
  let payloads := messagePayload platform params recipient ++
    attachments.map (mediaPayload platform recipient)
  payloads.zipIdx.map fun entry => ({ recipient, part := entry.2 }, entry.1)

/-! ## Sending -/

def whatsAppTexts : HttpTexts :=
  { oversized := "WhatsApp API response exceeded size cap"
    timedOut := "WhatsApp API timed out"
    networkDown := "WhatsApp API network unavailable"
    -- `_map_http_error`
    httpError := fun status message =>
      match errorCodeOfStatus status with
      | .auth => "WhatsApp authentication failed (" ++ toString status ++ ")"
      | .notFound => "WhatsApp resource not found"
      | .validation => "WhatsApp parameter error (" ++ toString status ++ "): " ++
          platform.redactSensitiveText message
      | .conflict => "WhatsApp request conflict"
      | .unavailable => "WhatsApp API temporarily unavailable"
      | _ => "WhatsApp provider error (" ++ toString status ++ ")" }

/-- The identifiers of the accepted messages; iterating over something that is
not iterable raises. -/
def messageIds (response : Value) : Except Raised (List String) :=
  let identifiers (items : List Value) : List String :=
    items.filterMap fun item =>
      match item with
      | .dict fields =>
          let identifier := Params.get fields "id"
          if identifier.truthy then some (identifier.pyStr platform) else none
      | _ => none
  match response with
  | .dict fields =>
      match Params.getOr fields "messages" (.list []) with
      | .list items => .ok (identifiers items)
      | .dict _ | .str _ => .ok []
      | other =>
          .error (.exception "TypeError" ("'" ++ other.typeName ++ "' object is not iterable"))
  | _ => .ok []

/-- `_send_payload`, after the request. -/
def sendPayload (reply : HttpReply) : Except Raised (List String) :=
  match reply.document (whatsAppTexts platform) with
  | .error failure => .error failure
  | .ok response =>
      match messageIds platform response with
      | .error failure => .error failure
      | .ok [] => .ok ["wamid.generated"]
      | .ok identifiers => .ok identifiers

/-- The requests of one call, from number `next` on. -/
structure Sending where
  answer : Except Raised (List String)
  sent : List MessageUnit
  accepted : List MessageUnit

def sendAll (exchange : Nat → Exchange) : Nat → List (MessageUnit × Value) → Sending
  | _, [] => { answer := .ok [], sent := [], accepted := [] }
  | next, (message, _) :: rest =>
      let accepted := if (exchange next).accepted then [message] else []
      match sendPayload platform (exchange next).reply with
      | .error failure => { answer := .error failure, sent := [message], accepted }
      | .ok identifiers =>
          let others := sendAll exchange (next + 1) rest
          { answer := others.answer.map (identifiers ++ ·)
            sent := message :: others.sent
            accepted := accepted ++ others.accepted }

/-- `_require_customer_window`. -/
def customerWindowClosed (provider : WhatsAppProvider) (around : WhatsAppSurroundings)
    (numbers : List String) : Bool :=
  provider.enforceCustomerWindow &&
    numbers.any fun recipient => around.lastInboundAt recipient < around.now - 24 * 3600

/-- The result of a completed call. -/
def sentResult (params : Params) (numbers : List String) (identifiers : List String) :
    ProviderReturn :=
  let first := identifiers.head?.getD "wamid.generated"
  let reported := if identifiers = [] then [first] else identifiers
  .actionResult true
    ("WhatsApp message sent to " ++ toString numbers.length ++ " recipient(s)")
    [(some "message_id", .str first), (some "message_ids", .list (reported.map .str)),
      (some "recipient_count", .int numbers.length), (some "status", .str "sent"),
      (some "mode", .str (if (params.get "template").truthy then "template" else "freeform"))]

/-- `_send_message`. -/
def WhatsAppProvider.sendMessage (provider : WhatsAppProvider) (around : WhatsAppSurroundings)
    (params : Params) (numbers : List String) (attachments : List Params) : Delivery :=
  if (messageOf params).truthy ∧ ¬(params.get "template").truthy ∧
      customerWindowClosed provider around numbers then
    .unsent (whatsAppError .conflict ("free-form WhatsApp messages require a verified " ++
      "inbound message within 24 hours; use a template"))
  else
    let sending := sendAll platform around.exchange 0
      (numbers.flatMap (payloadsFor platform params attachments))
    { answer := sending.answer.map (sentResult params numbers)
      sent := sending.sent
      accepted := sending.accepted }

/-- How many messages the rate limiter is asked for. -/
def outboundCount (params : Params) (numbers : List String) (attachments : List Params) : Nat :=
  numbers.length * max 1 (attachments.length + if (messageOf params).truthy then 1 else 0)

/-- `execute` for `whatsapp.send`. -/
def WhatsAppProvider.execute (provider : WhatsAppProvider) (around : WhatsAppSurroundings)
    (params : Params) : Delivery :=
  match provider.validate platform params with
  | .error failure => .unsent failure
  | .ok () =>
      match around.token with
      | .error failure => .unsent failure
      | .ok token =>
          if token = "" ∨ provider.phoneNumberId = "" then
            .unsent (whatsAppError .notImplemented "WhatsApp provider is not configured")
          else
            match recipients platform (params.get "to"), media (params.get "media") with
            | .error failure, _ | .ok _, .error failure => .unsent failure
            | .ok numbers, .ok attachments =>
                if around.allowMany (outboundCount params numbers attachments) = false then
                  .unsent (whatsAppError .forbidden
                    "WhatsApp send rate limit exceeded for actor")
                else provider.sendMessage platform around params numbers attachments

end

/-! ## What one call delivers -/

section Facts

variable {platform : Platform}

theorem collectRecipients_nodup {result numbers found : List String}
    (collected : collectRecipients platform result numbers = .ok found)
    (distinct : result.Nodup) : found.Nodup := by
  induction numbers generalizing result with
  | nil =>
      obtain rfl := Except.ok.inj collected
      exact distinct
  | cons raw rest ih =>
      simp only [collectRecipients] at collected
      split at collected
      · simp at collected
      · split at collected
        next known => exact ih collected distinct
        next fresh =>
          refine ih collected (List.nodup_append.mpr ⟨distinct, List.nodup_singleton _, ?_⟩)
          intro old oldMem new newMem
          obtain rfl := List.mem_singleton.mp newMem
          exact fun same => fresh (same ▸ oldMem)

theorem recipients_nodup {value : Value} {numbers : List String}
    (collected : recipients platform value = .ok numbers) : numbers.Nodup := by
  unfold recipients at collected
  dsimp only at collected
  split at collected
  · exact collectRecipients_nodup collected List.nodup_nil
  · split at collected
    · exact collectRecipients_nodup collected List.nodup_nil
    · simp at collected
  · obtain rfl := Except.ok.inj collected
    exact List.nodup_nil
  · simp at collected

/-- The messages of an action, in the order in which they are sent. -/
def whatsAppPlan (platform : Platform) (params : Params) : List MessageUnit :=
  match recipients platform (params.get "to"), media (params.get "media") with
  | .ok numbers, .ok attachments =>
      (numbers.flatMap (payloadsFor platform params attachments)).map Prod.fst
  | _, _ => []

/-- The parts of one recipient are numbered. -/
theorem payloadsFor_units (platform : Platform) (params : Params) (attachments : List Params)
    (recipient : String) :
    ∃ count, (payloadsFor platform params attachments recipient).map Prod.fst =
      (List.range count).map (MessageUnit.mk recipient) := by
  have numbered : ∀ payloads : List Value,
      (payloads.zipIdx.map fun entry => (MessageUnit.mk recipient entry.2, entry.1)).map Prod.fst =
        (List.range payloads.length).map (MessageUnit.mk recipient) := by
    intro payloads
    rw [List.range_eq_range', ← List.zipIdx_map_snd 0 payloads, List.map_map, List.map_map]
    rfl
  exact ⟨_, numbered _⟩

theorem whatsAppPlan_nodup (platform : Platform) (params : Params) :
    (whatsAppPlan platform params).Nodup := by
  unfold whatsAppPlan
  split
  next numbers attachments collected _ =>
    rw [List.map_flatMap, List.nodup_flatMap]
    constructor
    · intro recipient _
      obtain ⟨count, units⟩ := payloadsFor_units platform params attachments recipient
      rw [units]
      refine List.nodup_range.map fun left right same => ?_
      exact (MessageUnit.mk.inj same).2
    · refine (recipients_nodup collected).imp ?_
      intro left right different message inLeft inRight
      obtain ⟨leftCount, leftUnits⟩ := payloadsFor_units platform params attachments left
      obtain ⟨rightCount, rightUnits⟩ := payloadsFor_units platform params attachments right
      simp only [leftUnits] at inLeft
      simp only [rightUnits] at inRight
      obtain ⟨_, _, rfl⟩ := List.mem_map.mp inLeft
      obtain ⟨_, _, same⟩ := List.mem_map.mp inRight
      exact different (MessageUnit.mk.inj same).1.symm
  · exact List.nodup_nil

/-- A payload whose reply is used has been accepted. -/
theorem accepted_of_sendPayload {exchange : Exchange} {identifiers : List String}
    (sent : sendPayload platform exchange.reply = .ok identifiers) : exchange.accepted = true := by
  unfold Exchange.accepted
  cases reply : exchange.reply with
  | success _ => rfl
  | httpError _ _ | timedOut | networkDown | raised _ _ =>
      simp [sendPayload, reply, HttpReply.document] at sent

/-- By induction on the payloads: the call goes on only after an accepted one. -/
theorem sendAll_followsPlan (exchange : Nat → Exchange) (next : Nat)
    (payloads : List (MessageUnit × Value)) (answer : Except Raised ProviderReturn) :
    FollowsPlan (payloads.map Prod.fst) {
      answer
      sent := (sendAll platform exchange next payloads).sent
      accepted := (sendAll platform exchange next payloads).accepted } := by
  induction payloads generalizing next with
  | nil => exact ⟨List.prefix_refl [], List.Sublist.refl [], fun accepted => absurd rfl accepted⟩
  | cons payload rest ih =>
      obtain ⟨message, document⟩ := payload
      simp only [sendAll]
      split
      next failure refused =>
        refine ⟨⟨rest.map Prod.fst, rfl⟩, ?_, ?_⟩
        · split
          · exact List.Sublist.refl _
          · exact List.nil_sublist _
        · intro accepted
          refine ⟨message, rfl, ?_⟩
          split at accepted
          next answered => simp [answered]
          · exact absurd rfl accepted
      next identifiers sent =>
        have following := ih (next + 1)
        rw [if_pos (accepted_of_sendPayload sent)]
        refine ⟨?_, ?_, fun _ => ⟨message, rfl, List.mem_cons_self⟩⟩
        · exact List.cons_prefix_cons.mpr ⟨rfl, following.sentFirst⟩
        · exact following.accepted_sublist.cons_cons message

theorem WhatsAppProvider.sendMessage_followsPlan (provider : WhatsAppProvider)
    (around : WhatsAppSurroundings) (params : Params) (numbers : List String)
    (attachments : List Params) :
    FollowsPlan ((numbers.flatMap (payloadsFor platform params attachments)).map Prod.fst)
      (provider.sendMessage platform around params numbers attachments) := by
  unfold sendMessage
  split
  · exact followsPlan_unsent _ _
  · exact sendAll_followsPlan _ _ _ _

theorem WhatsAppProvider.execute_followsPlan (provider : WhatsAppProvider)
    (around : WhatsAppSurroundings) (params : Params) :
    FollowsPlan (whatsAppPlan platform params) (provider.execute platform around params) := by
  unfold execute
  split
  · exact followsPlan_unsent _ _
  · split
    · exact followsPlan_unsent _ _
    · split
      · exact followsPlan_unsent _ _
      · split
        · exact followsPlan_unsent _ _
        · exact followsPlan_unsent _ _
        next numbers attachments collected attached =>
          have plan : whatsAppPlan platform params =
              (numbers.flatMap (payloadsFor platform params attachments)).map Prod.fst := by
            simp only [whatsAppPlan, collected, attached]
          split
          · exact followsPlan_unsent _ _
          · rw [plan]
            exact provider.sendMessage_followsPlan around params numbers attachments

end Facts

end Era.Providers
