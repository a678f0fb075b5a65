import Era.Core.ToolRegistry
import Era.Providers.Delivery
import Era.Core.Platform

/-!
# The SMTP provider: `email.send`

One message goes to all recipients in one `sendmail`.  What the server has
accepted by the time the session fails is a fact about the server.
-/

namespace Era.Providers

open Era.Core

/-- What the provider declares to the registry; the action type does not opt out
of retries. -/
def emailSmtpDeclaration : Provider :=
  { id := "email-smtp", actionTypes := ["email.send"] }

structure EmailSmtpProvider where
  fromAddress : String
  starttls : Bool := false
  useSsl : Bool := false
  hasWorkspace : Bool := false
  maxRecipients : Nat := 10
  maxBodyBytes : Nat := 102400
  maxAttachments : Nat := 5
  notBoth : ¬(starttls = true ∧ useSsl = true) := by decide

/-- How a step of an SMTP session fails.  Every `SMTPException` is an `OSError`. -/
inductive SmtpFailure where
  | timedOut
  | disconnected
  | authentication
  | osError (typeName : String) (message : String)
  | other (typeName : String) (message : String)

/-- Whether `except OSError` catches it. -/
def SmtpFailure.isOsError : SmtpFailure → Bool
  | .timedOut | .disconnected | .authentication | .osError _ _ => true
  | .other _ _ => false

/-- The exception itself. -/
def SmtpFailure.exception : SmtpFailure → Raised
  | .timedOut => .exception "TimeoutError" "timed out"
  | .disconnected => .exception "SMTPServerDisconnected" "Connection unexpectedly closed"
  | .authentication => .exception "SMTPAuthenticationError" "authentication failed"
  | .osError typeName message | .other typeName message => .exception typeName message

/-- The steps of a session, each with its failure, and the recipients for which
the server has accepted the message. -/
structure SmtpSession where
  connect : Option SmtpFailure
  starttls : Option SmtpFailure
  login : Option SmtpFailure
  sendmail : Option SmtpFailure
  quit : Option SmtpFailure
  accepts : String → Bool

/-- What one call of `execute` finds around it. -/
structure EmailSurroundings where
  /-- The checks of the attachments in the workspace. -/
  attachmentFiles : List Params → Except Raised Unit
  allow : Bool
  username : Except Raised String
  password : Except Raised String
  /-- Reading the attachments and rendering the message: their number and its size. -/
  rendered : Except Raised (Nat × Nat)
  session : SmtpSession

section

variable (platform : Platform)

def emailError (code : ProviderErrorCode) (message : String) : Raised :=
  .toolError code message

/-! ## Addresses -/

/-- `_dedupe`, with the keys seen so far. -/
def dedupe : List String → List String → List String
  | _, [] => []
  | seen, address :: rest =>
      if platform.casefold address ∈ seen then dedupe seen rest
      else address :: dedupe (platform.casefold address :: seen) rest

/-- `_addresses_for`. -/
def addressesFor (value : Value) : Except Raised (List String) :=
  let parsed (raw : List String) : List String :=
    dedupe platform [] (((platform.getAddresses raw).map pyStrip).filter (· ≠ ""))
  let refused := emailError .validation "recipient fields must be strings or arrays of strings"
  match value with
  | .none => .ok []
  | .str text => .ok (parsed [text])
  | .list items =>
      match Value.strings? items with
      | some texts => .ok (parsed texts)
      | none => .error refused
  | _ => .error refused

/-- `_collect_recipients`, together with the addresses of the `to` field. -/
def collectAddresses (params : Params) : Except Raised (List String × List String) :=
  (addressesFor platform (params.get "to")).bind fun toRecipients =>
  (addressesFor platform (params.get "cc")).bind fun ccRecipients =>
  (addressesFor platform (params.get "bcc")).bind fun bccRecipients =>
  .ok (toRecipients, dedupe platform [] (toRecipients ++ ccRecipients ++ bccRecipients))

/-- `_validate_address`. -/
def validateAddress (address : String) : Except Raised Unit :=
  let parsed := platform.parseAddress address
  if address = "" ∨ 320 < address.length ∨ address.contains '\r' ∨ address.contains '\n' ∨
      parsed ≠ address ∨ ¬parsed.contains '@' ∨ parsed.startsWith "@" ∨ parsed.endsWith "@" then
    .error (emailError .validation "invalid email address")
  else .ok ()

/-! ## Validation -/

/-- `_attachments`. -/
def attachmentsOf (params : Params) : Except Raised (List Params) :=
  let refused := emailError .validation "'attachments' must be an array of attachment objects"
  match params.getOr "attachments" (.list []) with
  | .none => .ok []
  | .list items =>
      match Value.dicts? items with
      | some attachments => .ok attachments
      | none => .error refused
  | _ => .error refused

/-- `validate`. -/
def EmailSmtpProvider.validate (provider : EmailSmtpProvider) (around : EmailSurroundings)
    (params : Params) : Except Raised Unit := do
  let refuse (message : String) : Except Raised Unit := .error (emailError .validation message)
  let (_, recipients) ← collectAddresses platform params
  if recipients = [] then refuse "email.send requires a non-empty 'to' address"
  if provider.maxRecipients < recipients.length then
    refuse ("email.send allows at most " ++ toString provider.maxRecipients ++ " recipients")
  recipients.forM (validateAddress platform)
  match params.get "body" with
  | .str body =>
      if pyStrip body = "" then refuse "email.send requires a non-empty 'body'"
      if provider.maxBodyBytes < body.utf8ByteSize then
        refuse ("'body' exceeds max size (" ++ toString provider.maxBodyBytes ++ " bytes)")
  | _ => refuse "email.send requires a non-empty 'body'"
  match params.get "subject" with
  | .none => pure ()
  | .str subject =>
      if 998 < subject.length ∨ subject.contains '\r' ∨ subject.contains '\n' then
        refuse "'subject' must be a safe string (<= 998 chars)"
  | _ => refuse "'subject' must be a safe string (<= 998 chars)"
  let attachments ← attachmentsOf params
  if provider.maxAttachments < attachments.length then
    refuse ("email.send allows at most " ++ toString provider.maxAttachments ++ " attachments")
  if attachments ≠ [] ∧ provider.hasWorkspace = false then
    .error (emailError .notImplemented "attachments require a configured workspace")
  around.attachmentFiles attachments

/-! ## The session -/

/-- What the body of the session raises, before `except TimeoutError` sees it. -/
inductive SessionError where
  | smtp (failure : SmtpFailure)
  | tool (code : ProviderErrorCode) (message : String)

/-- The outermost handler of the session. -/
def SessionError.raised : SessionError → Raised
  | .smtp .timedOut => emailError .timeout "SMTP operation timed out"
  | .smtp failure => failure.exception
  | .tool code message => emailError code message

/-- Every `OSError` becomes `UNAVAILABLE`. -/
def unavailableOr (message : String) (failure : SmtpFailure) : SessionError :=
  if failure.isOsError then .tool .unavailable message else .smtp failure

/-- The body of the `with` statement up to `sendmail`. -/
def greet (provider : EmailSmtpProvider) (username : String) (session : SmtpSession) :
    Except SessionError Unit := do
  if provider.starttls ∧ ¬provider.useSsl then
    match session.starttls with
    | some failure => .error (unavailableOr "SMTP STARTTLS negotiation failed" failure)
    | none => pure ()
  if username ≠ "" then
    match session.login with
    | some .authentication => .error (.tool .auth "SMTP authentication failed")
    | some failure => .error (.smtp failure)
    | none => pure ()

/-- `sendmail` with its handlers. -/
def transmit (session : SmtpSession) : Except SessionError Unit :=
  match session.sendmail with
  | some .disconnected => .error (.tool .unavailable "SMTP server disconnected during send")
  | some failure => .error (unavailableOr "SMTP send failed" failure)
  | none => .ok ()

/-- Leaving the `with` statement says `QUIT`; what that raises replaces whatever
the body has raised.  A disconnected server is ignored. -/
def leave {α : Type} (session : SmtpSession) (body : Except SessionError α) :
    Except Raised α :=
  match session.quit with
  | none | some .disconnected => body.mapError SessionError.raised
  | some failure => .error (SessionError.smtp failure).raised

/-- What `execute` works out before it connects. -/
structure Prepared where
  username : String
  toRecipients : List String
  recipients : List String
  rendered : Nat × Nat

/-- `self._from_address or username`. -/
def EmailSmtpProvider.sender (provider : EmailSmtpProvider) (username : String) : String :=
  if provider.fromAddress = "" then username else provider.fromAddress

/-- `execute` up to the connection. -/
def EmailSmtpProvider.prepare (provider : EmailSmtpProvider) (around : EmailSurroundings)
    (params : Params) : Except Raised Prepared :=
  (provider.validate platform around params).bind fun _ =>
  if around.allow = false then
    .error (emailError .forbidden "SMTP send rate limit exceeded for actor")
  else
    (collectAddresses platform params).bind fun (toRecipients, recipients) =>
    if recipients = [] then .error (emailError .validation "email.send requires recipients")
    else
      around.username.bind fun username => around.password.bind fun password =>
      if password = "" then
        .error (emailError .auth "SMTP password not configured or not resolvable")
      else
        if provider.sender username = "" then
          .error (emailError .validation "no sender address configured")
        else
          (validateAddress platform (provider.sender username)).bind fun _ =>
          around.rendered.bind fun rendered =>
          .ok { username, toRecipients, recipients, rendered }

/-- The message on its way to the server. -/
def deliver (provider : EmailSmtpProvider) (session : SmtpSession) (prepared : Prepared) :
    Delivery :=
  match session.connect with
  | some failure => .unsent (unavailableOr "cannot connect to SMTP server" failure).raised
  | none =>
      match greet provider prepared.username session with
      | .error failure =>
          { answer := leave session (.error failure), sent := [], accepted := [] }
      | .ok () =>
          { answer := (leave session (transmit session)).map fun _ =>
              .actionResult true
                ("email sent to " ++ toString prepared.recipients.length ++ " recipient(s)")
                [(some "to", .list (prepared.toRecipients.map .str)),
                  (some "recipient_count", .int prepared.recipients.length),
                  (some "attachments", .int prepared.rendered.1),
                  (some "bytes", .int prepared.rendered.2)]
            sent := prepared.recipients.map fun recipient => { recipient, part := 0 }
            accepted := (prepared.recipients.filter session.accepts).map fun recipient =>
              { recipient, part := 0 } }

/-- `execute`. -/
def EmailSmtpProvider.execute (provider : EmailSmtpProvider) (around : EmailSurroundings)
    (params : Params) : Delivery :=
  match provider.prepare platform around params with
  | .error failure => .unsent failure
  | .ok prepared => deliver provider around.session prepared

end

/-! ## What one call delivers -/

section Facts

variable {platform : Platform}

/-- By induction on the addresses; the seen keys stay out of the result. -/
theorem dedupe_keys (seen addresses : List String) :
    ((dedupe platform seen addresses).map platform.casefold).Nodup ∧
      ∀ key ∈ (dedupe platform seen addresses).map platform.casefold, key ∉ seen := by
  induction addresses generalizing seen with
  | nil => simp [dedupe]
  | cons address rest ih =>
      unfold dedupe
      split
      next known => exact ih seen
      next fresh =>
        obtain ⟨distinct, unseen⟩ := ih (platform.casefold address :: seen)
        constructor
        · rw [List.map_cons, List.nodup_cons]
          exact ⟨fun again => unseen _ again List.mem_cons_self, distinct⟩
        · intro key member
          cases List.mem_cons.mp member with
          | inl same => rwa [same]
          | inr later =>
              exact fun known => unseen key later (List.mem_cons_of_mem _ known)

theorem collectAddresses_nodup {params : Params} {toRecipients recipients : List String}
    (collected : collectAddresses platform params = .ok (toRecipients, recipients)) :
    recipients.Nodup := by
  obtain ⟨_, _, collected⟩ := bind_eq_ok_iff.mp collected
  obtain ⟨_, _, collected⟩ := bind_eq_ok_iff.mp collected
  obtain ⟨_, _, collected⟩ := bind_eq_ok_iff.mp collected
  obtain ⟨-, rfl⟩ := Prod.mk.inj (Except.ok.inj collected)
  exact (dedupe_keys [] _).1.of_map

/-- The messages of an action. -/
def emailPlan (platform : Platform) (params : Params) : List MessageUnit :=
  match collectAddresses platform params with
  | .ok (_, recipients) => recipients.map fun recipient => { recipient, part := 0 }
  | .error _ => []

theorem emailPlan_nodup (platform : Platform) (params : Params) :
    (emailPlan platform params).Nodup := by
  unfold emailPlan
  split
  next toRecipients recipients collected =>
    refine (collectAddresses_nodup collected).map fun left right same => ?_
    exact (MessageUnit.mk.inj same).1
  · exact List.nodup_nil

theorem deliver_allOrNothing (provider : EmailSmtpProvider) (session : SmtpSession)
    (prepared : Prepared) :
    AllOrNothing (prepared.recipients.map fun recipient => { recipient, part := 0 })
      (deliver provider session prepared) := by
  unfold deliver
  split
  · exact allOrNothing_unsent _ _
  · split
    · exact ⟨.inr rfl, List.Sublist.refl []⟩
    · exact ⟨.inl rfl, List.filter_sublist.map _⟩

theorem EmailSmtpProvider.prepare_ok {provider : EmailSmtpProvider} {around : EmailSurroundings}
    {params : Params} {prepared : Prepared}
    (ready : provider.prepare platform around params = .ok prepared) :
    collectAddresses platform params = .ok (prepared.toRecipients, prepared.recipients) := by
  obtain ⟨_, _, ready⟩ := bind_eq_ok_iff.mp ready
  split at ready
  · simp at ready
  · obtain ⟨⟨toRecipients, recipients⟩, collected, ready⟩ := bind_eq_ok_iff.mp ready
    dsimp only at ready
    split at ready
    · simp at ready
    · obtain ⟨_, _, ready⟩ := bind_eq_ok_iff.mp ready
      obtain ⟨_, _, ready⟩ := bind_eq_ok_iff.mp ready
      split at ready
      · simp at ready
      · split at ready
        · simp at ready
        · obtain ⟨_, _, ready⟩ := bind_eq_ok_iff.mp ready
          obtain ⟨_, _, ready⟩ := bind_eq_ok_iff.mp ready
          obtain rfl := Except.ok.inj ready
          exact collected

theorem EmailSmtpProvider.execute_allOrNothing (provider : EmailSmtpProvider)
    (around : EmailSurroundings) (params : Params) :
    AllOrNothing (emailPlan platform params) (provider.execute platform around params) := by
  unfold execute
  split
  · exact allOrNothing_unsent _ _
  next prepared ready =>
    rw [emailPlan, prepare_ok ready]
    exact deliver_allOrNothing provider around.session prepared

end Facts

end Era.Providers
