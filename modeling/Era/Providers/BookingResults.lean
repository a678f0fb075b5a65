import Era.Lib.Memo
import Era.Providers.Booking

/-!
# Whose booking a result is

The provider answers a repeated idempotency key from its table of results.  The key is the
caller's text, or a digest of the parameters; the actor and the partner's state are not part
of it.  This module runs holds, confirmations and cancellations of any actors one after the
other and says when every result belongs to the caller's own request.
-/

namespace Era.Providers

open Era.Core Era.Security

/-- The action types that change something at the partner. -/
inductive Mutation where
  | hold
  | irreversible (kind : Irreversible)
  deriving DecidableEq, Repr

def Mutation.actionType : Mutation → String
  | .hold => "booking.hold"
  | .irreversible kind => kind.actionType

def Mutation.path : Mutation → String
  | .hold => "/holds"
  | .irreversible .confirm => "/confirm"
  | .irreversible .cancel => "/cancel"

theorem Mutation.path_inj {left right : Mutation} (same : left.path = right.path) :
    left = right := by
  revert same
  rcases left with _ | _ | _ <;> rcases right with _ | _ | _ <;> decide

/-- A configured provider with its cap on amounts. -/
structure CappedProvider extends BookingProvider where
  maxAmountMinor : Int

/-- One call of `execute`, with the answers from outside: what resolving the key reference
comes to, the partner's reply and the expiry a hold gets by default. -/
structure BookingCall where
  actorId : String
  mutation : Mutation
  params : Params
  apiKey : Except Raised String
  reply : HttpReply
  expiry : String

section

variable (platform : Platform)

/-! ## Holds -/

/-- The offer that a hold is about: the first truthy parameter. -/
def offerReference (params : Params) : Value :=
  (((params.get "offer_ref").or (params.get "trip_id")).or (params.get "service_number")).or
    (params.get "booking_id")

/-- `_CURRENCY_RE.fullmatch`. -/
def isCurrencyCode (text : String) : Bool :=
  text.length == 3 && text.toList.all fun char => 'A' ≤ char ∧ char ≤ 'Z'

/-- `_amount`. -/
def bookingAmount (maxAmountMinor : Int) (params : Params) : Except Raised (Int × String) :=
  match params.get "amount_minor" with
  | .int amount =>
      if amount ≤ 0 then
        .error (bookingError .validation "amount_minor must be a positive integer")
      else if maxAmountMinor < amount then
        .error (bookingError .validation "amount_minor exceeds configured booking cap")
      else
        let currency :=
          platform.upper (((params.get "currency").or (.str "INR")).pyStr platform)
        if isCurrencyCode currency then .ok (amount, currency)
        else
          .error (bookingError .validation "currency must be an ISO-4217 three-letter code")
  | _ => .error (bookingError .validation "amount_minor must be a positive integer")

/-- `_validate_amount_if_present`, which requires the amount of a configured provider. -/
def validateAmount (maxAmountMinor : Int) (params : Params) : Except Raised Unit :=
  if params.contains "amount_minor" then
    (bookingAmount platform maxAmountMinor params).map fun _ => ()
  else
    .error (bookingError .validation "booking.hold requires integer 'amount_minor'")

/-- `_passengers`. -/
def passengers (params : Params) : Except Raised (List Value) :=
  match params.getOr "passengers" (params.get "guests") with
  | .none =>
      let name := params.get "passenger_name"
      .ok (if name.truthy then [.dict [("name", .str (name.pyStr platform))]] else [])
  | .list value =>
      if 10 < value.length then
        .error (bookingError .validation "passengers must be an array with at most 10 entries")
      else .ok value
  | _ =>
      .error (bookingError .validation "passengers must be an array with at most 10 entries")

/-- `validate` of a hold. -/
def validateHold (maxAmountMinor : Int) (params : Params) : Except Raised Unit :=
  let refused :=
    bookingError .validation "booking.hold requires 'offer_ref' or 'trip_id'"
  match offerReference params with
  | .str reference =>
      if pyStrip reference = "" then .error refused
      else validateAmount platform maxAmountMinor params
  | _ => .error refused

/-- The request of `_remote_hold`. -/
def holdRequest (maxAmountMinor : Int) (params : Params) (key : String) :
    Except Raised PartnerRequest :=
  match bookingAmount platform maxAmountMinor params with
  | .error failure => .error failure
  | .ok (amount, currency) =>
      match passengers platform params with
      | .error failure => .error failure
      | .ok travellers =>
          .ok {
            path := "/holds"
            payload := [
              ("offer_ref", .str ((offerReference params).pyStr platform)),
              ("amount_minor", .int amount), ("currency", .str currency),
              ("passengers", .list travellers)]
            idempotencyKey := key }

/-- What `_remote_hold` makes of the partner's answer. -/
def holdResult (maxAmountMinor : Int) (params : Params) (expiry : String) (response : Params) :
    Except Raised ProviderReturn :=
  match bookingAmount platform maxAmountMinor params with
  | .error failure => .error failure
  | .ok (amount, currency) =>
      let reference := firstOf platform response ["hold_ref", "id", "booking_ref"]
      if reference = "" then
        .error (bookingError .providerError "booking partner did not return a hold reference")
      else
        .ok (.actionResult true "booking hold created" [
          (some "hold_ref", .str reference), (some "status", .str "held"),
          (some "expires_at",
            .str (((response.get "expires_at").or (.str expiry)).pyStr platform)),
          (some "amount_minor", .int amount), (some "currency", .str currency)])

/-- `execute` of a hold, whose failures reach the caller as they are. -/
def CappedProvider.executeHold (provider : CappedProvider) (cache : IdempotentResults)
    (call : BookingCall) : BookingRun :=
  let stopped (answer : Except Raised ProviderReturn) : BookingRun :=
    { answer, sent := none, cache }
  match validateHold platform provider.maxAmountMinor call.params with
  | .error failure => stopped (.error failure)
  | .ok () =>
      match call.apiKey with
      | .error failure => stopped (.error failure)
      | .ok "" =>
          stopped (.error (bookingError .notImplemented
            "booking partner API key is not configured"))
      | .ok _ =>
          let key := idempotencyKey platform "booking.hold" call.params
          match cache.lookup ("booking.hold", key) with
          | some cached => stopped (.ok cached)
          | none =>
              match holdRequest platform provider.maxAmountMinor call.params key with
              | .error failure => stopped (.error failure)
              | .ok request =>
                  if (platform.lower provider.partnerUrl).startsWith "https://" then
                    let answer := (partnerCall call.reply).bind
                      (holdResult platform provider.maxAmountMinor call.params call.expiry)
                    { answer
                      sent := some request
                      cache := match answer with
                        | .ok result => (("booking.hold", key), result) :: cache
                        | .error _ => cache }
                  else
                    stopped (.error (bookingError .forbidden
                      "booking partner URL must use HTTPS"))

/-! ## Calls one after the other -/

/-- `execute` of a call. -/
def CappedProvider.perform (provider : CappedProvider) (cache : IdempotentResults)
    (call : BookingCall) : BookingRun :=
  match call.mutation with
  | .hold => provider.executeHold platform cache call
  | .irreversible kind =>
      provider.execute platform call.apiKey call.reply cache kind call.params

/-- The table after some calls. -/
def CappedProvider.cacheAfter (provider : CappedProvider) (calls : List BookingCall) :
    IdempotentResults :=
  calls.foldl (fun cache call => (provider.perform platform cache call).cache) []

/-- A call after others. -/
def CappedProvider.run (provider : CappedProvider) (before : List BookingCall)
    (call : BookingCall) : BookingRun :=
  provider.perform platform (provider.cacheAfter platform before) call

/-! ## What a call does by itself -/

/-- The checks of `execute` before the table is read. -/
def CappedProvider.prepare (provider : CappedProvider) (call : BookingCall) :
    Except Raised Unit :=
  match
    match call.mutation with
    | .hold => validateHold platform provider.maxAmountMinor call.params
    | .irreversible kind => kind.validate call.params with
  | .error failure => .error failure
  | .ok () =>
      match call.apiKey with
      | .error failure => .error failure
      | .ok "" =>
          .error (bookingError .notImplemented "booking partner API key is not configured")
      | .ok _ => .ok ()

def BookingCall.key (call : BookingCall) : String :=
  idempotencyKey platform call.mutation.actionType call.params

/-- Where the result of a call is kept. -/
def BookingCall.slot (call : BookingCall) : String × String :=
  (call.mutation.actionType, call.key platform)

/-- The request that the parameters of a call ask for. -/
def CappedProvider.request (provider : CappedProvider) (call : BookingCall) :
    Except Raised PartnerRequest :=
  match call.mutation with
  | .hold => holdRequest platform provider.maxAmountMinor call.params (call.key platform)
  | .irreversible kind => .ok (kind.request platform call.params (call.key platform))

/-- What a call makes of the partner's reply. -/
def CappedProvider.answer (provider : CappedProvider) (call : BookingCall) :
    Except Raised ProviderReturn :=
  match call.mutation with
  | .hold => (partnerCall call.reply).bind
      (holdResult platform provider.maxAmountMinor call.params call.expiry)
  | .irreversible kind => kind.answer platform call.reply call.params

def CappedProvider.usesHttps (provider : CappedProvider) : Bool :=
  (platform.lower provider.partnerUrl).startsWith "https://"

/-- The request of a call that finds no result, and its answer. -/
def CappedProvider.exchange (provider : CappedProvider) (call : BookingCall) :
    Option PartnerRequest × Except Raised ProviderReturn :=
  match provider.request platform call with
  | .error failure => (none, .error failure)
  | .ok request =>
      if provider.usesHttps platform then (some request, provider.answer platform call)
      else (none, .error (bookingError .forbidden "booking partner URL must use HTTPS"))

/-- The result that a call has when it finds none. -/
def CappedProvider.ownResult (provider : CappedProvider) (call : BookingCall) :
    Option ProviderReturn :=
  match provider.prepare platform call with
  | .error _ => none
  | .ok () => (provider.exchange platform call).2.toOption

end

section Facts

open Era.Lib

variable {platform : Platform} {provider : CappedProvider}

/-- A key reference that does not resolve to a key stops the call. -/
theorem match_apiKey {α : Type} (apiKey : Except Raised String) (stopped : Raised → α)
    (continued : α) :
    (match apiKey with
      | .error failure => stopped failure
      | .ok "" => stopped
          (bookingError .notImplemented "booking partner API key is not configured")
      | .ok _ => continued) =
    match (match apiKey with
      | .error failure => .error failure
      | .ok "" =>
          .error (bookingError .notImplemented "booking partner API key is not configured")
      | .ok _ => .ok () : Except Raised Unit) with
    | .error failure => stopped failure
    | .ok () => continued := by
  cases apiKey with
  | error failure => rfl
  | ok text =>
      by_cases blank : text = ""
      · subst blank
        rfl
      · simp [blank]

theorem perform_eq (cache : IdempotentResults) (call : BookingCall) :
    provider.perform platform cache call =
      match provider.prepare platform call with
      | .error failure => { answer := .error failure, sent := none, cache }
      | .ok () =>
          match cache.lookup (call.slot platform) with
          | some cached => { answer := .ok cached, sent := none, cache }
          | none =>
              let (sent, answer) := provider.exchange platform call
              { answer, sent
                cache := match answer with
                  | .ok result => (call.slot platform, result) :: cache
                  | .error _ => cache } := by
  obtain ⟨actorId, mutation, params, apiKey, reply, expiry⟩ := call
  cases mutation with
  | hold =>
      simp only [CappedProvider.perform, CappedProvider.executeHold, CappedProvider.prepare,
        BookingCall.slot, BookingCall.key, Mutation.actionType, CappedProvider.exchange,
        CappedProvider.request, CappedProvider.answer, CappedProvider.usesHttps]
      cases validateHold platform provider.maxAmountMinor params with
      | error failure => rfl
      | ok valid =>
          dsimp only
          let stopped (failure : Raised) : BookingRun := ⟨.error failure, none, cache⟩
          refine (match_apiKey apiKey stopped _).trans ?_
          congr 1
          funext _
          cases List.lookup ("booking.hold", idempotencyKey platform "booking.hold" params)
            cache with
          | some cached => rfl
          | none =>
              cases holdRequest platform provider.maxAmountMinor params
                (idempotencyKey platform "booking.hold" params) with
              | error failure => rfl
              | ok request =>
                  by_cases https : (platform.lower provider.partnerUrl).startsWith "https://"
                  · simp [https]
                  · simp [https]
  | irreversible kind =>
      simp only [CappedProvider.perform, BookingProvider.execute, CappedProvider.prepare,
        BookingCall.slot, BookingCall.key, Mutation.actionType, CappedProvider.exchange,
        CappedProvider.request, CappedProvider.answer, CappedProvider.usesHttps]
      cases kind.validate params with
      | error failure => rfl
      | ok valid =>
          dsimp only
          let stopped (failure : Raised) : BookingRun := ⟨.error failure, none, cache⟩
          refine (match_apiKey apiKey stopped _).trans ?_
          congr 1
          funext _
          cases List.lookup (kind.actionType, idempotencyKey platform kind.actionType params)
            cache with
          | some cached => rfl
          | none =>
              by_cases https : (platform.lower provider.partnerUrl).startsWith "https://"
              · simp only [https, Bool.not_true]
                rfl
              · simp [https]

/-- The table is a memo of the calls' own results. -/
theorem perform_cache (cache : IdempotentResults) (call : BookingCall) :
    (provider.perform platform cache call).cache =
      Memo.step (·.slot platform) (provider.ownResult platform) cache call := by
  rw [perform_eq, Memo.step, CappedProvider.ownResult]
  cases provider.prepare platform call with
  | error failure => cases cache.lookup (call.slot platform) <;> rfl
  | ok ready =>
      cases cache.lookup (call.slot platform) with
      | some cached => rfl
      | none =>
          dsimp only
          cases (provider.exchange platform call).2 with
          | error failure => rfl
          | ok result => rfl

theorem cacheAfter_eq (calls : List BookingCall) :
    provider.cacheAfter platform calls =
      Memo.after (·.slot platform) (provider.ownResult platform) calls := by
  simp only [CappedProvider.cacheAfter, Memo.after, perform_cache]

/-- The calls whose own result would be kept under a slot. -/
abbrev CappedProvider.Fills (provider : CappedProvider) (platform : Platform) :=
  Memo.Fills (BookingCall.slot platform) (provider.ownResult platform)

abbrev CappedProvider.FirstFill (provider : CappedProvider) (platform : Platform) :=
  Memo.FirstFill (BookingCall.slot platform) (provider.ownResult platform)

/-- A call is prepared, and either an earlier call filled its slot or it has a result of its
own. -/
def CappedProvider.Succeeds (provider : CappedProvider) (platform : Platform)
    (before : List BookingCall) (call : BookingCall) : Prop :=
  provider.prepare platform call = .ok () ∧
    ∃ filling ∈ before ++ [call], provider.Fills platform (call.slot platform) filling

theorem ownResult_prepared {call : BookingCall} {result : ProviderReturn}
    (own : provider.ownResult platform call = some result) :
    provider.prepare platform call = .ok () ∧
      (provider.exchange platform call).2 = .ok result := by
  unfold CappedProvider.ownResult at own
  split at own
  next => contradiction
  next ready =>
    refine ⟨ready, ?_⟩
    cases concluded : (provider.exchange platform call).2 with
    | error failure => simp [concluded, Except.toOption] at own
    | ok answer => simpa [concluded, Except.toOption] using own

/-- A result of its own comes from a request. -/
theorem ownResult_request {call : BookingCall} {result : ProviderReturn}
    (own : provider.ownResult platform call = some result) :
    ∃ request, provider.request platform call = .ok request ∧
      (provider.exchange platform call).1 = some request := by
  obtain ⟨_, concluded⟩ := ownResult_prepared own
  unfold CappedProvider.exchange at concluded ⊢
  split at concluded
  next => contradiction
  next request asked =>
    refine ⟨request, asked, ?_⟩
    split at concluded
    next https => simp [https]
    next => contradiction

theorem run_stopped {before : List BookingCall} {call : BookingCall} {failure : Raised}
    (refused : provider.prepare platform call = .error failure) :
    (provider.run platform before call).answer = .error failure ∧
      (provider.run platform before call).sent = none := by
  simp [CappedProvider.run, perform_eq, refused]

/-- A call with a filled slot is answered from the table. -/
theorem run_of_firstFill {earlier between : List BookingCall} {source call : BookingCall}
    (ready : provider.prepare platform call = .ok ())
    (first : provider.FirstFill platform (call.slot platform) earlier source)
    {result : ProviderReturn} (own : provider.ownResult platform source = some result) :
    (provider.run platform (earlier ++ source :: between) call).answer = .ok result ∧
      (provider.run platform (earlier ++ source :: between) call).sent = none := by
  rw [CappedProvider.run, perform_eq, ready, cacheAfter_eq, first.lookup, own]
  exact ⟨rfl, rfl⟩

/-- A call with an empty slot asks the partner. -/
theorem run_of_unfilled {before : List BookingCall} {call : BookingCall}
    (ready : provider.prepare platform call = .ok ())
    (unfilled : ∀ earlier ∈ before, ¬provider.Fills platform (call.slot platform) earlier) :
    (provider.run platform before call).answer = (provider.exchange platform call).2 ∧
      (provider.run platform before call).sent = (provider.exchange platform call).1 := by
  rw [CappedProvider.run, perform_eq, ready, cacheAfter_eq,
    Memo.lookup_after_eq_none.mpr unfilled]
  exact ⟨rfl, rfl⟩

/-- An answered call found the result of the first call that filled its slot, or has one of
its own. -/
theorem run_answered {before : List BookingCall} {call : BookingCall} {result : ProviderReturn}
    (answered : (provider.run platform before call).answer = .ok result) :
    provider.prepare platform call = .ok () ∧
      ((∀ earlier ∈ before, ¬provider.Fills platform (call.slot platform) earlier) ∧
          provider.ownResult platform call = some result ∨
        ∃ earlier source between, before = earlier ++ source :: between ∧
          provider.FirstFill platform (call.slot platform) earlier source ∧
          provider.ownResult platform source = some result) := by
  cases ready : provider.prepare platform call with
  | error failure => simp [(run_stopped ready).1] at answered
  | ok _ =>
      refine ⟨rfl, ?_⟩
      cases found : (Memo.after (BookingCall.slot platform) (provider.ownResult platform)
        before).lookup (call.slot platform) with
      | none =>
          have unfilled := Memo.lookup_after_eq_none.mp found
          rw [(run_of_unfilled ready unfilled).1] at answered
          refine .inl ⟨unfilled, ?_⟩
          simp [CappedProvider.ownResult, ready, answered, Except.toOption]
      | some cached =>
          obtain ⟨earlier, source, between, rfl, first, own⟩ := Memo.exists_firstFill found
          rw [(run_of_firstFill ready first own).1] at answered
          exact .inr ⟨earlier, source, between, rfl, first, own.trans (by simpa using answered)⟩

theorem succeeds_iff {before : List BookingCall} {call : BookingCall} :
    provider.Succeeds platform before call ↔
      ∃ result, (provider.run platform before call).answer = .ok result := by
  constructor
  · rintro ⟨ready, filling, member, fills⟩
    cases found : (Memo.after (BookingCall.slot platform) (provider.ownResult platform)
      before).lookup (call.slot platform) with
    | some cached =>
        obtain ⟨earlier, source, between, rfl, first, own⟩ := Memo.exists_firstFill found
        exact ⟨cached, (run_of_firstFill ready first own).1⟩
    | none =>
        have unfilled := Memo.lookup_after_eq_none.mp found
        obtain rfl : filling = call := by
          cases List.mem_append.mp member with
          | inl earlier => exact absurd fills (unfilled filling earlier)
          | inr itself => simpa using itself
        obtain ⟨result, own⟩ := Option.isSome_iff_exists.mp fills.2
        exact ⟨result, (run_of_unfilled ready unfilled).1.trans (ownResult_prepared own).2⟩
  · rintro ⟨result, answered⟩
    obtain ⟨ready, ⟨_, own⟩ | ⟨earlier, source, between, rfl, first, _⟩⟩ := run_answered answered
    · exact ⟨ready, call, by simp, rfl, by simp [own]⟩
    · exact ⟨ready, source, by simp, first.fills⟩

/-! ## Whose result it is -/

/-- Two requests ask the partner for the same thing. -/
structure SameRequest (platform : Platform) (asked own : PartnerRequest) : Prop where
  path : asked.path = own.path
  idempotencyKey : asked.idempotencyKey = own.idempotencyKey
  payload : canonicalJson platform (.dict asked.payload) =
    canonicalJson platform (.dict own.payload)

/-- Two calls are the same request of the same actor, up to the order of dictionary keys. -/
structure SameBooking (provider : CappedProvider) (platform : Platform)
    (source call : BookingCall) : Prop where
  actor : source.actorId = call.actorId
  params : canonicalJson platform (.dict source.params) =
    canonicalJson platform (.dict call.params)
  request : ∃ asked own, provider.request platform source = .ok asked ∧
    provider.request platform call = .ok own ∧ SameRequest platform asked own

/-- The booking that a result is about. -/
def bookingRef : ProviderReturn → Option String
  | .actionResult _ _ data =>
      match data.lookup (some "booking_ref") with
      | some (.str reference) => some reference
      | _ => none
  | .object _ => none

/-- A call asks to cancel the booking that a result is about. -/
def BookingCall.Cancels (platform : Platform) (call : BookingCall) (result : ProviderReturn) :
    Prop :=
  call.mutation = .irreversible .cancel ∧
    bookingRef result = some ((Irreversible.cancel.reference call.params).pyStr platform)

/-- One of the calls `between` cancels the booking of a result, and succeeds. -/
def CappedProvider.Cancelled (provider : CappedProvider) (platform : Platform)
    (before between : List BookingCall) (result : ProviderReturn) : Prop :=
  ∃ first cancel rest answer, between = first ++ cancel :: rest ∧
    cancel.Cancels platform result ∧
    (provider.run platform (before ++ first) cancel).answer = .ok answer

/-- A call asked the partner with a request of its own. -/
def CappedProvider.Asked (provider : CappedProvider) (platform : Platform)
    (before : List BookingCall) (call : BookingCall) : Prop :=
  ∃ request, provider.request platform call = .ok request ∧
    (provider.run platform before call).sent = some request

/-- A result is the partner's answer to the request of the call itself, or to the same
request that the same actor made before; in between, the booking was not cancelled. -/
def CappedProvider.OwnResult (provider : CappedProvider) (platform : Platform)
    (before : List BookingCall) (call : BookingCall) (result : ProviderReturn) : Prop :=
  provider.Asked platform before call ∨
    ∃ earlier source between, before = earlier ++ source :: between ∧
      SameBooking provider platform source call ∧ provider.Asked platform earlier source ∧
      (provider.run platform earlier source).answer = .ok result ∧
      (call.mutation = .irreversible .confirm →
        ¬provider.Cancelled platform (earlier ++ [source]) between result)

/-- The first call with a result under the slot of `call` is the same request of the same
actor, and no successful cancellation of its booking lies in between. -/
def CappedProvider.OwnSlot (provider : CappedProvider) (platform : Platform)
    (before : List BookingCall) (call : BookingCall) : Prop :=
  provider.prepare platform call = .ok () →
    ∀ earlier source between result, before = earlier ++ source :: between →
      provider.FirstFill platform (call.slot platform) earlier source →
      provider.ownResult platform source = some result →
        SameBooking provider platform source call ∧
          (call.mutation = .irreversible .confirm →
            ∀ first cancel rest, between = first ++ cancel :: rest →
              cancel.Cancels platform result →
                ¬provider.Succeeds platform (earlier ++ source :: first) cancel)

/-- Requests under one path and key belong to one slot. -/
theorem SameBooking.slot {source call : BookingCall}
    (same : SameBooking provider platform source call) :
    source.slot platform = call.slot platform := by
  have shape : ∀ {call : BookingCall} {request : PartnerRequest},
      provider.request platform call = .ok request →
        request.path = call.mutation.path ∧ request.idempotencyKey = call.key platform := by
    intro call request asked
    unfold CappedProvider.request at asked
    split at asked
    next mutation =>
      unfold holdRequest at asked
      split at asked
      next => contradiction
      next =>
        split at asked
        next => contradiction
        next =>
          obtain rfl := Except.ok.inj asked
          simp [mutation, Mutation.path]
    next kind mutation =>
      obtain rfl := Except.ok.inj asked
      rw [mutation]
      cases kind <;> exact ⟨rfl, rfl⟩
  obtain ⟨asked, own, sourceAsked, callAsked, request⟩ := same.request
  obtain ⟨sourcePath, sourceKey⟩ := shape sourceAsked
  obtain ⟨callPath, callKey⟩ := shape callAsked
  have mutation : source.mutation = call.mutation :=
    Mutation.path_inj (by rw [← sourcePath, request.path, callPath])
  unfold BookingCall.slot
  rw [mutation, ← sourceKey, request.idempotencyKey, callKey]

/-- A call that asked the partner and has a result is the first to fill its slot. -/
theorem firstFill_of_asked {earlier : List BookingCall} {source : BookingCall}
    {result : ProviderReturn} (asked : provider.Asked platform earlier source)
    (answered : (provider.run platform earlier source).answer = .ok result) :
    provider.FirstFill platform (source.slot platform) earlier source ∧
      provider.ownResult platform source = some result := by
  obtain ⟨request, _, sent⟩ := asked
  obtain ⟨ready, ⟨unfilled, own⟩ | ⟨before, filler, between, rfl, first, own⟩⟩ :=
    run_answered answered
  · exact ⟨⟨⟨rfl, by simp [own]⟩, unfilled⟩, own⟩
  · simp [(run_of_firstFill ready first own).2] at sent

/-- The first call that fills a slot asked the partner. -/
theorem asked_of_firstFill {earlier : List BookingCall} {source : BookingCall}
    {wanted : String × String} {result : ProviderReturn}
    (first : provider.FirstFill platform wanted earlier source)
    (own : provider.ownResult platform source = some result) :
    provider.Asked platform earlier source ∧
      (provider.run platform earlier source).answer = .ok result := by
  obtain ⟨ready, concluded⟩ := ownResult_prepared own
  obtain ⟨request, asked, sent⟩ := ownResult_request own
  obtain ⟨answered, same⟩ := run_of_unfilled ready
    (first.fills.1 ▸ first.unfilled)
  exact ⟨⟨request, asked, same.trans sent⟩, answered.trans concluded⟩

/-- A call returns its own result exactly if its slot is its own. -/
theorem ownResult_iff (before : List BookingCall) (call : BookingCall) :
    (∀ result, (provider.run platform before call).answer = .ok result →
      provider.OwnResult platform before call result) ↔
    provider.OwnSlot platform before call := by
  constructor
  · intro owned ready earlier source between result split first own
    subst split
    have found : (provider.run platform (earlier ++ source :: between) call).answer =
        .ok result ∧ (provider.run platform (earlier ++ source :: between) call).sent = none :=
      run_of_firstFill ready first own
    obtain ⟨answered, unsent⟩ := found
    obtain ⟨request, _, sent⟩ |
      ⟨earlier', source', between', split, same, asked, sourceAnswered, standing⟩ :=
        owned result answered
    · simp [unsent] at sent
    · obtain ⟨first', own'⟩ := firstFill_of_asked asked sourceAnswered
      rw [same.slot] at first'
      obtain ⟨rfl, rfl, rfl⟩ := first.unique first' split
      refine ⟨same, fun confirms upTo cancel rest inBetween cancels succeeds => ?_⟩
      obtain ⟨answer, cancelled⟩ := succeeds_iff.mp succeeds
      exact standing confirms
        ⟨upTo, cancel, rest, answer, inBetween, cancels, by simpa using cancelled⟩
  · intro ownSlot result answered
    obtain ⟨ready, ⟨unfilled, own⟩ | ⟨earlier, source, between, rfl, first, own⟩⟩ :=
      run_answered answered
    · obtain ⟨request, asked, sent⟩ := ownResult_request own
      exact .inl ⟨request, asked, (run_of_unfilled ready unfilled).2.trans sent⟩
    · obtain ⟨same, standing⟩ := ownSlot ready earlier source between result rfl first own
      obtain ⟨asked, sourceAnswered⟩ := asked_of_firstFill first own
      refine .inr ⟨earlier, source, between, rfl, same, asked, sourceAnswered, ?_⟩
      rintro confirms ⟨upTo, cancel, rest, answer, inBetween, cancels, cancelled⟩
      exact standing confirms upTo cancel rest inBetween cancels
        (succeeds_iff.mpr ⟨answer, by simpa using cancelled⟩)

/-- Every result of a sequence of calls belongs to the request of its caller. -/
def CappedProvider.OwnResults (provider : CappedProvider) (platform : Platform)
    (calls : List BookingCall) : Prop :=
  ∀ before call after result, calls = before ++ call :: after →
    (provider.run platform before call).answer = .ok result →
      provider.OwnResult platform before call result

/-- Results belong to the requests of their callers in exactly the sequences in which no
call meets the key of another actor's call, of a call with other parameters or of a
confirmation that was cancelled since. -/
theorem ownResults_iff (platform : Platform) (provider : CappedProvider)
    (calls : List BookingCall) :
    provider.OwnResults platform calls ↔
      ∀ before call after, calls = before ++ call :: after →
        provider.OwnSlot platform before call := by
  constructor
  · intro owned before call after split
    exact (ownResult_iff before call).mp fun result => owned before call after result split
  · intro ownSlots before call after result split
    exact (ownResult_iff before call).mpr (ownSlots before call after split) result

end Facts

namespace Demo

def travel : CappedProvider :=
  { partnerApiKeyRef := "key", partnerUrl := "https://partner.example"
    configured := partner_configured, maxAmountMinor := 10000000 }

/-- A confirmation under the key `trip`, to which the partner assigns a booking. -/
def confirms (actorId hold booking : String) : BookingCall :=
  { actorId, mutation := .irreversible .confirm
    params := [("hold_ref", .str hold), ("idempotency_key", .str "trip")]
    apiKey := .ok "key"
    reply := .success (.json (.dict [("booking_ref", .str booking)])), expiry := "" }

def cancels (actorId booking : String) : BookingCall :=
  { actorId, mutation := .irreversible .cancel
    params := [("booking_ref", .str booking)], apiKey := .ok "key"
    reply := .success (.json (.dict [])), expiry := "" }

end Demo

/-- Bob gets Alice's booking, and Alice gets a booking that she has cancelled. -/
theorem not_ownResults :
    ¬Demo.travel.OwnResults .plain
        [Demo.confirms "alice" "H-1" "B-1", Demo.confirms "bob" "H-2" "B-2"] ∧
      ¬Demo.travel.OwnResults .plain
        [Demo.confirms "alice" "H-1" "B-1", Demo.cancels "alice" "B-1",
          Demo.confirms "alice" "H-1" "B-2"] := by
  have confirmed : ((Demo.travel.ownResult .plain
      (Demo.confirms "alice" "H-1" "B-1")).bind bookingRef) = some "B-1" := by
    decide +kernel
  obtain ⟨result, own, about⟩ := Option.bind_eq_some_iff.mp confirmed
  have first : Demo.travel.FirstFill .plain ("booking.confirm", "trip") []
      (Demo.confirms "alice" "H-1" "B-1") :=
    ⟨⟨by decide +kernel, by simp [own]⟩, by simp⟩
  constructor
  · intro owned
    have slot := (ownResult_iff [Demo.confirms "alice" "H-1" "B-1"]
      (Demo.confirms "bob" "H-2" "B-2")).mp fun result => owned _ _ [] result rfl
    have sameKey : (Demo.confirms "bob" "H-2" "B-2").slot .plain =
        ("booking.confirm", "trip") := by decide +kernel
    have same := (slot (by decide +kernel) [] _ [] result rfl (sameKey ▸ first) own).1
    exact absurd same.actor (by decide)
  · intro owned
    have slot := (ownResult_iff
      [Demo.confirms "alice" "H-1" "B-1", Demo.cancels "alice" "B-1"]
      (Demo.confirms "alice" "H-1" "B-2")).mp fun result => owned _ _ [] result rfl
    have sameKey : (Demo.confirms "alice" "H-1" "B-2").slot .plain =
        ("booking.confirm", "trip") := by decide +kernel
    have standing := (slot (by decide +kernel) [] _ [Demo.cancels "alice" "B-1"] result rfl
      (sameKey ▸ first) own).2
    exact standing rfl [] _ [] rfl ⟨rfl, by rw [about]; decide +kernel⟩
      ⟨by decide +kernel, _, List.mem_append_right _ List.mem_cons_self, by decide +kernel⟩

end Era.Providers
