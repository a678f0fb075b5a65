import Era.Services.ApprovalRace

/-!
# The audit history of a confirmation

Whoever waits for a confirmation learns from its entries in the audit log what has become of
it.  As long as the confirmation is pending, none of these entries says so; a call on a resolved
confirmation adds one that does.
-/

namespace Era.Core

/-- The outcomes that leave open what becomes of a confirmation. -/
def Outcome.isOpen : Outcome → Bool
  | .authorized | .pending => true
  | .executed | .failed | .rejected | .deniedByPolicy | .deniedByUser | .expired => false

end Era.Core

namespace Era.Services

open Era.Core Era.Lib

/-! ## Histories -/

namespace Database

/-- The entries of the audit log for a confirmation. -/
def auditFor (db : Database) (id : String) : List AuditEntry :=
  db.auditLog.filter fun entry => entry.confirmationId == some id

/-- `SQLiteAuditRepo.list` for a confirmation; the oldest entries come first. -/
def auditPage (db : Database) (id : String) (limit : Nat) : List AuditEntry :=
  (db.auditFor id).take limit

/-- Nothing says what has become of the confirmation. -/
def Unresolved (db : Database) (id : String) : Prop :=
  ∀ entry ∈ db.auditFor id, entry.outcome.isOpen = true

variable {db : Database} {id : String}

theorem auditFor_congr {after : Database} (same : after.auditLog = db.auditLog) :
    after.auditFor id = db.auditFor id := by
  unfold auditFor
  rw [same]

theorem auditFor_appendAudit_self {entry : AuditEntry} (own : entry.confirmationId = some id) :
    (db.appendAudit entry).auditFor id = db.auditFor id ++ [entry] := by
  simp [auditFor, appendAudit, List.filter_append, own]

theorem auditFor_appendAudit_ne {entry : AuditEntry} (other : entry.confirmationId ≠ some id) :
    (db.appendAudit entry).auditFor id = db.auditFor id := by
  simp [auditFor, appendAudit, List.filter_append, other]

@[simp] theorem markStatus_auditLog (status : Status) (now : Instant) :
    (db.markStatus id status now).auditLog = db.auditLog := by
  unfold markStatus
  split <;> rfl

@[simp] theorem addApproval_auditLog (approval : ConfirmationApproval) :
    (db.addApproval approval).auditLog = db.auditLog := rfl

theorem Unresolved.congr {after : Database} (unresolved : db.Unresolved id)
    (same : after.auditLog = db.auditLog) : after.Unresolved id := by
  intro entry member
  rw [auditFor_congr same] at member
  exact unresolved entry member

theorem Unresolved.append {entry : AuditEntry} (unresolved : db.Unresolved id)
    (leaves_open : entry.confirmationId = some id → entry.outcome.isOpen = true) :
    (db.appendAudit entry).Unresolved id := by
  intro found member
  by_cases own : entry.confirmationId = some id
  · rw [auditFor_appendAudit_self own] at member
    obtain stored | added := List.mem_append.mp member
    · exact unresolved found stored
    · obtain rfl := List.mem_singleton.mp added
      exact leaves_open own
  · rw [auditFor_appendAudit_ne own] at member
    exact unresolved found member

theorem Unresolved.page {limit : Nat} (unresolved : db.Unresolved id) :
    ∀ entry ∈ db.auditPage id limit, entry.outcome.isOpen = true :=
  fun entry member => unresolved entry (List.mem_of_mem_take member)

end Database

/-! ## What the transaction of `approve` writes -/

section Body

variable {config : Config} {env : CallEnv} {call : ApproveCall} {row : PendingConfirmation}
variable {db : Database} {resolution : Resolution}

theorem Granted.auditLog_eq {after : Database} (granted : Granted call db after) :
    after.auditLog = db.auditLog := by
  cases granted <;> rfl

/-- The transaction appends one entry, for the confirmation that it has read. -/
structure Entered (call : ApproveCall) (row : PendingConfirmation) (db : Database)
    (resolution : Resolution) : Prop where
  confirmationId_eq : resolution.entry.confirmationId = some call.confirmationId
  of_resolved : row.status ≠ .pending →
    resolution.entry.outcome = .rejected ∨ resolution.entry.outcome = .deniedByPolicy
  of_closed : resolution.entry.outcome.isOpen = false → row.status ≠ .pending ∨
    ((db.confirmations call.confirmationId).isSome → resolution.db.Spent call.confirmationId)

theorem approveBody_entered (body : approveBody config env call (some row) db = .ok resolution) :
    Entered call row db resolution := by
  have marked {marks : Database} {status : Status} (final : status ≠ .pending)
      (same : marks.confirmations = db.confirmations)
      (known : (db.confirmations call.confirmationId).isSome) :
      (marks.markStatus call.confirmationId status env.markedAt).Spent call.confirmationId :=
    Database.spent_markStatus final (.inr ⟨rfl, by rw [same]; exact known⟩)
  simp only [approveBody] at body
  split at body
  · obtain rfl := Except.ok.inj body
    exact ⟨rfl, fun _ => .inr rfl, fun _ => .inr (marked (by decide) rfl)⟩
  · split at body
    · obtain rfl := Except.ok.inj body
      exact ⟨rfl, fun _ => .inl rfl, fun _ => .inr (marked (by decide) rfl)⟩
    · split at body
      next reason invalid =>
        split at body
        next resolved =>
          obtain rfl := Except.ok.inj body
          refine ⟨rfl, fun _ => .inl rfl, fun _ => .inl ?_⟩
          intro pending
          simp [pending] at resolved
        next unresolved =>
          have pending : row.status = .pending := by
            cases status : row.status <;> simp [status] at unresolved ⊢
          obtain rfl := Except.ok.inj body
          refine ⟨rfl, fun other => absurd pending other, fun _ => .inr (marked ?_ rfl)⟩
          split <;> decide
      next valid =>
        have pending := (validateConfirmation_ok valid).pending
        split at body
        · cases body
        next after outcome result checked =>
          obtain rfl := Except.ok.inj body
          have granted : Granted call db after := by
            split at checked
            next dual => exact (dualApproval_ok dual checked).1
            · cases checked
          exact ⟨rfl, fun other => absurd pending other,
            fun _ => .inr (marked (by decide) granted.confirmations_eq)⟩
        · obtain rfl := Except.ok.inj body
          exact ⟨rfl, fun other => absurd pending other, by rintro ⟨⟩⟩
        · obtain rfl := Except.ok.inj body
          exact ⟨rfl, fun other => absurd pending other, by rintro ⟨⟩⟩

/-- Nothing but the entry is added to the log. -/
theorem approveBody_auditLog {stored : Option PendingConfirmation}
    (body : approveBody config env call stored db = .ok resolution) :
    resolution.db.auditLog = db.auditLog := by
  cases approveBody_cases body with
  | unknown _ db_eq | redundant _ _ _ db_eq => rw [db_eq]
  | overruled _ _ _ db_eq | closed _ _ _ _ _ db_eq =>
      rw [db_eq]
      exact Database.markStatus_auditLog ..
  | refused _ after _ granted _ db_eq =>
      rw [db_eq, Database.markStatus_auditLog]
      exact granted.auditLog_eq
  | awaiting _ _ granted _ => exact granted.auditLog_eq
  | authorized _ after _ _ granted _ db_eq =>
      rw [db_eq, Database.markStatus_auditLog]
      exact granted.auditLog_eq

end Body

/-! ## What a dispatch writes -/

section Records

variable {config : Config} {state : ServiceState} {dispatch : Dispatch}

/-- A dispatch calls its provider and appends an entry with its outcome, or none if it breaks
off. -/
inductive DispatchRecord (dispatch : Dispatch) (state : ServiceState)
    (done : ServiceState × CallResult) : Option AuditEntry → Prop where
  | missing (calls : List Event) (called : ∀ event ∈ calls, event.providerCall? = some dispatch)
      (events : done.2.events = .dispatched dispatch :: calls)
      (unchanged : done.1.db = state.db) : DispatchRecord dispatch state done none
  | written (calls : List Event) (called : ∀ event ∈ calls, event.providerCall? = some dispatch)
      (record : AuditEntry) (outcome : DispatchOutcome)
      (outcome_eq : record.outcome = outcome.outcome)
      (confirmationId_eq : record.confirmationId = dispatch.confirmationId)
      (events : done.2.events = .dispatched dispatch :: (calls ++ [.audited record]))
      (appended : done.1.db = state.db.appendAudit record) :
      DispatchRecord dispatch state done (some record)

/-- What `_record` appends after a dispatch. -/
theorem recordResult_record (config : Config) (failure : Option Raised) (state : ServiceState)
    (dispatch : Dispatch) (ctx : ExecutionContext) (policyVersion : Int)
    (conclusion : Conclusion) :
    let recorded := recordResult config failure state dispatch ctx policyVersion conclusion
    (recorded.1.db = state.db ∧ recorded.2.events = []) ∨
      ∃ record, record.outcome = conclusion.outcome.outcome ∧
        record.confirmationId = dispatch.confirmationId ∧
        recorded.1.db = state.db.appendAudit record ∧ recorded.2.events = [.audited record] := by
  cases failure with
  | some failure => exact .inl ⟨rfl, rfl⟩
  | none => exact .inr ⟨_, rfl, rfl, rfl, rfl⟩

theorem dispatchAndRecord_record (config : Config) (env : DispatchEnv)
    (recordFailure : Option Raised) (state : ServiceState) (dispatch : Dispatch)
    (ctx : ExecutionContext) (policyVersion : Int) :
    ∃ record, DispatchRecord dispatch state
      (dispatchAndRecord config env recordFailure state dispatch ctx policyVersion) record := by
  unfold dispatchAndRecord
  split
  · obtain ⟨unchanged, silent⟩ | ⟨record, outcome, own, appended, shown⟩ :=
      recordResult_record config recordFailure state dispatch ctx policyVersion
        (.unsuccessful .rejected "no provider registered for action" .notImplemented)
    · refine ⟨none, .missing [] (by simp) ?_ unchanged⟩
      dsimp only
      rw [silent]
    · refine ⟨some record, .written [] (by simp) record .rejected outcome own ?_ appended⟩
      dsimp only
      rw [shown]
      rfl
  next provider _ =>
    dsimp only
    generalize
      runProvider config env provider dispatch.action ctx (state.breakers provider.id) = run
    have called : ∀ event ∈ run.events dispatch, event.providerCall? = some dispatch :=
      fun _ => ProviderRun.events_providerCall
    split
    · exact ⟨none, .missing _ called rfl rfl⟩
    next conclusion _ =>
      obtain ⟨unchanged, silent⟩ | ⟨record, outcome, own, appended, shown⟩ :=
        recordResult_record config recordFailure { state with breakers := _ } dispatch ctx
          policyVersion conclusion
      · refine ⟨none, .missing _ called ?_ unchanged⟩
        dsimp only
        rw [silent, List.append_nil]
      · refine ⟨some record, .written _ called record conclusion.outcome outcome own ?_ appended⟩
        dsimp only
        rw [shown]

end Records

/-! ## Whole runs -/

/-- Nothing in the log says what has become of a confirmation, unless it is resolved. -/
def Database.Open (db : Database) : Prop := ∀ id, db.Spent id ∨ db.Unresolved id

section Runs

variable {config : Config} {env : CallEnv} {state : ServiceState} {db : Database}

/-- An entry that is not about a confirmation, or leaves it open, keeps the log open. -/
theorem Database.Open.append {entry : AuditEntry} (isOpen : db.Open)
    (leaves_open : ∀ id, entry.confirmationId = some id → entry.outcome.isOpen = false →
      db.Spent id) : (db.appendAudit entry).Open := by
  intro id
  cases isOpen id with
  | inl spent => exact .inl spent
  | inr unresolved =>
      by_cases closes : entry.confirmationId = some id ∧ entry.outcome.isOpen = false
      · exact .inl (leaves_open id closes.1 closes.2)
      · refine .inr (unresolved.append fun own => ?_)
        exact Bool.eq_true_of_not_eq_false fun closed => closes ⟨own, closed⟩

theorem Database.Open.markStatus (isOpen : db.Open) (id : String) {status : Status}
    (final : status ≠ .pending) (now : Instant) : (db.markStatus id status now).Open := by
  intro other
  cases isOpen other with
  | inl spent => exact .inl (Database.spent_markStatus final (.inl spent))
  | inr unresolved => exact .inr (unresolved.congr (Database.markStatus_auditLog ..))

/-- What the transaction of `approve` commits. -/
theorem approveBody_open {call : ApproveCall} {resolution : Resolution}
    (body : approveBody config env call (db.confirmations call.confirmationId) db =
      .ok resolution)
    (isOpen : db.Open) : (resolution.db.appendAudit resolution.entry).Open := by
  have kept : resolution.db.Open := by
    intro id
    cases isOpen id with
    | inl spent => exact .inl (approveBody_spent body spent)
    | inr unresolved => exact .inr (unresolved.congr (approveBody_auditLog body))
  apply kept.append
  intro id own closed
  cases stored : db.confirmations call.confirmationId with
  | none =>
      rw [stored] at body
      obtain rfl := Except.ok.inj body
      cases own
  | some row =>
      have spends : db.Spent call.confirmationId → resolution.db.Spent call.confirmationId :=
        approveBody_spent body
      rw [stored] at body
      have entered := approveBody_entered body
      obtain rfl := Option.some.inj (entered.confirmationId_eq.symm.trans own)
      obtain resolved | spent := entered.of_closed closed
      · exact spends ⟨row, stored, resolved⟩
      · exact spent (by rw [stored]; rfl)

/-- What a dispatch on behalf of a confirmation that is spent records. -/
theorem dispatchAndRecord_open {dispatchEnv : DispatchEnv} {recordFailure : Option Raised}
    {dispatch : Dispatch} {ctx : ExecutionContext} {policyVersion : Int}
    (isOpen : state.db.Open)
    (spent : ∀ id, dispatch.confirmationId = some id → state.db.Spent id) :
    (dispatchAndRecord config dispatchEnv recordFailure state dispatch ctx
      policyVersion).1.db.Open := by
  obtain ⟨record, recorded⟩ :=
    dispatchAndRecord_record config dispatchEnv recordFailure state dispatch ctx policyVersion
  cases recorded with
  | missing _ _ _ unchanged => rwa [unchanged]
  | written _ _ record outcome _ own _ appended =>
      rw [appended]
      exact isOpen.append fun id same _ => spent id (own.symm.trans same)

theorem commitAnswer_open {after : Database} {entry : AuditEntry} {response : ExecutionResponse}
    (isOpen : state.db.Open) (committed : (after.appendAudit entry).Open) :
    (commitAnswer env state after entry response).1.db.Open := by
  unfold commitAnswer
  split
  · exact isOpen
  · exact committed

theorem commitDispatch_open {after : Database} {entry : AuditEntry} {dispatch : Dispatch}
    {ctx : ExecutionContext} {policyVersion : Int} (isOpen : state.db.Open)
    (committed : (after.appendAudit entry).Open)
    (spent : ∀ id, dispatch.confirmationId = some id → after.Spent id) :
    (commitDispatch config env state after entry dispatch ctx policyVersion).1.db.Open := by
  unfold commitDispatch
  split
  · exact isOpen
  · exact dispatchAndRecord_open committed spent

theorem request_open (isOpen : state.db.Open) (action : Action) (ctx : ExecutionContext) :
    (request config env state action ctx).1.db.Open := by
  have refused (entry : AuditEntry) (response : ExecutionResponse)
      (silent : entry.confirmationId = none) :
      (commitAnswer env state state.db entry response).1.db.Open := by
    refine commitAnswer_open isOpen (isOpen.append fun id own _ => ?_)
    cases silent.symm.trans own
  unfold request
  dsimp only
  split
  · exact refused _ _ rfl
  · split
    · exact refused _ _ rfl
    · exact refused _ _ rfl
    · exact commitDispatch_open isOpen (isOpen.append nofun) nofun
    · unfold requireConfirmation
      dsimp only
      split
      · exact isOpen
      · split
        · exact isOpen
        · split
          · exact isOpen
          next fresh =>
            refine commitAnswer_open isOpen (Database.Open.append ?_ nofun)
            intro id
            refine (isOpen id).imp ?_ fun unresolved => unresolved.congr rfl
            rintro ⟨row, stored, resolved⟩
            have different : id ≠ env.identifier := by
              rintro rfl
              cases stored.symm.trans fresh
            exact ⟨row, (Database.putConfirmation_confirmations_ne _ _ different).trans stored,
              resolved⟩

theorem approve_open (isOpen : state.db.Open) (call : ApproveCall) :
    (approve config env state call).1.db.Open := by
  unfold approve finishApprove
  split
  · exact isOpen
  next resolution body =>
    have committed := approveBody_open body isOpen
    split
    · exact commitAnswer_open isOpen committed
    next decision policyVersion ctx authorizes =>
      refine commitDispatch_open isOpen committed ?_
      rintro id ⟨⟩
      obtain ⟨⟨row, stored, -⟩, spends⟩ := approveBody_authorizes body authorizes
      exact spends (by rw [stored]; rfl)

theorem deny_open (isOpen : state.db.Open) (id : String) (ctx : ExecutionContext) :
    (deny config env state id ctx).1.db.Open := by
  unfold deny
  dsimp only
  split
  · exact isOpen
  next row stored =>
    split
    · exact isOpen
    · split
      · exact isOpen
      · refine commitAnswer_open isOpen ((isOpen.markStatus id (by decide) _).append ?_)
        rintro other ⟨⟩ _
        exact Database.spent_markStatus (by decide) (.inr ⟨rfl, by rw [stored]; rfl⟩)

/-- Every call keeps the log open. -/
theorem step_open (isOpen : state.db.Open) (call : Call) : (step config state call).1.db.Open := by
  obtain ⟨operation, env⟩ := call
  cases operation with
  | request action ctx => exact request_open isOpen action ctx
  | approve approveCall => exact approve_open isOpen approveCall
  | deny id ctx => exact deny_open isOpen id ctx
  | sweep order =>
      simp only [step, sweepStep]
      split
      · exact isOpen
      · dsimp only
        unfold Database.sweep
        generalize state.db.overdueRows env.now order = ids
        generalize state.db = db at isOpen
        induction ids generalizing db with
        | nil => exact isOpen
        | cons id rest ih => exact ih _ (isOpen.markStatus id (by decide) env.now)
  | operatorApproval id actorId status body =>
      simp only [step, operatorApproval]
      split
      · exact isOpen
      · exact isOpen
      · split
        · exact isOpen
        · exact fun id => (isOpen id).imp (fun spent => spent.congr rfl)
            fun unresolved => unresolved.congr rfl
  | createPolicyVersion document changedBy =>
      simp only [step, createPolicyVersion]
      split
      · exact isOpen
      · refine Database.Open.append ?_ ?_
        · exact fun id => (isOpen id).imp (fun spent => spent.congr rfl)
            fun unresolved => unresolved.congr rfl
        · intro _ named
          cases named

/-- Whatever calls come first, a confirmation that is pending is open in the log. -/
theorem unresolved_of_pending {policies : List Policy} {auditLog : List AuditEntry}
    {breakers : String → CircuitBreaker}
    (unrelated : ∀ entry ∈ auditLog, entry.confirmationId = none) (calls : List Call)
    {id : String}
    (pending : ((service config).stateAfter (initialState policies auditLog breakers)
      calls).db.statusOf id = some .pending) :
    ((service config).stateAfter (initialState policies auditLog breakers)
      calls).db.Unresolved id := by
  have initially : (initialState policies auditLog breakers).db.Open := by
    refine fun id => .inr fun entry member => ?_
    obtain ⟨stored, own⟩ := List.mem_filter.mp member
    simp [unrelated entry stored] at own
  have reached : ((service config).stateAfter (initialState policies auditLog breakers)
      calls).db.Open :=
    Machine.invariant (motive := fun state : ServiceState => state.db.Open) initially
      (fun _ call isOpen => step_open isOpen call) calls
  refine (reached id).resolve_left ?_
  rintro ⟨row, stored, resolved⟩
  rw [Database.statusOf, stored] at pending
  exact resolved (Option.some.inj pending)

end Runs

/-! ## Attempts on resolved confirmations -/

/-- What is added to the log of a confirmation does not say that anything has been executed. -/
def Database.AddsNoExecution (db after : Database) (id : String) : Prop :=
  ∃ more, after.auditFor id = db.auditFor id ++ more ∧ ∀ entry ∈ more, entry.outcome ≠ .executed

section Attempts

variable {config : Config} {env : CallEnv} {state : ServiceState} {db after : Database}
variable {id : String}

namespace Database.AddsNoExecution

theorem of_auditLog (same : after.auditLog = db.auditLog) : db.AddsNoExecution after id :=
  ⟨[], by rw [auditFor_congr same, List.append_nil], fun _ member => by cases member⟩

theorem append (adds : db.AddsNoExecution after id) {entry : AuditEntry}
    (quiet : entry.confirmationId = some id → entry.outcome ≠ .executed) :
    db.AddsNoExecution (after.appendAudit entry) id := by
  obtain ⟨more, extended, silent⟩ := adds
  by_cases own : entry.confirmationId = some id
  · refine ⟨more ++ [entry], ?_, fun other member => ?_⟩
    · rw [auditFor_appendAudit_self own, extended, List.append_assoc]
    · rcases List.mem_append.mp member with old | new
      · exact silent other old
      · rw [List.mem_singleton.mp new]
        exact quiet own
  · exact ⟨more, by rw [auditFor_appendAudit_ne own, extended], silent⟩

theorem trans {last : Database} (first : db.AddsNoExecution after id)
    (second : after.AddsNoExecution last id) : db.AddsNoExecution last id := by
  obtain ⟨more, extended, silent⟩ := first
  obtain ⟨rest, further, quiet⟩ := second
  refine ⟨more ++ rest, by rw [further, extended, List.append_assoc], fun entry member => ?_⟩
  rcases List.mem_append.mp member with early | late
  · exact silent entry early
  · exact quiet entry late

/-- A dispatch for something else adds nothing to the log of a confirmation. -/
theorem dispatch {dispatchEnv : DispatchEnv} {recordFailure : Option Raised} {dispatch : Dispatch}
    {ctx : ExecutionContext} {policyVersion : Int} (adds : db.AddsNoExecution state.db id)
    (other : dispatch.confirmationId ≠ some id) :
    db.AddsNoExecution (dispatchAndRecord config dispatchEnv recordFailure state dispatch ctx
      policyVersion).1.db id := by
  obtain ⟨record, recorded⟩ :=
    dispatchAndRecord_record config dispatchEnv recordFailure state dispatch ctx policyVersion
  cases recorded with
  | missing _ _ _ unchanged => rwa [unchanged]
  | written _ _ record outcome _ own _ appended =>
      rw [appended]
      exact adds.append fun same => absurd (own.symm.trans same) other

theorem commitAnswer {entry : AuditEntry} {response : ExecutionResponse}
    (adds : state.db.AddsNoExecution (after.appendAudit entry) id) :
    state.db.AddsNoExecution (commitAnswer env state after entry response).1.db id := by
  unfold Services.commitAnswer
  split
  · exact .of_auditLog rfl
  · exact adds

theorem commitDispatch {entry : AuditEntry} {dispatch : Dispatch} {ctx : ExecutionContext}
    {policyVersion : Int} (adds : state.db.AddsNoExecution (after.appendAudit entry) id)
    (other : dispatch.confirmationId ≠ some id) :
    state.db.AddsNoExecution
      (commitDispatch config env state after entry dispatch ctx policyVersion).1.db id := by
  unfold Services.commitDispatch
  split
  · exact .of_auditLog rfl
  · exact AddsNoExecution.dispatch adds other

theorem request (action : Action) (ctx : ExecutionContext) :
    state.db.AddsNoExecution (request config env state action ctx).1.db id := by
  have refused (entry : AuditEntry) (response : ExecutionResponse)
      (silent : entry.confirmationId = none) :
      state.db.AddsNoExecution (Services.commitAnswer env state state.db entry response).1.db id :=
    ((of_auditLog rfl).append fun own => by cases silent.symm.trans own).commitAnswer
  unfold Services.request
  dsimp only
  split
  · exact refused _ _ rfl
  · split
    · exact refused _ _ rfl
    · exact refused _ _ rfl
    · exact commitDispatch ((of_auditLog rfl).append nofun) nofun
    · unfold requireConfirmation
      dsimp only
      split
      · exact of_auditLog rfl
      · split
        · exact of_auditLog rfl
        · split
          · exact of_auditLog rfl
          · exact commitAnswer (append (of_auditLog rfl) fun _ => nofun)

theorem approve (spent : state.db.Spent id) (call : ApproveCall) :
    state.db.AddsNoExecution (approve config env state call).1.db id := by
  unfold Services.approve finishApprove
  split
  · exact of_auditLog rfl
  next resolution body =>
    have committed : state.db.AddsNoExecution (resolution.db.appendAudit resolution.entry) id := by
      refine append (of_auditLog (approveBody_auditLog body)) fun own => ?_
      obtain ⟨row, stored, resolved⟩ := spent
      cases found : state.db.confirmations call.confirmationId with
      | none =>
          rw [found] at body
          obtain rfl := Except.ok.inj body
          cases own
      | some other =>
          rw [found] at body
          have entered := approveBody_entered body
          obtain rfl := Option.some.inj (entered.confirmationId_eq.symm.trans own)
          obtain rfl := Option.some.inj (stored.symm.trans found)
          rcases entered.of_resolved resolved with rejected | denied
          · rw [rejected]
            nofun
          · rw [denied]
            nofun
    split
    · exact committed.commitAnswer
    next decision policyVersion ctx authorizes =>
      refine committed.commitDispatch ?_
      rintro ⟨⟩
      obtain ⟨⟨reading, read, pending⟩, -⟩ := approveBody_authorizes body authorizes
      obtain ⟨row, stored, resolved⟩ := spent
      obtain rfl := Option.some.inj (stored.symm.trans read)
      exact resolved pending

theorem deny (other : String) (ctx : ExecutionContext) :
    state.db.AddsNoExecution (deny config env state other ctx).1.db id := by
  unfold Services.deny
  dsimp only
  split
  · exact of_auditLog rfl
  · split
    · exact of_auditLog rfl
    · split
      · exact of_auditLog rfl
      · exact commitAnswer (append (of_auditLog (Database.markStatus_auditLog ..))
          fun _ executed => by cases executed)

/-- No call adds to the log of a resolved confirmation that its action has been executed. -/
theorem step (spent : state.db.Spent id) (call : Call) :
    state.db.AddsNoExecution (step config state call).1.db id := by
  obtain ⟨operation, env⟩ := call
  cases operation with
  | request action ctx => exact AddsNoExecution.request action ctx
  | approve approveCall => exact AddsNoExecution.approve spent approveCall
  | deny other ctx => exact AddsNoExecution.deny other ctx
  | sweep order =>
      simp only [Services.step, sweepStep]
      split
      · exact of_auditLog rfl
      · dsimp only
        unfold Database.sweep
        generalize state.db.overdueRows env.now order = ids
        refine of_auditLog ?_
        generalize state.db = db
        induction ids generalizing db with
        | nil => rfl
        | cons first rest ih => exact (ih _).trans (Database.markStatus_auditLog ..)
  | operatorApproval other actorId status body =>
      simp only [Services.step, operatorApproval]
      split
      · exact of_auditLog rfl
      · exact of_auditLog rfl
      · split <;> exact of_auditLog rfl
  | createPolicyVersion document changedBy =>
      simp only [Services.step, createPolicyVersion]
      split
      · exact of_auditLog rfl
      · exact append (of_auditLog rfl) (by rintro ⟨⟩)

end Database.AddsNoExecution

/-- No call makes a resolved confirmation pending. -/
theorem step_spent (spent : state.db.Spent id) (call : Call) :
    (step config state call).1.db.Spent id := by
  obtain ⟨row, stored, resolved⟩ := spent
  have moved := step_row config state call id
  rw [stored] at moved
  unfold Database.Spent
  revert moved
  generalize (step config state call).1.db.confirmations id = found
  intro moved
  cases moved with
  | same => exact ⟨row, rfl, resolved⟩
  | closed _ status at_ pending _ => exact absurd pending resolved
  | consumed _ approveCall at_ _ =>
      exact ⟨row.marked .used at_, rfl, (by decide : Status.used ≠ .pending)⟩
  | overruled _ at_ _ =>
      exact ⟨row.marked .denied at_, rfl, (by decide : Status.denied ≠ .pending)⟩

/-- However often it is tried to resolve a confirmation again, nothing is executed for it. -/
theorem attempts_addNoExecution (spent : state.db.Spent id) (calls : List Call) :
    state.db.AddsNoExecution ((service config).stateAfter state calls).db id := by
  have preserved (other : ServiceState) (call : Call)
      (holds : other.db.Spent id ∧ state.db.AddsNoExecution other.db id) :
      ((service config).step other call).1.db.Spent id ∧
        state.db.AddsNoExecution ((service config).step other call).1.db id :=
    ⟨step_spent holds.1 call, holds.2.trans (.step holds.1 call)⟩
  exact (Machine.invariant (motive := fun other : ServiceState =>
    other.db.Spent id ∧ state.db.AddsNoExecution other.db id) ⟨spent, .of_auditLog rfl⟩
      preserved calls).2

end Attempts

theorem demo_attempts :
    ∃ used, used = (service Demo.config).stateAfter Demo.start Demo.consumed ∧
      used.db.Spent "confirmation" ∧ used.db.AddsNoExecution
        ((service Demo.config).stateAfter used Demo.consumed).db "confirmation" :=
  have used : (((service Demo.config).stateAfter Demo.start Demo.consumed).db.confirmations
      "confirmation").map PendingConfirmation.status = some .used := by decide +kernel
  have spent : ((service Demo.config).stateAfter Demo.start Demo.consumed).db.Spent
      "confirmation" :=
    (Option.map_eq_some_iff.mp used).imp fun _ row => ⟨row.1, by simp [row.2]⟩
  ⟨_, rfl, spent, attempts_addNoExecution spent Demo.consumed⟩

end Era.Services
