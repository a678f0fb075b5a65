import Era.Agents.Loop
import Era.Services.AuditHistory

/-!
# The resolution of confirmations

A run that is continued learns from the audit log, and from the status where the log is silent,
what has become of a confirmation that it waits for.
-/

namespace Era.Agents

open Era.Core Era.Services

/-- `_RESOLVED_OUTCOMES`. -/
def resolvedOutcome : Outcome → Option ResolutionOutcome
  | .executed => some .executed
  | .failed | .rejected => some .failed
  | .deniedByUser => some .denied
  | .expired => some .expired
  | .authorized | .pending | .deniedByPolicy => none

/-- `_resolve_one`: the outcome and the note of the resolution. -/
def resolveOne (db : Database) (confirmationId : String) : Option (ResolutionOutcome × String) :=
  let found := (db.auditPage confirmationId 10).findSome? fun entry =>
    (resolvedOutcome entry.outcome).map fun outcome => (outcome, entry.result.getD "")
  match found, db.statusOf confirmationId with
  | some resolution, _ => some resolution
  | none, some .used => some (.failed, "approval used but no execution result recorded")
  | none, some .denied => some (.denied, "confirmation denied")
  | none, some .expired => some (.expired, "confirmation expired")
  | none, some .pending | none, none => none

theorem resolvedOutcome_of_isOpen {outcome : Outcome} (isOpen : outcome.isOpen = true) :
    resolvedOutcome outcome = none := by
  cases outcome <;> first | rfl | cases isOpen

section Unresolved

variable {db : Database} {id : String}

/-- Where the log is silent the status decides. -/
theorem resolveOne_of_unresolved (unresolved : db.Unresolved id) :
    resolveOne db id =
      match db.statusOf id with
      | some .used => some (.failed, "approval used but no execution result recorded")
      | some .denied => some (.denied, "confirmation denied")
      | some .expired => some (.expired, "confirmation expired")
      | some .pending | none => none := by
  have silent : (db.auditPage id 10).findSome? (fun entry =>
      (resolvedOutcome entry.outcome).map fun outcome => (outcome, entry.result.getD "")) =
        none := by
    rw [List.findSome?_eq_none_iff]
    intro entry member
    rw [resolvedOutcome_of_isOpen (unresolved.page entry member)]
    rfl
  unfold resolveOne
  rw [silent]
  cases db.statusOf id with
  | none => rfl
  | some status => cases status <;> rfl

end Unresolved

/-! ## Confirmations that have been dispatched -/

/-- The entries of a confirmation whose dispatch has been recorded.  Before it there are entries
that resolve nothing, and attempts to resolve it again that have been rejected. -/
structure Dispatched (db : Database) (id : String) (before : List AuditEntry)
    (terminal : AuditEntry) (after : List AuditEntry) : Prop where
  entries : db.auditFor id = before ++ terminal :: after
  earlier : ∀ entry ∈ before,
    resolvedOutcome entry.outcome = none ∨ entry.outcome = .rejected
  dispatched : terminal.outcome = .executed ∨ terminal.outcome = .failed ∨
    terminal.outcome = .rejected

/-- The confirmation resolves to the outcome of its dispatch. -/
def ResolvesToDispatch (db : Database) (id : String) (terminal : AuditEntry) : Prop :=
  (resolveOne db id).map Prod.fst = resolvedOutcome terminal.outcome

/-- What was executed is found if it is on the page and no rejected attempt comes before it.
What has failed is also taken from a rejected attempt, or from the status. -/
def ShownOnPage (db : Database) (id : String) (before : List AuditEntry)
    (terminal : AuditEntry) : Prop :=
  if terminal.outcome = .executed then
    before.length < 10 ∧ ∀ entry ∈ before, entry.outcome ≠ .rejected
  else
    before.length < 10 ∨ (∃ entry ∈ before.take 10, entry.outcome = .rejected) ∨
      db.statusOf id = some .used

section Dispatched

variable {db : Database} {id : String} {before after : List AuditEntry} {terminal : AuditEntry}

/-- The first entry of the page that resolves the confirmation. -/
def pageOutcome (db : Database) (id : String) : Option ResolutionOutcome :=
  (db.auditPage id 10).findSome? fun entry => resolvedOutcome entry.outcome

theorem resolveOne_fst (db : Database) (id : String) :
    (resolveOne db id).map Prod.fst = (pageOutcome db id).or
      (match db.statusOf id with
        | some .used => some .failed
        | some .denied => some .denied
        | some .expired => some .expired
        | some .pending | none => none) := by
  have page : pageOutcome db id = ((db.auditPage id 10).findSome? fun entry =>
      (resolvedOutcome entry.outcome).map fun outcome =>
        (outcome, entry.result.getD "")).map Prod.fst := by
    unfold pageOutcome
    induction db.auditPage id 10 with
    | nil => rfl
    | cons entry rest ih =>
        rw [List.findSome?_cons, List.findSome?_cons]
        cases resolvedOutcome entry.outcome with
        | none => exact ih
        | some outcome => rfl
  rw [page]
  unfold resolveOne
  dsimp only
  cases (db.auditPage id 10).findSome? (fun entry =>
      (resolvedOutcome entry.outcome).map fun outcome => (outcome, entry.result.getD "")) with
  | some resolution => rfl
  | none =>
      cases db.statusOf id with
      | none => rfl
      | some status => cases status <;> rfl

theorem Dispatched.pageOutcome_eq (history : Dispatched db id before terminal after) :
    pageOutcome db id =
      ((before.take 10).findSome? fun entry => resolvedOutcome entry.outcome).or
        (((terminal :: after).take (10 - before.length)).findSome? fun entry =>
          resolvedOutcome entry.outcome) := by
  unfold pageOutcome Database.auditPage
  rw [history.entries, List.take_append, List.findSome?_append]

/-- A rejected attempt on the page stands in for the dispatch. -/
theorem Dispatched.pageOutcome_rejected (history : Dispatched db id before terminal after)
    (rejected : ∃ entry ∈ before.take 10, entry.outcome = .rejected) :
    pageOutcome db id = some .failed := by
  obtain ⟨attempt, member, is_rejected⟩ := rejected
  have found : ((before.take 10).findSome? fun entry =>
      resolvedOutcome entry.outcome).isSome = true :=
    List.findSome?_isSome_iff.mpr ⟨attempt, member, by rw [is_rejected]; rfl⟩
  obtain ⟨outcome, outcome_eq⟩ := Option.isSome_iff_exists.mp found
  obtain ⟨entry, shown, resolved⟩ := List.exists_of_findSome?_eq_some outcome_eq
  have is_failed : outcome = .failed := by
    obtain silent | attempted := history.earlier entry (List.mem_of_mem_take shown)
    · rw [silent] at resolved
      cases resolved
    · rw [attempted] at resolved
      exact (Option.some.inj resolved).symm
  rw [history.pageOutcome_eq, outcome_eq, is_failed]
  rfl

theorem Dispatched.pageOutcome_quiet (history : Dispatched db id before terminal after)
    (quiet : ∀ entry ∈ before.take 10, entry.outcome ≠ .rejected) :
    pageOutcome db id =
      if before.length < 10 then resolvedOutcome terminal.outcome else none := by
  have nothing : (before.take 10).findSome? (fun entry => resolvedOutcome entry.outcome) =
      none := by
    rw [List.findSome?_eq_none_iff]
    intro entry shown
    exact (history.earlier entry (List.mem_of_mem_take shown)).resolve_right (quiet entry shown)
  rw [history.pageOutcome_eq, nothing, Option.none_or]
  split
  next short =>
    obtain ⟨count, room⟩ : ∃ count, 10 - before.length = count + 1 := ⟨9 - before.length, by omega⟩
    rw [room, List.take_succ_cons, List.findSome?_cons]
    rcases history.dispatched with outcome | outcome | outcome <;> rw [outcome] <;> rfl
  next long =>
    rw [Nat.sub_eq_zero_of_le (not_lt.mp long)]
    rfl

/-- A dispatch that has failed is taken for failed wherever anything tells of it. -/
theorem Dispatched.failed_iff (history : Dispatched db id before terminal after)
    (failed : resolvedOutcome terminal.outcome = some .failed) :
    (resolveOne db id).map Prod.fst = some .failed ↔
      before.length < 10 ∨ (∃ entry ∈ before.take 10, entry.outcome = .rejected) ∨
        db.statusOf id = some .used := by
  rw [resolveOne_fst]
  by_cases rejected : ∃ entry ∈ before.take 10, entry.outcome = .rejected
  · rw [history.pageOutcome_rejected rejected]
    exact iff_of_true rfl (.inr (.inl rejected))
  · rw [history.pageOutcome_quiet fun entry shown is_rejected =>
      rejected ⟨entry, shown, is_rejected⟩]
    by_cases short : before.length < 10
    · rw [if_pos short, failed]
      exact iff_of_true rfl (.inl short)
    · rw [if_neg short, Option.none_or]
      simp only [short, rejected, false_or]
      cases db.statusOf id with
      | none => simp
      | some status => cases status <;> simp

/-- A dispatch that has executed is found on the page or not at all. -/
theorem Dispatched.executed_iff (history : Dispatched db id before terminal after)
    (executed : resolvedOutcome terminal.outcome = some .executed) :
    (resolveOne db id).map Prod.fst = some .executed ↔
      before.length < 10 ∧ ∀ entry ∈ before, entry.outcome ≠ .rejected := by
  rw [resolveOne_fst]
  by_cases rejected : ∃ entry ∈ before.take 10, entry.outcome = .rejected
  · rw [history.pageOutcome_rejected rejected]
    obtain ⟨attempt, shown, is_rejected⟩ := rejected
    exact iff_of_false (by simp) fun quiet =>
      quiet.2 attempt (List.mem_of_mem_take shown) is_rejected
  · rw [history.pageOutcome_quiet fun entry shown is_rejected =>
      rejected ⟨entry, shown, is_rejected⟩]
    by_cases short : before.length < 10
    · rw [if_pos short, executed]
      rw [List.take_of_length_le short.le] at rejected
      exact iff_of_true rfl ⟨short, fun entry member is_rejected =>
        rejected ⟨entry, member, is_rejected⟩⟩
    · rw [if_neg short, Option.none_or]
      refine iff_of_false ?_ fun shown => short shown.1
      cases db.statusOf id with
      | none => simp
      | some status => cases status <;> simp

/-- What a confirmation resolves to is the outcome of its dispatch exactly if its page shows
it. -/
theorem resolvesToDispatch_iff (history : Dispatched db id before terminal after) :
    ResolvesToDispatch db id terminal ↔ ShownOnPage db id before terminal := by
  unfold ResolvesToDispatch ShownOnPage
  rcases history.dispatched with outcome | outcome | outcome
  · rw [if_pos outcome, outcome]
    exact history.executed_iff (by rw [outcome]; rfl)
  · rw [if_neg (by rw [outcome]; decide), outcome]
    exact history.failed_iff (by rw [outcome]; rfl)
  · rw [if_neg (by rw [outcome]; decide), outcome]
    exact history.failed_iff (by rw [outcome]; rfl)

end Dispatched

namespace Demo

/-- An entry for a confirmation of a payment. -/
def paymentEntry (outcome : Outcome) : AuditEntry :=
  { actorId := "alice", actionType := "payment.charge", actionParams := [],
    riskLevel := "FINANCIAL", decision := .confirmStrong, outcome, policyVersion := 1,
    appVersion := "1", confirmationId := some "payment", result := none, errorCode := none,
    providerId := none, capabilityDomain := none, credentialRef := none }

/-- The database after a payment that has waited for a second approval for some time. -/
def paid (waits : Nat) : Database :=
  { confirmations := fun _ => none, approvals := [], policies := []
    auditLog := List.replicate waits (paymentEntry .pending) ++
      [paymentEntry .authorized, paymentEntry .executed] }

theorem paid_dispatched (waits : Nat) : Dispatched (paid waits) "payment"
    (List.replicate waits (paymentEntry .pending) ++ [paymentEntry .authorized])
    (paymentEntry .executed) [] := by
  refine ⟨?_, ?_, .inl rfl⟩
  · simp [Database.auditFor, paid, paymentEntry]
  · intro entry member
    obtain waiting | authorized := List.mem_append.mp member
    · rw [List.eq_of_mem_replicate waiting]
      exact .inl rfl
    · rw [List.mem_singleton.mp authorized]
      exact .inl rfl

end Demo

theorem resolvesToDispatch_demo :
    ResolvesToDispatch (Demo.paid 8) "payment" (Demo.paymentEntry .executed) :=
  (resolvesToDispatch_iff (Demo.paid_dispatched 8)).mpr ⟨by decide, by
    intro entry member
    obtain waiting | authorized := List.mem_append.mp member
    · rw [List.eq_of_mem_replicate waiting]
      decide
    · rw [List.mem_singleton.mp authorized]
      decide⟩

/-- Nine entries of waiting and one of authorization fill the page. -/
theorem not_resolvesToDispatch :
    Dispatched (Demo.paid 9) "payment"
        (List.replicate 9 (Demo.paymentEntry .pending) ++ [Demo.paymentEntry .authorized])
        (Demo.paymentEntry .executed) [] ∧
      ¬ResolvesToDispatch (Demo.paid 9) "payment" (Demo.paymentEntry .executed) := by
  refine ⟨Demo.paid_dispatched 9, fun resolves => ?_⟩
  unfold ResolvesToDispatch at resolves
  revert resolves
  decide

end Era.Agents
