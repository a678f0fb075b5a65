import Era.Services.System

/-!
# Where stored confirmations come from

Every confirmation of a run was created by one earlier `request`, and since then
only its status and its `used_at` column have changed.
-/

namespace Era.Services

open Era.Core Era.Lib

/-- Two rows agree on every column that `mark_status` does not write. -/
def PendingConfirmation.SameTerms (row issued : PendingConfirmation) : Prop :=
  ∃ status usedAt, row = { issued with status, usedAt }

theorem PendingConfirmation.SameTerms.refl (row : PendingConfirmation) : row.SameTerms row :=
  ⟨row.status, row.usedAt, rfl⟩

theorem PendingConfirmation.SameTerms.marked {row issued : PendingConfirmation}
    (same : row.SameTerms issued) (status : Status) (at_ : String) :
    (row.marked status at_).SameTerms issued := by
  obtain ⟨_, _, rfl⟩ := same
  exact ⟨status, some at_, rfl⟩

/-- The call of a run that created a confirmation, and the row as it created it. -/
structure IssuedIn (config : Config) (start : ServiceState) (calls : List Call) (id : String)
    (row : PendingConfirmation) (earlier : List Call) (call : Call) (later : List Call)
    (action : Action) (ctx : ExecutionContext) (issued : PendingConfirmation) : Prop where
  calls_eq : calls = earlier ++ call :: later
  creates : Creates config ((service config).stateAfter start earlier) call id action ctx issued
  sameTerms : row.SameTerms issued

theorem IssuedIn.extend {config : Config} {start : ServiceState} {calls : List Call}
    {id : String} {row changed : PendingConfirmation} {earlier later : List Call} {call : Call}
    {action : Action} {ctx : ExecutionContext} {issued : PendingConfirmation}
    (issuedIn : IssuedIn config start calls id row earlier call later action ctx issued)
    (next : Call) (sameTerms : changed.SameTerms issued) :
    IssuedIn config start (calls ++ [next]) id changed earlier call (later ++ [next]) action
      ctx issued :=
  ⟨by simp [issuedIn.calls_eq], issuedIn.creates, sameTerms⟩

/-- By induction on the run: a call creates a row or changes nothing but the
columns of `mark_status`. -/
theorem exists_issuedIn (config : Config) (policies : List Policy) (auditLog : List AuditEntry)
    (breakers : String → CircuitBreaker) (calls : List Call) {id : String}
    {row : PendingConfirmation}
    (stored : ((service config).stateAfter (initialState policies auditLog breakers)
      calls).db.confirmations id = some row) :
    ∃ earlier call later action ctx issued, IssuedIn config
      (initialState policies auditLog breakers) calls id row earlier call later action ctx
      issued := by
  revert row
  refine (service config).run_induction (motive := fun calls state => ∀ {row},
    state.db.confirmations id = some row → ∃ earlier call later action ctx issued,
      IssuedIn config (initialState policies auditLog breakers) calls id row earlier call later
        action ctx issued) (initialState policies auditLog breakers) ?_ ?_ calls
  · intro row stored
    simp [initialState] at stored
  · intro before call ih row stored
    have changed := step_row config
      ((service config).stateAfter (initialState policies auditLog breakers) before) call id
    change RowStep _ _ _ _ _ (((service config).step _ call).1.db.confirmations id) at changed
    rw [stored] at changed
    generalize previous : ((service config).stateAfter (initialState policies auditLog breakers)
      before).db.confirmations id = row? at changed
    cases changed with
    | same _ =>
        obtain ⟨earlier, issuer, later, action, ctx, issued, issuedIn⟩ := ih previous
        exact ⟨earlier, issuer, later ++ [call], action, ctx, issued,
          issuedIn.extend call issuedIn.sameTerms⟩
    | created action ctx _ creates =>
        exact ⟨before, call, [], action, ctx, row, rfl, creates, .refl row⟩
    | closed old status at_ _ _ | consumed old _ at_ _ | overruled old at_ _ =>
        obtain ⟨earlier, issuer, later, action, ctx, issued, issuedIn⟩ := ih previous
        exact ⟨earlier, issuer, later ++ [call], action, ctx, issued,
          issuedIn.extend call (issuedIn.sameTerms.marked _ at_)⟩

/-- A stored confirmation asks for a confirmation. -/
theorem stored_confirms {config : Config} {policies : List Policy} {auditLog : List AuditEntry}
    {breakers : String → CircuitBreaker} {calls : List Call} {id : String}
    {row : PendingConfirmation}
    (stored : ((service config).stateAfter (initialState policies auditLog breakers)
      calls).db.confirmations id = some row) :
    row.decision = .confirm ∨ row.decision = .confirmStrong := by
  obtain ⟨_, _, _, _, _, issued, issuedIn⟩ :=
    exists_issuedIn config policies auditLog breakers calls stored
  obtain ⟨_, _, rfl⟩ := issuedIn.sameTerms
  exact issuedIn.creates.confirms

end Era.Services
