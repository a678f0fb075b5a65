import Era.Services.System

/-!
# Terminal statuses

`validate`, `deny` and the sweeper look at the status of a confirmation before
they write it.  The forbidden branch and the cross-actor branch of `approve` do
not, and these two are the only ways out of a terminal status.
-/

namespace Era.Services

open Era.Core Era.Lib

/-- In a run, a status that is not pending never changes again. -/
def TerminalStatusAbsorbing (config : Config) (start : ServiceState) (calls : List Call) : Prop :=
  ∀ earlier middle later, calls = earlier ++ middle ++ later → ∀ id status, status ≠ .pending →
    ((service config).stateAfter start earlier).db.statusOf id = some status →
    ((service config).stateAfter start (earlier ++ middle)).db.statusOf id = some status

/-- A call does not take the forbidden or the cross-actor branch of `approve` on a
confirmation that is used or expired. -/
def RespectsTerminal (config : Config) (state : ServiceState) (call : Call) : Prop :=
  ∀ id row, state.db.confirmations id = some row → row.status = .used ∨ row.status = .expired →
    ¬Overrules config call id row

section

variable {config : Config} {state : ServiceState} {call : Call} {id : String}
variable {row : PendingConfirmation}

/-- The branches of `approve` that overrule a confirmation deny it. -/
theorem approveBody_overruled {approveCall : ApproveCall} (env : CallEnv) (db : Database)
    (overruled : (config.forbidden row.actionType = true ∨
      config.forbidden approveCall.action.actionType = true) ∨ belongsToAnother row approveCall) :
    ∃ resolution response, approveBody config env approveCall (some row) db = .ok resolution ∧
      resolution.db = db.markStatus approveCall.confirmationId .denied env.markedAt ∧
      resolution.verdict = .answered response := by
  simp only [approveBody]
  split
  · exact ⟨_, _, rfl, rfl, rfl⟩
  next permitted =>
    rw [if_pos (overruled.resolve_left permitted)]
    exact ⟨_, _, rfl, rfl, rfl⟩

theorem step_overruled (stored : state.db.confirmations id = some row)
    (overrules : Overrules config call id row) :
    (step config state call).1.db.statusOf id = some .denied := by
  obtain ⟨approveCall, operation, rfl, why⟩ := overrules.approves
  obtain ⟨resolution, response, body, db_eq, verdict⟩ :=
    approveBody_overruled call.env state.db why
  simp only [step, operation, approve, stored, body, finishApprove, verdict, commitAnswer,
    overrules.committed, Database.statusOf, Database.appendAudit_confirmations, db_eq,
    Database.markStatus_confirmations_self stored, Option.map_some,
    PendingConfirmation.marked]

/-- Without an overruling call a terminal status survives the step. -/
theorem step_terminal (respects : RespectsTerminal config state call) {status : Status}
    (terminal : status ≠ .pending) (before : state.db.statusOf id = some status) :
    (step config state call).1.db.statusOf id = some status := by
  have changed := step_row config state call id
  obtain ⟨row, stored, rfl⟩ : ∃ row, state.db.confirmations id = some row ∧
      row.status = status := by simpa [Database.statusOf] using before
  simp only [Database.statusOf]
  rw [stored] at changed
  generalize (step config state call).1.db.confirmations id = after at changed
  cases changed with
  | same _ => rfl
  | closed _ _ _ pending _ => exact absurd pending terminal
  | consumed _ _ _ consumes => exact absurd consumes.accepted.valid.pending terminal
  | overruled _ _ overrules =>
      have notReopened : ¬(row.status = .used ∨ row.status = .expired) :=
        fun reopened => respects id row stored reopened overrules
      have denied : row.status = .denied := by
        cases status : row.status <;> simp [status] at terminal notReopened ⊢
      simp [PendingConfirmation.marked, denied]

end

/-- Terminal statuses are absorbing in exactly the runs whose calls never take the
forbidden or the cross-actor branch of `approve` on a used or expired
confirmation. -/
theorem terminalStatusAbsorbing_iff (config : Config) (start : ServiceState)
    (calls : List Call) :
    TerminalStatusAbsorbing config start calls ↔
      (service config).Admits (RespectsTerminal config) start calls := by
  constructor
  · intro absorbing earlier call later calls_eq id row stored reopened overrules
    have terminal : row.status ≠ .pending := by
      cases reopened with
      | inl used => simp [used]
      | inr expired => simp [expired]
    have kept := absorbing earlier [call] later (by simp [calls_eq]) id row.status terminal
      (by simp [Database.statusOf, stored])
    have denied := step_overruled stored overrules
    rw [Machine.stateAfter_append] at kept
    change (step config ((service config).stateAfter start earlier) call).1.db.statusOf id =
      _ at kept
    rw [denied] at kept
    cases reopened with
    | inl used => simp [used] at kept
    | inr expired => simp [expired] at kept
  · rintro admitted earlier middle later rfl id status terminal before
    rw [Machine.stateAfter_append]
    have middleAdmitted := admitted.left.right
    exact Machine.invariant_of_admits (motive := fun state => state.db.statusOf id = some status)
      before (fun state call kept respects => step_terminal respects terminal kept)
      middleAdmitted

/-- Bob presents the confirmation that Alice has used. -/
def presentedByBob : Call :=
  { operation := .approve { Demo.approve with ctx := { actorId := "bob" } }, env := Demo.env }

theorem not_terminalStatusAbsorbing :
    ¬TerminalStatusAbsorbing Demo.config Demo.start (Demo.consumed ++ [presentedByBob]) := by
  intro absorbing
  have used : ((service Demo.config).stateAfter Demo.start Demo.consumed).db.statusOf
      "confirmation" = some .used := by
    decide +kernel
  have denied : ((service Demo.config).stateAfter Demo.start
      (Demo.consumed ++ [presentedByBob])).db.statusOf "confirmation" = some .denied := by
    decide +kernel
  have kept := absorbing Demo.consumed [presentedByBob] [] rfl "confirmation" .used (by decide)
    used
  rw [denied] at kept
  cases kept

end Era.Services
