import Era.Services.AuditHistory
import Era.Workflows.Waiting

/-!
# What becomes of approved steps

A resume learns from the oldest entries of the audit log what has become of the action of an
approved step.  Calls of `approve` on a confirmation that is resolved already leave entries of
their own there.
-/

namespace Era.Workflows

open Era.Core Era.Services

/-! ## Outcomes in the log -/

/-- The outcomes that a resume takes for the end of a dispatch. -/
def looksTerminal (outcome : Outcome) : Bool :=
  [Outcome.executed, .failed, .rejected, .deniedByUser, .deniedByPolicy].contains outcome

section Log

variable {earlier later : List Outcome} {outcome : Outcome}

theorem dispatchOutcome_eq (entries : List Outcome) :
    dispatchOutcome entries = (entries.filter looksTerminal).getLast? := rfl

theorem dispatchOutcome_eq_none (silent : ∀ other ∈ later, looksTerminal other = false) :
    dispatchOutcome later = none := by
  rw [dispatchOutcome_eq, List.getLast?_eq_none_iff, List.filter_eq_nil_iff]
  intro other member
  exact Bool.eq_false_iff.mp (silent other member)

theorem mem_of_dispatchOutcome (found : dispatchOutcome later = some outcome) :
    outcome ∈ later :=
  (List.mem_filter.mp (List.mem_of_getLast? found)).1

/-- The last outcome that looks terminal is taken. -/
theorem dispatchOutcome_append_cons (terminal : looksTerminal outcome = true) :
    dispatchOutcome (earlier ++ outcome :: later) =
      (dispatchOutcome later).or (some outcome) := by
  rw [dispatchOutcome_eq, dispatchOutcome_eq, List.filter_append,
    List.filter_cons_of_pos terminal, List.getLast?_append, List.getLast?_cons]
  cases (later.filter looksTerminal).getLast? <;> rfl

end Log

/-! ## Confirmations that have been dispatched once -/

/-- The log of a confirmation whose dispatch has been recorded.  Around its entry there may be
others, of which none says that anything has been executed. -/
structure RecordedOnce (db : Database) (id : String) (before : List AuditEntry)
    (terminal : AuditEntry) (after : List AuditEntry) : Prop where
  entries : db.auditFor id = before ++ terminal :: after
  dispatched : terminal.outcome = .executed ∨ terminal.outcome = .failed ∨
    terminal.outcome = .rejected
  single : ∀ entry ∈ before ++ after, entry.outcome ≠ .executed

section Resumes

variable (service : WorkflowService) (db : Database) (run : WorkflowRun)
variable (rows : List WorkflowStepRun) (reading : Reading) (index : Nat)

/-- What the next resume makes of a step that waits for a confirmation; it reads the oldest fifty
entries of the confirmation. -/
def resumedStep (id : String) : WaitingOutcome :=
  handleWaitingStep service db.statusOf run rows
    { reading with outcomes := (db.auditPage id 50).map AuditEntry.outcome } index

/-- The step is settled as its dispatch has ended; what has been executed must meet the
post-condition of the step. -/
structure SettledByDispatch (id : String) (terminal : AuditEntry) : Prop where
  completes : resumedStep service db run rows reading index id = .next ↔
    terminal.outcome = .executed ∧ (postCondition service run reading).1 = true
  fails : (∃ message, resumedStep service db run rows reading index id = .failed message) ↔
    terminal.outcome = .failed ∨ terminal.outcome = .rejected ∨
      (postCondition service run reading).1 = false

/-- What completes an approved step. -/
def Completes (id : String) : Prop :=
  (postCondition service run reading).1 = true ∧
    dispatchOutcome ((db.auditPage id 50).map AuditEntry.outcome) = some .executed

/-- What completes the step is the last entry of the page that looks terminal, and no attempt has
changed the status of the confirmation. -/
def ShownLast (id : String) (before : List AuditEntry) (terminal : AuditEntry)
    (after : List AuditEntry) : Prop :=
  if terminal.outcome = .executed ∧ (postCondition service run reading).1 = true then
    db.statusOf id = some .used ∧ before.length < 50 ∧
      ∀ entry ∈ after.take (49 - before.length), looksTerminal entry.outcome = false
  else db.statusOf id ≠ some .pending ∧ db.statusOf id ≠ some .denied

end Resumes

section Settled

variable {service : WorkflowService} {db : Database} {run : WorkflowRun}
variable {rows : List WorkflowStepRun} {reading : Reading} {index : Nat} {id : String}
variable {before after : List AuditEntry} {terminal : AuditEntry}

/-- A page that reaches the dispatch, and goes on behind it. -/
theorem RecordedOnce.page_eq (history : RecordedOnce db id before terminal after)
    (reached : before.length < 50) :
    db.auditPage id 50 = before ++ terminal :: after.take (49 - before.length) := by
  have room : 50 - before.length = 49 - before.length + 1 := by omega
  unfold Database.auditPage
  rw [history.entries, List.take_append, List.take_of_length_le reached.le, room,
    List.take_succ_cons]

/-- Execution is read off the log exactly if its entry is the last on the page to look
terminal. -/
theorem RecordedOnce.executed_iff (history : RecordedOnce db id before terminal after) :
    dispatchOutcome ((db.auditPage id 50).map AuditEntry.outcome) = some .executed ↔
      terminal.outcome = .executed ∧ before.length < 50 ∧
        ∀ entry ∈ after.take (49 - before.length), looksTerminal entry.outcome = false := by
  constructor
  · intro found
    obtain ⟨entry, shown, executed⟩ := List.mem_map.mp (mem_of_dispatchOutcome found)
    have reached : before.length < 50 := by
      by_contra beyond
      have within_before : entry ∈ before := by
        unfold Database.auditPage at shown
        rw [history.entries, List.take_append_of_le_length (not_lt.mp beyond)] at shown
        exact List.mem_of_mem_take shown
      exact history.single entry (List.mem_append_left after within_before) executed
    rw [history.page_eq reached] at shown found
    have is_terminal : terminal.outcome = .executed := by
      rcases List.mem_append.mp shown with earlier | later
      · exact absurd executed (history.single entry (List.mem_append_left after earlier))
      · rcases List.mem_cons.mp later with rfl | later
        · exact executed
        · exact absurd executed
            (history.single entry (List.mem_append_right before (List.mem_of_mem_take later)))
    refine ⟨is_terminal, reached, fun other behind => ?_⟩
    by_contra looks
    have shown_later : ∃ outcome, dispatchOutcome
        ((after.take (49 - before.length)).map AuditEntry.outcome) = some outcome := by
      obtain ⟨front, back, split⟩ := List.append_of_mem behind
      rw [split, List.map_append, List.map_cons,
        dispatchOutcome_append_cons (Bool.eq_true_of_not_eq_false looks)]
      cases dispatchOutcome (back.map AuditEntry.outcome) with
      | none => exact ⟨other.outcome, rfl⟩
      | some outcome => exact ⟨outcome, rfl⟩
    obtain ⟨outcome, outcome_eq⟩ := shown_later
    rw [List.map_append, List.map_cons, dispatchOutcome_append_cons (by rw [is_terminal]; rfl),
      outcome_eq, Option.some_or] at found
    obtain ⟨last, last_shown, last_outcome⟩ :=
      List.mem_map.mp (mem_of_dispatchOutcome outcome_eq)
    exact history.single last (List.mem_append_right before (List.mem_of_mem_take last_shown))
      (last_outcome.trans (Option.some.inj found))
  · rintro ⟨executed, reached, silent⟩
    rw [history.page_eq reached, List.map_append, List.map_cons,
      dispatchOutcome_append_cons (by rw [executed]; rfl), dispatchOutcome_eq_none, executed]
    · rfl
    · intro outcome member
      obtain ⟨entry, behind, rfl⟩ := List.mem_map.mp member
      exact silent entry behind

/-- A resume reads the status of the confirmation first, and the log of an approved one. -/
theorem resumedStep_eq (waits : confirmationAt rows index = some id) :
    resumedStep service db run rows reading index id =
      match db.statusOf id with
      | none => .failed "confirmation record is missing"
      | some .pending => .stillWaiting
      | some .used =>
          match dispatchOutcome ((db.auditPage id 50).map AuditEntry.outcome) with
          | some .executed =>
              if (postCondition service run reading).1 then .next
              else .failed "approved step failed post-condition revalidation"
          | some outcome =>
              .failed ("approved step dispatch did not succeed (outcome=" ++ outcome.value ++ ")")
          | none => .failed "approved step has no recorded dispatch outcome"
      | some .denied =>
          match reading.stepDef.map WorkflowStep.onDenied with
          | some .skip => .deniedSkip
          | _ => .deniedStop
      | some .expired => .failed "confirmation expired" := by
  unfold resumedStep handleWaitingStep
  rw [waits]
  rfl

/-- An approved step is completed, or fails. -/
theorem resumedStep_used (waits : confirmationAt rows index = some id)
    (used : db.statusOf id = some .used) :
    (resumedStep service db run rows reading index id = .next ∧
        Completes service db run reading id) ∨
      ∃ message, resumedStep service db run rows reading index id = .failed message ∧
        ¬Completes service db run reading id := by
  unfold Completes
  rw [resumedStep_eq waits, used]
  dsimp only
  cases found : dispatchOutcome ((db.auditPage id 50).map AuditEntry.outcome) with
  | none => exact .inr ⟨_, rfl, by simp⟩
  | some outcome =>
      cases outcome with
      | executed =>
          dsimp only
          split
          next holds => exact .inl ⟨rfl, holds, rfl⟩
          next violated => exact .inr ⟨_, rfl, fun completes => violated completes.1⟩
      | _ => exact .inr ⟨_, rfl, by simp⟩

/-- A step whose confirmation is not used is not completed, and fails unless it waits on or is
denied. -/
theorem resumedStep_not_used (waits : confirmationAt rows index = some id)
    (unused : db.statusOf id ≠ some .used) :
    resumedStep service db run rows reading index id ≠ .next ∧
      ((∃ message, resumedStep service db run rows reading index id = .failed message) ↔
        db.statusOf id ≠ some .pending ∧ db.statusOf id ≠ some .denied) := by
  rw [resumedStep_eq waits]
  cases status : db.statusOf id with
  | none => simp
  | some status' =>
      cases status' with
      | pending | expired => simp
      | denied =>
          dsimp only
          split <;> simp
      | used => exact absurd status unused

/-- An approved step is settled by its dispatch exactly if the page shows the end of the dispatch
last. -/
theorem settledByDispatch_iff (waits : confirmationAt rows index = some id)
    (history : RecordedOnce db id before terminal after) :
    SettledByDispatch service db run rows reading index id terminal ↔
      ShownLast service db run reading id before terminal after := by
  unfold ShownLast
  by_cases completed :
      terminal.outcome = .executed ∧ (postCondition service run reading).1 = true
  · rw [if_pos completed, ← and_assoc]
    constructor
    · intro settled
      have next := settled.completes.mpr completed
      have used : db.statusOf id = some .used := by
        by_contra unused
        exact (resumedStep_not_used waits unused).1 next
      rcases resumedStep_used waits used with ⟨-, completes⟩ | ⟨message, failed, -⟩
      · obtain ⟨-, reached, silent⟩ := history.executed_iff.mp completes.2
        exact ⟨⟨used, reached⟩, silent⟩
      · rw [next] at failed
        cases failed
    · rintro ⟨⟨used, reached⟩, silent⟩
      have shown := history.executed_iff.mpr ⟨completed.1, reached, silent⟩
      rcases resumedStep_used waits used with ⟨next, -⟩ | ⟨message, -, incomplete⟩
      · refine ⟨iff_of_true next completed, iff_of_false ?_ ?_⟩
        · rintro ⟨message, failed⟩
          rw [next] at failed
          cases failed
        · rw [completed.1, completed.2]
          simp
      · exact absurd ⟨completed.2, shown⟩ incomplete
  · rw [if_neg completed]
    have incomplete : ¬Completes service db run reading id := fun completes =>
      completed ⟨(history.executed_iff.mp completes.2).1, completes.1⟩
    have has_failed : terminal.outcome = .failed ∨ terminal.outcome = .rejected ∨
        (postCondition service run reading).1 = false := by
      rcases history.dispatched with executed | failed | rejected
      · exact .inr (.inr (Bool.eq_false_of_not_eq_true fun holds => completed ⟨executed, holds⟩))
      · exact .inl failed
      · exact .inr (.inl rejected)
    by_cases used : db.statusOf id = some .used
    · rcases resumedStep_used waits used with ⟨-, completes⟩ | ⟨message, failed, -⟩
      · exact absurd completes incomplete
      · refine iff_of_true ⟨iff_of_false ?_ completed, iff_of_true ⟨message, failed⟩ has_failed⟩
          (by rw [used]; simp)
        rw [failed]
        nofun
    · obtain ⟨not_next, failed_iff⟩ :=
        @resumedStep_not_used service db run rows reading index id waits used
      rw [← failed_iff]
      exact ⟨fun settled => settled.fails.mpr has_failed, fun failed =>
        ⟨iff_of_false not_next completed, iff_of_true failed has_failed⟩⟩

end Settled

namespace Demo

/-- The database after a write has been approved, and approved again a number of times. -/
def approvedAgain (attempts : Nat) : Database :=
  ((Services.service Services.Demo.config).stateAfter Services.Demo.start
    (Services.Demo.consumed ++ List.replicate attempts
      { operation := .approve Services.Demo.approve, env := Services.Demo.env })).db

/-- The step that waits for the approval. -/
def waitingRows : List WorkflowStepRun :=
  [{ status := .waiting, confirmationId := some "confirmation" }]

def approvedRun : WorkflowRun :=
  newRun service { name := "write", steps := [{ id := "first", action := "fs.write" }] }
    { runId := "run", params := [] } { actorId := "alice" }

theorem waits_waitingRows : confirmationAt waitingRows 0 = some "confirmation" := by
  decide +kernel

theorem postCondition_approvedRun : (postCondition service approvedRun {}).1 = true := rfl

/-- The entries of the confirmation, and what they say. -/
theorem approvedAgain_log (attempts : Nat) (outcomes : List Outcome)
    (log : ((approvedAgain attempts).auditFor "confirmation").map AuditEntry.outcome =
      .pending :: .authorized :: .executed :: outcomes)
    (quiet : ∀ outcome ∈ outcomes, outcome ≠ .executed) :
    ∃ before terminal after,
      RecordedOnce (approvedAgain attempts) "confirmation" before terminal after ∧
        terminal.outcome = .executed ∧ before.length = 2 ∧
        after.map AuditEntry.outcome = outcomes := by
  obtain ⟨asked, _, entries, is_asked, log⟩ := List.map_eq_cons_iff.mp log
  obtain ⟨granted, _, rfl, is_granted, log⟩ := List.map_eq_cons_iff.mp log
  obtain ⟨terminal, after, rfl, executed, log⟩ := List.map_eq_cons_iff.mp log
  refine ⟨[asked, granted], terminal, after, ⟨entries, .inl executed, fun entry member => ?_⟩,
    executed, rfl, log⟩
  rcases List.mem_append.mp member with earlier | later
  · rcases List.mem_cons.mp earlier with rfl | other
    · rw [is_asked]
      decide
    · rw [List.mem_singleton.mp other, is_granted]
      decide
  · exact quiet entry.outcome (log ▸ List.mem_map_of_mem later)

end Demo

theorem settledByDispatch_demo : ∃ terminal,
    SettledByDispatch Demo.service (Demo.approvedAgain 0) Demo.approvedRun Demo.waitingRows {} 0
      "confirmation" terminal := by
  obtain ⟨before, terminal, after, history, executed, length, log⟩ :=
    Demo.approvedAgain_log 0 [] (by decide +kernel) (by decide)
  rw [List.map_eq_nil_iff] at log
  refine ⟨terminal, (settledByDispatch_iff Demo.waits_waitingRows history).mpr ?_⟩
  unfold ShownLast
  rw [if_pos ⟨executed, Demo.postCondition_approvedRun⟩, length, log]
  exact ⟨by decide +kernel, by decide, fun _ member => by cases member⟩

/-- An attempt to approve once more fails a step that has been executed. -/
theorem not_settledByDispatch : ∃ before terminal after,
    RecordedOnce (Demo.approvedAgain 1) "confirmation" before terminal after ∧
      ¬SettledByDispatch Demo.service (Demo.approvedAgain 1) Demo.approvedRun Demo.waitingRows {} 0
        "confirmation" terminal := by
  obtain ⟨before, terminal, after, history, executed, -⟩ :=
    Demo.approvedAgain_log 1 [.rejected] (by decide +kernel) (by decide)
  refine ⟨before, terminal, after, history, fun settled => ?_⟩
  have next := settled.completes.mpr ⟨executed, Demo.postCondition_approvedRun⟩
  have used : (Demo.approvedAgain 1).statusOf "confirmation" = some .used := by decide +kernel
  rcases resumedStep_used Demo.waits_waitingRows used with ⟨-, completes⟩ | ⟨message, failed, -⟩
  · have rejected : dispatchOutcome (((Demo.approvedAgain 1).auditPage "confirmation" 50).map
        AuditEntry.outcome) = some .rejected := by
      decide +kernel
    have executes := completes.2
    rw [rejected] at executes
    cases executes
  · rw [next] at failed
    cases failed

end Era.Workflows
