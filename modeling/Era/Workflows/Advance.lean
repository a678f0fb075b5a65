import Mathlib.Algebra.Group.Action.Defs
import Mathlib.Algebra.BigOperators.Group.Finset.Basic
import Mathlib.Algebra.Order.BigOperators.Group.Finset
import Era.Workflows.Rest

/-!
# One call alone

While one call runs and no other interferes, steps only move forward: a pending step is
claimed, skipped or left alone, a running or waiting step is settled, and a settled step
stays as it is.  A call sees this from the rows that it has read at the head of its loop to
the rows that are stored.
-/

namespace Era.Workflows

open Era.Core Era.Lib Era.Services

/-! ## Later rows -/

/-- How far a step is from being settled. -/
def StepStatus.left : StepStatus → Nat
  | .pending => 2
  | .running | .waiting => 1
  | .completed | .failed | .ambiguous | .cancelled | .skipped | .skippedConditional => 0

theorem StepStatus.left_le (status : StepStatus) : status.left ≤ 2 := by
  cases status <;> simp [StepStatus.left]

theorem StepStatus.left_lt {status : StepStatus} (claimed : status ≠ .pending) :
    status.left < StepStatus.left .pending := by
  cases status <;> first | exact absurd rfl claimed | simp [StepStatus.left]

/-- Rows of the same steps, read later: no step has moved back, and what was settled is as it
was. -/
structure Since (earlier later : List WorkflowStepRun) : Prop where
  left_le : ∀ index, (statusAt later index).left ≤ (statusAt earlier index).left
  kept : ∀ (index : Nat) (row : WorkflowStepRun), earlier[index]? = some row →
    row.status.settled = true → later[index]? = some row

/-- Some step has moved forward. -/
def Moved (earlier later : List WorkflowStepRun) : Prop :=
  ∃ index, (statusAt later index).left < (statusAt earlier index).left

/-- How far the first steps of a run are from being settled, all together. -/
def remaining (count : Nat) (rows : List WorkflowStepRun) : Nat :=
  ∑ index ∈ Finset.range count, (statusAt rows index).left

theorem Since.refl (rows : List WorkflowStepRun) : Since rows rows :=
  ⟨fun _ => le_rfl, fun _ _ found _ => found⟩

theorem Since.trans {earlier middle later : List WorkflowStepRun}
    (first : Since earlier middle) (second : Since middle later) : Since earlier later :=
  ⟨fun index => (second.left_le index).trans (first.left_le index),
    fun index row found settled =>
      second.kept index row (first.kept index row found settled) settled⟩

/-- A row that is not settled is replaced by one that is not further from it. -/
theorem Since.set {rows : List WorkflowStepRun} {index : Nat} {row changed : WorkflowStepRun}
    (found : rows[index]? = some row) (unsettled : row.status.settled = false)
    (closer : changed.status.left ≤ row.status.left) : Since rows (rows.set index changed) := by
  have status_eq : statusAt rows index = row.status := by rw [statusAt, found]; rfl
  constructor
  · intro other
    by_cases same : other = index
    · rw [same, statusAt_set_self found, status_eq]
      exact closer
    · rw [statusAt_set_ne rows changed same]
  · intro other settled_row stored settled
    have different : index ≠ other := by
      rintro rfl
      rw [found] at stored
      cases stored
      exact Bool.false_ne_true (unsettled.symm.trans settled)
    rwa [List.getElem?_set_ne different]

theorem modify_of_found {rows : List WorkflowStepRun} {index : Nat} {row : WorkflowStepRun}
    (change : WorkflowStepRun → WorkflowStepRun) (found : rows[index]? = some row) :
    rows.modify index change = rows.set index (change row) := by
  obtain ⟨bound, rfl⟩ := List.getElem?_eq_some_iff.mp found
  apply List.ext_getElem?
  intro other
  rw [List.getElem?_modify, List.getElem?_set]
  split
  next same =>
    subst same
    simp [bound]
  next => simp

theorem Since.modify {rows : List WorkflowStepRun} {index : Nat}
    {change : WorkflowStepRun → WorkflowStepRun}
    (unsettled : ∀ row, rows[index]? = some row → row.status.settled = false)
    (closer : ∀ row, rows[index]? = some row → (change row).status.left ≤ row.status.left) :
    Since rows (rows.modify index change) := by
  cases found : rows[index]? with
  | none =>
      rw [List.modify_eq_self (List.getElem?_eq_none_iff.mp found)]
      exact .refl rows
  | some row =>
      rw [modify_of_found change found]
      exact .set found (unsettled _ found) (closer _ found)

theorem Since.claimed {earlier later : List WorkflowStepRun} (since : Since earlier later)
    {index : Nat} (claimed : statusAt earlier index ≠ .pending) :
    statusAt later index ≠ .pending := by
  intro pending
  have closer := since.left_le index
  rw [pending] at closer
  exact absurd closer (Nat.not_le.mpr (StepStatus.left_lt claimed))

theorem Moved.since {earlier middle later : List WorkflowStepRun}
    (moved : Moved earlier middle) (since : Since middle later) : Moved earlier later := by
  obtain ⟨index, closer⟩ := moved
  exact ⟨index, (since.left_le index).trans_lt closer⟩

/-- A step that was pending has been claimed. -/
theorem Moved.of_claimed {earlier later : List WorkflowStepRun} {index : Nat}
    (pending : statusAt earlier index = .pending) (claimed : statusAt later index ≠ .pending) :
    Moved earlier later := by
  refine ⟨index, ?_⟩
  rw [pending]
  exact StepStatus.left_lt claimed

theorem remaining_le (count : Nat) (rows : List WorkflowStepRun) :
    remaining count rows ≤ 2 * count := by
  have bounded := Finset.sum_le_card_nsmul (Finset.range count)
    (fun index => (statusAt rows index).left) 2 (fun _ _ => StepStatus.left_le _)
  rw [Finset.card_range, smul_eq_mul] at bounded
  rw [remaining]
  omega

theorem Since.remaining_le {earlier later : List WorkflowStepRun} (since : Since earlier later)
    (count : Nat) : remaining count later ≤ remaining count earlier :=
  Finset.sum_le_sum fun index _ => since.left_le index

theorem Since.remaining_lt {earlier later : List WorkflowStepRun} (since : Since earlier later)
    (moved : Moved earlier later) {count : Nat} (within : later.length ≤ count) :
    remaining count later < remaining count earlier := by
  obtain ⟨index, closer⟩ := moved
  refine Finset.sum_lt_sum (fun other _ => since.left_le other) ⟨index, ?_, closer⟩
  rw [Finset.mem_range]
  by_contra outside
  have missing : statusAt later index = .pending := by
    rw [statusAt, List.getElem?_eq_none_iff.mpr (by omega)]
    rfl
  rw [missing] at closer
  exact absurd closer (Nat.not_lt.mpr (StepStatus.left_le _))

/-! ## A call in its loop -/

/-- The stages of one pass of the loop, once the head has read the rows. -/
def Stage.inPass : Stage → Bool
  | .head => false
  | stage => stage.inLoop

/-- The stages at which the run has been created. -/
def Stage.hasRows : Stage → Bool
  | .load => true
  | stage => stage.holdsRun

/-- The stages at which the members of a batch are executed. -/
def Stage.isGathering : Stage → Bool
  | .persist (.submit _ _) | .join => true
  | _ => false

/-- What a call knows about the steps while no other interferes: it has a row for each of
them, they have only moved forward since it read them, those that it reconciles wait, and
those that it executes were pending. -/
structure Passing (definition : WorkflowDefinition) (store : Store) (driver : Driver) : Prop where
  tracks : Tracks store driver
  rowed : driver.stage.hasRows = true → store.steps.length = definition.steps.length
  own : driver.stage.holdsRun = true → store.run = some driver.run
  since : driver.stage.inPass = true → Since driver.rows store.steps
  awaitedOnce : driver.stage.awaited.Nodup
  awaited : ∀ index ∈ driver.stage.awaited, statusAt store.steps index = .waiting
  chosen : ∀ index, index ∈ driver.stage.unsubmitted ∨ driver.Executes index →
    index < definition.steps.length ∧ statusAt driver.rows index = .pending
  batched : ∀ first rest, driver.stage = .budget first rest → driver.batch = first :: rest
  gathered : driver.stage.isGathering = true → driver.batch ≠ []
  finished : ∀ index row, driver.Executes index → index ∉ driver.stage.unsubmitted →
    driver.workers index = .finished row → store.steps[index]? = some row ∧ row.status ≠ .pending

section Preserved

variable {service : WorkflowService} {definition : WorkflowDefinition}
variable {store : Store} {driver : Driver} {reading : Reading}

theorem Passing.launched (store : Store) (ctx : ExecutionContext) (allowed : String → Bool)
    (call : RunCall) : Passing definition store { stage := call.stage, ctx, allowed } := by
  refine ⟨.launched store ctx allowed call, ?_, ?_, ?_, ?_, ?_, ?_, ?_, ?_, ?_⟩
  · cases call <;> exact nofun
  · cases call <;> exact nofun
  · cases call <;> exact nofun
  · cases call <;> exact List.nodup_nil
  · cases call <;> exact fun _ => nofun
  · intro index touched
    cases call <;> obtain member | executes := touched <;> first | cases member | cases executes
  · cases call <;> exact fun _ _ => nofun
  · cases call <;> exact nofun
  · intro index row executes
    cases call <;> cases executes

/-! ### Rows of all steps -/

/-- A run that has not been refused has a row for each step. -/
def Rowed (definition : WorkflowDefinition) (store : Store) : Prop :=
  ∀ run, store.run = some run → run.status = .failed ∨
    store.steps.length = definition.steps.length

theorem drive_length :
    (drive service definition store driver reading).store.steps.length = store.steps.length ∨
      (drive service definition store driver reading).store.steps.length =
        definition.steps.length := by
  cases drive_case service definition store driver reading with
  | quiet steps_eq | queues _ steps_eq => exact .inl (by rw [steps_eq])
  | selects _ store_eq | gathers _ store_eq => exact .inl (by rw [store_eq])
  | settles _ _ _ _ _ steps_eq | skips _ _ steps_eq | resolves _ _ steps_eq =>
      exact .inl (by rw [steps_eq, List.length_modify])
  | creates _ _ _ _ steps_eq => exact .inr (by rw [steps_eq, List.length_map])

theorem work_length (index : Nat) :
    (work service definition store driver index reading).store.steps.length =
      store.steps.length := by
  have found := work_case service definition store driver index reading
  generalize work service definition store driver index reading = move at found ⊢
  cases found with
  | stays => rfl
  | proceeds _ _ _ steps_eq => rw [steps_eq]
  | requests => rw [await_steps]
  | claims | marks => rw [List.length_set]

/-- The rows of a run are created with it. -/
theorem drive_create {request : StartRequest} (at_create : driver.stage = .startCreate request) :
    (drive service definition store driver reading).driver.stage = .off ∨
      (drive service definition store driver reading).store.steps.length =
        definition.steps.length := by
  unfold drive
  rw [at_create]
  unfold startCreate
  dsimp only
  split
  next => exact .inl rfl
  next => exact .inr (List.length_map ..)

theorem Transition.rowed {after : Store} {next : Driver}
    (transition : Transition service definition store driver reading after next)
    (stored : Rowed definition store)
    (rowed : driver.stage.hasRows = true → store.steps.length = definition.steps.length)
    (not_create : ∀ request, driver.stage ≠ .startCreate request)
    (has_rows : next.stage.hasRows = true) : store.steps.length = definition.steps.length := by
  cases transition with
  | waits => exact rowed has_rows
  | stops | operates | finishes => cases has_rows
  | starts stage starting => cases stage <;> first | cases starting; done | cases has_rows
  | creates request at_create => exact absurd at_create (not_create request)
  | cancels found unfinished | resumes found unfinished =>
      refine (stored _ found).resolve_left fun failed => ?_
      rw [failed] at unfinished
      cases unfinished
  | continues found ambiguous =>
      refine (stored _ found).resolve_left fun failed => ?_
      rw [failed] at ambiguous
      cases ambiguous
  | fails looping =>
      apply rowed
      cases at_stage : driver.stage with
      | load => rfl
      | _ => exact Stage.holdsRun_of_inLoop (at_stage ▸ looping)
  | examines looping =>
      apply rowed
      cases at_stage : driver.stage with
      | load => rfl
      | _ => exact Stage.holdsRun_of_inLoop (at_stage ▸ looping)
  | refreshes at_stage | reconciles at_stage =>
      obtain at_stage | at_stage := at_stage <;> exact rowed (by rw [at_stage]; rfl)
  | regroups at_stage =>
      obtain at_stage | ⟨at_stage, _⟩ := at_stage <;> exact rowed (by rw [at_stage]; rfl)
  | resolves at_stage | loads at_stage | rejects at_stage | gathers at_stage | completes at_stage
  | selects at_stage | batches at_stage | awaits at_stage | rechecks at_stage | pauses at_stage
  | selected at_stage | reloads at_stage | forbids at_stage | diverges at_stage
  | dispatches at_stage | skipsCondition at_stage | classifies at_stage | classified at_stage
  | advances at_stage | idles at_stage | refuses at_stage | overspends at_stage
  | admits at_stage | submits at_stage | joins at_stage | regrouped at_stage =>
      exact rowed (by rw [at_stage]; rfl)

theorem drive_rowed (stored : Rowed definition store)
    (rowed : driver.stage.hasRows = true → store.steps.length = definition.steps.length)
    (has_rows : (drive service definition store driver reading).driver.stage.hasRows = true) :
    (drive service definition store driver reading).store.steps.length =
      definition.steps.length := by
  by_cases creating : ∃ request, driver.stage = .startCreate request
  · obtain ⟨request, at_create⟩ := creating
    refine (drive_create at_create).resolve_left fun ended => ?_
    rw [ended] at has_rows
    cases has_rows
  · have transition := drive_transition service definition store driver reading
    have before := transition.rowed stored rowed (not_exists.mp creating) has_rows
    obtain same | created := @drive_length service definition store driver reading
    · rw [same, before]
    · exact created

/-- A run is refused as a failed one. -/
theorem Rowed.drive (stored : Rowed definition store)
    (rowed : driver.stage.hasRows = true → store.steps.length = definition.steps.length) :
    Rowed definition (drive service definition store driver reading).store := by
  intro run found
  have length_eq := @drive_length service definition store driver reading
  have kept (before : store.steps.length = definition.steps.length) :
      (Workflows.drive service definition store driver reading).store.steps.length =
        definition.steps.length := by
    obtain same | created := length_eq
    · rw [same, before]
    · exact created
  cases drive_run service definition store driver reading with
  | kept run_eq => exact (stored run (run_eq ▸ found)).imp_right kept
  | writes update at_persist => exact .inr (kept (rowed (by rw [at_persist]; rfl)))
  | resolves at_resolve => exact .inr (kept (rowed (by rw [at_resolve]; rfl)))
  | creates created none_before status run_eq asked =>
      cases at_stage : driver.stage with
      | startCreate request =>
          refine .inr ((drive_create at_stage).resolve_left fun ended => ?_)
          unfold Workflows.drive startCreate at ended
          rw [at_stage, none_before] at ended
          cases ended
      | startRejected request code =>
          left
          unfold Workflows.drive startRejected at found
          rw [at_stage, none_before] at found
          cases found
          rfl
      | startToken request =>
          unfold Workflows.drive startToken at found
          rw [at_stage, none_before] at found
          dsimp only at found
          repeat' split at found
          all_goals rw [none_before] at found
          all_goals cases found
      | startClaim request =>
          unfold Workflows.drive at found
          rw [at_stage] at found
          dsimp only at found
          split at found <;> rw [none_before] at found <;> cases found
      | _ =>
          rw [at_stage] at asked
          cases asked

theorem Rowed.work (stored : Rowed definition store) (index : Nat) :
    Rowed definition (work service definition store driver index reading).store := by
  intro run found
  rw [work_length]
  obtain ⟨run_eq, _⟩ | ⟨message, _, move_eq⟩ :=
    work_run service definition store driver index reading
  · exact stored run (run_eq ▸ found)
  · rw [move_eq] at found
    obtain ⟨before, stored_run, rfl⟩ := Option.map_eq_some_iff.mp found
    obtain same | ⟨changed, _⟩ := updateRun_status driver.run
      (RunUpdate.apply (.budgetFailed message) driver.run) before
    · rw [same]
      exact stored before stored_run
    · exact .inl changed

/-! ### Within a pass -/

/-- What a transaction of a call does within a pass: it is outside of a pass afterwards, it
has read the rows, it goes on with the rows that it has read, or it settles a step that
waits. -/
inductive PassCase (store : Store) (driver : Driver) (after : Store) (next : Driver) : Prop where
  | outside (outside : next.stage.inPass = false)
  | reads (rows_eq : next.rows = store.steps) (steps_eq : after.steps = store.steps)
  | goesOn (passing : driver.stage.inPass = true) (rows_eq : next.rows = driver.rows)
      (steps_eq : after.steps = store.steps)
  | settles (passing : driver.stage.inPass = true) (rows_eq : next.rows = driver.rows)
      {index : Nat} {change : WorkflowStepRun → WorkflowStepRun}
      (awaited_eq : driver.stage.awaited = index :: next.stage.awaited)
      (changed : ∀ row, (change row).status = .completed ∨ (change row).status = .skipped)
      (steps_eq : after.steps = store.steps.modify index change)

theorem Transition.passCase {after : Store} {next : Driver}
    (transition : Transition service definition store driver reading after next) :
    PassCase store driver after next := by
  cases transition with
  | waits =>
      by_cases passing : driver.stage.inPass = true
      · exact .goesOn passing rfl rfl
      · exact .outside (Bool.eq_false_of_not_eq_true passing)
  | starts stage starting => exact .outside (by cases stage <;> first | rfl | cases starting)
  | gathers | completes | selects | batches | refreshes => exact .reads rfl rfl
  | examines looping stage examining fewer =>
      refine .goesOn ?_ rfl rfl
      cases at_stage : driver.stage with
      | head =>
          rw [at_stage] at fewer
          cases stage <;> first | cases examining; done | cases fewer
      | _ => rwa [at_stage] at looping
  | reconciles at_stage changed =>
      obtain at_stage | at_stage := at_stage
      all_goals exact .settles (by rw [at_stage]; rfl) rfl (by rw [at_stage]; rfl) changed rfl
  | regroups at_stage =>
      obtain at_stage | ⟨at_stage, _⟩ := at_stage <;> exact .goesOn (by rw [at_stage]; rfl) rfl rfl
  | awaits at_stage | pauses at_stage | selected at_stage | reloads at_stage | diverges at_stage
  | dispatches at_stage | classifies at_stage | classified at_stage | advances at_stage
  | refuses at_stage | overspends at_stage | admits at_stage | submits at_stage
  | joins at_stage => exact .goesOn (by rw [at_stage]; rfl) rfl rfl
  | stops | creates | operates | cancels | continues | resumes | resolves | loads | rejects
  | fails | rechecks | finishes | forbids | skipsCondition | idles | regrouped =>
      exact .outside rfl

/-- The steps of a batch are pending steps of the definition. -/
theorem chosen_pending {maxPendingConfirmations : Int} {rows : List WorkflowStepRun} {index : Nat}
    (member : index ∈ chooseBatch definition maxPendingConfirmations
      (readyIndices definition rows)) :
    index < definition.steps.length ∧ statusAt rows index = .pending := by
  obtain ⟨step, found, ready⟩ := mem_readyIndices.mp (mem_of_mem_chooseBatch member)
  exact ⟨(List.getElem?_eq_some_iff.mp found).1, pending_of_isReady ready⟩

theorem Passing.drive_since (passing : Passing definition store driver)
    (in_pass : (drive service definition store driver reading).driver.stage.inPass = true) :
    Since (drive service definition store driver reading).driver.rows
      (drive service definition store driver reading).store.steps := by
  cases (drive_transition service definition store driver reading).passCase with
  | outside outside => exact absurd (outside.symm.trans in_pass) Bool.false_ne_true
  | reads rows_eq steps_eq =>
      rw [rows_eq, steps_eq]
      exact .refl _
  | goesOn was_passing rows_eq steps_eq =>
      rw [rows_eq, steps_eq]
      exact passing.since was_passing
  | @settles was_passing rows_eq index change awaited_eq changed steps_eq =>
      rw [rows_eq, steps_eq]
      have waiting := passing.awaited index (by simp [awaited_eq])
      apply (passing.since was_passing).trans
      apply Since.modify
      · intro row found
        rw [statusAt, found] at waiting
        rw [show row.status = .waiting from waiting]
        rfl
      · intro row found
        obtain done | done := changed row <;> rw [done] <;> exact Nat.zero_le _

theorem Passing.drive_awaited (passing : Passing definition store driver) :
    (drive service definition store driver reading).driver.stage.awaited.Nodup ∧
      ∀ index ∈ (drive service definition store driver reading).driver.stage.awaited,
        statusAt (drive service definition store driver reading).store.steps index = .waiting := by
  cases drive_case service definition store driver reading with
  | quiet steps_eq workers_eq unsubmitted awaited =>
      rw [steps_eq]
      obtain none | ⟨fewer, _⟩ := awaited
      · rw [none]
        exact ⟨List.nodup_nil, fun _ => nofun⟩
      · exact ⟨passing.awaitedOnce.sublist fewer,
          fun index member => passing.awaited index (fewer.subset member)⟩
  | gathers at_head store_eq unsubmitted_eq awaited_eq =>
      rw [store_eq, awaited_eq]
      exact ⟨waitingIndices_nodup _, fun index member => mem_waitingIndices.mp member⟩
  | settles index change idle changed attempt_eq steps_eq unsubmitted_eq awaited_eq =>
      have once := passing.awaitedOnce
      rw [awaited_eq, List.nodup_cons] at once
      refine ⟨once.2, fun other member => ?_⟩
      have different : other ≠ index := fun same => once.1 (same ▸ member)
      rw [steps_eq, statusAt_modify_ne _ _ different]
      exact passing.awaited other (by simp [awaited_eq, member])
  | selects _ _ _ _ _ _ awaited_eq | queues _ _ _ _ _ awaited_eq
  | skips _ _ _ _ awaited_eq | resolves _ _ _ _ awaited_eq
  | creates _ _ _ _ _ _ awaited_eq =>
      rw [awaited_eq]
      exact ⟨List.nodup_nil, fun _ => nofun⟩

/-- A stage at which nothing is selected and no worker is waited for. -/
theorem not_touched {next : Driver} {index : Nat} (unsubmitted : next.stage.unsubmitted = [])
    (idle : next.stage.isExecuting = false) :
    ¬(index ∈ next.stage.unsubmitted ∨ next.Executes index) := by
  rw [unsubmitted]
  rintro (member | executes)
  · cases member
  · exact not_executes_of_stage rfl idle index executes

/-- The steps that a call has selected or executes are those that it had selected or
executed, or it has just chosen them. -/
theorem Transition.touched {after : Store} {next : Driver} {index : Nat}
    (transition : Transition service definition store driver reading after next)
    (batched : ∀ first rest, driver.stage = .budget first rest → driver.batch = first :: rest)
    (touched : index ∈ next.stage.unsubmitted ∨ next.Executes index) :
    (next.rows = driver.rows ∧ (index ∈ driver.stage.unsubmitted ∨ driver.Executes index)) ∨
      next.rows = store.steps ∧ index ∈ chooseBatch definition service.maxPendingConfirmations
        (readyIndices definition store.steps) := by
  cases transition with
  | waits => exact .inl ⟨rfl, touched⟩
  | selects at_head none_waiting unsettled chosen =>
      refine .inr ⟨rfl, ?_⟩
      obtain member | executes := touched
      · rwa [chosen]
      · cases executes
  | batches at_head none_waiting unsettled chosen =>
      refine .inr ⟨rfl, ?_⟩
      obtain member | executes := touched
      · rwa [chosen]
      · cases executes
  | selected at_stage | reloads at_stage | diverges at_stage =>
      refine .inl ⟨rfl, ?_⟩
      obtain member | executes := touched
      · rw [at_stage]
        exact .inl member
      · cases executes
  | dispatches at_stage =>
      refine .inl ⟨rfl, ?_⟩
      obtain member | executes := touched
      · cases member
      · rw [at_stage]
        exact .inl (List.mem_singleton.mpr executes)
  | @admits first rest at_budget =>
      refine .inl ⟨rfl, .inl ?_⟩
      rw [at_budget]
      obtain member | executes := touched
      · exact member
      · have members : index ∈ driver.batch := executes
        rwa [batched first rest at_budget] at members
  | submits at_persist =>
      refine .inl ⟨rfl, ?_⟩
      rw [Driver.Executes, at_persist]
      obtain member | executes := touched
      · exact .inl (List.mem_cons_of_mem _ member)
      · exact .inr executes
  | joins at_persist =>
      refine .inl ⟨rfl, ?_⟩
      rw [Driver.Executes, at_persist]
      obtain member | executes := touched
      · cases member
      · exact .inr executes
  | starts stage starting =>
      exact absurd touched (not_touched (by cases stage <;> first | rfl | cases starting)
        (by cases stage <;> first | rfl | cases starting))
  | examines looping stage examining =>
      exact absurd touched (not_touched (by cases stage <;> first | rfl | cases examining)
        (by cases stage <;> first | rfl | cases examining))
  | refreshes looping settled =>
      unfold refreshRunStatus at settled
      repeat' split at settled
      all_goals cases settled
      all_goals exact absurd touched (not_touched rfl rfl)
  | classified at_step finished settled =>
      unfold classify at settled
      split at settled
      all_goals cases settled
      all_goals exact absurd touched (not_touched rfl rfl)
  | stops | creates | operates | cancels | continues | resumes | resolves | loads | rejects
  | fails | gathers | completes | awaits | reconciles | rechecks | pauses | finishes | forbids
  | skipsCondition | classifies | advances | idles | refuses | overspends | regroups
  | regrouped => exact absurd touched (not_touched rfl rfl)

theorem Transition.batched {after : Store} {next : Driver} {first : Nat} {rest : List Nat}
    (transition : Transition service definition store driver reading after next)
    (batched : ∀ first rest, driver.stage = .budget first rest → driver.batch = first :: rest)
    (at_budget : next.stage = .budget first rest) : next.batch = first :: rest := by
  cases transition with
  | waits => exact batched first rest at_budget
  | batches =>
      cases at_budget
      rfl
  | starts stage starting => cases stage <;> first | cases starting; done | cases at_budget
  | examines looping stage examining =>
      cases stage <;> first | cases examining; done | cases at_budget
  | _ => cases at_budget

theorem Transition.gathered {after : Store} {next : Driver}
    (transition : Transition service definition store driver reading after next)
    (batched : ∀ first rest, driver.stage = .budget first rest → driver.batch = first :: rest)
    (gathered : driver.stage.isGathering = true → driver.batch ≠ [])
    (gathering : next.stage.isGathering = true) : next.batch ≠ [] := by
  cases transition with
  | waits => exact gathered gathering
  | @admits first rest at_budget =>
      show driver.batch ≠ []
      rw [batched first rest at_budget]
      exact List.cons_ne_nil first rest
  | submits at_persist | joins at_persist => exact gathered (by rw [at_persist]; rfl)
  | starts stage starting => cases stage <;> first | cases starting; done | cases gathering
  | examines looping stage examining =>
      cases stage <;> first | cases examining; done | cases gathering
  | refreshes looping settled =>
      unfold refreshRunStatus at settled
      repeat' split at settled
      all_goals cases settled
      all_goals cases gathering
  | classified at_step finished settled =>
      unfold classify at settled
      split at settled
      all_goals cases settled
      all_goals cases gathering
  | _ => cases gathering

/-- A worker that has finished a step of the call has just done so, and its row is stored. -/
theorem Transition.finishedMember {after : Store} {next : Driver} {index : Nat}
    {row : WorkflowStepRun}
    (transition : Transition service definition store driver reading after next)
    (batched : ∀ first rest, driver.stage = .budget first rest → driver.batch = first :: rest)
    (executes : next.Executes index) (submitted : index ∉ next.stage.unsubmitted)
    (finished : next.workers index = .finished row) :
    after.steps = store.steps ∧ driver.Executes index ∧ index ∉ driver.stage.unsubmitted ∧
      driver.workers index = .finished row := by
  have idle (unsubmitted : next.stage.unsubmitted = []) (stays : next.stage.isExecuting = false) :
      False := not_touched unsubmitted stays (.inr executes)
  cases transition with
  | waits => exact ⟨rfl, executes, submitted, finished⟩
  | dispatches at_stage =>
      obtain rfl : index = _ := executes
      rw [enterWorker_workers, Function.update_self] at finished
      cases finished
  | @admits first rest at_budget =>
      have members : index ∈ driver.batch := executes
      rw [batched first rest at_budget] at members
      exact absurd members submitted
  | @submits first following rest at_persist =>
      have finished : Function.update driver.workers first .queued index = .finished row := finished
      by_cases same : index = first
      · rw [same, Function.update_self] at finished
        cases finished
      · rw [Function.update_of_ne same] at finished
        refine ⟨rfl, ?_, ?_, finished⟩
        · rw [Driver.Executes, at_persist]
          exact executes
        · rw [at_persist]
          exact fun member => submitted ((List.mem_cons.mp member).resolve_left same)
  | @joins first at_persist =>
      have finished : Function.update driver.workers first .queued index = .finished row := finished
      by_cases same : index = first
      · rw [same, Function.update_self] at finished
        cases finished
      · rw [Function.update_of_ne same] at finished
        refine ⟨rfl, ?_, ?_, finished⟩
        · rw [Driver.Executes, at_persist]
          exact executes
        · rw [at_persist]
          exact fun member => same (List.mem_singleton.mp member)
  | selects | batches | selected | reloads | diverges => cases executes
  | starts stage starting =>
      exact (idle (by cases stage <;> first | rfl | cases starting)
        (by cases stage <;> first | rfl | cases starting)).elim
  | examines looping stage examining =>
      exact (idle (by cases stage <;> first | rfl | cases examining)
        (by cases stage <;> first | rfl | cases examining)).elim
  | refreshes looping settled =>
      unfold refreshRunStatus at settled
      repeat' split at settled
      all_goals cases settled
      all_goals exact (idle rfl rfl).elim
  | classified at_step was_finished settled =>
      unfold classify at settled
      split at settled
      all_goals cases settled
      all_goals exact (idle rfl rfl).elim
  | stops | creates | operates | cancels | continues | resumes | resolves | loads | rejects
  | fails | gathers | completes | awaits | reconciles | rechecks | pauses | finishes | forbids
  | skipsCondition | classifies | advances | idles | refuses | overspends | regroups
  | regrouped => exact (idle rfl rfl).elim

/-- The stages in front of the loop are left for the loop or for the end of the call. -/
theorem Transition.entry {after : Store} {next : Driver}
    (transition : Transition service definition store driver reading after next)
    (entering : next.stage.isEntry = true) : driver.stage.isEntry = true := by
  cases transition with
  | waits => exact entering
  | starts stage starting asked =>
      cases at_stage : driver.stage with
      | startToken | startClaim | startRejected | startCreate => rfl
      | _ =>
          rw [at_stage] at asked
          cases stage <;> first | cases starting; done | cases asked
  | creates request at_stage | resolves at_stage => rw [at_stage]; rfl
  | operates _ _ was_entering | continues _ _ was_entering | resumes _ _ was_entering =>
      exact was_entering
  | examines looping stage examining =>
      cases stage <;> first | cases examining; done | cases entering
  | refreshes looping settled =>
      unfold refreshRunStatus at settled
      repeat' split at settled
      all_goals cases settled
      all_goals cases entering
  | classified at_step finished settled =>
      unfold classify at settled
      split at settled
      all_goals cases settled
      all_goals cases entering
  | _ => cases entering

/-- Behind its entry a call only moves steps forward. -/
theorem Passing.since_drive (passing : Passing definition store driver)
    (not_entering : driver.stage.isEntry = false) :
    Since store.steps (drive service definition store driver reading).store.steps := by
  cases drive_case service definition store driver reading with
  | quiet steps_eq | queues _ steps_eq =>
      rw [steps_eq]
      exact .refl _
  | selects _ store_eq | gathers _ store_eq =>
      rw [store_eq]
      exact .refl _
  | settles index change idle changed attempt_eq steps_eq unsubmitted_eq awaited_eq =>
      have waiting := passing.awaited index (by simp [awaited_eq])
      rw [steps_eq]
      apply Since.modify
      · intro row found
        rw [statusAt, found] at waiting
        rw [show row.status = .waiting from waiting]
        rfl
      · intro row found
        obtain done | done := changed row <;> rw [done] <;> exact Nat.zero_le _
  | skips index at_skip steps_eq =>
      have pending := (passing.tracks.selected index (by simp [at_skip, Stage.unsubmitted])).1
      rw [steps_eq]
      apply Since.modify
      · intro row found
        rw [statusAt, found] at pending
        rw [show row.status = .pending from pending]
        rfl
      · intro row found
        rw [statusAt, found] at pending
        have pending : row.status = .pending := pending
        rw [pending]
        exact StepStatus.left_le _
  | resolves at_stage | creates _ at_stage =>
      rw [at_stage] at not_entering
      cases not_entering

/-- A transaction of a call that no other interferes with. -/
theorem Passing.drive (passing : Passing definition store driver)
    (stored : Rowed definition store) :
    Passing definition (drive service definition store driver reading).store
      (drive service definition store driver reading).driver := by
  have transition := drive_transition service definition store driver reading
  refine ⟨passing.tracks.drive reading, drive_rowed stored passing.rowed,
    transition.own passing.own, passing.drive_since, passing.drive_awaited.1,
    passing.drive_awaited.2, ?_, ?_, transition.gathered passing.batched passing.gathered, ?_⟩
  · intro index touched
    obtain ⟨rows_eq, before⟩ | ⟨rows_eq, chosen⟩ := transition.touched passing.batched touched
    · rw [rows_eq]
      exact passing.chosen index before
    · rw [rows_eq]
      exact chosen_pending chosen
  · exact fun first rest => transition.batched passing.batched
  · intro index row executes submitted finished
    obtain ⟨steps_eq, before, was_submitted, was_finished⟩ :=
      transition.finishedMember passing.batched executes submitted finished
    rw [steps_eq]
    exact passing.finished index row before was_submitted was_finished

/-- Workers that keep to their steps only move them forward. -/
theorem Tracks.since_work (tracks : Tracks store driver) (index : Nat) :
    Since store.steps
      (Workflows.work service definition store driver index reading).store.steps := by
  have found := work_case service definition store driver index reading
  generalize Workflows.work service definition store driver index reading = move at found ⊢
  cases found with
  | stays => exact .refl _
  | proceeds _ _ _ steps_eq => exact steps_eq ▸ .refl _
  | requests =>
      rw [await_steps]
      exact .refl _
  | @claims row queued free stored =>
      have pending := tracks.queued index (by rw [queued]; rfl)
      rw [statusAt, stored] at pending
      have pending : row.status = .pending := pending
      refine .set stored (by rw [pending]; rfl) ?_
      rw [pending]
      exact StepStatus.left_le _
  | @marks mark row was_mark stored =>
      have running := tracks.active index (by rw [was_mark]; rfl)
      rw [statusAt, stored] at running
      have running : row.status = .running := running
      refine .set stored (by rw [running]; rfl) ?_
      rw [running, StepMark.apply_status]
      exact Nat.lt_succ_iff.mp (StepStatus.left_lt mark.status_ne_pending)

theorem Passing.work_finished (passing : Passing definition store driver) {index other : Nat}
    {row : WorkflowStepRun} (executes : driver.Executes other)
    (submitted : other ∉ driver.stage.unsubmitted)
    (finished : (work service definition store driver index reading).driver.workers other =
      .finished row) :
    (work service definition store driver index reading).store.steps[other]? = some row ∧
      row.status ≠ .pending := by
  have before := passing.finished other row executes submitted
  have found := work_case service definition store driver index reading
  generalize work service definition store driver index reading = move at found finished ⊢
  have unchanged {stage : WorkerStage} {changed : List WorkflowStepRun}
      (finished : Function.update driver.workers index stage other = .finished row)
      (others : other ≠ index → changed[other]? = store.steps[other]?)
      (unfinished : stage ≠ .finished row) :
      changed[other]? = some row ∧ row.status ≠ .pending := by
    by_cases same : other = index
    · rw [same, Function.update_self] at finished
      exact absurd finished unfinished
    · rw [Function.update_of_ne same] at finished
      rw [others same]
      exact before finished
  cases found with
  | stays => exact before finished
  | claims =>
      exact unchanged finished (fun different => List.getElem?_set_ne different.symm) nofun
  | proceeds stage was_open active steps_eq stage_eq rows_eq batch_eq workers_eq =>
      rw [workers_eq] at finished
      refine unchanged finished (fun _ => by rw [steps_eq]) ?_
      rintro rfl
      cases active
  | requests => exact unchanged finished (fun _ => by rw [await_steps]) nofun
  | @marks mark earlier was_mark stored =>
      by_cases same : other = index
      · subst same
        rw [enterWorker_workers, Function.update_self] at finished
        cases finished
        obtain ⟨bound, _⟩ := List.getElem?_eq_some_iff.mp stored
        refine ⟨List.getElem?_set_self bound, ?_⟩
        rw [StepMark.apply_status]
        exact mark.status_ne_pending
      · rw [enterWorker_workers, Function.update_of_ne same] at finished
        dsimp only
        rw [List.getElem?_set_ne (Ne.symm same)]
        exact before finished

/-- A transaction of a worker of a call that no other interferes with. -/
theorem Passing.work (passing : Passing definition store driver) (index : Nat) :
    Passing definition (Workflows.work service definition store driver index reading).store
      (Workflows.work service definition store driver index reading).driver := by
  obtain ⟨stage_eq, rows_eq, batch_eq, _⟩ :=
    work_keeps service definition store driver index reading
  by_cases executing : driver.stage.isExecuting = true
  · have executes_eq (other : Nat) :
        (Workflows.work service definition store driver index reading).driver.Executes other ↔
          driver.Executes other := by
      rw [Driver.Executes, Driver.Executes, stage_eq, batch_eq]
    have not_awaited : driver.stage.awaited = [] := by
      cases stage : driver.stage <;> rw [stage] at executing <;> first | rfl | cases executing
    constructor
    · exact passing.tracks.work index reading
    · rw [stage_eq, work_length]
      exact passing.rowed
    · rw [stage_eq]
      exact fun holding => work_own (passing.own holding)
    · rw [stage_eq, rows_eq]
      exact fun in_pass => (passing.since in_pass).trans (passing.tracks.since_work index)
    · rw [stage_eq]
      exact passing.awaitedOnce
    · rw [stage_eq, not_awaited]
      rintro _ ⟨⟩
    · intro other
      rw [stage_eq, rows_eq, executes_eq]
      exact passing.chosen other
    · rw [stage_eq, batch_eq]
      exact passing.batched
    · rw [stage_eq, batch_eq]
      exact passing.gathered
    · intro other row
      rw [stage_eq, executes_eq]
      exact passing.work_finished
  · rw [passing.tracks.work_idle (Bool.eq_false_of_not_eq_true executing)]
    exact passing

theorem Passing.decided (passing : Passing definition store driver)
    (confirmations : String → Option Status) :
    Passing definition { store with confirmations } driver :=
  ⟨⟨passing.tracks.distinct, passing.tracks.members, passing.tracks.selected,
      passing.tracks.working, passing.tracks.queued, passing.tracks.active, passing.tracks.awaited⟩,
    passing.rowed, passing.own, passing.since, passing.awaitedOnce, passing.awaited,
    passing.chosen, passing.batched, passing.gathered, passing.finished⟩

end Preserved

/-! ## One call at work -/

/-- The inputs of one call while no other interferes; confirmations are decided meanwhile. -/
def Alone (caller : Nat) : Input → Prop
  | .drive other _ | .work other _ _ => other = caller
  | .decide .. => True
  | .launch .. | .crash _ => False

section Alone

variable (service : WorkflowService) (definition : WorkflowDefinition)

/-- What keeps a property of a call that is alone and of the rows. -/
structure AloneRule (caller : Nat) (busy : Store → Driver → Prop)
    (condition : EngineState → Input → Prop) : Prop where
  alone : ∀ state input, condition state input → Alone caller input
  decides : ∀ store driver confirmations, busy store driver →
    busy { store with confirmations } driver
  drives : ∀ state reading, condition state (.drive caller reading) →
    busy state.store (state.drivers caller) →
      busy (drive service definition state.store (state.drivers caller) reading).store
        (drive service definition state.store (state.drivers caller) reading).driver
  works : ∀ state index reading, condition state (.work caller index reading) →
    busy state.store (state.drivers caller) →
      busy (work service definition state.store (state.drivers caller) index reading).store
        (work service definition state.store (state.drivers caller) index reading).driver

variable {service definition} {caller : Nat} {busy : Store → Driver → Prop}
variable {condition : EngineState → Input → Prop}

theorem AloneRule.step (rule : AloneRule service definition caller busy condition)
    {state : EngineState} {input : Input} (holds : busy state.store (state.drivers caller))
    (allowed : condition state input) :
    busy (engineStep service definition state input).1.store
      ((engineStep service definition state input).1.drivers caller) := by
  have alone := rule.alone state input allowed
  cases input with
  | launch | crash => cases alone
  | drive other reading =>
      obtain rfl : other = caller := alone
      unfold engineStep
      dsimp only
      rw [after_store, after_drivers_self]
      exact rule.drives state reading allowed holds
  | work other index reading =>
      obtain rfl : other = caller := alone
      unfold engineStep
      dsimp only
      split
      next => exact holds
      next =>
        rw [after_store, after_drivers_self]
        exact rule.works state index reading allowed holds
  | decide confirmationId status =>
      unfold engineStep
      dsimp only
      split
      next => exact holds
      next => exact rule.decides _ _ _ holds

/-- What follows of a step from the call and the rows holds of every step of the call. -/
theorem AloneRule.admits (rule : AloneRule service definition caller busy condition)
    {property : EngineState → Input → Prop} {start : EngineState} {inputs : List Input}
    (initially : busy start.store (start.drivers caller))
    (holds : ∀ state input, busy state.store (state.drivers caller) → condition state input →
      property state input)
    (admitted : (engine service definition).Admits condition start inputs) :
    (engine service definition).Admits property start inputs :=
  .of_invariant initially (fun _ _ holds allowed => rule.step holds allowed) holds admitted

theorem AloneRule.invariant (rule : AloneRule service definition caller busy condition)
    {start : EngineState} {inputs : List Input}
    (initially : busy start.store (start.drivers caller))
    (admitted : (engine service definition).Admits condition start inputs) :
    busy ((engine service definition).stateAfter start inputs).store
      (((engine service definition).stateAfter start inputs).drivers caller) :=
  Machine.invariant_of_admits
    (motive := fun state : EngineState => busy state.store (state.drivers caller)) initially
    (fun _ _ holds allowed => rule.step holds allowed) admitted

/-- A call that is alone, and the rows that it works on. -/
structure Advancing (definition : WorkflowDefinition) (store : Store) (driver : Driver) :
    Prop where
  passing : Passing definition store driver
  stored : Rowed definition store

theorem Advancing.drive {store : Store} {driver : Driver}
    (advancing : Advancing definition store driver)
    (reading : Reading) :
    Advancing definition (drive service definition store driver reading).store
      (drive service definition store driver reading).driver :=
  ⟨advancing.passing.drive advancing.stored, advancing.stored.drive advancing.passing.rowed⟩

theorem Advancing.work {store : Store} {driver : Driver}
    (advancing : Advancing definition store driver)
    (index : Nat) (reading : Reading) :
    Advancing definition (Workflows.work service definition store driver index reading).store
      (Workflows.work service definition store driver index reading).driver :=
  ⟨advancing.passing.work index, advancing.stored.work index⟩

theorem advancingRule (service : WorkflowService) (definition : WorkflowDefinition)
    (caller : Nat) :
    AloneRule service definition caller (Advancing definition) fun _ => Alone caller where
  alone _ _ alone := alone
  decides _ _ confirmations advancing :=
    ⟨advancing.passing.decided confirmations, advancing.stored⟩
  drives _ reading _ advancing := advancing.drive reading
  works _ index reading _ advancing := advancing.work index reading

/-- A call that is behind its entry, and rows that it has found. -/
structure Continuing (definition : WorkflowDefinition) (found : List WorkflowStepRun)
    (store : Store) (driver : Driver) : Prop where
  advancing : Advancing definition store driver
  entered : driver.stage.isEntry = false
  since : Since found store.steps

theorem continuingRule (service : WorkflowService) (definition : WorkflowDefinition)
    (caller : Nat) (found : List WorkflowStepRun) :
    AloneRule service definition caller (Continuing definition found) fun _ => Alone caller where
  alone _ _ alone := alone
  decides _ _ confirmations continuing :=
    ⟨⟨continuing.advancing.passing.decided confirmations, continuing.advancing.stored⟩,
      continuing.entered, continuing.since⟩
  drives state reading _ continuing := by
    have transition :=
      drive_transition service definition state.store (state.drivers caller) reading
    refine ⟨continuing.advancing.drive reading, ?_,
      continuing.since.trans (continuing.advancing.passing.since_drive continuing.entered)⟩
    rw [Bool.eq_false_iff]
    intro entering
    have entered := continuing.entered
    rw [transition.entry entering] at entered
    cases entered
  works state index reading _ continuing := by
    refine ⟨continuing.advancing.work index reading, ?_,
      continuing.since.trans (continuing.advancing.passing.tracks.since_work index)⟩
    rw [(work_keeps service definition _ _ index reading).1]
    exact continuing.entered

/-- A step that a call has found settled stays as it is, and is not requested. -/
theorem Advancing.keeps_settled {start : EngineState} {later : List Input}
    (advancing : Advancing definition start.store (start.drivers caller))
    (entered : (start.drivers caller).stage.isEntry = false)
    (alone : (engine service definition).Admits (fun _ => Alone caller) start later)
    {index : Nat} {row : WorkflowStepRun} (found : start.store.steps[index]? = some row)
    (settled : row.status.settled = true) :
    ((engine service definition).stateAfter start later).store.steps[index]? = some row ∧
      ∀ action, EngineEvent.requested index action ∉
        (engine service definition).trace id start later := by
  have rule := continuingRule service definition caller start.store.steps
  obtain ⟨after, silent⟩ := Machine.trace_invariant_of_admits id
    (motive := fun (seen : List EngineEvent) (state : EngineState) =>
      Continuing definition start.store.steps state.store (state.drivers caller) ∧
        ∀ action, EngineEvent.requested index action ∉ seen)
    ⟨⟨advancing, entered, .refl _⟩, fun _ => nofun⟩
    (fun seen state input kept allowed => by
      refine ⟨rule.step kept.1 allowed, fun action member => ?_⟩
      obtain old | new := List.mem_append.mp member
      · exact kept.2 action old
      · have requests : ((state.drivers caller).workers index) = .request action := by
          cases input with
          | launch | crash => cases allowed
          | drive other reading =>
              exact absurd new
                (drive_not_requested service definition state.store _ reading index action)
          | work other worker reading =>
              obtain rfl : other = caller := allowed
              exact (requested_by_work new).2
          | decide confirmationId status =>
              rw [engine_step] at new
              unfold engineStep at new
              dsimp only at new
              split at new <;> cases new
        have running := (kept.1.advancing.passing.tracks.active_of_request requests).1
        rw [statusAt, kept.1.since.kept index row found settled] at running
        rw [show row.status = .running from running] at settled
        cases settled)
    alone
  exact ⟨after.since.kept index row found settled, silent⟩

/-! ### Reachable rows -/

/-- Every run that has not been refused has its rows, and so has every call in its loop. -/
structure AllRowed (definition : WorkflowDefinition) (state : EngineState) : Prop where
  stored : Rowed definition state.store
  rowed : ∀ caller, (state.drivers caller).stage.hasRows = true →
    state.store.steps.length = definition.steps.length

theorem AllRowed.after {state : EngineState} (all : AllRowed definition state) {caller : Nat}
    {move : Move} (stored : Rowed definition move.store)
    (rowed : move.driver.stage.hasRows = true →
      move.store.steps.length = definition.steps.length)
    (length_eq : move.store.steps.length = state.store.steps.length ∨
      move.store.steps.length = definition.steps.length) :
    AllRowed definition (state.after caller move) := by
  refine ⟨stored, fun other has_rows => ?_⟩
  rw [after_store]
  by_cases same : other = caller
  · rw [same, after_drivers_self] at has_rows
    exact rowed has_rows
  · rw [after_drivers_ne state move same] at has_rows
    obtain kept | created := length_eq
    · rw [kept]
      exact all.rowed other has_rows
    · exact created

theorem AllRowed.step {state : EngineState} (all : AllRowed definition state) (input : Input) :
    AllRowed definition (engineStep service definition state input).1 := by
  cases input with
  | launch caller ctx permitted call =>
      unfold engineStep
      dsimp only
      split
      next =>
        refine all.after all.stored ?_ (.inl rfl)
        cases call <;> exact nofun
      next => exact all
  | drive caller reading =>
      exact all.after (all.stored.drive (all.rowed caller))
        (drive_rowed all.stored (all.rowed caller)) drive_length
  | work caller index reading =>
      unfold engineStep
      dsimp only
      split
      next => exact all
      next =>
        refine all.after (all.stored.work index) ?_ (.inl (work_length index))
        rw [work_length, (work_keeps service definition _ _ index reading).1]
        exact all.rowed caller
  | crash caller => exact all.after all.stored nofun (.inl rfl)
  | decide confirmationId status =>
      unfold engineStep
      dsimp only
      split
      next => exact all
      next => exact ⟨all.stored, all.rowed⟩

/-- Whatever the history of a run. -/
theorem allRowed (service : WorkflowService) (definition : WorkflowDefinition)
    (history : List Input) :
    AllRowed definition ((engine service definition).stateAfter initialState history) := by
  have initially : AllRowed definition initialState := by
    refine ⟨fun run found => ?_, fun caller has_rows => ?_⟩
    · cases found
    · cases has_rows
  exact Machine.invariant (motive := AllRowed definition) initially
    (fun _ input all => all.step input) history

/-- A call that begins in a reachable state. -/
theorem advancing_launched {state : EngineState} (all : AllRowed definition state)
    (ctx : ExecutionContext) (allowed : String → Bool) (call : RunCall) :
    Advancing definition state.store { stage := call.stage, ctx, allowed } :=
  ⟨.launched state.store ctx allowed call, all.stored⟩

end Alone

end Era.Workflows
