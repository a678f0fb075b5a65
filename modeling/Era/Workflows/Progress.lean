import Era.Workflows.Absorbing
import Era.Workflows.Advance

/-!
# Progress of the loop

Each pass of the loop of a call moves a step forward or is its last, so that there are at
most twice as many passes as steps, and one more.  A batch whose budget is refused is the
exception: nothing has moved when the loop is back at its head.  A step that runs alone and
whose budget is refused fails the run at once.
-/

namespace Era.Workflows

open Era.Core Era.Lib Era.Services

def Stage.isHead : Stage → Bool
  | .head => true
  | _ => false

/-- A call starts a pass of its loop. -/
def startsPass (caller : Nat) (state : EngineState) : Input → Bool
  | .drive other _ => other == caller && (state.drivers caller).stage.isHead
  | _ => false

/-- Governance refuses no step budget that is claimed for a batch or by one of its members. -/
def GrantsBatches (service : WorkflowService) (state : EngineState) : Input → Prop
  | .drive caller reading =>
      match (state.drivers caller).stage with
      | .budget _ _ => (refusal service reading).isNone = true
      | _ => True
  | .work caller index reading =>
      ((state.drivers caller).workers index).isBudget = true →
        (state.drivers caller).runsAlone index = true ∨ (refusal service reading).isNone = true
  | .launch .. | .crash _ | .decide .. => True

instance (service : WorkflowService) (state : EngineState) (input : Input) :
    Decidable (GrantsBatches service state input) := by
  dsimp only [GrantsBatches]
  induction input using Input.casesOn with
  | drive caller reading =>
      dsimp only
      generalize (state.drivers caller).stage = stage
      induction stage using Stage.casesOn <;> infer_instance
  | work | launch | crash | decide => infer_instance

instance (caller : Nat) (input : Input) : Decidable (Alone caller input) := by
  dsimp only [Alone]
  induction input using Input.casesOn <;> infer_instance

/-! ## Passes -/

/-- The stages from which a pass returns to the head once a step has moved. -/
def Stage.hasMoved : Stage → Bool
  | .reconcile _ true | .classify | .persist (.idle _) | .regroup => true
  | _ => false

/-- A call in whose pass a step has moved before the loop comes back to its head. -/
structure Progressing (definition : WorkflowDefinition) (store : Store) (driver : Driver) :
    Prop where
  advancing : Advancing definition store driver
  unrefused : driver.stage.isRefused = false
  moved : driver.stage.hasMoved = true → Moved driver.rows store.steps

theorem Stage.inPass_of_inLoop {stage : Stage} (looping : stage.inLoop = true)
    (not_head : stage ≠ .head) : stage.inPass = true := by
  cases stage <;> first | exact looping | exact absurd rfl not_head

section Passes

variable {service : WorkflowService} {definition : WorkflowDefinition}
variable {store : Store} {driver : Driver} {reading : Reading}

/-- A step that has been executed has moved since the call read it. -/
theorem Passing.moved_of_finished (passing : Passing definition store driver) {index : Nat}
    {row : WorkflowStepRun} (executes : driver.Executes index)
    (submitted : driver.stage.unsubmitted = [])
    (finished : driver.workers index = .finished row) : Moved driver.rows store.steps := by
  obtain ⟨stored, claimed⟩ := passing.finished index row executes (by simp [submitted]) finished
  refine .of_claimed (passing.chosen index (.inr executes)).2 ?_
  rw [statusAt, stored]
  exact claimed

theorem Passing.moved_of_joined (passing : Passing definition store driver)
    (at_join : driver.stage = .join) (joined : driver.joined = true) :
    Moved driver.rows store.steps := by
  have some_member := passing.gathered (by rw [at_join]; rfl)
  obtain ⟨first, rest, batch_eq⟩ := List.exists_cons_of_ne_nil some_member
  have member : first ∈ driver.batch := by simp [batch_eq]
  have executes : driver.Executes first := by
    rw [Driver.Executes, at_join]
    exact member
  have all_finished := List.all_eq_true.mp joined first member
  cases stage : driver.workers first with
  | finished row => exact passing.moved_of_finished executes (by rw [at_join]; rfl) stage
  | idle | queued | budget | overspent | overspentRelease | inspect | request | mark =>
      rw [stage] at all_finished
      cases all_finished

theorem Progressing.drive_moved (progressing : Progressing definition store driver)
    (has_moved : (drive service definition store driver reading).driver.stage.hasMoved = true) :
    Moved (drive service definition store driver reading).driver.rows
      (drive service definition store driver reading).store.steps := by
  have passing := progressing.advancing.passing
  have since := @Passing.drive_since service definition store driver reading passing
  have transition := drive_transition service definition store driver reading
  generalize (drive service definition store driver reading).store = after at *
  generalize (drive service definition store driver reading).driver = next at *
  cases transition with
  | waits => exact progressing.moved has_moved
  | @awaits _ _ changed _ at_stage =>
      cases changed with
      | true => exact progressing.moved (by rw [at_stage]; rfl)
      | false => cases has_moved
  | advances at_stage => exact progressing.moved (by rw [at_stage]; rfl)
  | @reconciles index rest change at_stage changed =>
      have awaited : index ∈ driver.stage.awaited := by
        obtain at_stage | at_stage := at_stage <;> simp [at_stage, Stage.awaited]
      have in_pass : driver.stage.inPass = true := by
        obtain at_stage | at_stage := at_stage <;> rw [at_stage] <;> rfl
      have waiting := passing.awaited index awaited
      refine ⟨index, lt_of_lt_of_le ?_ ((passing.since in_pass).left_le index)⟩
      rw [waiting]
      cases found : store.steps[index]? with
      | none =>
          rw [statusAt, found] at waiting
          cases waiting
      | some row =>
          dsimp only
          rw [modify_of_found change found, statusAt_set_self found]
          obtain done | done := changed row <;> rw [done] <;> exact Nat.one_pos
  | classifies at_step finished idle =>
      exact passing.moved_of_finished (by rw [Driver.Executes, at_step]) (by rw [at_step]; rfl)
        finished
  | regroups at_batch =>
      obtain at_release | ⟨at_join, joined⟩ := at_batch
      · have unrefused := progressing.unrefused
        rw [at_release] at unrefused
        cases unrefused
      · exact passing.moved_of_joined at_join joined
  | starts stage starting => cases stage <;> first | cases starting; done | cases has_moved
  | examines looping stage examining =>
      cases stage <;> first | cases examining; done | cases has_moved
  | refreshes looping settled =>
      unfold refreshRunStatus at settled
      repeat' split at settled
      all_goals cases settled
      all_goals cases has_moved
  | classified at_step finished settled =>
      unfold classify at settled
      split at settled
      all_goals cases settled
      all_goals cases has_moved
  | _ => cases has_moved

/-- The head of the loop leads on. -/
theorem drive_head_leaves (at_head : driver.stage = .head) :
    (drive service definition store driver reading).driver.stage ≠ .head := by
  unfold drive
  rw [at_head]
  unfold head chooseNext
  dsimp only
  repeat' split
  all_goals exact nofun

/-- When the loop is back at its head, a step has moved since the last time. -/
theorem Progressing.returns (progressing : Progressing definition store driver)
    (looping : driver.stage.inLoop = true)
    (returned : (drive service definition store driver reading).driver.stage = .head) :
    Since driver.rows (drive service definition store driver reading).store.steps ∧
      Moved driver.rows (drive service definition store driver reading).store.steps := by
  have passing := progressing.advancing.passing
  have not_head : driver.stage ≠ .head := fun at_head => drive_head_leaves at_head returned
  have in_pass := Stage.inPass_of_inLoop looping not_head
  have since := passing.since in_pass
  have transition := drive_transition service definition store driver reading
  generalize (drive service definition store driver reading).store = after at *
  generalize (drive service definition store driver reading).driver = next at *
  cases transition with
  | waits => exact absurd returned not_head
  | rechecks at_stage | idles at_stage | regrouped at_stage =>
      exact ⟨since, progressing.moved (by rw [at_stage]; rfl)⟩
  | @skipsCondition index at_skip =>
      have selected : index ∈ driver.stage.unsubmitted := by simp [at_skip, Stage.unsubmitted]
      have pending := (passing.tracks.selected index selected).1
      obtain ⟨within, was_pending⟩ := passing.chosen index (.inl selected)
      rw [← passing.rowed (by rw [at_skip]; rfl)] at within
      have found : store.steps[index]? = some store.steps[index] := List.getElem?_eq_getElem within
      have row_pending : store.steps[index].status = .pending := by
        rwa [statusAt, found] at pending
      have skipped : (skipConditionalStep store.steps[index]).status = .skippedConditional := by
        rw [skipConditionalStep, if_pos row_pending]
      dsimp only
      rw [modify_of_found skipConditionalStep found]
      constructor
      · apply since.trans
        refine .set found (by rw [row_pending]; rfl) ?_
        rw [skipped]
        exact Nat.zero_le _
      · refine .of_claimed was_pending ?_
        rw [statusAt_set_self found, skipped]
        rintro ⟨⟩
  | loads at_load =>
      rw [at_load] at looping
      cases looping
  | starts stage starting => cases stage <;> first | cases starting; done | cases returned
  | examines _ stage examining => cases stage <;> first | cases examining; done | cases returned
  | _ => cases returned

theorem Progressing.drive (progressing : Progressing definition store driver)
    (granted : ∀ first rest, driver.stage = .budget first rest → refusal service reading = none) :
    Progressing definition (drive service definition store driver reading).store
      (drive service definition store driver reading).driver :=
  ⟨progressing.advancing.drive reading,
    (drive_transition service definition store driver reading).unrefused progressing.unrefused
      granted,
    progressing.drive_moved⟩

theorem Progressing.work (progressing : Progressing definition store driver) (index : Nat) :
    Progressing definition (work service definition store driver index reading).store
      (work service definition store driver index reading).driver := by
  obtain ⟨stage_eq, rows_eq, _⟩ := work_keeps service definition store driver index reading
  refine ⟨progressing.advancing.work index reading, ?_, ?_⟩
  · rw [stage_eq]
    exact progressing.unrefused
  · rw [stage_eq, rows_eq]
    exact fun has_moved => (progressing.moved has_moved).since
      (progressing.advancing.passing.tracks.since_work index)

/-! ### How many passes are left -/

/-- An upper bound of the passes that a call still makes. -/
def passesLeft (definition : WorkflowDefinition) (store : Store) (driver : Driver) : Nat :=
  let steps := definition.steps.length
  match driver.stage with
  | .head => remaining steps store.steps + 1
  | stage =>
      if stage.inLoop then remaining steps driver.rows
      else if stage.isEntry then 2 * steps + 1
      else 0

theorem passesLeft_head (at_head : driver.stage = .head) :
    passesLeft definition store driver = remaining definition.steps.length store.steps + 1 := by
  rw [passesLeft, at_head]

theorem passesLeft_inPass (in_pass : driver.stage.inPass = true) :
    passesLeft definition store driver = remaining definition.steps.length driver.rows := by
  unfold passesLeft
  cases at_stage : driver.stage <;> rw [at_stage] at in_pass <;> first
    | cases in_pass; done
    | exact if_pos in_pass

theorem passesLeft_entry (entering : driver.stage.isEntry = true) :
    passesLeft definition store driver = 2 * definition.steps.length + 1 := by
  unfold passesLeft
  cases at_stage : driver.stage <;> rw [at_stage] at entering <;> first
    | cases entering; done
    | rfl

theorem passesLeft_over (not_looping : driver.stage.inLoop = false)
    (not_entering : driver.stage.isEntry = false) : passesLeft definition store driver = 0 := by
  unfold passesLeft
  cases at_stage : driver.stage <;> rw [at_stage] at not_looping not_entering <;> first
    | cases not_looping; done
    | cases not_entering; done
    | simp only [not_looping, not_entering, Bool.false_eq_true, if_false]

/-- A pass is paid for when it starts, and a step that moves pays for the next one. -/
theorem Progressing.pays (progressing : Progressing definition store driver)
    (granted : ∀ first rest, driver.stage = .budget first rest → refusal service reading = none) :
    driver.stage.isHead.toNat +
        passesLeft definition (Workflows.drive service definition store driver reading).store
          (Workflows.drive service definition store driver reading).driver ≤
      passesLeft definition store driver := by
  have passing := progressing.advancing.passing
  have transition := drive_transition service definition store driver reading
  have after_drive := progressing.drive granted
  have leaves := @drive_head_leaves service definition store driver reading
  have returns := @Progressing.returns service definition store driver reading progressing
  have at_most := remaining_le definition.steps.length
  generalize (Workflows.drive service definition store driver reading).store = after at *
  generalize (Workflows.drive service definition store driver reading).driver = next at *
  by_cases entering : driver.stage.isEntry = true
  · -- Before the loop the bound is the largest there is.
    rw [passesLeft_entry entering]
    have not_head : driver.stage.isHead = false := by
      cases at_stage : driver.stage <;> rw [at_stage] at entering <;> first
        | rfl
        | cases entering
    rw [not_head, Bool.toNat_false, Nat.zero_add]
    unfold passesLeft
    have bound_store := at_most after.steps
    have bound_rows := at_most next.rows
    dsimp only
    repeat' split
    all_goals omega
  · have next_not_entering : next.stage.isEntry = false :=
      Bool.eq_false_of_not_eq_true (mt transition.entry entering)
    by_cases looping_next : next.stage.inLoop = true
    · have looping : driver.stage.inLoop = true := by
        refine (transition.inLoop looping_next).resolve_right fun at_load => entering ?_
        rw [at_load]
        rfl
      by_cases at_head : driver.stage = .head
      · -- The head reads the rows.
        have next_passes := Stage.inPass_of_inLoop looping_next (leaves at_head)
        rw [passesLeft_head at_head, passesLeft_inPass next_passes]
        have rows_eq : next.rows =
            store.steps := by
          cases transition.passCase with
          | outside outside => exact absurd (outside.symm.trans next_passes) Bool.false_ne_true
          | reads rows_eq => exact rows_eq
          | goesOn in_pass | settles in_pass =>
              rw [at_head] at in_pass
              cases in_pass
        rw [rows_eq, at_head]
        exact (Nat.add_comm 1 _).le
      · have in_pass := Stage.inPass_of_inLoop looping at_head
        have not_head : driver.stage.isHead = false := by
          cases at_stage : driver.stage <;> first | rfl | exact absurd at_stage at_head
        rw [passesLeft_inPass in_pass, not_head, Bool.toNat_false, Nat.zero_add]
        by_cases returned : next.stage = .head
        · -- The loop is back at its head, and a step has moved.
          rw [passesLeft_head returned]
          obtain ⟨since, moved⟩ := returns looping returned
          have rowed := after_drive.advancing.passing.rowed (by rw [returned]; rfl)
          exact since.remaining_lt moved rowed.le
        · rw [passesLeft_inPass (Stage.inPass_of_inLoop looping_next returned)]
          cases transition.passCase with
          | outside outside =>
              have next_passes := Stage.inPass_of_inLoop looping_next returned
              exact absurd (outside.symm.trans next_passes) Bool.false_ne_true
          | reads rows_eq =>
              rw [rows_eq]
              exact (passing.since in_pass).remaining_le _
          | goesOn _ rows_eq | settles _ rows_eq => rw [rows_eq]
    · rw [passesLeft_over (Bool.eq_false_of_not_eq_true looping_next) next_not_entering]
      cases at_stage : driver.stage with
      | head =>
          rw [passesLeft_head at_stage]
          exact Nat.succ_le_succ (Nat.zero_le _)
      | _ => exact Nat.zero_le _

/-- Workers start no pass. -/
theorem Progressing.pays_work (progressing : Progressing definition store driver) (index : Nat) :
    passesLeft definition (Workflows.work service definition store driver index reading).store
        (Workflows.work service definition store driver index reading).driver =
      passesLeft definition store driver := by
  obtain ⟨stage_eq, rows_eq, _⟩ := work_keeps service definition store driver index reading
  by_cases executing : driver.stage.isExecuting = true
  · have in_pass : driver.stage.inPass = true := by
      cases at_stage : driver.stage with
      | persist update =>
          rw [at_stage] at executing
          cases update <;> first | rfl | cases executing
      | step | join => rfl
      | _ =>
          rw [at_stage] at executing
          cases executing
    rw [passesLeft_inPass in_pass, passesLeft_inPass (stage_eq ▸ in_pass), rows_eq]
  · rw [progressing.advancing.passing.tracks.work_idle (Bool.eq_false_of_not_eq_true executing)]

/-! ## A budget that is refused -/

/-- An action is passed on, or the page is inspected. -/
def EngineEvent.passesOn : EngineEvent → Bool
  | .requested _ _ | .inspected => true
  | .slotClaimed | .slotReleased | .ended _ => false

/-- The stored run is failed. -/
def Store.Failed (store : Store) : Prop := store.run.map WorkflowRun.status = some .failed

/-- A call whose budget has been refused to the step that it runs alone: it is about to fail
the run, fails the step, and ends. -/
inductive OutOfBudget (store : Store) (driver : Driver) : Prop
  | overspent {index : Nat} {message : String} (at_step : driver.stage = .step index)
      (spent : driver.workers index = .overspent message)
  | failing {index : Nat} (at_step : driver.stage = .step index)
      (failing : (driver.workers index).isFailing = true) (failed : store.Failed)
  | writes {message : String} (at_persist : driver.stage = .persist (.failed message))
  | releases (at_release : driver.stage = .release .returned) (failed : store.Failed)
  | ended (at_end : driver.stage = .off) (failed : store.Failed)

theorem releaseEvents_passesOn {event : EngineEvent} (member : event ∈ releaseEvents service) :
    event.passesOn = false := by
  unfold releaseEvents at member
  split at member
  next =>
    obtain rfl := List.mem_singleton.mp member
    rfl
  next => cases member

theorem OutOfBudget.drive (spent : OutOfBudget store driver)
    (own : driver.stage.holdsRun = true → store.run = some driver.run) :
    OutOfBudget (Workflows.drive service definition store driver reading).store
        (Workflows.drive service definition store driver reading).driver ∧
      ∀ event ∈ (Workflows.drive service definition store driver reading).events,
        event.passesOn = false := by
  cases spent with
  | overspent at_step spent =>
      rw [drive_step_waits at_step (by rw [spent]; rfl)]
      exact ⟨.overspent at_step spent, fun _ => by rintro ⟨⟩⟩
  | @failing index at_step failing failed =>
      cases worker : driver.workers index with
      | finished row =>
          rw [worker] at failing
          have row_failed : row.status = .failed := beq_iff_eq.mp failing
          unfold Workflows.drive
          rw [at_step]
          unfold classifyFinished
          dsimp only
          rw [worker]
          simp only [classify, row_failed]
          exact ⟨.writes rfl, fun _ => by rintro ⟨⟩⟩
      | idle | queued | budget | overspent | overspentRelease | inspect | request | mark =>
          rw [drive_step_waits at_step (by rw [worker]; rfl)]
          exact ⟨.failing at_step failing failed, fun _ => by rintro ⟨⟩⟩
  | @writes message at_persist =>
      have written := write_own (own (by rw [at_persist]; rfl)) (.failed message)
      unfold Workflows.drive
      rw [at_persist]
      refine ⟨.releases rfl ?_, fun _ => by rintro ⟨⟩⟩
      show (store.write driver.run (.failed message)).run.map WorkflowRun.status = some .failed
      rw [written]
      rfl
  | releases at_release failed =>
      unfold Workflows.drive
      rw [at_release]
      refine ⟨.ended rfl failed, fun event member => ?_⟩
      obtain member | member := List.mem_append.mp member
      · exact releaseEvents_passesOn member
      · obtain rfl := List.mem_singleton.mp member
        rfl
  | ended at_end failed =>
      rw [drive_off at_end]
      exact ⟨.ended at_end failed, fun _ => by rintro ⟨⟩⟩

theorem OutOfBudget.work (spent : OutOfBudget store driver)
    (advancing : Advancing definition store driver) (index : Nat) :
    OutOfBudget (Workflows.work service definition store driver index reading).store
        (Workflows.work service definition store driver index reading).driver ∧
      ∀ event ∈ (Workflows.work service definition store driver index reading).events,
        event.passesOn = false := by
  have passing := advancing.passing
  by_cases executes : driver.Executes index
  · have found : ∃ step, definition.steps[index]? = some step := by
      have within := (passing.chosen index (.inr executes)).1
      exact ⟨_, List.getElem?_eq_getElem within⟩
    obtain ⟨step, found⟩ := found
    cases spent with
    | @overspent alone message at_step spent =>
        obtain rfl : index = alone := by rwa [Driver.Executes, at_step] at executes
        have own := passing.own (by rw [at_step]; rfl)
        unfold Workflows.work
        rw [found, spent]
        refine ⟨.failing at_step ?_ ?_, fun _ => by rintro ⟨⟩⟩
        · dsimp only
          rw [enterWorker_workers, Function.update_self]
          rfl
        · rw [Store.Failed, write_own own]
          rfl
    | @failing alone at_step failing failed =>
        obtain rfl : index = alone := by rwa [Driver.Executes, at_step] at executes
        have stays_failing := @work_isFailing service definition store driver reading index index
          failing
        have stage_eq := (work_keeps service definition store driver index reading).1
        refine ⟨.failing (stage_eq.trans at_step) stays_failing ?_, ?_⟩
        · obtain ⟨run_eq, _⟩ | ⟨message, spent, _⟩ :=
            work_run service definition store driver index reading
          · rwa [Store.Failed, run_eq]
          · rw [spent] at failing
            cases failing
        · intro event member
          unfold Workflows.work at member
          rw [found] at member
          cases worker : driver.workers index with
          | overspentRelease message =>
              rw [worker] at member
              exact releaseEvents_passesOn member
          | mark outcome =>
              rw [worker] at member
              dsimp only at member
              split at member <;> cases member
          | finished row =>
              rw [worker] at member
              cases member
          | idle | queued | budget | overspent | inspect | request =>
              rw [worker] at failing
              cases failing
    | writes at_stage | releases at_stage | ended at_stage =>
        exact absurd executes (not_executes_of_stage at_stage rfl index)
  · have idle := mt (passing.tracks.working index) executes
    rw [not_or, Bool.not_eq_true, Bool.not_eq_true] at idle
    rw [work_still service definition store driver index reading idle.1 idle.2]
    exact ⟨spent, fun _ => by rintro ⟨⟩⟩

theorem OutOfBudget.not_head (spent : OutOfBudget store driver) : driver.stage.isHead = false := by
  cases spent with
  | overspent at_stage | failing at_stage | writes at_stage | releases at_stage | ended at_stage =>
      rw [at_stage]
      rfl

theorem OutOfBudget.failed_of_off (spent : OutOfBudget store driver)
    (ended : driver.stage = .off) : store.Failed := by
  cases spent with
  | ended _ failed => exact failed
  | overspent at_stage | failing at_stage | writes at_stage | releases at_stage =>
      rw [at_stage] at ended
      cases ended

/-- A worker whose budget is refused. -/
theorem outOfBudget_of_refused {index : Nat} {step : WorkflowStep}
    (found : definition.steps[index]? = some step)
    (at_budget : (driver.workers index).isBudget = true)
    (alone : driver.runsAlone index = true) (refused : (refusal service reading).isSome = true) :
    OutOfBudget (Workflows.work service definition store driver index reading).store
      (Workflows.work service definition store driver index reading).driver := by
  have at_step : driver.stage = .step index := by
    unfold Driver.runsAlone at alone
    split at alone
    next other at_step => rw [at_step, beq_iff_eq.mp alone]
    next => cases alone
  obtain ⟨failure, refused⟩ := Option.isSome_iff_exists.mp refused
  cases worker : driver.workers index with
  | budget =>
      unfold Workflows.work
      rw [found, worker]
      dsimp only
      rw [refused]
      exact .overspent at_step (Function.update_self ..)
  | idle | queued | overspent | overspentRelease | inspect | request | mark | finished =>
      rw [worker] at at_budget
      cases at_budget

/-- How many moves a call makes until it has ended, once it is out of budget. -/
def movesLeft (driver : Driver) : Nat :=
  match driver.stage with
  | .step index =>
      match driver.workers index with
      | .overspentRelease _ => 5
      | .mark _ => 4
      | .finished _ => 3
      | _ => 6
  | .persist _ => 2
  | .release _ => 1
  | _ => 0

theorem movesLeft_le (driver : Driver) : movesLeft driver ≤ 6 := by
  unfold movesLeft
  repeat' split
  all_goals omega

theorem OutOfBudget.off_of_movesLeft (spent : OutOfBudget store driver)
    (none_left : movesLeft driver = 0) : driver.stage = .off := by
  cases spent with
  | ended at_end => exact at_end
  | overspent at_stage | failing at_stage =>
      unfold movesLeft at none_left
      rw [at_stage] at none_left
      dsimp only at none_left
      split at none_left <;> cases none_left
  | writes at_stage | releases at_stage =>
      rw [movesLeft, at_stage] at none_left
      cases none_left

theorem OutOfBudget.work_movesLeft (spent : OutOfBudget store driver)
    (advancing : Advancing definition store driver) {index : Nat}
    (alone : ∀ other, driver.stage = .step other → other = index) :
    movesLeft (Workflows.work service definition store driver index reading).driver ≤
      max 3 (movesLeft driver - 1) := by
  have passing := advancing.passing
  have stage_eq := (work_keeps service definition store driver index reading).1
  cases spent with
  | writes at_stage | releases at_stage | ended at_stage =>
      rw [movesLeft, stage_eq, at_stage]
      simp
  | @overspent other message at_step spent =>
      obtain rfl := alone other at_step
      have within := (passing.chosen other (.inr (by rw [Driver.Executes, at_step]))).1
      have found : definition.steps[other]? = some _ := List.getElem?_eq_getElem within
      have work_eq : (Workflows.work service definition store driver other reading).driver.workers
          other = .overspentRelease message := by
        unfold Workflows.work
        rw [found, spent]
        exact Function.update_self ..
      simp only [movesLeft, stage_eq, at_step, work_eq, spent]
      omega
  | @failing other at_step failing failed =>
      obtain rfl := alone other at_step
      have within := (passing.chosen other (.inr (by rw [Driver.Executes, at_step]))).1
      have found : definition.steps[other]? = some _ := List.getElem?_eq_getElem within
      have rowed := passing.rowed (by rw [at_step]; rfl)
      rw [← rowed] at within
      have stored : store.steps[other]? = some _ := List.getElem?_eq_getElem within
      cases worker : driver.workers other with
      | overspentRelease message =>
          have work_eq : (Workflows.work service definition store driver other
              reading).driver.workers other =
                .mark (.failed (some "BUDGET_EXCEEDED") message) := by
            unfold Workflows.work
            rw [found, worker]
            exact Function.update_self ..
          simp only [movesLeft, stage_eq, at_step, work_eq, worker]
          omega
      | mark outcome =>
          have work_eq : (Workflows.work service definition store driver other
              reading).driver.workers other = .finished (outcome.apply store.steps[other]) := by
            unfold Workflows.work
            rw [found, worker]
            dsimp only
            rw [stored]
            exact Function.update_self ..
          simp only [movesLeft, stage_eq, at_step, work_eq, worker]
          omega
      | finished row =>
          have work_eq := work_finished service definition store driver other reading worker
          simp only [movesLeft, stage_eq, at_step, work_eq]
          omega
      | idle | queued | budget | overspent | inspect | request =>
          rw [worker] at failing
          cases failing

theorem OutOfBudget.drive_movesLeft (spent : OutOfBudget store driver)
    (few : movesLeft driver ≤ 3) :
    movesLeft (Workflows.drive service definition store driver reading).driver ≤
      movesLeft driver - 1 := by
  cases spent with
  | @overspent index message at_step spent =>
      simp only [movesLeft, at_step, spent] at few
      omega
  | @failing index at_step failing failed =>
      cases worker : driver.workers index with
      | finished row =>
          rw [worker] at failing
          have row_failed : row.status = .failed := beq_iff_eq.mp failing
          unfold Workflows.drive
          rw [at_step]
          unfold classifyFinished
          dsimp only
          rw [worker]
          simp [classify, row_failed, movesLeft, at_step, worker]
      | mark | overspentRelease | idle | queued | budget | overspent | inspect | request =>
          simp only [movesLeft, at_step, worker] at few
          omega
  | writes at_persist =>
      unfold Workflows.drive
      rw [at_persist]
      simp [movesLeft, at_persist, Workflows.persist, afterWrite]
  | releases at_release =>
      unfold Workflows.drive
      rw [at_release]
      simp [movesLeft, at_release]
  | ended at_end =>
      rw [drive_off at_end]
      simp [movesLeft, at_end]

end Passes

section Progress

variable (service : WorkflowService) (definition : WorkflowDefinition) (caller : Nat)

/-- Governance refuses a step budget to a call. -/
def refusesBudget (state : EngineState) : Input → Bool
  | .drive other reading =>
      other == caller && (refusal service reading).isSome &&
        match (state.drivers caller).stage with
        | .budget _ _ => true
        | _ => false
  | .work other index reading =>
      other == caller && (refusal service reading).isSome &&
        ((state.drivers caller).workers index).isBudget
  | _ => false

/-- From a state on, a call passes nothing on and starts no pass.  It has failed the run when
it has ended, and its own moves end it, whatever they read. -/
structure FailsAtOnce (state : EngineState) (inputs : List Input) : Prop where
  silent : ∀ event ∈ (engine service definition).trace id state inputs, event.passesOn = false
  noPass : (engine service definition).countSteps (startsPass caller) state inputs = 0
  failed : (((engine service definition).stateAfter state inputs).drivers caller).stage = .off →
    ((engine service definition).stateAfter state inputs).store.Failed
  returns : ∀ reading, ∃ later : List Input,
    (∀ input ∈ later, input = .drive caller reading ∨ ∃ index, input = .work caller index reading) ∧
    (((engine service definition).stateAfter state (inputs ++ later)).drivers caller).stage = .off

/-- A call makes progress: its passes are at most twice as many as the steps and one more, a
step has moved forward whenever the loop is back at its head, and a refused budget fails the
run at once. -/
structure Progresses (start : EngineState) (inputs : List Input) : Prop where
  passes : (engine service definition).countSteps (startsPass caller) start inputs ≤
    2 * definition.steps.length + 1
  moves : (engine service definition).Admits (fun state input =>
    (state.drivers caller).stage.inPass = true →
      ((engineStep service definition state input).1.drivers caller).stage = .head →
        Since (state.drivers caller).rows
          (engineStep service definition state input).1.store.steps ∧
          Moved (state.drivers caller).rows
            (engineStep service definition state input).1.store.steps) start inputs
  refused : ∀ before input after, inputs = before ++ input :: after →
    refusesBudget service caller
      ((engine service definition).stateAfter start before) input = true →
      FailsAtOnce service definition caller
        ((engine service definition).stateAfter start (before ++ [input])) after

variable {service definition caller}

/-- A call that is alone, and to no batch of which a budget is refused. -/
def Granted (service : WorkflowService) (caller : Nat) (state : EngineState) (input : Input) :
    Prop :=
  Alone caller input ∧ GrantsBatches service state input

theorem progressingRule :
    AloneRule service definition caller (Progressing definition) (Granted service caller) where
  alone _ _ allowed := allowed.1
  decides _ _ confirmations progressing :=
    ⟨⟨progressing.advancing.passing.decided confirmations, progressing.advancing.stored⟩,
      progressing.unrefused, progressing.moved⟩
  drives state reading allowed progressing := by
    apply progressing.drive
    intro first rest at_budget
    have granted := allowed.2
    rw [GrantsBatches, at_budget] at granted
    exact Option.isNone_iff_eq_none.mp granted
  works _ index _ _ progressing := progressing.work index

theorem Progressing.step_pays {state : EngineState} {input : Input}
    (progressing : Progressing definition state.store (state.drivers caller))
    (allowed : Granted service caller state input) :
    (startsPass caller state input).toNat +
        passesLeft definition (engineStep service definition state input).1.store
          ((engineStep service definition state input).1.drivers caller) ≤
      passesLeft definition state.store (state.drivers caller) := by
  obtain ⟨alone, granted⟩ := allowed
  cases input with
  | launch | crash => cases alone
  | drive other reading =>
      obtain rfl : other = caller := alone
      have pays := @Progressing.pays service definition _ _ reading progressing
        fun first rest at_budget => by
          rw [GrantsBatches, at_budget] at granted
          exact Option.isNone_iff_eq_none.mp granted
      unfold engineStep
      dsimp only
      rw [after_store, after_drivers_self, startsPass, beq_self_eq_true, Bool.true_and]
      exact pays
  | work other index reading =>
      obtain rfl : other = caller := alone
      rw [show startsPass other state (.work other index reading) = false from rfl,
        Bool.toNat_false, Nat.zero_add]
      unfold engineStep
      dsimp only
      split
      next => exact le_rfl
      next =>
        rw [after_store, after_drivers_self]
        exact (progressing.pays_work index).le
  | decide confirmationId status =>
      rw [show startsPass caller state (.decide confirmationId status) = false from rfl,
        Bool.toNat_false, Nat.zero_add]
      unfold engineStep
      dsimp only
      split <;> exact le_rfl

theorem Progressing.step_moves {state : EngineState} {input : Input}
    (progressing : Progressing definition state.store (state.drivers caller))
    (alone : Alone caller input) (in_pass : (state.drivers caller).stage.inPass = true)
    (returned : ((engineStep service definition state input).1.drivers caller).stage = .head) :
    Since (state.drivers caller).rows (engineStep service definition state input).1.store.steps ∧
      Moved (state.drivers caller).rows
        (engineStep service definition state input).1.store.steps := by
  have not_head : (state.drivers caller).stage ≠ .head := by
    intro at_head
    rw [at_head] at in_pass
    cases in_pass
  cases input with
  | launch | crash => cases alone
  | drive other reading =>
      obtain rfl : other = caller := alone
      unfold engineStep at returned ⊢
      dsimp only at returned ⊢
      rw [after_drivers_self] at returned
      rw [after_store]
      apply progressing.returns _ returned
      cases at_stage : (state.drivers other).stage with
      | head => exact absurd at_stage not_head
      | _ => rwa [at_stage] at in_pass
  | work other index reading =>
      obtain rfl : other = caller := alone
      unfold engineStep at returned
      dsimp only at returned
      split at returned
      next => exact absurd returned not_head
      next =>
        rw [after_drivers_self, (work_keeps service definition _ _ index reading).1] at returned
        exact absurd returned not_head
  | decide confirmationId status =>
      unfold engineStep at returned
      dsimp only at returned
      split at returned <;> exact absurd returned not_head

/-- What a call does once it is out of budget. -/
structure Spent (definition : WorkflowDefinition) (store : Store) (driver : Driver) : Prop where
  advancing : Advancing definition store driver
  spent : OutOfBudget store driver

theorem spentRule :
    AloneRule service definition caller (Spent definition) fun _ => Alone caller where
  alone _ _ alone := alone
  decides store driver confirmations holds := by
    refine ⟨⟨holds.advancing.passing.decided confirmations, holds.advancing.stored⟩, ?_⟩
    cases holds.spent with
    | overspent at_step spent => exact .overspent at_step spent
    | failing at_step failing failed => exact .failing at_step failing failed
    | writes at_persist => exact .writes at_persist
    | releases at_release failed => exact .releases at_release failed
    | ended at_end failed => exact .ended at_end failed
  drives _ reading _ holds :=
    ⟨holds.advancing.drive reading, (holds.spent.drive holds.advancing.passing.own).1⟩
  works _ index reading _ holds :=
    ⟨holds.advancing.work index reading, (holds.spent.work holds.advancing index).1⟩

theorem Spent.step_silent {state : EngineState} {input : Input}
    (holds : Spent definition state.store (state.drivers caller)) (alone : Alone caller input) :
    ∀ event ∈ (engineStep service definition state input).2, event.passesOn = false := by
  cases input with
  | launch | crash => cases alone
  | drive other reading =>
      obtain rfl : other = caller := alone
      exact (holds.spent.drive holds.advancing.passing.own).2
  | work other index reading =>
      obtain rfl : other = caller := alone
      unfold engineStep
      dsimp only
      split
      next => exact fun _ => nofun
      next => exact (holds.spent.work holds.advancing index).2
  | decide confirmationId status =>
      unfold engineStep
      dsimp only
      split <;> exact fun _ => nofun

/-- A call that is out of budget, and the step that it runs alone. -/
structure SpentOn (definition : WorkflowDefinition) (caller index : Nat) (state : EngineState) :
    Prop where
  holds : Spent definition state.store (state.drivers caller)
  alone : ∀ other, (state.drivers caller).stage = .step other → other = index

theorem Spent.on {state : EngineState}
    (holds : Spent definition state.store (state.drivers caller)) :
    ∃ index, SpentOn definition caller index state := by
  cases at_stage : (state.drivers caller).stage with
  | step index =>
      refine ⟨index, holds, fun other same => ?_⟩
      rw [at_stage] at same
      exact (Stage.step.inj same).symm
  | _ =>
      refine ⟨0, holds, fun other same => ?_⟩
      rw [at_stage] at same
      cases same

theorem SpentOn.work {index : Nat} {state : EngineState}
    (spent : SpentOn definition caller index state) (reading : Reading) :
    SpentOn definition caller index
        ((engine service definition).step state (.work caller index reading)).1 ∧
      movesLeft (((engine service definition).step state (.work caller index reading)).1.drivers
        caller) ≤ max 3 (movesLeft (state.drivers caller) - 1) := by
  have alone : Alone caller (.work caller index reading) := rfl
  have holds := @AloneRule.step service definition caller _ _ spentRule state _ spent.holds alone
  rw [engine_step]
  refine ⟨⟨holds, ?_⟩, ?_⟩
  · unfold engineStep
    dsimp only
    split
    next => exact spent.alone
    next =>
      rw [after_drivers_self, (work_keeps service definition _ _ index reading).1]
      exact spent.alone
  · unfold engineStep
    dsimp only
    split
    next at_end => simp [movesLeft, at_end]
    next =>
      rw [after_drivers_self]
      exact spent.holds.spent.work_movesLeft spent.holds.advancing spent.alone

theorem Spent.drive_movesLeft {state : EngineState}
    (holds : Spent definition state.store (state.drivers caller))
    (few : movesLeft (state.drivers caller) ≤ 3) (reading : Reading) :
    movesLeft (((engine service definition).step state (.drive caller reading)).1.drivers
      caller) ≤ movesLeft (state.drivers caller) - 1 := by
  rw [engine_step]
  unfold engineStep
  dsimp only
  rw [after_drivers_self]
  exact holds.spent.drive_movesLeft few

/-- The moves that end a call that is out of budget. -/
theorem Spent.returns {state : EngineState}
    (holds : Spent definition state.store (state.drivers caller)) (reading : Reading) :
    ∃ later : List Input,
      (∀ input ∈ later, input = .drive caller reading ∨
        ∃ index, input = .work caller index reading) ∧
      (((engine service definition).stateAfter state later).drivers caller).stage = .off := by
  obtain ⟨index, spent⟩ := holds.on
  have work_step := fun state (spent : SpentOn definition caller index state) =>
    @SpentOn.work service definition caller index state spent reading
  obtain ⟨worked, few⟩ := Machine.stateAfter_replicate_le
    (motive := SpentOn definition caller index) (fun state => movesLeft (state.drivers caller))
    (fun state spent => (work_step state spent).1) (fun state spent => (work_step state spent).2)
    3 spent
  have at_most := movesLeft_le (state.drivers caller)
  generalize worked_eq : (engine service definition).stateAfter state
    (List.replicate 3 (.work caller index reading)) = between at worked few
  have drive_step := fun (state : EngineState)
      (driven : Spent definition state.store (state.drivers caller) ∧
        movesLeft (state.drivers caller) ≤ 3) =>
    @Spent.drive_movesLeft service definition caller state driven.1 driven.2 reading
  obtain ⟨⟨driven, _⟩, none_left⟩ := Machine.stateAfter_replicate_le
    (motive := fun state : EngineState => Spent definition state.store (state.drivers caller) ∧
      movesLeft (state.drivers caller) ≤ 3)
    (fun state => movesLeft (state.drivers caller))
    (fun state driven => ⟨
      spentRule.step driven.1 (show Alone caller (.drive caller reading) from rfl),
      (drive_step state driven).trans ((Nat.sub_le _ _).trans driven.2)⟩)
    (fun state driven => (drive_step state driven).trans (Nat.le_max_right 0 _))
    3 ⟨worked.holds, by omega⟩
  refine ⟨List.replicate 3 (.work caller index reading) ++
    List.replicate 3 (.drive caller reading), ?_, ?_⟩
  · intro input member
    obtain member | member := List.mem_append.mp member
    · exact .inr ⟨index, List.eq_of_mem_replicate member⟩
    · exact .inl (List.eq_of_mem_replicate member)
  · rw [Machine.stateAfter_append, worked_eq]
    exact driven.spent.off_of_movesLeft (by omega)

/-- A call that is out of budget fails at once. -/
theorem Spent.failsAtOnce {state : EngineState} {inputs : List Input}
    (holds : Spent definition state.store (state.drivers caller))
    (alone : (engine service definition).Admits (fun _ => Alone caller) state inputs) :
    FailsAtOnce service definition caller state inputs := by
  have silent := Machine.trace_invariant_of_admits id
    (motive := fun (seen : List EngineEvent) (state : EngineState) =>
      Spent definition state.store (state.drivers caller) ∧
        ∀ event ∈ seen, event.passesOn = false)
    ⟨holds, fun _ => nofun⟩
    (fun seen state input kept allowed => by
      refine ⟨spentRule.step kept.1 allowed, fun event member => ?_⟩
      obtain old | new := List.mem_append.mp member
      · exact kept.2 event old
      · exact kept.1.step_silent allowed event new)
    alone
  obtain ⟨after, quiet⟩ := silent
  have no_pass := Machine.countSteps_le
    (motive := fun state : EngineState => Spent definition state.store (state.drivers caller))
    (startsPass caller) (fun _ => 0) holds
    (fun _ _ kept allowed => spentRule.step kept allowed)
    (fun state input kept _ => by
      have not_head := kept.spent.not_head
      cases input <;> simp [startsPass, not_head])
    alone
  refine ⟨quiet, by omega, after.spent.failed_of_off, fun reading => ?_⟩
  obtain ⟨later, own, ended⟩ := after.returns reading
  exact ⟨later, own, by rwa [Machine.stateAfter_append]⟩

/-- A refused budget leaves a call out of budget. -/
theorem Progressing.spent_of_refused {state : EngineState} {input : Input}
    (progressing : Progressing definition state.store (state.drivers caller))
    (allowed : Granted service caller state input)
    (refused : refusesBudget service caller state input = true) :
    Spent definition (engineStep service definition state input).1.store
      ((engineStep service definition state input).1.drivers caller) := by
  obtain ⟨alone, granted⟩ := allowed
  have advancing := (advancingRule service definition caller).step progressing.advancing alone
  refine ⟨advancing, ?_⟩
  cases input with
  | launch | crash | decide => cases refused
  | drive other reading =>
      rw [refusesBudget] at refused
      split at refused
      next first rest at_budget =>
        obtain rfl : other = caller := alone
        rw [GrantsBatches, at_budget] at granted
        simp [Option.isNone_iff_eq_none.mp granted] at refused
      next => simp at refused
  | work other index reading =>
      obtain rfl : other = caller := alone
      rw [refusesBudget, beq_self_eq_true, Bool.true_and, Bool.and_eq_true] at refused
      obtain ⟨refused, at_budget⟩ := refused
      have runs_alone := (granted at_budget).resolve_right fun none => by
        rw [Option.isNone_iff_eq_none] at none
        rw [none] at refused
        cases refused
      have passing := progressing.advancing.passing
      have active : ((state.drivers other).workers index).isActive = true := by
        cases worker : (state.drivers other).workers index <;> rw [worker] at at_budget <;> first
          | rfl
          | cases at_budget
      have executes := passing.tracks.working index (.inr active)
      have within := (passing.chosen index (.inr executes)).1
      unfold engineStep
      dsimp only
      split
      next at_end => exact absurd executes (not_executes_of_stage at_end rfl index)
      next =>
        rw [after_store, after_drivers_self]
        exact outOfBudget_of_refused (List.getElem?_eq_getElem within) at_budget runs_alone refused

/-- A call that begins in any reachable state and is alone makes progress, if no step budget
is refused to a batch or to a member of one. -/
theorem progresses (service : WorkflowService) (definition : WorkflowDefinition)
    (history : List Input) (caller : Nat) (ctx : ExecutionContext) (allowed : String → Bool)
    (call : RunCall) (inputs : List Input)
    (idle : (((engine service definition).stateAfter initialState history).drivers caller).stage =
      .off)
    (granted : (engine service definition).Admits (Granted service caller)
      ((engine service definition).stateAfter initialState
        (history ++ [.launch caller ctx allowed call])) inputs) :
    Progresses service definition caller
      ((engine service definition).stateAfter initialState
        (history ++ [.launch caller ctx allowed call])) inputs := by
  have launched : (engine service definition).stateAfter initialState
      (history ++ [.launch caller ctx allowed call]) =
        ((engine service definition).stateAfter initialState history).after caller
          { store := ((engine service definition).stateAfter initialState history).store
            driver := { stage := call.stage, ctx, allowed } } := by
    rw [Machine.stateAfter_append, Machine.stateAfter_cons, Machine.stateAfter_nil, engine_step]
    unfold engineStep
    dsimp only
    rw [idle]
  rw [launched] at granted ⊢
  have all := allRowed service definition history
  generalize (engine service definition).stateAfter initialState history = state at *
  generalize start_eq : state.after caller
    { store := state.store, driver := { stage := call.stage, ctx, allowed } } = start at *
  have initially : Progressing definition start.store (start.drivers caller) := by
    rw [← start_eq, after_store, after_drivers_self]
    refine ⟨advancing_launched all ctx allowed call, ?_, ?_⟩
    · cases call <;> rfl
    · cases call <;> exact nofun
  have entering : (start.drivers caller).stage.isEntry = true := by
    rw [← start_eq, after_drivers_self]
    cases call <;> rfl
  refine ⟨?_, ?_, ?_⟩
  · have bound := Machine.countSteps_le
      (motive := fun state : EngineState =>
        Progressing definition state.store (state.drivers caller))
      (startsPass caller)
      (fun state => passesLeft definition state.store (state.drivers caller)) initially
      (fun _ _ holds allowed => progressingRule.step holds allowed)
      (fun _ _ holds allowed => holds.step_pays allowed) granted
    rw [passesLeft_entry entering] at bound
    omega
  · exact progressingRule.admits initially
      (fun _ _ holds allowed => holds.step_moves allowed.1) granted
  · rintro before input after rfl refused
    have reached := progressingRule.invariant initially granted.left
    have allowed := granted before input after rfl
    have spent := reached.spent_of_refused allowed refused
    rw [Machine.stateAfter_append, Machine.stateAfter_cons, Machine.stateAfter_nil]
    have alone_after := granted.right
    rw [Machine.admits_cons] at alone_after
    exact spent.failsAtOnce fun earlier chosen later split =>
      (alone_after.2 earlier chosen later split).1

end Progress

namespace Demo

/-- The demonstration service with a governance service. -/
def governedService : WorkflowService := { service with governed := true }

/-- Governance refuses. -/
def overBudget : Reading := { executed with governance := some ⟨none, "budget exceeded"⟩ }

/-- The first step of a run, alone, up to its budget. -/
def alone : List Input := moves 0 8 ++ works 0 0 1

/-- Passes of a call to a batch of which a budget is refused. -/
def refusedPasses (count : Nat) : List Input :=
  moves 0 4 ++ List.replicate (5 * count) (.drive 0 overBudget)

end Demo

/-- The budget of the first step is refused. -/
theorem progresses_demo :
    Progresses Demo.governedService Demo.pair 0
      ((engine Demo.governedService Demo.pair).stateAfter initialState ([] ++ [Demo.start 0]))
      (Demo.alone ++ .work 0 0 Demo.overBudget :: Demo.works 0 0 3 ++ Demo.moves 0 3) :=
  progresses Demo.governedService Demo.pair [] 0 { actorId := "alice" } (fun _ => true)
    (.start { runId := "run", params := [] })
    (Demo.alone ++ .work 0 0 Demo.overBudget :: Demo.works 0 0 3 ++ Demo.moves 0 3) rfl
    (show (engine Demo.governedService Demo.pair).Admits (fun state input =>
      Alone 0 input ∧ GrantsBatches Demo.governedService state input) _ _ by decide +kernel)

/-- A call whose batch is refused its budget passes its loop again and again: six times over
two steps, and no step has moved. -/
theorem not_progresses :
    ¬∀ inputs, (engine Demo.governedService Demo.together).Admits (fun _ => Alone 0)
        ((engine Demo.governedService Demo.together).stateAfter initialState [Demo.start 0])
        inputs →
      Progresses Demo.governedService Demo.together 0
        ((engine Demo.governedService Demo.together).stateAfter initialState [Demo.start 0])
        inputs := by
  intro all_progress
  have alone : (engine Demo.governedService Demo.together).Admits (fun _ => Alone 0)
      ((engine Demo.governedService Demo.together).stateAfter initialState [Demo.start 0])
      (Demo.refusedPasses 6) := by
    decide +kernel
  have six : (engine Demo.governedService Demo.together).countSteps (startsPass 0)
      ((engine Demo.governedService Demo.together).stateAfter initialState [Demo.start 0])
      (Demo.refusedPasses 6) = 6 := by
    decide +kernel
  have bound := (all_progress _ alone).passes
  rw [six] at bound
  exact absurd bound (by decide)

end Era.Workflows
