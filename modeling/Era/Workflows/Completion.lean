import Era.Workflows.Transitions

/-!
# Completion

A run is completed when all its steps are settled and neither an ambiguous step nor a failed
one with an error code is among them.  What is left to rule out is a failed step without a
code: a step that a policy has denied.
-/

namespace Era.Workflows

open Era.Core Era.Lib Era.Services

/-- A failed step carries an error code. -/
def WorkflowStepRun.coded (row : WorkflowStepRun) : Prop :=
  row.status = .failed → nonempty row.errorCode = true

/-- Every failed step carries an error code. -/
def Coded (rows : List WorkflowStepRun) : Prop := ∀ row ∈ rows, row.coded

instance (row : WorkflowStepRun) : Decidable row.coded := by
  unfold WorkflowStepRun.coded
  infer_instance

instance (rows : List WorkflowStepRun) : Decidable (Coded rows) := by
  unfold Coded
  infer_instance

/-- Rows that leave the run open have no ambiguous step, and none that has failed with a code
unless others are pending. -/
theorem refreshRunStatus_eq_none {rows : List WorkflowStepRun}
    (unsettled : refreshRunStatus rows = none) {row : WorkflowStepRun} (member : row ∈ rows) :
    row.status ≠ .ambiguous ∧ (row.status = .failed → nonempty row.errorCode = true →
      ∃ other ∈ rows, other.status = .pending) := by
  unfold refreshRunStatus at unsettled
  split at unsettled
  next => cases unsettled
  next none_ambiguous =>
    refine ⟨fun ambiguous => none_ambiguous ?_, fun failed coded => ?_⟩
    · exact List.any_eq_true.mpr ⟨row, member, by rw [ambiguous]; rfl⟩
    · split at unsettled
      next none_failed =>
        have not_failed := List.find?_eq_none.mp none_failed row member
        rw [failed, coded] at not_failed
        exact absurd rfl not_failed
      next =>
        split at unsettled
        next pending =>
          obtain ⟨other, is_row, pending⟩ := List.any_eq_true.mp pending
          exact ⟨other, is_row, beq_iff_eq.mp pending⟩
        next => cases unsettled

/-- Settled rows that leave the run open are done. -/
theorem done_of_settled {definition : WorkflowDefinition} {rows : List WorkflowStepRun}
    (settled : allSettled definition rows = true) (unsettled : refreshRunStatus rows = none)
    (coded : Coded rows) (uncancelled : ∀ row ∈ rows, row.status ≠ .cancelled)
    (within : rows.length ≤ definition.steps.length) {index : Nat}
    (bound : index < definition.steps.length) : (statusAt rows index).done = true := by
  have settled_at (place : Nat) (bound : place < definition.steps.length) :
      ∃ row, rows[place]? = some row ∧ row.status.settled = true := by
    have at_place := List.all_eq_true.mp settled place (List.mem_range.mpr bound)
    exact Option.any_eq_true _ _ |>.mp at_place
  obtain ⟨row, found, row_settled⟩ := settled_at index bound
  have member := List.mem_of_getElem? found
  obtain ⟨not_ambiguous, failed_pending⟩ := refreshRunStatus_eq_none unsettled member
  have not_failed : row.status ≠ .failed := by
    intro failed
    obtain ⟨other, is_row, pending⟩ := failed_pending failed (coded row member failed)
    obtain ⟨place, found_other⟩ := List.getElem?_of_mem is_row
    obtain ⟨in_rows, _⟩ := List.getElem?_eq_some_iff.mp found_other
    obtain ⟨same, found_same, other_settled⟩ := settled_at place (by omega)
    obtain rfl := Option.some.inj (found_other.symm.trans found_same)
    rw [pending] at other_settled
    cases other_settled
  rw [statusAt, found, Option.map_some, Option.getD_some]
  have not_cancelled := uncancelled row member
  cases status : row.status with
  | completed | skipped | skippedConditional => rfl
  | ambiguous => exact absurd status not_ambiguous
  | failed => exact absurd status not_failed
  | cancelled => exact absurd status not_cancelled
  | pending | running | waiting =>
      rw [status] at row_settled
      cases row_settled

/-! ## Marks -/

/-- A mark that fails a step gives an error code. -/
def StepMark.coded : StepMark → Prop
  | .failed errorCode _ => nonempty errorCode = true
  | .completed _ | .skipped _ | .ambiguous _ _ | .awaiting _ => True

/-- A mark that fails a step and gives an error code. -/
def StepMark.failsCoded : StepMark → Prop
  | .failed errorCode _ => nonempty errorCode = true
  | .completed _ | .skipped _ | .ambiguous _ _ | .awaiting _ => False

theorem StepMark.coded_of_failsCoded {mark : StepMark} (fails : mark.failsCoded) : mark.coded := by
  cases mark with
  | failed => exact fails
  | completed | skipped | ambiguous | awaiting => cases fails

theorem StepMark.coded_apply {mark : StepMark} (coded : mark.coded) (row : WorkflowStepRun) :
    (mark.apply row).coded := by
  intro failed
  cases mark with
  | failed => exact coded
  | completed | skipped | ambiguous | awaiting => cases failed

theorem nonempty_value (code : ProviderErrorCode) : nonempty (some code.value) = true := by
  cases code <;> decide

theorem WorkflowError.failsCoded_mark (failure : WorkflowError) : failure.mark.failsCoded := by
  cases failure <;> exact nonempty_value _

/-- Whether an answer denies a step that is not skipped then. -/
def deniesFor (step : WorkflowStep) (answer : Except PyException StepResponse) : Bool :=
  match answer with
  | .ok { response, .. } => response.status == .denied && step.onDenied == .stop
  | .error _ => false

/-- Only a denied step fails without an error code. -/
theorem coded_markOf {step : WorkflowStep} {answer : Except PyException StepResponse}
    (not_denied : deniesFor step answer = false) : (markOf step answer).coded := by
  unfold markOf
  cases answer with
  | error exception => exact StepMark.coded_of_failsCoded (WorkflowError.failsCoded_mark _)
  | ok answer =>
      obtain ⟨response, created⟩ := answer
      dsimp only
      split
      next => exact True.intro
      next => exact True.intro
      next denied =>
        split
        next => exact True.intro
        next stop =>
          rw [deniesFor, denied, stop] at not_denied
          cases not_denied
      all_goals
        split
        next => exact True.intro
        next => exact nonempty_value _

section Marks

variable (service : WorkflowService) (definition : WorkflowDefinition)

theorem renderExpectation_failsCoded (step : WorkflowStep) (run : WorkflowRun) (rendered : Params)
    {mark : StepMark} (marks : renderExpectation service step run rendered = .mark mark) :
    mark.failsCoded := by
  unfold renderExpectation at marks
  split at marks
  next failure _ =>
    cases marks
    exact failure.failsCoded_mark
  next => cases marks
  next => cases marks

theorem prepare_failsCoded (step : WorkflowStep) (run : WorkflowRun) {mark : StepMark}
    (marks : prepare service step run = .mark mark) : mark.failsCoded := by
  unfold prepare at marks
  split at marks
  next failure _ =>
    cases marks
    exact failure.failsCoded_mark
  next =>
    split at marks
    next => cases marks
    next => exact renderExpectation_failsCoded service step run _ marks

theorem acquire_failsCoded (step : WorkflowStep) (run : WorkflowRun) (reading : Reading)
    (rendered : Params) {mark : StepMark}
    (marks : acquire service step run reading rendered = .mark mark) : mark.failsCoded := by
  unfold acquire at marks
  split at marks
  next => exact renderExpectation_failsCoded service step run _ marks
  next =>
    split at marks
    next failure _ =>
      cases marks
      exact failure.failsCoded_mark
    next => exact renderExpectation_failsCoded service step run _ marks

/-- A mark is what has become of an answer, or fails its step with an error code. -/
theorem work_mark (store : Store) (driver : Driver) (index : Nat) (reading : Reading)
    {other : Nat} {mark : StepMark}
    (marks : (work service definition store driver index reading).driver.workers other =
      .mark mark) :
    driver.workers other = .mark mark ∨ mark.failsCoded ∨
      ∃ step action, other = index ∧ definition.steps[index]? = some step ∧
        driver.workers index = .request action ∧ mark = markOf step reading.answer := by
  by_cases same : other = index
  · subst same
    revert marks
    unfold work
    cases found : definition.steps[other]? with
    | none => exact .inl
    | some step =>
        cases was : driver.workers other with
        | idle | finished => exact fun marks => .inl (was ▸ marks)
        | queued =>
            dsimp only
            intro marks
            repeat' split at marks
            all_goals simp [was] at marks
        | budget =>
            dsimp only
            intro marks
            split at marks
            next => simp at marks
            next =>
              rw [enterWorker_workers, Function.update_self] at marks
              exact .inr (.inl (prepare_failsCoded service step driver.run marks))
        | overspent => simp
        | overspentRelease message =>
            intro marks
            rw [enterWorker_workers, Function.update_self] at marks
            cases marks
            exact .inr (.inl (show nonempty (some "BUDGET_EXCEEDED") = true by decide))
        | inspect rendered =>
            intro marks
            rw [enterWorker_workers, Function.update_self] at marks
            exact .inr (.inl (acquire_failsCoded service step driver.run reading rendered marks))
        | request action =>
            intro marks
            rw [enterWorker_workers, Function.update_self] at marks
            cases marks
            exact .inr (.inr ⟨step, action, rfl, rfl, rfl, rfl⟩)
        | mark =>
            dsimp only
            intro marks
            split at marks
            next => exact .inl (was ▸ marks)
            next => simp at marks
  · left
    rw [← marks]
    have found := work_case service definition store driver index reading
    generalize work service definition store driver index reading = move at found
    cases found with
    | stays => rfl
    | claims | requests | marks => exact (Function.update_of_ne same _ _).symm
    | proceeds _ _ _ _ _ _ _ workers_eq =>
        rw [workers_eq]
        exact (Function.update_of_ne same _ _).symm

end Marks

/-! ## The invariant -/

/-- What the rows are at any time. -/
structure Sound (definition : WorkflowDefinition) (store : Store) : Prop where
  within : store.steps.length ≤ definition.steps.length
  uncancelled : ∀ row ∈ store.steps, row.status ≠ .cancelled

/-- In the loop every failed step carries an error code, but for one that has just failed
alone; a run is about to be completed only if its steps are done. -/
structure CodesFailures (definition : WorkflowDefinition) (store : Store) (driver : Driver) :
    Prop where
  tracks : Tracks store driver
  sound : Sound definition store
  coded : driver.stage.inLoop = true → ∀ (index : Nat) (row : WorkflowStepRun),
    store.steps[index]? = some row → row.coded ∨ driver.stage = .step index ∧
      ∃ finished, driver.workers index = .finished finished ∧ finished.status = .failed
  marked : ∀ index mark, driver.workers index = .mark mark →
    mark.coded ∨ driver.stage = .step index
  completing : ∀ count, driver.stage = .persist (.completed count) →
    ∀ index < definition.steps.length, (statusAt store.steps index).done = true

/-- Whether a step is executed alone. -/
def Driver.runsAlone (driver : Driver) (index : Nat) : Bool :=
  match driver.stage with
  | .step alone => alone == index
  | _ => false

/-- A call finds no failed step without an error code when it enters the loop, and no member
of a batch is denied for good. -/
def FailsCoded (definition : WorkflowDefinition) (state : EngineState) : Input → Prop
  | .drive caller _ =>
      match (state.drivers caller).stage with
      | .load => Coded state.store.steps
      | _ => True
  | .work caller index reading =>
      match definition.steps[index]?, (state.drivers caller).workers index with
      | some step, .request _ =>
          (state.drivers caller).runsAlone index = true ∨ deniesFor step reading.answer = false
      | _, _ => True
  | .launch .. | .crash _ | .decide .. => True

instance (definition : WorkflowDefinition) (state : EngineState) (input : Input) :
    Decidable (FailsCoded definition state input) := by
  dsimp only [FailsCoded]
  induction input using Input.casesOn with
  | drive caller reading =>
      dsimp only
      generalize (state.drivers caller).stage = stage
      induction stage using Stage.casesOn <;> infer_instance
  | work caller index reading =>
      dsimp only
      generalize definition.steps[index]? = step
      generalize (state.drivers caller).workers index = worker
      induction step using Option.casesOn <;>
        induction worker using WorkerStage.casesOn <;> infer_instance
  | launch | crash | decide => infer_instance

section Preserved

variable {service : WorkflowService} {definition : WorkflowDefinition}
variable {store : Store} {driver : Driver} {reading : Reading}

theorem Sound.drive (sound : Sound definition store) :
    Sound definition (drive service definition store driver reading).store := by
  constructor
  · cases drive_case service definition store driver reading with
    | quiet steps_eq | queues _ steps_eq =>
        rw [steps_eq]
        exact sound.within
    | selects _ store_eq | gathers _ store_eq =>
        rw [store_eq]
        exact sound.within
    | settles _ _ _ _ _ steps_eq | skips _ _ steps_eq | resolves _ _ steps_eq =>
        rw [steps_eq, List.length_modify]
        exact sound.within
    | creates _ _ _ _ steps_eq => rw [steps_eq, List.length_map]
  · intro row member cancelled
    obtain ⟨index, found⟩ := List.getElem?_of_mem member
    obtain stored | pending | done := drive_row service definition store driver reading found
    · exact sound.uncancelled row (List.mem_of_getElem? stored) cancelled
    · rw [cancelled] at pending
      cases pending
    · rw [cancelled] at done
      cases done

theorem Sound.work (sound : Sound definition store) (index : Nat) :
    Sound definition (work service definition store driver index reading).store := by
  constructor
  · have within := sound.within
    have found := work_case service definition store driver index reading
    generalize Workflows.work service definition store driver index reading = move at found ⊢
    cases found with
    | stays => exact within
    | proceeds _ _ _ steps_eq =>
        rw [steps_eq]
        exact within
    | requests => rwa [await_steps]
    | claims | marks => rwa [List.length_set]
  · intro row member cancelled
    obtain ⟨other, found⟩ := List.getElem?_of_mem member
    obtain stored | ⟨_, running | ⟨mark, earlier, _, rfl, _⟩⟩ :=
      work_row service definition store driver index reading found
    · exact sound.uncancelled row (List.mem_of_getElem? stored) cancelled
    · rw [cancelled] at running
      cases running
    · cases mark <;> cases cancelled

/-- A run is about to be completed when its rows are settled and leave it open. -/
theorem Transition.completing {after : Store} {next : Driver} {count : Nat}
    (transition : Transition service definition store driver reading after next)
    (at_persist : next.stage = .persist (.completed count)) :
    after = store ∧ (driver.stage = .persist (.completed count) ∨
      driver.stage = .head ∧ refreshRunStatus store.steps = none ∧
        allSettled definition store.steps = true) := by
  cases transition with
  | waits => exact ⟨rfl, .inl at_persist⟩
  | completes at_head none_waiting unsettled settled =>
      exact ⟨rfl, .inr ⟨at_head, unsettled, settled⟩⟩
  | starts stage starting =>
      cases stage <;> first | cases starting; done | cases at_persist
  | examines looping stage examining fewer =>
      cases stage <;> first | cases examining; done | cases at_persist
  | refreshes looping settled =>
      cases at_persist
      unfold refreshRunStatus at settled
      repeat' split at settled
      all_goals cases settled
  | classified at_step finished settled =>
      cases at_persist
      unfold classify at settled
      split at settled <;> cases settled
  | _ => cases at_persist

theorem CodesFailures.drive (codes : CodesFailures definition store driver)
    (coded_at_load : driver.stage = .load → Coded store.steps) :
    CodesFailures definition (drive service definition store driver reading).store
      (drive service definition store driver reading).driver := by
  have transition := drive_transition service definition store driver reading
  refine ⟨codes.tracks.drive reading, codes.sound.drive, ?_, ?_, ?_⟩
  · intro looping index row found
    obtain stored | pending | done := drive_row service definition store driver reading found
    · obtain was_looping | at_load := transition.inLoop looping
      · obtain coded | ⟨at_step, finished, at_worker, failed⟩ :=
          codes.coded was_looping index row stored
        · exact .inl coded
        · rw [drive_step_failed at_step at_worker failed] at looping
          cases looping
      · exact .inl (coded_at_load at_load row (List.mem_of_getElem? stored))
    · exact .inl fun failed => by rw [failed] at pending; cases pending
    · exact .inl fun failed => by rw [failed] at done; cases done
  · intro index mark marks
    obtain same | queued := drive_worker service definition store driver reading index
    · rw [same] at marks
      obtain coded | at_step := codes.marked index mark marks
      · exact .inl coded
      · rw [drive_step_waits at_step (by rw [marks]; rfl)]
        exact .inr at_step
    · rw [queued] at marks
      cases marks
  · intro count at_persist
    obtain ⟨store_eq, at_same | ⟨at_head, unsettled, settled⟩⟩ := transition.completing at_persist
    · rw [store_eq]
      exact codes.completing count at_same
    · intro index bound
      have coded : Coded store.steps := by
        intro row member
        obtain ⟨place, found⟩ := List.getElem?_of_mem member
        apply (codes.coded (by rw [at_head]; rfl) place row found).resolve_right
        rintro ⟨at_step, _⟩
        rw [at_head] at at_step
        cases at_step
      rw [store_eq]
      exact done_of_settled settled unsettled coded codes.sound.uncancelled codes.sound.within
        bound

theorem CodesFailures.work (codes : CodesFailures definition store driver) {index : Nat}
    (answered : ∀ step action, definition.steps[index]? = some step →
      driver.workers index = .request action → driver.runsAlone index = true ∨
        deniesFor step reading.answer = false) :
    CodesFailures definition (work service definition store driver index reading).store
      (work service definition store driver index reading).driver := by
  obtain ⟨stage_eq, _, _, _⟩ := work_keeps service definition store driver index reading
  refine ⟨codes.tracks.work index reading, codes.sound.work index, ?_, ?_, ?_⟩
  · rw [stage_eq]
    intro looping other row found
    obtain stored | ⟨same, running | ⟨mark, earlier, marks, row_eq, finished⟩⟩ :=
      work_row service definition store driver index reading found
    · obtain coded | ⟨at_step, finished, at_worker, failed⟩ :=
        codes.coded looping other row stored
      · exact .inl coded
      · right
        exact ⟨at_step, finished,
          work_finished service definition store driver index reading at_worker, failed⟩
    · exact .inl fun failed => by rw [failed] at running; cases running
    · subst same row_eq
      obtain coded | at_step := codes.marked other mark marks
      · exact .inl (mark.coded_apply coded earlier)
      · by_cases failed : (mark.apply earlier).status = .failed
        · exact .inr ⟨at_step, _, finished, failed⟩
        · exact .inl fun also => absurd also failed
  · intro other mark marks
    rw [stage_eq]
    obtain same | fails | ⟨step, action, rfl, found, requests, rfl⟩ :=
      work_mark service definition store driver index reading marks
    · exact codes.marked other mark same
    · exact .inl (StepMark.coded_of_failsCoded fails)
    · obtain alone | not_denied := answered step action found requests
      · right
        unfold Driver.runsAlone at alone
        split at alone
        next at_step => rwa [beq_iff_eq.mp alone] at at_step
        next => cases alone
      · exact .inl (coded_markOf not_denied)
  · rw [stage_eq]
    intro count at_persist
    rw [codes.tracks.work_idle (by rw [at_persist]; rfl)]
    exact codes.completing count at_persist

end Preserved

section Completed

variable (service : WorkflowService) (definition : WorkflowDefinition)

theorem codesRule :
    SerialRule (Sound definition) (CodesFailures definition) service definition
      (fun state input => Sequential state input ∧ FailsCoded definition state input) where
  sequential _ _ allowed := allowed.1
  initially := ⟨Nat.zero_le _, fun _ member => nomatch member⟩
  launches store ctx allowed call sound := by
    refine ⟨.launched store ctx allowed call, sound, ?_, ?_, ?_⟩
    · cases call <;> exact nofun
    · exact fun _ _ => nofun
    · cases call <;> exact fun _ => nofun
  decides _ _ sound := ⟨sound.within, sound.uncancelled⟩
  drives state caller reading allowed codes := by
    have codes_after := @CodesFailures.drive service definition _ _ reading codes fun at_load => by
      have coded := allowed.2
      rwa [FailsCoded, at_load] at coded
    exact ⟨fun _ => codes_after.sound, fun _ => codes_after⟩
  works state caller index reading allowed codes := by
    have codes_after := @CodesFailures.work service definition _ _ reading codes index
      fun step action found requests => by
        have answered := allowed.2
        rwa [FailsCoded, found, requests] at answered
    exact ⟨fun _ => codes_after.sound, fun _ => codes_after⟩
  crashes _ _ _ codes := codes.sound

/-- A run becomes completed only when all its steps are done. -/
def CompletesDone (state : EngineState) (input : Input) : Prop :=
  ∀ run, (engineStep service definition state input).1.store.run = some run →
    run.status = .completed →
      (∃ earlier, state.store.run = some earlier ∧ earlier.status = .completed) ∨
        ∀ index < definition.steps.length,
          (statusAt (engineStep service definition state input).1.store.steps index).done = true

variable {service definition}

/-- Only the update that completes a run writes that status. -/
theorem RunUpdate.eq_completed {update : RunUpdate} {loaded : WorkflowRun}
    (completed : (update.apply loaded).status = .completed)
    (changed : (update.apply loaded).status ≠ loaded.status) :
    ∃ count, update = .completed count := by
  cases update with
  | completed count => exact ⟨count, rfl⟩
  | failed | budgetFailed | ambiguous | waiting | cancelled | running => cases completed
  | select | idle | submit => exact absurd rfl changed

theorem CodesFailures.completesDone {store : Store} {driver : Driver} {reading : Reading}
    (codes : CodesFailures definition store driver) {run : WorkflowRun}
    (found : (Workflows.drive service definition store driver reading).store.run = some run)
    (completed : run.status = .completed) :
    (∃ earlier, store.run = some earlier ∧ earlier.status = .completed) ∨
      ∀ index < definition.steps.length,
        (statusAt (Workflows.drive service definition store driver reading).store.steps
          index).done = true := by
  have written {changed : WorkflowRun}
      (stored : store.run.map (updateRun driver.run changed) = some run) :
      (∃ earlier, store.run = some earlier ∧ earlier.status = .completed) ∨
        changed.status = .completed ∧ changed.status ≠ driver.run.status := by
    obtain ⟨earlier, before, rfl⟩ := Option.map_eq_some_iff.mp stored
    obtain same | ⟨assigned, differs⟩ := updateRun_status driver.run changed earlier
    · exact .inl ⟨earlier, before, same ▸ completed⟩
    · exact .inr ⟨assigned ▸ completed, differs⟩
  cases drive_run service definition store driver reading with
  | kept run_eq => exact .inl ⟨run, run_eq ▸ found, completed⟩
  | resolves at_resolve run_eq =>
      rw [run_eq] at found
      obtain earlier | ⟨assigned, _⟩ := written found
      · exact .inl earlier
      · cases assigned
  | creates created none_before status run_eq =>
      obtain rfl := Option.some.inj (run_eq.symm.trans found)
      rw [completed] at status
      obtain status | status := status <;> cases status
  | writes update at_persist run_eq =>
      rw [run_eq] at found
      obtain earlier | ⟨assigned, differs⟩ := written found
      · exact .inl earlier
      · obtain ⟨count, rfl⟩ := RunUpdate.eq_completed assigned differs
        right
        unfold Workflows.drive
        rw [at_persist]
        exact codes.completing count at_persist

variable (service definition)

end Completed

namespace Demo

/-- Two steps of one parallel block. -/
def together : WorkflowDefinition :=
  { pair with parallel := [{ steps := ["first", "second"], maxConcurrency := 2 }] }

/-- A policy denies what the execution service is asked for. -/
def denied : Reading := { answer := .ok { response := { status := .denied, decision := .deny } } }

/-- Both steps are executed in one batch. -/
def batched (first : Reading) : List Input :=
  start 0 :: moves 0 7 ++ [.work 0 0 executed, .work 0 0 executed, .work 0 0 first,
    .work 0 0 executed] ++ works 0 1 4 ++ moves 0 3

end Demo

end Era.Workflows
