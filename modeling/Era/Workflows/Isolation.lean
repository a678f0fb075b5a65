import Era.Lib.Sweep
import Era.Services.ScheduledJobs
import Era.Workflows.Supplied

/-!
# Failures of due schedules

A tick turns to the due schedules in the order of their due times.  The loop over the jobs ends
with the first submission that raises, and the workflow schedules wait with it; the loop over the
workflow schedules goes on only after a `WorkflowOpsError`.
-/

namespace Era.Workflows

open Era.Core Era.Lib Era.Security Era.Services

/-! ## The loop over the jobs -/

/-- The enabled rows whose next run is not later than a time, earliest first. -/
def dueRows {Row : Type} (recurrence : Row → Recurrence) (nextRunAt : Row → Option String)
    (table : List Row) (now : String) : List Row :=
  (table.filter fun row =>
    (recurrence row).enabled && (nextRunAt row).any fun due => decide (due ≤ now)).mergeSort
      fun one other => decide ((nextRunAt one).getD "" ≤ (nextRunAt other).getD "")

/-- A submission is answered with a job, or raises. -/
def submissionTurn (now : String) (submit : Submission → Except ScheduleError String)
    (schedule : Schedule) : Turn String :=
  match submit (submissionOf schedule now) with
  | .ok jobId => .writes jobId
  | .error _ => .stops

section Tick

variable (service : ScheduleService) (operations : WorkflowOperations)

/-- A row of a schedule once its job has been submitted. -/
def submittedRow (now : String) (current schedule : Schedule) (jobId : String) : Schedule :=
  { current with
    lastRunAt := some now
    lastJobId := some jobId
    nextRunAt := schedule.toRecurrence.nextRun service.computeNextRun now }

/-! ## The loop over the workflow schedules -/

/-- The run that a tick comes to for a due schedule. -/
inductive TickedRun where
  | existing (runId : String)
  | started (runId : String)

def TickedRun.runId : TickedRun → String
  | .existing runId | .started runId => runId

/-- What a tick is answered for a due schedule. -/
inductive StartAnswer where
  | run (ticked : TickedRun)
  /-- `start` raises a `WorkflowOpsError`. -/
  | opsError (message : String)
  /-- `start` raises anything else. -/
  | raised (typeName message : String)

def StartAnswer.turn : StartAnswer → Turn TickedRun
  | .run ticked => .writes ticked
  | .opsError _ => .skips
  | .raised _ _ => .stops

/-- What `start` raises when it does not come to a run: only the template error is a
`WorkflowOpsError`. -/
def StartAnswer.refusedBy : WorkflowError → StartAnswer
  | .definitionError message => .raised "WorkflowDefinitionError" message
  | .serviceError message => .raised "WorkflowServiceError" message
  | .exception typeName message =>
      if typeName = "WorkflowTemplateError" then .opsError message else .raised typeName message

/-- A row of a schedule whose run exists. -/
def tickedRow (now : String) (current schedule : WorkflowSchedule) (ticked : TickedRun) :
    WorkflowSchedule :=
  let recurrence :=
    match ticked with
    | .existing _ => current.toRecurrence
    | .started _ => schedule.toRecurrence
  { current with
    lastRunAt := some now
    lastRunId := some ticked.runId
    nextRunAt := recurrence.nextRun operations.computeNextRun now }

/-- `WorkflowScheduleService.tick`. -/
def tickWorkflows (table : List WorkflowSchedule) (now : String)
    (start : WorkflowSchedule → StartAnswer) :
    List WorkflowSchedule × List (WorkflowSchedule × TickedRun) :=
  Table.sweep WorkflowSchedule.id (fun schedule => (start schedule).turn)
    (tickedRow operations now) table
    (listDue WorkflowSchedule.toRecurrence WorkflowSchedule.nextRunAt table now 50)

/-- What a tick leaves behind. -/
structure TickOutcome where
  rows : List Schedule
  submissions : List Submission
  workflowRows : List WorkflowSchedule
  ticked : List (WorkflowSchedule × TickedRun)

/-- `ScheduleService.tick`; what a submission raises ends it before the workflow schedules. -/
def tickBoth (rows : List Schedule) (workflowRows : List WorkflowSchedule) (now : String)
    (submit : Submission → Except ScheduleError String) (start : WorkflowSchedule → StartAnswer) :
    TickOutcome :=
  let submitted := tickSchedules service rows now submit
  let due := listDue Schedule.toRecurrence Schedule.nextRunAt rows now 50
  if due.all fun schedule => (submissionTurn now submit schedule).goesOn then
    let ticked := tickWorkflows operations workflowRows now start
    { rows := submitted.1, submissions := submitted.2, workflowRows := ticked.1
      ticked := ticked.2 }
  else { rows := submitted.1, submissions := submitted.2, workflowRows, ticked := [] }

/-! ## Isolation -/

/-- The first rows of a list for which a loop is answered. -/
def firstAnswered {Row Answer : Type} (turn : Row → Turn Answer) (due : List Row) : List Row :=
  (due.filter fun row => (turn row).answer?.isSome).take 50

/-- A tick submits or starts, and writes back, every schedule that it would without those that
fail. -/
structure TickIsolates (rows : List Schedule) (workflowRows : List WorkflowSchedule) (now : String)
    (submit : Submission → Except ScheduleError String) (start : WorkflowSchedule → StartAnswer)
    (outcome : TickOutcome) : Prop where
  submits : ∀ schedule ∈ firstAnswered (submissionTurn now submit)
      (dueRows Schedule.toRecurrence Schedule.nextRunAt rows now),
    ∃ jobId, submit (submissionOf schedule now) = .ok jobId ∧
      submissionOf schedule now ∈ outcome.submissions ∧
      Table.find Schedule.id outcome.rows schedule.id =
        some (submittedRow service now schedule schedule jobId)
  starts : ∀ schedule ∈ firstAnswered (fun schedule => (start schedule).turn)
      (dueRows WorkflowSchedule.toRecurrence WorkflowSchedule.nextRunAt workflowRows now),
    ∃ ticked, start schedule = .run ticked ∧ (schedule, ticked) ∈ outcome.ticked ∧
      Table.find WorkflowSchedule.id outcome.workflowRows schedule.id =
        some (tickedRow operations now schedule schedule ticked)

/-- A row is one of the first fifty, and nothing before it ends the loop. -/
def Unobstructed {Row Answer : Type} (turn : Row → Turn Answer) (due : List Row) (row : Row) :
    Prop :=
  ∃ before after, due = before ++ row :: after ∧ before.length < 50 ∧
    ∀ other ∈ before, (turn other).goesOn = true

/-- No due schedule that fails stands before one that does not: among the jobs, one that raises;
among the workflow schedules, one that raises anything but a `WorkflowOpsError`, or fifty others;
and no job that raises before all workflow schedules. -/
structure TickUnobstructed (rows : List Schedule) (workflowRows : List WorkflowSchedule)
    (now : String) (submit : Submission → Except ScheduleError String)
    (start : WorkflowSchedule → StartAnswer) : Prop where
  jobs : ∀ schedule ∈ firstAnswered (submissionTurn now submit)
      (dueRows Schedule.toRecurrence Schedule.nextRunAt rows now),
    Unobstructed (submissionTurn now submit)
      (dueRows Schedule.toRecurrence Schedule.nextRunAt rows now) schedule
  workflows : ∀ schedule ∈ firstAnswered (fun schedule => (start schedule).turn)
      (dueRows WorkflowSchedule.toRecurrence WorkflowSchedule.nextRunAt workflowRows now),
    (∀ job ∈ (dueRows Schedule.toRecurrence Schedule.nextRunAt rows now).take 50,
      (submissionTurn now submit job).goesOn = true) ∧
    Unobstructed (fun schedule => (start schedule).turn)
      (dueRows WorkflowSchedule.toRecurrence WorkflowSchedule.nextRunAt workflowRows now) schedule

end Tick

/-! ## The loops as sweeps -/

section Sweeps

variable {service : ScheduleService} {operations : WorkflowOperations}
variable {table : List Schedule} {now : String}
variable {submit : Submission → Except ScheduleError String}

theorem listDue_eq_take {Row : Type} (recurrence : Row → Recurrence)
    (nextRunAt : Row → Option String) (table : List Row) (now : String) (limit : Nat) :
    listDue recurrence nextRunAt table now limit =
      (dueRows recurrence nextRunAt table now).take limit := rfl

theorem advanceSchedule_eq_rewrite (schedule : Schedule) (jobId : String) :
    advanceSchedule service table schedule now jobId =
      Table.rewrite Schedule.id (fun current => submittedRow service now current schedule jobId)
        table schedule.id := by
  unfold advanceSchedule Table.rewrite
  cases Table.find Schedule.id table schedule.id with
  | none => rfl
  | some current => rfl

theorem submitDue_ok {schedule : Schedule} {rest : List Schedule} {jobId : String}
    (answered : submit (submissionOf schedule now) = .ok jobId) :
    submitDue service now submit table (schedule :: rest) =
      ((submitDue service now submit
          (advanceSchedule service table schedule now jobId) rest).1,
        submissionOf schedule now :: (submitDue service now submit
          (advanceSchedule service table schedule now jobId) rest).2) := by
  rw [submitDue]
  dsimp only
  rw [answered]

theorem submitDue_error {schedule : Schedule} {rest : List Schedule} {failure : ScheduleError}
    (raised : submit (submissionOf schedule now) = .error failure) :
    submitDue service now submit table (schedule :: rest) =
      (table, [submissionOf schedule now]) := by
  rw [submitDue]
  dsimp only
  rw [raised]

theorem submissionTurn_eq {schedule : Schedule} {jobId : String} :
    submissionTurn now submit schedule = .writes jobId ↔
      submit (submissionOf schedule now) = .ok jobId := by
  unfold submissionTurn
  cases submit (submissionOf schedule now) with
  | error failure =>
      constructor
      · intro none
        cases none
      · intro none
        cases none
  | ok other =>
      constructor
      · intro same
        rw [Turn.writes.inj same]
      · intro same
        rw [Except.ok.inj same]

theorem submissionTurn_error {schedule : Schedule} {failure : ScheduleError}
    (raised : submit (submissionOf schedule now) = .error failure) :
    submissionTurn now submit schedule = .stops := by
  unfold submissionTurn
  rw [raised]

/-- The loop of a tick over the due jobs writes the rows of a sweep. -/
theorem submitDue_rows (due : List Schedule) :
    (submitDue service now submit table due).1 =
      (Table.sweep Schedule.id (submissionTurn now submit) (submittedRow service now) table
        due).1 := by
  induction due generalizing table with
  | nil => rfl
  | cons schedule rest ih =>
      cases given : submit (submissionOf schedule now) with
      | error failure =>
          rw [submitDue_error given, Table.sweep_stops (submissionTurn_error given)]
      | ok jobId =>
          rw [submitDue_ok given, Table.sweep_writes (submissionTurn_eq.mpr given), ih,
            advanceSchedule_eq_rewrite]

/-- Of the schedules that are answered with a job, those are submitted that the loop writes. -/
theorem submitted_iff {due : List Schedule} {schedule : Schedule} {jobId : String}
    (answered : submit (submissionOf schedule now) = .ok jobId) :
    submissionOf schedule now ∈ (submitDue service now submit table due).2 ↔
      ∃ other, submissionOf other now = submissionOf schedule now ∧
        (other, jobId) ∈ (Table.sweep Schedule.id (submissionTurn now submit)
          (submittedRow service now) table due).2 := by
  induction due generalizing table with
  | nil => simp [submitDue, Table.sweep]
  | cons first rest ih =>
      cases given : submit (submissionOf first now) with
      | error failure =>
          rw [submitDue_error given, Table.sweep_stops (submissionTurn_error given)]
          constructor
          · intro same
            rw [List.mem_singleton.mp same, given] at answered
            cases answered
          · rintro ⟨_, _, none⟩
            cases none
      | ok other =>
          rw [submitDue_ok given, Table.sweep_writes (submissionTurn_eq.mpr given), List.mem_cons,
            ih, advanceSchedule_eq_rewrite]
          constructor
          · rintro (same | ⟨later, same, written⟩)
            · rw [same, given] at answered
              obtain rfl := Except.ok.inj answered
              exact ⟨first, same.symm, List.mem_cons_self⟩
            · exact ⟨later, same, List.mem_cons_of_mem _ written⟩
          · rintro ⟨later, same, written⟩
            obtain now_written | later_written := List.mem_cons.mp written
            · obtain ⟨rfl, rfl⟩ := Prod.mk.inj now_written
              exact .inl same.symm
            · exact .inr ⟨later, same, later_written⟩

end Sweeps

/-! ## Distinct identifiers -/

section Distinct

variable {service : ScheduleService} {operations : WorkflowOperations}

theorem submitDue_ids {now : String} {submit : Submission → Except ScheduleError String}
    (due : List Schedule) (table : List Schedule) :
    (submitDue service now submit table due).1.map Schedule.id = table.map Schedule.id := by
  induction due generalizing table with
  | nil => rfl
  | cons schedule rest ih =>
      cases given : submit (submissionOf schedule now) with
      | error failure => rw [submitDue_error given]
      | ok jobId =>
          rw [submitDue_ok given, ih]
          unfold advanceSchedule
          split
          · rfl
          · exact Table.map_key_store _

/-- The identifiers of schedules are distinct. -/
theorem schedules_distinct (calls : List ScheduleCall) :
    (((schedules service).stateAfter [] calls).map Schedule.id).Nodup := by
  have started : (([] : List Schedule).map Schedule.id).Nodup := List.nodup_nil
  refine Machine.invariant (motive := fun table : List Schedule => (table.map Schedule.id).Nodup)
    started (fun table call distinct => ?_) calls
  unfold schedules scheduleStep
  cases call with
  | create id request now =>
      dsimp only
      split
      next after made =>
        obtain ⟨absent, schedule, rfl, rfl, _⟩ := createSchedule_ok made
        exact Table.nodup_append distinct absent
      · exact distinct
  | update id actorId change now =>
      dsimp only
      split
      next after made =>
        obtain ⟨schedule, nextRunAt, _, rfl, _⟩ := updateSchedule_ok made
        rw [Table.map_key_store]
        exact distinct
      · exact distinct
      · exact distinct
  | delete id actorId =>
      dsimp only
      unfold deleteSchedule
      split
      · exact distinct
      · exact Table.nodup_delete distinct id
  | tick now submit =>
      dsimp only
      unfold tickSchedules
      rw [submitDue_ids]
      exact distinct

/-- The identifiers of workflow schedules are distinct. -/
theorem workflowSchedules_distinct (history : List OperationsInput) :
    (((workflows operations).stateAfter {} history).schedules.map WorkflowSchedule.id).Nodup := by
  have started : (({} : OperationsState).schedules.map WorkflowSchedule.id).Nodup :=
    List.nodup_nil
  refine Machine.invariant
    (motive := fun state : OperationsState => (state.schedules.map WorkflowSchedule.id).Nodup)
    started (fun state input distinct => ?_) history
  unfold workflows operationsStep
  cases input with
  | publish | listDue | run => exact distinct
  | register =>
      dsimp only
      split <;> exact distinct
  | start =>
      dsimp only
      rw [beginRun_schedules]
      exact distinct
  | tick =>
      dsimp only
      split
      · exact distinct
      · unfold tickSchedule
        dsimp only
        split
        · exact distinct
        · rw [beginRun_schedules]
          exact distinct
  | createSchedule id request now =>
      dsimp only
      split
      next after made =>
        obtain ⟨absent, schedule, rfl, rfl, _⟩ := createWorkflowSchedule_ok made
        exact Table.nodup_append distinct absent
      · exact distinct
  | updateSchedule id actorId change now =>
      dsimp only
      split
      next after made =>
        obtain ⟨schedule, nextRunAt, _, rfl, _⟩ := updateWorkflowSchedule_ok made
        dsimp only
        rw [Table.map_key_store]
        exact distinct
      · exact distinct
      · exact distinct
  | deleteSchedule id actorId =>
      dsimp only
      unfold deleteWorkflowSchedule
      split
      · exact distinct
      · exact Table.nodup_delete distinct id
  | advance schedule now runId =>
      dsimp only
      unfold advanceWorkflowSchedule
      split
      · exact distinct
      · rw [Table.map_key_store]
        exact distinct

end Distinct

/-! ## When a tick isolates its schedules -/

section Isolates

variable {Row Answer : Type} {recurrence : Row → Recurrence} {nextRunAt : Row → Option String}
variable {key : Row → String} {turn : Row → Turn Answer} {change : Row → Row → Answer → Row}
variable {table : List Row} {now : String} {row : Row} {answer : Answer}

theorem dueRows_distinct (distinct : (table.map key).Nodup) :
    ((dueRows recurrence nextRunAt table now).map key).Nodup :=
  ((List.mergeSort_perm _ _).map key).nodup_iff.mpr
    (distinct.sublist (List.filter_sublist.map key))

theorem mem_of_mem_dueRows (member : row ∈ dueRows recurrence nextRunAt table now) :
    row ∈ table :=
  (List.mem_filter.mp (List.mem_mergeSort.mp member)).1

/-- Rows that are in the order of their due times stay so. -/
theorem dueRows_of_pairwise (ordered : (table.filter fun row =>
      (recurrence row).enabled && (nextRunAt row).any fun due => decide (due ≤ now)).Pairwise
        fun one other => decide ((nextRunAt one).getD "" ≤ (nextRunAt other).getD "") = true) :
    dueRows recurrence nextRunAt table now = table.filter fun row =>
      (recurrence row).enabled && (nextRunAt row).any fun due => decide (due ≤ now) :=
  List.mergeSort_of_pairwise ordered

/-- A due row that is answered is written, and found so, exactly if nothing obstructs it. -/
theorem swept_iff (keeps : ∀ current row answer, key (change current row answer) = key current)
    (distinct : (table.map key).Nodup)
    (due : row ∈ dueRows recurrence nextRunAt table now) (answered : turn row = .writes answer) :
    (row, answer) ∈ (Table.sweep key turn change table
        (listDue recurrence nextRunAt table now 50)).2 ∧
      Table.find key (Table.sweep key turn change table
        (listDue recurrence nextRunAt table now 50)).1 (key row) =
        some (change row row answer) ↔
      Unobstructed turn (dueRows recurrence nextRunAt table now) row := by
  rw [listDue_eq_take]
  have reached : (row, answer) ∈ (Table.sweep key turn change table
        ((dueRows recurrence nextRunAt table now).take 50)).2 ↔
      Unobstructed turn (dueRows recurrence nextRunAt table now) row := by
    rw [Table.mem_sweep, Table.mem_takeWhile_take_iff]
    constructor
    · rintro ⟨⟨before, after, split, short, _, earlier⟩, _⟩
      exact ⟨before, after, split, short, earlier⟩
    · rintro ⟨before, after, split, short, earlier⟩
      exact ⟨⟨before, after, split, short, by rw [answered]; rfl, earlier⟩, answered⟩
  rw [← reached]
  constructor
  · exact And.left
  · intro written
    refine ⟨written, Table.find_sweep keeps ?_ written ?_⟩
    · exact (dueRows_distinct distinct).sublist ((List.take_sublist 50 _).map key)
    · exact Table.find_of_mem distinct (mem_of_mem_dueRows due)

theorem mem_firstAnswered {due : List Row} (member : row ∈ firstAnswered turn due) :
    row ∈ due ∧ ∃ answer, turn row = .writes answer := by
  obtain ⟨in_due, answered⟩ := List.mem_filter.mp (List.mem_of_mem_take member)
  refine ⟨in_due, ?_⟩
  cases turned : turn row with
  | writes answer => exact ⟨answer, rfl⟩
  | skips | stops =>
      rw [turned] at answered
      cases answered

end Isolates

section Tick

variable (service : ScheduleService) (operations : WorkflowOperations) {now : String}

theorem submits_iff {rows : List Schedule} {submit : Submission → Except ScheduleError String}
    (distinct : (rows.map Schedule.id).Nodup) {schedule : Schedule} {jobId : String}
    (due : schedule ∈ dueRows Schedule.toRecurrence Schedule.nextRunAt rows now)
    (answered : submit (submissionOf schedule now) = .ok jobId) :
    submissionOf schedule now ∈ (tickSchedules service rows now submit).2 ∧
      Table.find Schedule.id (tickSchedules service rows now submit).1 schedule.id =
        some (submittedRow service now schedule schedule jobId) ↔
      Unobstructed (submissionTurn now submit)
        (dueRows Schedule.toRecurrence Schedule.nextRunAt rows now) schedule := by
  unfold tickSchedules
  rw [submitDue_rows, submitted_iff answered,
    ← @swept_iff _ _ _ _ Schedule.id _ (submittedRow service now) _ _ _ _ (fun _ _ _ => rfl)
      distinct due (submissionTurn_eq.mpr answered)]
  refine and_congr_left fun _ => ⟨?_, fun written => ⟨schedule, rfl, written⟩⟩
  rintro ⟨other, same, written⟩
  have in_due := List.mem_of_mem_take ((List.takeWhile_subset _) (Table.mem_sweep.mp written).1)
  have same_id : other.id = schedule.id := congrArg Submission.scheduleId same
  have found := Table.find_of_mem distinct (mem_of_mem_dueRows in_due)
  rw [same_id, Table.find_of_mem distinct (mem_of_mem_dueRows due)] at found
  rwa [Option.some.inj found]

theorem starts_iff {workflowRows : List WorkflowSchedule}
    {start : WorkflowSchedule → StartAnswer}
    (distinct : (workflowRows.map WorkflowSchedule.id).Nodup) {schedule : WorkflowSchedule}
    {ticked : TickedRun}
    (due : schedule ∈ dueRows WorkflowSchedule.toRecurrence WorkflowSchedule.nextRunAt
      workflowRows now)
    (answered : start schedule = .run ticked) :
    (schedule, ticked) ∈ (tickWorkflows operations workflowRows now start).2 ∧
      Table.find WorkflowSchedule.id (tickWorkflows operations workflowRows now start).1
        schedule.id = some (tickedRow operations now schedule schedule ticked) ↔
      Unobstructed (fun schedule => (start schedule).turn)
        (dueRows WorkflowSchedule.toRecurrence WorkflowSchedule.nextRunAt workflowRows now)
        schedule := by
  unfold tickWorkflows
  exact swept_iff (fun _ _ _ => rfl) distinct due (congrArg StartAnswer.turn answered)

theorem turn_writes {answer : StartAnswer} {ticked : TickedRun}
    (turns : answer.turn = .writes ticked) : answer = .run ticked := by
  cases answer with
  | run other =>
      obtain rfl := Turn.writes.inj turns
      rfl
  | opsError | raised => cases turns

end Tick

/-- Whatever `_resolve_definition` raises for the workflow of a schedule ends the loop. -/
theorem resolve_named_stops {operations : WorkflowOperations} {state : OperationsState}
    {name : String} {version : Option Int} {failure : WorkflowError}
    (refused : (resolveDefinition operations state (.named name) version).1 = .error failure) :
    (StartAnswer.refusedBy failure).turn = .stops := by
  unfold resolveDefinition at refused
  dsimp only at refused
  split at refused
  · cases refused
  · split at refused
    · split at refused
      · cases refused
      · cases refused
        rfl
    · cases refused
      rfl

/-- In every history, a tick isolates the failures of its schedules exactly if no schedule that
fails obstructs another. -/
theorem tick_isolates_iff (service : ScheduleService) (operations : WorkflowOperations)
    (calls : List ScheduleCall) (history : List OperationsInput) (now : String)
    (submit : Submission → Except ScheduleError String) (start : WorkflowSchedule → StartAnswer) :
    let rows := (schedules service).stateAfter [] calls
    let workflowRows := ((workflows operations).stateAfter {} history).schedules
    TickIsolates service operations rows workflowRows now submit start
        (tickBoth service operations rows workflowRows now submit start) ↔
      TickUnobstructed rows workflowRows now submit start := by
  intro rows workflowRows
  have distinct : (rows.map Schedule.id).Nodup := schedules_distinct calls
  have workflows_distinct : (workflowRows.map WorkflowSchedule.id).Nodup :=
    workflowSchedules_distinct history
  unfold tickBoth
  extract_lets submitted due ticked
  constructor
  · rintro ⟨submits, starts⟩
    constructor
    · intro schedule first
      obtain ⟨in_due, _⟩ := mem_firstAnswered first
      obtain ⟨jobId, answered, shown, written⟩ := submits schedule first
      refine (submits_iff service distinct in_due answered).mp ⟨?_, ?_⟩
      · split at shown <;> exact shown
      · split at written <;> exact written
    · intro schedule first
      obtain ⟨in_due, _⟩ := mem_firstAnswered first
      obtain ⟨run, answered, shown, written⟩ := starts schedule first
      split at shown
      next all_submitted =>
        rw [if_pos all_submitted] at written
        exact ⟨List.all_eq_true.mp all_submitted,
          (starts_iff operations workflows_distinct in_due answered).mp ⟨shown, written⟩⟩
      · cases shown
  · rintro ⟨jobs, workflows⟩
    constructor
    · intro schedule first
      obtain ⟨in_due, jobId, turned⟩ := mem_firstAnswered first
      have answered := submissionTurn_eq.mp turned
      obtain ⟨shown, written⟩ :=
        (submits_iff service distinct in_due answered).mpr (jobs schedule first)
      refine ⟨jobId, answered, ?_, ?_⟩
      · split <;> exact shown
      · split <;> exact written
    · intro schedule first
      obtain ⟨in_due, run, turned⟩ := mem_firstAnswered first
      have answered := turn_writes turned
      obtain ⟨all_submitted, unobstructed⟩ := workflows schedule first
      obtain ⟨shown, written⟩ :=
        (starts_iff operations workflows_distinct in_due answered).mpr unobstructed
      have every : (due.all fun job => (submissionTurn now submit job).goesOn) = true :=
        List.all_eq_true.mpr all_submitted
      rw [if_pos every]
      exact ⟨run, answered, shown, written⟩

namespace Demo

/-- Alice schedules two actions, and changes the parameters of the first. -/
def edited : List ScheduleCall :=
  [.create "first"
      { actorId := "alice", name := "first", actionType := "browser.inspect"
        intervalSeconds := some 60 } "now",
    .create "second"
      { actorId := "alice", name := "second", actionType := "browser.inspect"
        intervalSeconds := some 60 } "now",
    .update "first" "alice" { actionParams := some [("url", .str "other")] } "now"]

/-- A tick has crashed once it had submitted the first, before the change. -/
def jobsAfterCrash : JobState :=
  (jobMachine Services.Demo.jobService).stateAfter {}
    (.start 0 ::
      .submit 0 { process := 0, jobId := "job"
                  action := { actionType := "browser.inspect", params := [] }
                  ctx := { actorId := "alice" }, idempotencyKey := some "sched:first:now" } ::
      List.replicate 4 (.proceed 0))

/-- What the job service answers after the crash. -/
def answered (submission : Submission) : Except ScheduleError String :=
  match ((jobMachine Services.Demo.jobService).stateAfter jobsAfterCrash
      (.submit 1 (submission.call 0 "another") :: List.replicate 4 (.proceed 1))).calls 1 with
  | .ended (.ok job) => .ok job.id
  | .ended (.error (.idempotencyConflict message)) =>
      .error (.exception "IdempotencyConflict" message)
  | _ => .error (.exception "IntegrityError" "UNIQUE constraint failed: job.id")

end Demo

/-- A schedule whose parameters have been edited after a crash keeps another from being
submitted. -/
theorem not_tick_isolates :
    ¬∀ (calls : List ScheduleCall) (history : List OperationsInput) (now : String)
      (submit : Submission → Except ScheduleError String) (start : WorkflowSchedule → StartAnswer),
      let rows := (schedules Demo.scheduleService).stateAfter [] calls
      let workflowRows := ((workflows Demo.operations).stateAfter {} history).schedules
      TickIsolates Demo.scheduleService Demo.operations rows workflowRows now submit start
        (tickBoth Demo.scheduleService Demo.operations rows workflowRows now submit start) := by
  intro isolates
  have submits := (isolates Demo.edited [] "now" Demo.answered fun _ => .opsError "").submits
  have due_eq := @dueRows_of_pairwise _ Schedule.toRecurrence Schedule.nextRunAt
    ((schedules Demo.scheduleService).stateAfter [] Demo.edited) "now" (by decide +kernel)
  have waiting : (firstAnswered (submissionTurn "now" Demo.answered)
      (dueRows Schedule.toRecurrence Schedule.nextRunAt
        ((schedules Demo.scheduleService).stateAfter [] Demo.edited) "now")).map Schedule.id =
      ["second"] := by
    rw [due_eq]
    decide +kernel
  have submitted : (tickSchedules Demo.scheduleService
      ((schedules Demo.scheduleService).stateAfter [] Demo.edited) "now"
      Demo.answered).2.map Submission.scheduleId = ["first"] := by
    unfold tickSchedules
    rw [listDue_eq_take, due_eq]
    decide +kernel
  have first_waits : "second" ∈ ["second"] := List.mem_singleton.mpr rfl
  rw [← waiting] at first_waits
  obtain ⟨schedule, first, named⟩ := List.mem_map.mp first_waits
  obtain ⟨_, _, shown, _⟩ := submits schedule first
  unfold tickBoth at shown
  have listed : submissionOf schedule "now" ∈ (tickSchedules Demo.scheduleService
      ((schedules Demo.scheduleService).stateAfter [] Demo.edited) "now" Demo.answered).2 := by
    dsimp only at shown
    split at shown <;> exact shown
  have listed_id : "second" ∈ (tickSchedules Demo.scheduleService
      ((schedules Demo.scheduleService).stateAfter [] Demo.edited) "now"
      Demo.answered).2.map Submission.scheduleId := List.mem_map.mpr ⟨_, listed, named⟩
  rw [submitted] at listed_id
  exact absurd (List.mem_singleton.mp listed_id) (by decide)

end Era.Workflows
