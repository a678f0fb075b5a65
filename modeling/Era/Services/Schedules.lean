import Era.Core.Platform
import Era.Core.ToolRegistry
import Era.Lib.Machine
import Era.Lib.Table
import Era.Security.Redaction

/-!
# Recurring jobs

A schedule holds an action that is submitted as a job whenever it is due.  Its parameters are
redacted before they are stored, and what is stored is submitted.
-/

namespace Era.Services

open Era.Core Era.Lib Era.Security

/-- What a call of a schedule service raises. -/
inductive ScheduleError where
  | authorizationError (message : String)
  | workflowScheduleError (message : String)
  | exception (typeName message : String)
  deriving DecidableEq, Repr

/-! ## Recurrence -/

/-- When something recurs. -/
structure Recurrence where
  cronExpr : Option String := none
  intervalSeconds : Option Int := none
  enabled : Bool := true

/-- The arguments of an update that change when something recurs. -/
structure RecurrenceChange where
  cronExpr : Option String := none
  intervalSeconds : Option Int := none
  enabled : Option Bool := none

/-- `compute_next_run` of a cron expression or an interval, from a time. -/
abbrev NextRun := Option String → Option Int → String → Except ScheduleError String

section Recurrence

variable (computeNextRun : NextRun)

/-- The next run of a new schedule. -/
def Recurrence.firstRun (recurrence : Recurrence) (now : String) :
    Except ScheduleError (Option String) :=
  if recurrence.enabled then
    (computeNextRun recurrence.cronExpr recurrence.intervalSeconds now).map some
  else .ok none

/-- The fields that an update assigns before it computes the next run. -/
def Recurrence.change (recurrence : Recurrence) (change : RecurrenceChange) : Recurrence :=
  { cronExpr :=
      match change.cronExpr with
      | some text => if text = "" then none else some text
      | none => recurrence.cronExpr
    intervalSeconds :=
      match change.intervalSeconds with
      | some seconds => if 0 < seconds then some seconds else none
      | none => recurrence.intervalSeconds
    enabled := change.enabled.getD recurrence.enabled }

/-- The next run of a schedule that has been changed, from the one that is stored. -/
def Recurrence.changedRun (changed : Recurrence) (change : RecurrenceChange)
    (stored : Option String) (now : String) : Except ScheduleError (Option String) :=
  let recalculated := change.cronExpr.isSome || change.intervalSeconds.isSome ||
    change.enabled.isSome
  let recurring := changed.cronExpr.any (· != "") || changed.intervalSeconds.any (· != 0)
  if !recalculated then .ok stored
  else if changed.enabled && recurring then
    (computeNextRun changed.cronExpr changed.intervalSeconds now).map some
  else .ok none

/-- The next run after a run; what `compute_next_run` raises leaves none. -/
def Recurrence.nextRun (recurrence : Recurrence) (now : String) : Option String :=
  (computeNextRun recurrence.cronExpr recurrence.intervalSeconds now).toOption

end Recurrence

/-- `list_due`: enabled rows whose next run is not later than a time, earliest first. -/
def listDue {Row : Type} (recurrence : Row → Recurrence) (nextRunAt : Row → Option String)
    (table : List Row) (now : String) (limit : Nat) : List Row :=
  ((table.filter fun row =>
    (recurrence row).enabled && (nextRunAt row).any fun due => decide (due ≤ now)).mergeSort
      fun one other => decide ((nextRunAt one).getD "" ≤ (nextRunAt other).getD "")).take limit

theorem mem_of_mem_listDue {Row : Type} {recurrence : Row → Recurrence}
    {nextRunAt : Row → Option String} {table : List Row} {now : String} {limit : Nat} {row : Row}
    (due : row ∈ listDue recurrence nextRunAt table now limit) : row ∈ table :=
  (List.mem_filter.mp (List.mem_mergeSort.mp (List.mem_of_mem_take due))).1

theorem isSome_of_mem_listDue {Row : Type} {recurrence : Row → Recurrence}
    {nextRunAt : Row → Option String} {table : List Row} {now : String} {limit : Nat} {row : Row}
    (due : row ∈ listDue recurrence nextRunAt table now limit) : (nextRunAt row).isSome = true := by
  have kept := (List.mem_filter.mp (List.mem_mergeSort.mp (List.mem_of_mem_take due))).2
  obtain ⟨_, reached⟩ := Bool.and_eq_true_iff.mp kept
  cases next : nextRunAt row with
  | some time => rfl
  | none =>
      rw [next] at reached
      cases reached

/-! ## Schedules of actions -/

/-- A row of `schedule`. -/
structure Schedule extends Recurrence where
  id : String
  actorId : String
  name : String
  actionType : String
  actionParams : Params
  lastRunAt : Option String := none
  nextRunAt : Option String
  lastJobId : Option String := none

/-- What the service is wired with. -/
structure ScheduleService where
  platform : Platform
  catalog : ActionCatalog
  computeNextRun : NextRun

/-- The arguments of `create`. -/
structure ScheduleRequest extends Recurrence where
  actorId : String
  name : String
  actionType : String
  actionParams : Option Params := none

/-- The arguments of `update` that change a schedule. -/
structure ScheduleChange extends RecurrenceChange where
  name : Option String := none
  actionParams : Option Params := none

/-- A job that is submitted for a due schedule. -/
structure Submission where
  scheduleId : String
  actorId : String
  action : Action
  idempotencyKey : String

section Service

variable (service : ScheduleService)

/-- The fields of an action type that its specification declares secret. -/
def ScheduleService.secretFields (actionType : String) : List String :=
  ((service.catalog.get actionType).map ActionSpec.secretFields).getD []

/-- `ScheduleService.create`. -/
def createSchedule (table : List Schedule) (id : String) (request : ScheduleRequest)
    (now : String) : Except ScheduleError (List Schedule) := do
  let refused := ScheduleError.authorizationError
    ("action_type " ++ service.platform.reprString request.actionType ++ " cannot be scheduled")
  match service.catalog.get request.actionType with
  | none => throw refused
  | some spec =>
      if spec.riskLevel = .forbidden then throw refused
      let cleanParams := redactParams spec.secretFields (request.actionParams.getD [])
      let nextRunAt ← request.toRecurrence.firstRun service.computeNextRun now
      if (Table.find Schedule.id table id).isSome then
        throw (.exception "IntegrityError" "UNIQUE constraint failed: schedule.id")
      return table ++ [{
        request.toRecurrence with
        id
        actorId := request.actorId
        name := request.name
        actionType := request.actionType
        actionParams := cleanParams
        nextRunAt }]

/-- The fields that `update` assigns before it computes the next run. -/
def changeSchedule (schedule : Schedule) (change : ScheduleChange) : Schedule :=
  { schedule with
    toRecurrence := schedule.toRecurrence.change change.toRecurrenceChange
    name := change.name.getD schedule.name
    actionParams :=
      match change.actionParams with
      | some params => redactParams (service.secretFields schedule.actionType) params
      | none => schedule.actionParams }

/-- The row of a schedule of an actor. -/
def ownSchedule (table : List Schedule) (id actorId : String) : Option Schedule :=
  (Table.find Schedule.id table id).filter fun schedule => schedule.actorId == actorId

/-- `ScheduleService.update`; nothing is returned for a schedule of somebody else. -/
def updateSchedule (table : List Schedule) (id actorId : String) (change : ScheduleChange)
    (now : String) : Except ScheduleError (Option (List Schedule)) := do
  match ownSchedule table id actorId with
  | none => return none
  | some schedule =>
      let changed := changeSchedule service schedule change
      let nextRunAt ← changed.toRecurrence.changedRun service.computeNextRun
        change.toRecurrenceChange schedule.nextRunAt now
      return some (Table.store Schedule.id table { changed with nextRunAt })

/-- `ScheduleService.delete`. -/
def deleteSchedule (table : List Schedule) (id actorId : String) : List Schedule :=
  match ownSchedule table id actorId with
  | none => table
  | some _ => Table.delete Schedule.id table id

/-- The job of a due schedule. -/
def submissionOf (schedule : Schedule) (now : String) : Submission :=
  { scheduleId := schedule.id
    actorId := schedule.actorId
    action := { actionType := schedule.actionType, params := schedule.actionParams }
    idempotencyKey := "sched:" ++ schedule.id ++ ":" ++ schedule.nextRunAt.getD now }

/-- The row of a schedule whose job has been submitted. -/
def advanceSchedule (table : List Schedule) (schedule : Schedule) (now jobId : String) :
    List Schedule :=
  match Table.find Schedule.id table schedule.id with
  | none => table
  | some refreshed =>
      Table.store Schedule.id table { refreshed with
        lastRunAt := some now
        lastJobId := some jobId
        nextRunAt := schedule.toRecurrence.nextRun service.computeNextRun now }

/-- The loop of `tick` over the due schedules, with the answers of the job service; an answer
that raises ends it. -/
def submitDue (now : String) (submit : Submission → Except ScheduleError String) :
    List Schedule → List Schedule → List Schedule × List Submission
  | table, [] => (table, [])
  | table, schedule :: rest =>
      let submission := submissionOf schedule now
      match submit submission with
      | .error _ => (table, [submission])
      | .ok jobId =>
          let after := submitDue now submit (advanceSchedule service table schedule now jobId) rest
          (after.1, submission :: after.2)

/-- `ScheduleService.tick` up to the workflow schedules. -/
def tickSchedules (table : List Schedule) (now : String)
    (submit : Submission → Except ScheduleError String) : List Schedule × List Submission :=
  submitDue service now submit table
    (listDue Schedule.toRecurrence Schedule.nextRunAt table now 50)

/-! ## The service as a machine -/

/-- One call of the service. -/
inductive ScheduleCall where
  | create (id : String) (request : ScheduleRequest) (now : String)
  | update (id actorId : String) (change : ScheduleChange) (now : String)
  | delete (id actorId : String)
  | tick (now : String) (submit : Submission → Except ScheduleError String)

/-- The schedules after a call, and the jobs that it submits. -/
def scheduleStep (table : List Schedule) : ScheduleCall → List Schedule × List Submission
  | .create id request now =>
      match createSchedule service table id request now with
      | .ok after => (after, [])
      | .error _ => (table, [])
  | .update id actorId change now =>
      match updateSchedule service table id actorId change now with
      | .ok (some after) => (after, [])
      | .ok none | .error _ => (table, [])
  | .delete id actorId => (deleteSchedule table id actorId, [])
  | .tick now submit => tickSchedules service table now submit

def schedules : Machine (List Schedule) ScheduleCall (List Submission) :=
  { step := scheduleStep service }

/-- The parameters that a call gives to a schedule, if it succeeds. -/
def accepted? (table : List Schedule) : ScheduleCall → Option (String × Params)
  | .create id request now =>
      match createSchedule service table id request now with
      | .ok _ => some (id, request.actionParams.getD [])
      | .error _ => none
  | .update id actorId change now =>
      match updateSchedule service table id actorId change now with
      | .ok (some _) => change.actionParams.map fun params => (id, params)
      | .ok none | .error _ => none
  | .delete .. | .tick .. => none

end Service

/-! ## What is stored -/

/-- Every row of a schedule holds the redacted form of the parameters that it was given. -/
def StoresRedacted (service : ScheduleService) (id : String) (params : Params) :
    List Schedule → Prop :=
  Table.Holds Schedule.id id fun schedule =>
    schedule.actionParams = redactParams (service.secretFields schedule.actionType) params

section Stored

variable {service : ScheduleService} {table after : List Schedule} {id : String}

/-- What a successful `create` stores. -/
theorem createSchedule_ok {request : ScheduleRequest} {now : String}
    (created : createSchedule service table id request now = .ok after) :
    Table.find Schedule.id table id = none ∧ ∃ schedule, after = table ++ [schedule] ∧
      schedule.id = id ∧ schedule.actionParams =
        redactParams (service.secretFields schedule.actionType) (request.actionParams.getD []) ∧
      request.toRecurrence.firstRun service.computeNextRun now = .ok schedule.nextRunAt ∧
      schedule.toRecurrence = request.toRecurrence := by
  unfold createSchedule at created
  extract_lets refused at created
  split at created
  next => cases created
  next spec found =>
    simp only [bind, Except.bind, pure, Except.pure, throw, throwThe,
      MonadExceptOf.throw] at created
    split at created
    next => cases created
    next =>
      split at created
      next => cases created
      next nextRunAt first =>
        split at created
        next => cases created
        next absent =>
          rw [Option.isSome_iff_ne_none, ne_eq, not_not] at absent
          refine ⟨absent, _, (Except.ok.inj created).symm, rfl, ?_, first, rfl⟩
          rw [ScheduleService.secretFields, found]
          rfl

/-- What a successful `update` stores. -/
theorem updateSchedule_ok {actorId : String} {change : ScheduleChange} {now : String}
    (updated : updateSchedule service table id actorId change now = .ok (some after)) :
    ∃ schedule nextRunAt, Table.find Schedule.id table id = some schedule ∧
      (after = Table.store Schedule.id table
        { changeSchedule service schedule change with nextRunAt }) ∧
      (changeSchedule service schedule change).toRecurrence.changedRun service.computeNextRun
        change.toRecurrenceChange schedule.nextRunAt now = .ok nextRunAt := by
  unfold updateSchedule at updated
  split at updated
  next => cases updated
  next schedule found =>
    simp only [bind, Except.bind, pure, Except.pure] at updated
    split at updated
    next => cases updated
    next nextRunAt next_run =>
      exact ⟨schedule, nextRunAt, (Option.filter_eq_some_iff.mp found).1,
        (Option.some.inj (Except.ok.inj updated)).symm, next_run⟩

/-- A schedule is stored with the redacted form of the parameters that it is given. -/
theorem StoresRedacted.accepted {call : ScheduleCall} {params : Params}
    (accepted : accepted? service table call = some (id, params)) :
    StoresRedacted service id params (scheduleStep service table call).1 := by
  unfold accepted? at accepted
  unfold scheduleStep
  cases call with
  | delete | tick => cases accepted
  | create created request now =>
      dsimp only at accepted ⊢
      split at accepted
      next after made =>
        cases accepted
        obtain ⟨absent, schedule, rfl, _, stored, _⟩ := createSchedule_ok made
        exact Table.Holds.insert (.of_absent absent) fun _ => stored
      next => cases accepted
  | update updated actorId change now =>
      dsimp only at accepted ⊢
      split at accepted
      next after made =>
        obtain ⟨given, change_eq, pair_eq⟩ := Option.map_eq_some_iff.mp accepted
        obtain ⟨rfl, rfl⟩ := Prod.mk.inj pair_eq
        obtain ⟨schedule, nextRunAt, found, rfl, _⟩ := updateSchedule_ok made
        have named := (Table.find_eq_some found).2
        refine Table.Holds.of_store named ?_
        simp [changeSchedule, change_eq]
      next => cases accepted
      next => cases accepted

theorem StoresRedacted.advance {params : Params} (stores : StoresRedacted service id params table)
    (schedule : Schedule) (now jobId : String) :
    StoresRedacted service id params (advanceSchedule service table schedule now jobId) := by
  unfold advanceSchedule
  split
  next => exact stores
  next refreshed found =>
    exact Table.Holds.store stores fun same => stores refreshed (Table.find_eq_some found).1 same

theorem StoresRedacted.submitDue {params : Params} {now : String}
    {submit : Submission → Except ScheduleError String} (due : List Schedule)
    (stores : StoresRedacted service id params table) :
    StoresRedacted service id params (submitDue service now submit table due).1 := by
  induction due generalizing table with
  | nil => exact stores
  | cons schedule rest ih =>
      unfold Services.submitDue
      dsimp only
      split
      next => exact stores
      next jobId _ => exact ih (stores.advance schedule now jobId)

/-- A call that gives a schedule no parameters leaves its parameters alone. -/
theorem StoresRedacted.step {call : ScheduleCall} {params : Params}
    (stores : StoresRedacted service id params table)
    (untouched : ∀ other, accepted? service table call ≠ some (id, other)) :
    StoresRedacted service id params (scheduleStep service table call).1 := by
  unfold accepted? at untouched
  unfold scheduleStep
  cases call with
  | tick now submit => exact stores.submitDue _
  | delete deleted actorId =>
      dsimp only
      unfold deleteSchedule
      split
      next => exact stores
      next => exact Table.Holds.delete stores deleted
  | create created request now =>
      dsimp only at untouched ⊢
      split
      next after made =>
        rw [made] at untouched
        obtain ⟨_, schedule, rfl, named, _⟩ := createSchedule_ok made
        apply Table.Holds.insert stores
        intro same
        rw [named] at same
        subst same
        exact absurd rfl (untouched _)
      next => exact stores
  | update updated actorId change now =>
      dsimp only at untouched ⊢
      split
      next after made =>
        rw [made] at untouched
        obtain ⟨schedule, nextRunAt, found, rfl, _⟩ := updateSchedule_ok made
        obtain ⟨in_table, named⟩ := Table.find_eq_some found
        apply Table.Holds.store stores
        intro same_id
        cases given : change.actionParams with
        | some other =>
            have updated_eq : updated = id := named.symm.trans same_id
            rw [given, updated_eq] at untouched
            exact absurd rfl (untouched other)
        | none =>
            simp only [changeSchedule, given]
            exact stores schedule in_table same_id
      next => exact stores
      next => exact stores

theorem mem_submitDue {now : String} {submit : Submission → Except ScheduleError String}
    {due : List Schedule} {submission : Submission}
    (submitted : submission ∈ (submitDue service now submit table due).2) :
    ∃ schedule ∈ due, submission = submissionOf schedule now := by
  induction due generalizing table with
  | nil => cases submitted
  | cons schedule rest ih =>
      unfold submitDue at submitted
      dsimp only at submitted
      split at submitted
      next => exact ⟨schedule, List.mem_cons_self, List.mem_singleton.mp submitted⟩
      next =>
        obtain first | later := List.mem_cons.mp submitted
        · exact ⟨schedule, List.mem_cons_self, first⟩
        · obtain ⟨found, member, eq⟩ := ih later
          exact ⟨found, List.mem_cons_of_mem _ member, eq⟩

/-- A job of a schedule carries the redacted form of the parameters that the schedule was
given last. -/
theorem submitted_params {call : ScheduleCall} {params : Params} {middle : List ScheduleCall}
    {now : String} {submit : Submission → Except ScheduleError String} {submission : Submission}
    (accepted : accepted? service table call = some (id, params))
    (untouched : (schedules service).Admits
      (fun rows other => ∀ given, accepted? service rows other ≠ some (id, given))
      (scheduleStep service table call).1 middle)
    (submitted : submission ∈ (scheduleStep service
      ((schedules service).stateAfter (scheduleStep service table call).1 middle)
      (.tick now submit)).2)
    (its_own : submission.scheduleId = id) :
    submission.action.params =
      redactParams (service.secretFields submission.action.actionType) params := by
  have stores : StoresRedacted service id params
      ((schedules service).stateAfter (scheduleStep service table call).1 middle) :=
    Machine.invariant_of_admits (StoresRedacted.accepted accepted)
      (fun _ _ stores untouched => stores.step untouched) untouched
  obtain ⟨schedule, due, rfl⟩ := mem_submitDue submitted
  exact stores schedule (mem_of_mem_listDue due) its_own

end Stored

end Era.Services
