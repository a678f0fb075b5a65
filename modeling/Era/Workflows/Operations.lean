import Era.Services.Schedules
import Era.Workflows.Catalog
import Era.Workflows.Transitions

/-!
# Catalog, templates, schedules and all runs together

Every call on a run works with one definition: `start` resolves it, and `_advance` looks it
up anew.  The machine below has the stores that definitions come from, the schedules and
the engines of all runs; what the calls on a run find in the stores is computed.
-/

namespace Era.Workflows

open Era.Core Era.Lib Era.Security Era.Services

/-- What the services are wired with. -/
structure WorkflowOperations where
  config : Config
  computeNextRun : NextRun
  /-- `workflow_max_steps` of the settings, and the bound of the catalog itself. -/
  maxSteps : Int
  catalogMaxSteps : Int
  maxPendingConfirmations : Int
  governed : Bool
  /-- Whether a template service has been injected. -/
  templateService : Bool

def WorkflowOperations.service (operations : WorkflowOperations) : WorkflowService :=
  { platform := operations.config.platform
    maxPendingConfirmations := operations.maxPendingConfirmations
    governed := operations.governed
    checksum := checksum operations.config.platform }

/-! ## Workflow schedules -/

/-- A row of `workflow_schedule`. -/
structure WorkflowSchedule extends Recurrence where
  id : String
  actorId : String
  actorRole : Option String
  name : String
  workflowName : String
  workflowVersion : Int
  paramsRedacted : Params
  lastRunAt : Option String := none
  nextRunAt : Option String
  lastRunId : Option String := none

/-- The arguments of `create`. -/
structure WorkflowScheduleRequest extends Recurrence where
  actorId : String
  actorRole : Option String
  name : String
  workflowName : String
  params : Params
  workflowVersion : Option Int := none
  domainAllowed : Option (String → Bool) := none

/-- The arguments of `update` that change a schedule. -/
structure WorkflowScheduleChange extends RecurrenceChange where
  name : Option String := none
  params : Option Params := none
  workflowVersion : Option Int := none

/-- The number of characters that the name of a schedule may have. -/
def maxNameLen : Nat := 128

def isScheduleName (name : String) : Bool := 0 < name.length && name.length ≤ maxNameLen

def badScheduleName : ScheduleError := .workflowScheduleError "schedule name must be 1-128 chars"

/-! ## States -/

/-- What a run is created from: the definition that `start` has resolved, its request, and the
schedule for which the tick has called it. -/
structure Origin where
  definition : WorkflowDefinition
  request : StartRequest
  schedule : Option WorkflowSchedule

/-- One run: its engine, the definition that each call works with, what each `start` on its
way would create it from, and what it has been created from. -/
structure TrackedRun where
  engine : EngineState := initialState
  loaded : Nat → WorkflowDefinition := fun _ => { name := "", steps := [] }
  starting : Nat → Option Origin := fun _ => none
  origin : Option Origin := none

/-- A run is known by its actor and its token. -/
abbrev RunKey := String × String

/-- The stores, the schedules that a tick has found due, and the runs. -/
structure OperationsState where
  definitions : Definitions := fun _ => none
  templates : List WorkflowTemplate := []
  schedules : List WorkflowSchedule := []
  due : List WorkflowSchedule := []
  runs : RunKey → TrackedRun := fun _ => {}

/-- The `definition` that `start` is called with. -/
inductive Source where
  | named (name : String)
  | given (definition : WorkflowDefinition)

inductive OperationsInput where
  | register (definition : WorkflowDefinition) (maxSteps : Option Int)
  | publish (definition : WorkflowDefinition)
  | createSchedule (id : String) (request : WorkflowScheduleRequest) (now : String)
  | updateSchedule (id actorId : String) (change : WorkflowScheduleChange) (now : String)
  | deleteSchedule (id actorId : String)
  /-- The first transaction of a tick. -/
  | listDue (now : String)
  /-- The tick turns to one of the schedules that it has found due. -/
  | tick (index caller : Nat) (now runId : String) (allowed : String → Bool)
  /-- The last transaction of a tick for a schedule. -/
  | advance (schedule : WorkflowSchedule) (now runId : String)
  | start (caller : Nat) (ctx : ExecutionContext) (allowed : String → Bool) (token : String)
      (source : Source) (request : StartRequest)
  /-- Any other input of the engine of a run. -/
  | run (key : RunKey) (input : Input)

inductive OperationsEvent where
  /-- The tick calls `start` for a schedule. -/
  | started (schedule : WorkflowSchedule) (key : RunKey) (source : Source) (request : StartRequest)
  /-- The action of a step of a definition is passed to `ExecutionService.request`. -/
  | dispatched (key : RunKey) (definition : WorkflowDefinition) (index : Nat) (action : Action)

section Operations

variable (operations : WorkflowOperations)

/-! ## Finding definitions -/

/-- `_resolve_definition`, with the definitions that it leaves registered. -/
def resolveDefinition (state : OperationsState) (source : Source) (templateVersion : Option Int) :
    Except WorkflowError WorkflowDefinition × Definitions :=
  match source with
  | .named name =>
      let unknown := WorkflowError.serviceError
        ("unknown workflow: " ++ operations.config.platform.reprString name)
      match state.definitions name with
      | some definition => (.ok definition, state.definitions)
      | none =>
          if operations.templateService then
            match instantiate operations.config state.templates name [] templateVersion with
            | .ok definition => (.ok definition, state.definitions)
            | .error _ => (.error unknown, state.definitions)
          else (.error unknown, state.definitions)
  | .given definition =>
      match validateWorkflowDefinition operations.config operations.maxSteps definition with
      | .error failure => (.error failure, state.definitions)
      | .ok () =>
          match state.definitions definition.name with
          | some _ => (.ok definition, state.definitions)
          | none =>
              match register operations.config operations.maxSteps state.definitions definition with
              | .error failure => (.error failure, state.definitions)
              | .ok after => (.ok definition, after)

/-- `run.template_version or 1`. -/
def templateVersionOr (version : Option Int) : Int :=
  match version with
  | some version => if version = 0 then 1 else version
  | none => 1

/-- `_definition_for_run`. -/
def definitionForRun (state : OperationsState) (run : WorkflowRun) : Option WorkflowDefinition :=
  if nonempty run.templateName && operations.templateService then
    match getTemplate state.templates (run.templateName.getD "")
        (templateVersionOr run.templateVersion) with
    | none => none
    | some template =>
        if checksum operations.config.platform template.definition ≠ run.definitionChecksum then
          none
        else some template.definition
  else state.definitions run.workflowName

/-- What `_advance` looks up: the definition of a run, if it has the checksum of the run. -/
def lookUp (state : OperationsState) (run : WorkflowRun) : Option WorkflowDefinition :=
  (definitionForRun operations state run).filter fun definition =>
    checksum operations.config.platform definition == run.definitionChecksum

/-- What a call that is about to move reads of definitions, and the definition that it works
with from then on. -/
def consult (state : OperationsState) (tracked : TrackedRun) (caller : Nat) (reading : Reading) :
    Reading × WorkflowDefinition :=
  let driver := tracked.engine.drivers caller
  match driver.stage with
  | .load =>
      match tracked.engine.store.run with
      | none => (reading, tracked.loaded caller)
      | some run =>
          match lookUp operations state run with
          | some definition => ({ reading with definition := .found }, definition)
          | none =>
              let found := definitionForRun operations state run
              ({ reading with definition := if found.isSome then .changed else .missing },
                tracked.loaded caller)
  | .reconcile (index :: _) _ | .revalidate index _ =>
      -- `_step_def_for`.
      let found := definitionForRun operations state driver.run
      ({ reading with stepDef := found.bind fun definition => definition.steps[index]? },
        tracked.loaded caller)
  | _ => (reading, tracked.loaded caller)

/-! ## Schedules -/

/-- `_resolve_workflow`. -/
def resolveWorkflow (state : OperationsState) (name : String) :
    Except ScheduleError WorkflowDefinition :=
  let unknown : Except ScheduleError WorkflowDefinition := .error (.workflowScheduleError
    ("unknown workflow: " ++ operations.config.platform.reprString name))
  match state.definitions name with
  | some definition => .ok definition
  | none =>
      if operations.templateService then
        match instantiate operations.config state.templates name [] none with
        | .ok definition => .ok definition
        | .error (.exception typeName message) =>
            if typeName = "WorkflowTemplateError" then unknown
            else .error (.exception typeName message)
        | .error _ => unknown
      else unknown

/-- `WorkflowScheduleService.create`. -/
def createWorkflowSchedule (state : OperationsState) (id : String)
    (request : WorkflowScheduleRequest) (now : String) :
    Except ScheduleError (List WorkflowSchedule) := do
  if !isScheduleName request.name then throw badScheduleName
  let definition ← resolveWorkflow operations state request.workflowName
  if request.workflowVersion.any (· != definition.version) then
    throw (.workflowScheduleError
      ("workflow " ++ operations.config.platform.reprString request.workflowName ++
        " is not at version " ++ toString (request.workflowVersion.getD 0)))
  match definition.steps.find? fun step =>
      request.domainAllowed.any fun domainAllowed => !domainAllowed step.action with
  | some step =>
      throw (.workflowScheduleError ("role is not allowed to run workflow step " ++
        operations.config.platform.reprString step.action))
  | none => pure ()
  let nextRunAt ← request.toRecurrence.firstRun operations.computeNextRun now
  if state.schedules.any fun row => row.actorId == request.actorId && row.name == request.name then
    throw (.workflowScheduleError "schedule name already exists for actor")
  if (Table.find WorkflowSchedule.id state.schedules id).isSome then
    throw (.exception "IntegrityError" "UNIQUE constraint failed: workflow_schedule.id")
  return state.schedules ++ [{
    request.toRecurrence with
    id
    actorId := request.actorId
    actorRole := request.actorRole
    name := request.name
    workflowName := request.workflowName
    workflowVersion := definition.version
    paramsRedacted := redactRunParams request.params
    nextRunAt }]

/-- The row of a schedule of an actor. -/
def ownWorkflowSchedule (table : List WorkflowSchedule) (id actorId : String) :
    Option WorkflowSchedule :=
  (Table.find WorkflowSchedule.id table id).filter fun schedule => schedule.actorId == actorId

/-- The fields that `update` assigns before it computes the next run. -/
def changeWorkflowSchedule (schedule : WorkflowSchedule) (change : WorkflowScheduleChange) :
    WorkflowSchedule :=
  { schedule with
    toRecurrence := schedule.toRecurrence.change change.toRecurrenceChange
    name := change.name.getD schedule.name
    paramsRedacted := (change.params.map redactRunParams).getD schedule.paramsRedacted
    workflowVersion := change.workflowVersion.getD schedule.workflowVersion }

/-- `WorkflowScheduleService.update`; nothing is returned for a schedule of somebody else. -/
def updateWorkflowSchedule (table : List WorkflowSchedule) (id actorId : String)
    (change : WorkflowScheduleChange) (now : String) :
    Except ScheduleError (Option (List WorkflowSchedule)) := do
  match ownWorkflowSchedule table id actorId with
  | none => return none
  | some schedule =>
      if change.name.any (!isScheduleName ·) then throw badScheduleName
      let changed := changeWorkflowSchedule schedule change
      let nextRunAt ← changed.toRecurrence.changedRun operations.computeNextRun
        change.toRecurrenceChange schedule.nextRunAt now
      if table.any fun row =>
          row.id != id && row.actorId == actorId && row.name == changed.name then
        throw (.exception "IntegrityError"
          "UNIQUE constraint failed: workflow_schedule.actor_id, workflow_schedule.name")
      return some (Table.store WorkflowSchedule.id table { changed with nextRunAt })

/-- `WorkflowScheduleService.delete`. -/
def deleteWorkflowSchedule (table : List WorkflowSchedule) (id actorId : String) :
    List WorkflowSchedule :=
  match ownWorkflowSchedule table id actorId with
  | none => table
  | some _ => Table.delete WorkflowSchedule.id table id

/-- The row of a schedule whose run has been started. -/
def advanceWorkflowSchedule (table : List WorkflowSchedule) (schedule : WorkflowSchedule)
    (now runId : String) : List WorkflowSchedule :=
  match Table.find WorkflowSchedule.id table schedule.id with
  | none => table
  | some refreshed =>
      Table.store WorkflowSchedule.id table { refreshed with
        lastRunAt := some now
        lastRunId := some runId
        nextRunAt := schedule.toRecurrence.nextRun operations.computeNextRun now }

/-- `_run_token`. -/
def scheduleToken (schedule : WorkflowSchedule) (now : String) : String :=
  "sched:" ++ operations.config.platform.sha256Hex
    (schedule.actorId ++ ":" ++ schedule.id ++ ":" ++ schedule.nextRunAt.getD now)

/-! ## Runs -/

namespace OperationsState

variable (state : OperationsState)

/-- The state with another run under a key. -/
def putRun (key : RunKey) (tracked : TrackedRun) : OperationsState :=
  { state with runs := Function.update state.runs key tracked }

end OperationsState

/-- Whether a caller is free for another call on a run. -/
def TrackedRun.isFree (tracked : TrackedRun) (caller : Nat) : Bool :=
  match (tracked.engine.drivers caller).stage with
  | .off => true
  | _ => false

/-- An input that the engine of a run reads with a definition. -/
def TrackedRun.after (tracked : TrackedRun) (definition : WorkflowDefinition) (input : Input) :
    TrackedRun :=
  { tracked with
    engine := (engineStep operations.service definition tracked.engine input).1 }

/-- `start` up to its first transaction. -/
def beginRun (state : OperationsState) (caller : Nat) (ctx : ExecutionContext)
    (allowed : String → Bool) (key : RunKey) (source : Source) (request : StartRequest)
    (schedule : Option WorkflowSchedule) : OperationsState :=
  let tracked := state.runs key
  if !tracked.isFree caller then state
  else
    let resolved := resolveDefinition operations state source request.templateVersion
    let registered := { state with definitions := resolved.2 }
    match resolved.1 with
    | .error _ => registered
    | .ok definition =>
        let launched := tracked.after operations definition
          (.launch caller ctx allowed (.start request))
        registered.putRun key { launched with
          loaded := Function.update tracked.loaded caller definition
          starting := Function.update tracked.starting caller
            (some { definition, request, schedule }) }

/-- A call on a run moves. -/
def driveRun (state : OperationsState) (tracked : TrackedRun) (caller : Nat) (reading : Reading) :
    TrackedRun :=
  let consulted := consult operations state tracked caller reading
  let moved := tracked.after operations consulted.2 (.drive caller consulted.1)
  { moved with
    loaded := Function.update tracked.loaded caller consulted.2
    origin :=
      if tracked.engine.store.run.isNone && moved.engine.store.run.isSome then
        tracked.starting caller
      else tracked.origin }

/-- The run after an input of its engine; runs are started by `start` only. -/
def TrackedRun.step (state : OperationsState) (tracked : TrackedRun) (input : Input) :
    TrackedRun :=
  match input with
  | .launch _ _ _ (.start _) => tracked
  | .launch caller _ _ _ | .crash caller => tracked.after operations (tracked.loaded caller) input
  | .decide _ _ => tracked.after operations (tracked.loaded 0) input
  | .drive caller reading => driveRun operations state tracked caller reading
  | .work caller _ _ => tracked.after operations (tracked.loaded caller) input

/-- The steps that a call dispatches with its definition. -/
def dispatches (key : RunKey) (definition : WorkflowDefinition) :
    List EngineEvent → List OperationsEvent
  | [] => []
  | .requested index action :: rest =>
      .dispatched key definition index action :: dispatches key definition rest
  | _ :: rest => dispatches key definition rest

/-- What an input of the engine of a run shows. -/
def TrackedRun.shown (tracked : TrackedRun) (key : RunKey) : Input → List OperationsEvent
  | .work caller index reading =>
      let definition := tracked.loaded caller
      dispatches key definition
        (engineStep operations.service definition tracked.engine (.work caller index reading)).2
  | _ => []

/-- The tick turns to a due schedule: unless the run of its token exists, it is started. -/
def tickSchedule (state : OperationsState) (schedule : WorkflowSchedule) (caller : Nat)
    (now runId : String) (allowed : String → Bool) : OperationsState × List OperationsEvent :=
  let key := (schedule.actorId, scheduleToken operations schedule now)
  let request : StartRequest := { runId, params := schedule.paramsRedacted }
  if (state.runs key).engine.store.run.isSome then (state, [])
  else
    (beginRun operations state caller { actorId := schedule.actorId } allowed key
      (.named schedule.workflowName) request (some schedule),
      [.started schedule key (.named schedule.workflowName) request])

/-- One input of the services. -/
def operationsStep (state : OperationsState) :
    OperationsInput → OperationsState × List OperationsEvent
  | .register definition maxSteps =>
      match register operations.config (maxSteps.getD operations.catalogMaxSteps)
          state.definitions definition with
      | .ok definitions => ({ state with definitions }, [])
      | .error _ => (state, [])
  | .publish definition =>
      let published := publish operations.config.platform state.templates definition
      ({ state with templates := published.1 }, [])
  | .createSchedule id request now =>
      match createWorkflowSchedule operations state id request now with
      | .ok schedules => ({ state with schedules }, [])
      | .error _ => (state, [])
  | .updateSchedule id actorId change now =>
      match updateWorkflowSchedule operations state.schedules id actorId change now with
      | .ok (some schedules) => ({ state with schedules }, [])
      | .ok none | .error _ => (state, [])
  | .deleteSchedule id actorId =>
      ({ state with schedules := deleteWorkflowSchedule state.schedules id actorId }, [])
  | .listDue now =>
      let found := listDue WorkflowSchedule.toRecurrence WorkflowSchedule.nextRunAt
        state.schedules now 50
      ({ state with due := state.due ++ found }, [])
  | .tick index caller now runId allowed =>
      match state.due[index]? with
      | none => (state, [])
      | some schedule =>
          tickSchedule operations { state with due := state.due.eraseIdx index } schedule caller now
            runId allowed
  | .advance schedule now runId =>
      let schedules := advanceWorkflowSchedule operations state.schedules schedule now runId
      ({ state with schedules }, [])
  | .start caller ctx allowed token source request =>
      (beginRun operations state caller ctx allowed (ctx.actorId, token) source request none, [])
  | .run key input =>
      let tracked := state.runs key
      (state.putRun key (tracked.step operations state input), tracked.shown operations key input)

/-- The workflow services. -/
def workflows : Machine OperationsState OperationsInput (List OperationsEvent) :=
  { step := operationsStep operations }

end Operations

/-! ## A demonstration -/

namespace Demo

def operations : WorkflowOperations :=
  { config := { Services.Demo.config with
      catalog := { specs := [
        { actionType := "browser.inspect", riskLevel := .safe, capabilityDomain := "browser" },
        { actionType := "browser.fill", riskLevel := .mutating, capabilityDomain := "browser" }] } }
    computeNextRun := fun _ _ now => .ok now
    maxSteps := 50
    catalogMaxSteps := 50
    maxPendingConfirmations := 1
    governed := false
    templateService := true }

/-- A workflow of one step. -/
def single (name : String) (step : WorkflowStep) : WorkflowDefinition := { name, steps := [step] }

/-- Alice calls `start` with a token. -/
def startRun (caller : Nat) (token : String) (source : Source) (request : StartRequest) :
    OperationsInput :=
  .start caller { actorId := "alice" } (fun _ => true) token source request

/-- Inputs of the engine of a run of Alice. -/
def onRun (token : String) (inputs : List Input) : List OperationsInput :=
  inputs.map (.run ("alice", token))

/-- A call executes its first step up to the dispatch. -/
def dispatchRun (caller : Nat) (token : String) : List OperationsInput :=
  onRun token (moves caller 7 ++ works caller 0 3)

end Demo

end Era.Workflows
