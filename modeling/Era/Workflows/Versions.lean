import Era.Workflows.Pinning

/-!
# The version that a run executes

A run that is started with a published version dispatches steps of that version only, and its
own lookup fails it exactly where that version is not found again.
-/

namespace Era.Workflows

open Era.Core Era.Lib Era.Security Era.Services

/-! ## Published versions -/

/-- The template that a name stands for: under a version number, or else the latest one. -/
structure PublishedAs (templates : List WorkflowTemplate) (name : String) (version : Option Int)
    (template : WorkflowTemplate) : Prop where
  member : template ∈ templates
  name_eq : template.name = name
  version_eq : ∀ number, version = some number → template.version = number
  latest : version = none → ∀ other ∈ templates, other.name = name →
    other.version ≤ template.version

/-- What `instantiate` returns is a published definition, pinned to its version. -/
theorem instantiate_ok {config : Config} {templates : List WorkflowTemplate} {name : String}
    {params : Params} {version : Option Int} {definition : WorkflowDefinition}
    (made : instantiate config templates name params version = .ok definition) :
    ∃ template, PublishedAs templates name version template ∧ definition = template.pinned := by
  unfold instantiate at made
  simp only [bind, Except.bind, pure, Except.pure, throw, throwThe, MonadExceptOf.throw,
    templateError] at made
  cases version with
  | some number =>
      dsimp only at made
      cases found : getTemplate templates name number with
      | none =>
          rw [found] at made
          cases made
      | some template =>
          rw [found] at made
          obtain ⟨member, name_eq, version_eq⟩ := mem_of_getTemplate found
          refine ⟨template, ⟨member, name_eq, ?_, nofun⟩, ?_⟩
          · rintro _ ⟨⟩
            exact version_eq
          · dsimp only at made
            repeat' split at made
            all_goals first | cases made; rfl | cases made
  | none =>
      dsimp only at made
      cases found : getLatest name templates with
      | none =>
          rw [found] at made
          cases made
      | some template =>
          rw [found] at made
          obtain ⟨member, name_eq, highest⟩ := getLatest_eq_some found
          refine ⟨template, ⟨member, name_eq, nofun, fun _ => highest⟩, ?_⟩
          dsimp only at made
          repeat' split at made
          all_goals first | cases made; rfl | cases made

section Versions

variable {operations : WorkflowOperations} {state : OperationsState}

/-- A name that is not registered is resolved to a published version. -/
theorem resolveDefinition_named {name : String} {version : Option Int}
    {definition : WorkflowDefinition} (unregistered : state.definitions name = none)
    (resolved : (resolveDefinition operations state (.named name) version).1 = .ok definition) :
    ∃ template, PublishedAs state.templates name version template ∧
      definition = template.pinned := by
  unfold resolveDefinition at resolved
  dsimp only at resolved
  rw [unregistered] at resolved
  dsimp only at resolved
  split at resolved
  next =>
    split at resolved
    next made =>
      cases resolved
      exact instantiate_ok made
    next => cases resolved
  next => cases resolved

/-- A stored run was started with a published version: with what `instantiate` has returned,
or through the fallback.  If `template_name` was given, it is the name of the template. -/
structure FromTemplate (state : OperationsState) (key : RunKey) (run : WorkflowRun)
    (origin : Origin) (template : WorkflowTemplate) : Prop where
  stored : (state.runs key).engine.store.run = some run
  has_origin : (state.runs key).origin = some origin
  published : template ∈ state.templates
  pinned : origin.definition = template.pinned
  named : ∀ name, origin.request.templateName = some name → name = template.name

/-- The published version is found again: it bears its own version number where the template
store is asked, and elsewhere it is registered. -/
def FindsPinned (operations : WorkflowOperations) (state : OperationsState) (origin : Origin)
    (template : WorkflowTemplate) : Prop :=
  if (nonempty origin.request.templateName && operations.templateService) = true then
    template.definition.version = template.version
  else
    ∃ registered, state.definitions template.definition.name = some registered ∧
      SameDefinition operations.config.platform registered template.pinned

section LookUp

variable {key : RunKey} {run : WorkflowRun} {origin : Origin} {template : WorkflowTemplate}

/-- Whatever is looked up for the run is the published version. -/
theorem FromTemplate.sameDefinition (started : FromTemplate state key run origin template)
    (collisionFree : operations.config.platform.CollisionFree)
    (created : CreatedFrom operations.service origin.definition origin.request run)
    {definition : WorkflowDefinition}
    (same : checksum operations.config.platform definition = run.definitionChecksum) :
    SameDefinition operations.config.platform definition template.pinned := by
  rw [created.definitionChecksum, started.pinned] at same
  exact sameDefinition_of_checksum collisionFree same

theorem checksum_pinned_iff {platform : Platform} (collisionFree : platform.CollisionFree) :
    checksum platform template.definition = checksum platform template.pinned ↔
      template.definition.version = template.version := by
  constructor
  · intro equal
    exact (sameDefinition_of_checksum collisionFree equal).version_eq
  · intro own
    unfold WorkflowTemplate.pinned WorkflowDefinition.atVersion
    rw [← own]

/-- The lookup of the run succeeds exactly if the published version is found again. -/
theorem FromTemplate.lookUp_iff (started : FromTemplate state key run origin template)
    (collisionFree : operations.config.platform.CollisionFree)
    (sound : TemplatesSound operations.config.platform state.templates)
    (created : CreatedFrom operations.service origin.definition origin.request run) :
    (∃ definition, lookUp operations state run = some definition) ↔
      FindsPinned operations state origin template := by
  have checksum_eq : run.definitionChecksum =
      checksum operations.config.platform template.pinned :=
    created.definitionChecksum.trans (congrArg _ started.pinned)
  unfold lookUp definitionForRun FindsPinned
  rw [created.templateName]
  by_cases templated : (nonempty origin.request.templateName && operations.templateService) = true
  · rw [if_pos templated, if_pos templated]
    obtain ⟨named, _⟩ := Bool.and_eq_true_iff.mp templated
    obtain ⟨name, name_eq⟩ : ∃ name, origin.request.templateName = some name := by
      cases given : origin.request.templateName with
      | none =>
          rw [given] at named
          cases named
      | some name => exact ⟨name, rfl⟩
    have version_eq : run.templateVersion = some template.version := by
      rw [← created.templateName] at named
      rw [created.templateVersion named, started.pinned]
      rfl
    have positive := sound.positive template started.published
    have version_or : templateVersionOr run.templateVersion = template.version := by
      rw [version_eq]
      exact if_neg (by omega)
    have found := sound.getTemplate started.published
    rw [name_eq, Option.getD_some, started.named name name_eq, version_or, found, checksum_eq]
    dsimp only
    by_cases equal : checksum operations.config.platform template.definition =
        checksum operations.config.platform template.pinned
    · rw [if_neg (not_not.mpr equal)]
      refine iff_of_true ⟨template.definition, ?_⟩ ((checksum_pinned_iff collisionFree).mp equal)
      exact Option.filter_eq_some_iff.mpr ⟨rfl, beq_iff_eq.mpr equal⟩
    · rw [if_pos equal]
      refine iff_of_false ?_ (mt (checksum_pinned_iff collisionFree).mpr equal)
      rintro ⟨_, found⟩
      cases found
  · rw [if_neg templated, if_neg templated, created.workflowName, started.pinned, checksum_eq]
    simp only [Option.filter_eq_some_iff, beq_iff_eq]
    constructor
    · rintro ⟨definition, registered, equal⟩
      exact ⟨definition, registered, sameDefinition_of_checksum collisionFree equal⟩
    · rintro ⟨definition, registered, same⟩
      exact ⟨definition, registered, same.checksum_eq⟩

end LookUp

/-- What `_advance` reads about the definition of the run. -/
theorem consult_found_iff {tracked : TrackedRun} {caller : Nat} {reading : Reading}
    (at_load : (tracked.engine.drivers caller).stage = .load)
    {run : WorkflowRun} (stored : tracked.engine.store.run = some run) :
    (consult operations state tracked caller reading).1.definition = .found ↔
      ∃ definition, lookUp operations state run = some definition := by
  constructor
  · exact fun found => ⟨_, consult_load at_load stored found⟩
  · rintro ⟨definition, found⟩
    unfold consult
    dsimp only
    rw [at_load]
    dsimp only
    rw [stored]
    dsimp only
    rw [found]

/-- A call of the actor fails the run at its lookup exactly if it has not found the
definition. -/
theorem load_fails_iff {store : Store} {driver : Driver} {reading : Reading} {run : WorkflowRun}
    (stored : store.run = some run) (own : run.actorId = driver.ctx.actorId) :
    (∃ message, (load store driver reading).driver.stage = .persist (.failed message)) ↔
      reading.definition ≠ .found := by
  unfold load
  rw [stored]
  dsimp only
  rw [if_neg (not_not.mpr own)]
  cases reading.definition with
  | found => exact iff_of_false (fun ⟨_, head⟩ => by cases head) (not_not.mpr rfl)
  | missing | changed => exact iff_of_true ⟨_, rfl⟩ nofun

/-- A run that was started with a published version dispatches steps of that version only, and
its lookup fails it exactly if the version is not found again. -/
def KeepsPinned (operations : WorkflowOperations) (state : OperationsState)
    (input : OperationsInput) : Prop :=
  ∀ key run origin template, FromTemplate state key run origin template →
    (∀ definition index action,
      .dispatched key definition index action ∈ (operationsStep operations state input).2 →
      SameDefinition operations.config.platform definition template.pinned) ∧
    ∀ caller reading, input = .run key (.drive caller reading) →
      ((state.runs key).engine.drivers caller).stage = .load →
      run.actorId = ((state.runs key).engine.drivers caller).ctx.actorId →
      ((∃ message, (((operationsStep operations state input).1.runs key).engine.drivers
          caller).stage = .persist (.failed message)) ↔
        ¬FindsPinned operations state origin template)

/-- No input changes or removes a published version. -/
theorem TemplatesSound.step (sound : TemplatesSound operations.config.platform state.templates)
    (input : OperationsInput) :
    TemplatesSound operations.config.platform
      (operationsStep operations state input).1.templates := by
  obtain same | ⟨definition, _, after_eq⟩ :=
    (operationsStep_change operations state input).templates
  · rwa [same]
  · rw [after_eq]
    exact sound.publish definition

theorem AllTracked.keepsPinned (all : AllTracked operations state (HasChecksum operations))
    (sound : TemplatesSound operations.config.platform state.templates)
    (collisionFree : operations.config.platform.CollisionFree) (input : OperationsInput) :
    KeepsPinned operations state input := by
  intro key run origin template started
  have created : CreatedFrom operations.service origin.definition origin.request run := by
    obtain ⟨other, has_other, created⟩ := (all key).created run started.stored
    rw [started.has_origin] at has_other
    rwa [Option.some.inj has_other]
  constructor
  · intro definition index action shown
    obtain ⟨_, dispatching, _, stored, _, _, same⟩ :=
      all.dispatchesOwn input key definition index action shown
    rw [started.stored] at stored
    rw [← Option.some.inj stored] at same
    exact started.sameDefinition collisionFree created same
  · rintro caller reading rfl at_load own
    have after_eq : ((operationsStep operations state (.run key (.drive caller reading))).1.runs
        key).engine.drivers caller = (load (state.runs key).engine.store
          ((state.runs key).engine.drivers caller)
          (consult operations state (state.runs key) caller reading).1).driver := by
      unfold operationsStep OperationsState.putRun
      dsimp only
      rw [Function.update_self]
      unfold TrackedRun.step driveRun TrackedRun.after engineStep
      dsimp only
      rw [after_drivers_self]
      unfold drive
      rw [at_load]
    rw [after_eq, load_fails_iff started.stored own, ne_eq, not_iff_not,
      consult_found_iff at_load started.stored]
    exact started.lookUp_iff collisionFree sound created

/-- The lookup of a run that was started with a published version does not fail it. -/
def PinnedRunsOn (operations : WorkflowOperations) (state : OperationsState)
    (input : OperationsInput) : Prop :=
  ∀ key run origin template, FromTemplate state key run origin template →
    ∀ caller reading, input = .run key (.drive caller reading) →
      ((state.runs key).engine.drivers caller).stage = .load →
      run.actorId = ((state.runs key).engine.drivers caller).ctx.actorId →
      ¬∃ message, (((operationsStep operations state input).1.runs key).engine.drivers
        caller).stage = .persist (.failed message)

/-- A run whose published version is not found again is failed by its lookup. -/
theorem KeepsPinned.not_runsOn {key : RunKey} {caller : Nat} {reading : Reading}
    (kept : KeepsPinned operations state (.run key (.drive caller reading))) {run : WorkflowRun}
    {origin : Origin} {template : WorkflowTemplate}
    (started : FromTemplate state key run origin template)
    (at_load : ((state.runs key).engine.drivers caller).stage = .load)
    (own : run.actorId = ((state.runs key).engine.drivers caller).ctx.actorId)
    (lost : ¬FindsPinned operations state origin template) :
    ¬PinnedRunsOn operations state (.run key (.drive caller reading)) := by
  intro runs_on
  have fails := (kept key run origin template started).2 caller reading rfl at_load own
  exact runs_on key run origin template started caller reading rfl at_load own (fails.mpr lost)

variable (operations)

theorem admits_keepsPinned (collisionFree : operations.config.platform.CollisionFree)
    (inputs : List OperationsInput) :
    (workflows operations).Admits (KeepsPinned operations) {} inputs := by
  have anything : (workflows operations).Admits (fun _ _ => True) {} inputs :=
    fun _ _ _ _ => trivial
  refine Machine.Admits.of_invariant
    (motive := fun state => TemplatesSound operations.config.platform state.templates ∧
      AllTracked operations state (HasChecksum operations))
    ⟨templatesSound_nil _, allTracked_initial operations _⟩ ?_ ?_ anything
  · rintro state input ⟨sound, all⟩ _
    exact ⟨sound.step input, all.checksum_step input⟩
  · rintro state input ⟨sound, all⟩ _
    exact all.keepsPinned sound collisionFree input

/-- `instantiate` and the fallback give the published version that is asked for; in every run
of the services, only its steps are dispatched, and its lookups fail exactly where it is not
found again. -/
theorem keeps_pinned (collisionFree : operations.config.platform.CollisionFree)
    (inputs : List OperationsInput) :
    (∀ name params version definition,
      instantiate operations.config ((workflows operations).stateAfter {} inputs).templates name
        params version = .ok definition →
      ∃ template, PublishedAs ((workflows operations).stateAfter {} inputs).templates name version
        template ∧ definition = template.pinned) ∧
    (∀ name version definition,
      ((workflows operations).stateAfter {} inputs).definitions name = none →
      (resolveDefinition operations ((workflows operations).stateAfter {} inputs) (.named name)
        version).1 = .ok definition →
      ∃ template, PublishedAs ((workflows operations).stateAfter {} inputs).templates name version
        template ∧ definition = template.pinned) ∧
    (workflows operations).Admits (KeepsPinned operations) {} inputs := by
  exact ⟨fun _ _ _ _ => instantiate_ok, fun _ _ _ => resolveDefinition_named,
    admits_keepsPinned operations collisionFree inputs⟩

/-! ## Scheduled versions -/

/-- The version that a workflow name stands for when the tick calls `start`: that of the
catalog, or else the latest published one. -/
def resolvedVersion (state : OperationsState) (name : String) : Option Int :=
  match state.definitions name with
  | some definition => some definition.version
  | none => (getLatest name state.templates).map WorkflowTemplate.version

/-- The schedule that the tick turns to stores the version that its workflow name stands for. -/
def TicksAtVersion (state : OperationsState) : OperationsInput → Prop
  | .tick index _ _ _ _ => (state.due[index]?).all (fun schedule =>
      (resolvedVersion state schedule.workflowName).all (· == schedule.workflowVersion)) = true
  | _ => True

instance (state : OperationsState) (input : OperationsInput) :
    Decidable (TicksAtVersion state input) := by
  unfold TicksAtVersion
  split <;> infer_instance

/-- A step that is dispatched has the version of what its run has been started with. -/
def ExecutesResolved (operations : WorkflowOperations) (state : OperationsState)
    (input : OperationsInput) : Prop :=
  ∀ key definition index action,
    .dispatched key definition index action ∈ (operationsStep operations state input).2 →
    ∃ origin, (state.runs key).origin = some origin ∧
      definition.version = origin.definition.version

/-- A step that is dispatched for a schedule has the version that the schedule stored when the
tick turned to it. -/
def ExecutesScheduled (operations : WorkflowOperations) (state : OperationsState)
    (input : OperationsInput) : Prop :=
  ∀ key definition index action,
    .dispatched key definition index action ∈ (operationsStep operations state input).2 →
    ∀ origin schedule, (state.runs key).origin = some origin →
      origin.schedule = some schedule → definition.version = schedule.workflowVersion

variable {operations}

theorem resolvedVersion_eq {name : String} {definition : WorkflowDefinition}
    (resolved : (resolveDefinition operations state (.named name) none).1 = .ok definition) :
    resolvedVersion state name = some definition.version := by
  unfold resolvedVersion
  cases registered : state.definitions name with
  | some known =>
      unfold resolveDefinition at resolved
      dsimp only at resolved
      rw [registered] at resolved
      rw [Except.ok.inj resolved]
  | none =>
      obtain ⟨template, published, rfl⟩ := resolveDefinition_named registered resolved
      cases latest : getLatest name state.templates with
      | none => exact absurd published.name_eq (getLatest_eq_none latest published.member)
      | some other =>
          obtain ⟨member, name_eq, highest⟩ := getLatest_eq_some latest
          have at_least := published.latest rfl other member name_eq
          have at_most := highest template published.member published.name_eq
          exact congrArg some (le_antisymm at_least at_most)

theorem AllTracked.executesResolved (all : AllTracked operations state (HasChecksum operations))
    (collisionFree : operations.config.platform.CollisionFree) (input : OperationsInput) :
    ExecutesResolved operations state input := by
  intro key definition index action shown
  obtain ⟨_, _, origin, _, has_origin, own, same⟩ :=
    all.dispatchesOwn input key definition index action shown
  rw [own] at same
  exact ⟨origin, has_origin, (sameDefinition_of_checksum collisionFree same).version_eq⟩

/-- A run of a schedule has been started with the version of the schedule. -/
def StartedAtVersion (origin : Origin) : Prop :=
  ∀ schedule, origin.schedule = some schedule →
    origin.definition.version = schedule.workflowVersion

theorem startedAtVersion_begun {input : OperationsInput} (ticks : TicksAtVersion state input)
    {source : Source} {origin : Origin}
    (resolved : (resolveDefinition operations state source
      origin.request.templateVersion).1 = .ok origin.definition)
    (scheduled : ∀ schedule, origin.schedule = some schedule →
      ScheduledStart state input source origin.request schedule) : StartedAtVersion origin := by
  intro schedule for_schedule
  obtain ⟨turns, rfl, runId, request_eq⟩ := scheduled schedule for_schedule
  rw [request_eq] at resolved
  cases input with
  | tick index =>
      have due : state.due[index]? = some schedule := turns
      have version_eq := ticks
      unfold TicksAtVersion at version_eq
      dsimp only at version_eq
      rw [due, Option.all_some, resolvedVersion_eq resolved, Option.all_some] at version_eq
      exact beq_iff_eq.mp version_eq
  | _ => cases turns

variable (operations)

/-- Publishing changes no schedule, and no version that a registered name stands for. -/
theorem publish_resolvedVersion (state : OperationsState) (published : WorkflowDefinition)
    {name : String} {known : WorkflowDefinition}
    (registered : state.definitions name = some known) :
    (operationsStep operations state (.publish published)).1.schedules = state.schedules ∧
      resolvedVersion (operationsStep operations state (.publish published)).1 name =
        resolvedVersion state name := by
  refine ⟨rfl, ?_⟩
  have still : (operationsStep operations state (.publish published)).1.definitions name =
      some known := registered
  unfold resolvedVersion
  rw [registered, still]

/-- A scheduled run executes what its workflow name stood for when the tick turned to the
schedule.  If that has always the version of the schedule, only steps of this version are
dispatched for it.  Publishing changes this for no registered name. -/
theorem executes_scheduled (collisionFree : operations.config.platform.CollisionFree)
    (inputs : List OperationsInput) :
    (workflows operations).Admits (ExecutesResolved operations) {} inputs ∧
    ((workflows operations).Admits TicksAtVersion {} inputs →
      (workflows operations).Admits (ExecutesScheduled operations) {} inputs) ∧
    ∀ published name known,
      ((workflows operations).stateAfter {} inputs).definitions name = some known →
      (operationsStep operations ((workflows operations).stateAfter {} inputs)
          (.publish published)).1.schedules =
        ((workflows operations).stateAfter {} inputs).schedules ∧
      resolvedVersion (operationsStep operations ((workflows operations).stateAfter {} inputs)
          (.publish published)).1 name =
        resolvedVersion ((workflows operations).stateAfter {} inputs) name := by
  have anything : (workflows operations).Admits (fun _ _ => True) {} inputs :=
    fun _ _ _ _ => trivial
  have executes : (workflows operations).Admits (ExecutesResolved operations) {} inputs := by
    refine Machine.Admits.of_invariant
      (motive := fun state => AllTracked operations state (HasChecksum operations))
      (allTracked_initial operations _) ?_ ?_ anything
    · exact fun _ input all _ => all.checksum_step input
    · exact fun _ input all _ => all.executesResolved collisionFree input
  refine ⟨executes, fun ticks => ?_,
    fun published _ _ => publish_resolvedVersion operations _ published⟩
  refine Machine.Admits.of_invariant
    (motive := fun state => ∀ key, OriginsHave StartedAtVersion (state.runs key))
    (fun _ => originsHave_initial _) ?_ ?_ (ticks.and executes)
  · rintro state input origins ⟨at_version, _⟩ key
    exact (origins key).change ((operationsStep_change operations state input).runs key)
      fun source origin resolved scheduled => startedAtVersion_begun at_version resolved scheduled
  · rintro state input origins ⟨_, resolved⟩ key definition index action shown origin schedule
      has_origin for_schedule
    obtain ⟨other, has_other, version_eq⟩ := resolved key definition index action shown
    rw [has_origin] at has_other
    rw [← Option.some.inj has_other] at version_eq
    exact version_eq.trans ((origins key).origin origin has_origin schedule for_schedule)

end Versions

namespace Demo

/-- A workflow that is published under another version number than its own. -/
def renumbered : WorkflowTemplate :=
  { name := "login"
    version := 1
    definition := (single "login" (inspect "look")).atVersion 2
    paramsSchema := []
    checksum := checksum operations.config.platform
      ((single "login" (inspect "look")).atVersion 2) }

/-- The published version is started, up to the lookup. -/
def pinnedRun : List OperationsInput :=
  [.publish renumbered.definition,
    startRun 0 "token" (.given renumbered.pinned)
      { runId := "run", params := [], templateName := some "login" }] ++
    onRun "token" (moves 0 2)

end Demo

theorem keeps_pinned_demo :
    (workflows Demo.operations).Admits (KeepsPinned Demo.operations) {}
      (Demo.publishedRun (Demo.inspect "look")) :=
  (keeps_pinned Demo.operations
    (show Demo.operations.config.platform.CollisionFree from Function.injective_id) _).2.2

set_option maxRecDepth 100000 in
/-- The run is stored, and its call is about to look it up. -/
theorem pinnedRun_load : ∃ run origin,
    FromTemplate ((workflows Demo.operations).stateAfter {} Demo.pinnedRun) ("alice", "token") run
      origin Demo.renumbered ∧
    origin.request.templateName = some "login" ∧
    ((((workflows Demo.operations).stateAfter {} Demo.pinnedRun).runs
      ("alice", "token")).engine.drivers 0).stage = .load ∧
    run.actorId = ((((workflows Demo.operations).stateAfter {} Demo.pinnedRun).runs
      ("alice", "token")).engine.drivers 0).ctx.actorId := by
  have stored : (((workflows Demo.operations).stateAfter {} Demo.pinnedRun).runs
      ("alice", "token")).engine.store.run.map WorkflowRun.actorId = some "alice" := by
    decide +kernel
  obtain ⟨run, stored, actor⟩ := Option.map_eq_some_iff.mp stored
  have has_origin : (((workflows Demo.operations).stateAfter {} Demo.pinnedRun).runs
      ("alice", "token")).origin = some
        { definition := Demo.renumbered.pinned
          request := { runId := "run", params := [], templateName := some "login" }
          schedule := none } := rfl
  have published : ((workflows Demo.operations).stateAfter {} Demo.pinnedRun).templates =
      [Demo.renumbered] := rfl
  refine ⟨run, _, ⟨stored, has_origin, ?_, rfl, ?_⟩, rfl, rfl, actor⟩
  · rw [published]
    exact List.mem_singleton_self _
  · rintro name ⟨⟩
    rfl

/-- The pinned version has another checksum than the published one: the lookup fails the run. -/
theorem not_keeps_pinned :
    ¬∀ inputs, (workflows Demo.operations).Admits (PinnedRunsOn Demo.operations) {} inputs := by
  intro all
  obtain ⟨run, origin, started, named, at_load, own⟩ := pinnedRun_load
  have lost : ¬FindsPinned Demo.operations ((workflows Demo.operations).stateAfter {}
      Demo.pinnedRun) origin Demo.renumbered := by
    unfold FindsPinned
    rw [named, if_pos (by decide)]
    decide
  have kept := admits_keepsPinned Demo.operations
    (show Demo.operations.config.platform.CollisionFree from Function.injective_id)
    (Demo.pinnedRun ++ [.run ("alice", "token") (.drive 0 Demo.executed)]) Demo.pinnedRun _ [] rfl
  have runs_on := all (Demo.pinnedRun ++ [.run ("alice", "token") (.drive 0 Demo.executed)])
    Demo.pinnedRun _ [] rfl
  exact kept.not_runsOn started at_load own lost runs_on

namespace Demo

/-- Alice schedules a registered workflow, perhaps changes the version of the schedule, and the
tick executes its first step. -/
def scheduledRun (version : Option Int) : List OperationsInput :=
  let key := ("alice", "sched:alice:schedule:now")
  [.register (single "login" (inspect "look")) none,
    .createSchedule "schedule"
      { actorId := "alice"
        actorRole := none
        name := "daily"
        workflowName := "login"
        params := []
        intervalSeconds := some 60 } "now",
    .updateSchedule "schedule" "alice" { workflowVersion := version } "now",
    .listDue "now",
    .tick 0 0 "now" "run" fun _ => true] ++
    (moves 0 7 ++ works 0 0 3).map (.run key)

/-- A step of another version than that of the schedule is dispatched. -/
def showsOther (state : OperationsState) : OperationsEvent → Bool
  | .dispatched key definition _ _ => (state.runs key).origin.any fun origin =>
      origin.schedule.any fun schedule => definition.version != schedule.workflowVersion
  | .started .. => false

end Demo

theorem executes_scheduled_demo :
    (workflows Demo.operations).Admits (ExecutesScheduled Demo.operations) {}
      (Demo.scheduledRun none) :=
  (executes_scheduled Demo.operations
    (show Demo.operations.config.platform.CollisionFree from Function.injective_id) _).2.1
    (by decide +kernel)

/-- The version of a schedule is changed to one that the catalog does not have. -/
theorem not_executes_scheduled :
    ¬∀ inputs, (workflows Demo.operations).Admits (ExecutesScheduled Demo.operations) {}
      inputs := by
  intro all
  have dispatched : (operationsStep Demo.operations
      ((workflows Demo.operations).stateAfter {} (Demo.scheduledRun (some 2)).dropLast)
      (.run ("alice", "sched:alice:schedule:now") (.work 0 0 Demo.executed))).2.any
        (Demo.showsOther
          ((workflows Demo.operations).stateAfter {} (Demo.scheduledRun (some 2)).dropLast)) =
        true := by
    decide +kernel
  obtain ⟨event, member, other⟩ := List.any_eq_true.mp dispatched
  cases event with
  | started => cases other
  | dispatched key definition index action =>
      unfold Demo.showsOther at other
      rw [Option.any_eq_true] at other
      obtain ⟨origin, has_origin, other⟩ := other
      rw [Option.any_eq_true] at other
      obtain ⟨schedule, for_schedule, other⟩ := other
      have same := all (Demo.scheduledRun (some 2)) (Demo.scheduledRun (some 2)).dropLast _ [] rfl
        key definition index action member origin schedule has_origin for_schedule
      rw [same] at other
      simp at other

end Era.Workflows
