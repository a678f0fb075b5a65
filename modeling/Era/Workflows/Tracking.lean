import Era.Workflows.Operations

/-!
# What the calls on a run work with

A run keeps what it was created from.  Every call in the loop of `_advance`, and every worker
of such a call, holds an object of the run and works with a definition that has its checksum.
-/

namespace Era.Workflows

open Era.Core Era.Lib Era.Security Era.Services

/-! ## Rows -/

/-- The columns of a run that are never written again. -/
def WorkflowRun.identity (run : WorkflowRun) : WorkflowRun :=
  { run with status := .pending, currentStep := 0, error := none, governanceCode := none }

@[simp] theorem identity_updateRun (loaded changed run : WorkflowRun) :
    (updateRun loaded changed run).identity = run.identity := rfl

@[simp] theorem identity_apply (update : RunUpdate) (run : WorkflowRun) :
    (update.apply run).identity = run.identity := by
  cases update <;> rfl

@[simp] theorem identity_resolved (run : WorkflowRun) : run.resolved.identity = run.identity := rfl

theorem CreatedFrom.of_identity {service : WorkflowService} {definition : WorkflowDefinition}
    {request : StartRequest} {earlier later : WorkflowRun}
    (created : CreatedFrom service definition request earlier)
    (same : later.identity = earlier.identity) :
    CreatedFrom service definition request later := by
  unfold WorkflowRun.identity at same
  rw [WorkflowRun.mk.injEq] at same
  obtain ⟨name, version, _, _, _, _, _, checksum, params, templateName, templateVersion, _⟩ := same
  refine ⟨name.trans created.workflowName, version.trans created.workflowVersion,
    checksum.trans created.definitionChecksum, params.trans created.runParams,
    templateName.trans created.templateName, ?_⟩
  rw [templateName, templateVersion]
  exact created.templateVersion

/-! ## Calls -/

/-- The stages of a call that has not read the run for its loop yet. -/
def Stage.isFresh : Stage → Bool
  | .resolve => false
  | stage => stage.isEntry

/-- A call in the loop, or with workers on their way. -/
def Driver.Active (driver : Driver) : Prop :=
  driver.stage.inLoop = true ∨ ∃ index, driver.workers index ≠ .idle

theorem Stage.isEntry_of_isFresh {stage : Stage} (fresh : stage.isFresh = true) :
    stage.isEntry = true := by
  unfold Stage.isFresh at fresh
  split at fresh
  next => cases fresh
  next => exact fresh

theorem Stage.not_inLoop_of_isEntry {stage : Stage} (entering : stage.isEntry = true) :
    stage.inLoop = false := by
  cases stage <;> first | rfl | cases entering

theorem Stage.inLoop_of_unsubmitted {stage : Stage} {index : Nat} {rest : List Nat}
    (unsubmitted : stage.unsubmitted = index :: rest) : stage.inLoop = true := by
  cases stage with
  | persist update =>
      cases update with
      | failed | cancelled => cases unsubmitted
      | _ => rfl
  | reload | skipConditional | budget => rfl
  | _ => cases unsubmitted

section Calls

variable {service : WorkflowService} {definition : WorkflowDefinition}
variable {store : Store} {driver : Driver} {reading : Reading}

theorem Transition.isEntry {after : Store} {next : Driver}
    (transition : Transition service definition store driver reading after next)
    (entering : next.stage.isEntry = true) : driver.stage.isEntry = true := by
  cases transition with
  | waits => exact entering
  | starts stage starting asked =>
      cases at_stage : driver.stage <;>
        first
          | rfl
          | (rw [at_stage] at asked
             cases stage <;> first | cases starting; done | cases asked)
  | operates call ctx was_entering | continues found ambiguous was_entering
  | resumes found unfinished was_entering => exact was_entering
  | creates request at_stage | resolves at_stage => rw [at_stage]; rfl
  | examines looping stage examining =>
      cases stage <;> first | cases examining; done | cases entering
  | _ => cases entering

theorem Transition.isFresh {after : Store} {next : Driver}
    (transition : Transition service definition store driver reading after next)
    (none_stored : store.run = none) (fresh : driver.stage.isFresh = true)
    (running : next.stage ≠ .off) : next.stage.isFresh = true := by
  have absent {run : WorkflowRun} (found : store.run = some run) : next.stage.isFresh = true := by
    rw [none_stored] at found
    cases found
  have not_looping (looping : driver.stage.inLoop = true) : next.stage.isFresh = true := by
    rw [Stage.not_inLoop_of_isEntry (Stage.isEntry_of_isFresh fresh)] at looping
    cases looping
  cases transition with
  | waits => exact fresh
  | stops => exact absurd rfl running
  | starts stage starting => cases stage <;> first | rfl | cases starting
  | creates | operates => rfl
  | cancels found | continues found | resumes found | loads _ found | rejects _ found
  | reloads _ found => exact absent found
  | resolves at_stage | finishes at_stage =>
      rw [at_stage] at fresh
      cases fresh
  | fails looping | examines looping => exact not_looping looping
  | refreshes at_stage | reconciles at_stage =>
      obtain at_stage | at_stage := at_stage <;> exact not_looping (by rw [at_stage]; rfl)
  | regroups at_stage =>
      obtain at_stage | ⟨at_stage, _⟩ := at_stage <;> exact not_looping (by rw [at_stage]; rfl)
  | gathers at_stage | completes at_stage | selects at_stage | batches at_stage | awaits at_stage
  | rechecks at_stage | pauses at_stage | selected at_stage | forbids at_stage | diverges at_stage
  | dispatches at_stage | skipsCondition at_stage | classifies at_stage | classified at_stage
  | advances at_stage | idles at_stage | refuses at_stage | overspends at_stage | admits at_stage
  | submits at_stage | joins at_stage | regrouped at_stage =>
      exact not_looping (by rw [at_stage]; rfl)

/-- A call that is past its entry holds the run that is stored. -/
theorem Transition.held {after : Store} {next : Driver}
    (transition : Transition service definition store driver reading after next)
    (held : driver.stage.isFresh = false → ∀ run, store.run = some run →
      driver.run.identity = run.identity)
    (running : next.stage ≠ .off) (not_fresh : next.stage.isFresh = false) {run : WorkflowRun}
    (stored : store.run = some run) : next.run.identity = run.identity := by
  have same {found : WorkflowRun} (loaded : store.run = some found) :
      found.identity = run.identity := by
    rw [loaded] at stored
    rw [Option.some.inj stored]
  have held_past {stage : Stage} (at_stage : driver.stage = stage)
      (past : stage.isFresh = false := by rfl) : driver.run.identity = run.identity :=
    held (at_stage ▸ past) run stored
  have looping_past (looping : driver.stage.inLoop = true) :
      driver.run.identity = run.identity := by
    apply held _ run stored
    by_contra fresh
    rw [Bool.not_eq_false] at fresh
    rw [Stage.not_inLoop_of_isEntry (Stage.isEntry_of_isFresh fresh)] at looping
    cases looping
  cases transition with
  | waits => exact held not_fresh run stored
  | stops => exact absurd rfl running
  | starts stage starting =>
      cases stage <;> first | cases starting; done | cases not_fresh
  | creates | operates | resumes => cases not_fresh
  | cancels found | continues found | loads _ found | rejects _ found | reloads _ found =>
      exact same found
  | resolves at_stage => cases not_fresh
  | fails looping | examines looping => exact looping_past looping
  | refreshes at_stage | reconciles at_stage =>
      obtain at_stage | at_stage := at_stage <;> exact held_past at_stage
  | regroups at_stage =>
      obtain at_stage | ⟨at_stage, _⟩ := at_stage <;> exact held_past at_stage
  | finishes at_stage | selected at_stage | forbids at_stage | diverges at_stage
  | dispatches at_stage | idles at_stage | overspends at_stage | submits at_stage
  | joins at_stage => exact (identity_apply _ _).trans (held_past at_stage)
  | gathers at_stage | completes at_stage | selects at_stage | batches at_stage | awaits at_stage
  | rechecks at_stage | pauses at_stage | skipsCondition at_stage | classifies at_stage
  | classified at_stage | advances at_stage | refuses at_stage | admits at_stage
  | regrouped at_stage => exact held_past at_stage

theorem Transition.request? {after : Store} {next : Driver} {request : StartRequest}
    (transition : Transition service definition store driver reading after next)
    (asks : next.stage.request? = some request) : driver.stage.request? = some request := by
  cases transition with
  | waits => exact asks
  | starts stage starting asked => exact asked ▸ asks
  | examines looping stage examining =>
      cases stage <;> first | cases examining; done | cases asks
  | _ => cases asks

variable (service definition store driver reading)

/-- A call queues workers in its loop only. -/
theorem drive_worker_of_not_inLoop (not_looping : driver.stage.inLoop = false) :
    (drive service definition store driver reading).driver.workers = driver.workers := by
  cases drive_case service definition store driver reading with
  | queues index steps_eq batch_eq executes unsubmitted_eq =>
      rw [Stage.inLoop_of_unsubmitted unsubmitted_eq] at not_looping
      cases not_looping
  | quiet _ workers_eq | selects _ _ _ _ _ _ _ workers_eq | gathers _ _ _ _ _ workers_eq
  | settles _ _ _ _ _ _ _ _ _ workers_eq | skips _ _ _ _ _ workers_eq
  | resolves _ _ _ _ _ workers_eq | creates _ _ _ _ _ _ _ workers_eq => exact workers_eq

/-- The loop is entered only with a definition of the checksum of the run. -/
theorem load_inLoop (looping : (load store driver reading).driver.stage.inLoop = true) :
    reading.definition = .found := by
  unfold load at looping
  split at looping
  next => cases looping
  next =>
    split at looping
    next => cases looping
    next =>
      dsimp only at looping
      split at looping
      next => cases looping
      next => cases looping
      next found => exact found

theorem drive_active (active : (drive service definition store driver reading).driver.Active) :
    driver.Active ∨ driver.stage = .load ∧ reading.definition = .found := by
  by_cases was_looping : driver.stage.inLoop = true
  · exact .inl (.inl was_looping)
  obtain looping | ⟨index, busy⟩ := active
  · obtain was_looping | at_load :=
      (drive_transition service definition store driver reading).inLoop looping
    · exact .inl (.inl was_looping)
    · rw [drive, at_load] at looping
      exact .inr ⟨at_load, load_inLoop store driver reading looping⟩
  · rw [Bool.not_eq_true] at was_looping
    rw [drive_worker_of_not_inLoop service definition store driver reading was_looping] at busy
    exact .inl (.inr ⟨index, busy⟩)

/-- A transaction of a call keeps what the run was created from. -/
theorem drive_identity {run : WorkflowRun} (stored : store.run = some run) :
    ∃ later, (drive service definition store driver reading).store.run = some later ∧
      later.identity = run.identity := by
  cases drive_run service definition store driver reading with
  | kept run_eq => exact ⟨run, run_eq.trans stored, rfl⟩
  | writes update at_persist run_eq =>
      exact ⟨updateRun driver.run (update.apply driver.run) run, by rw [run_eq, stored]; rfl, rfl⟩
  | resolves at_resolve run_eq =>
      exact ⟨updateRun driver.run driver.run.resolved run, by rw [run_eq, stored]; rfl, rfl⟩
  | creates created none_before =>
      rw [none_before] at stored
      cases stored

/-- A run is created from the request and the definition of the call that creates it. -/
theorem drive_creates (none_stored : store.run = none) {run : WorkflowRun}
    (stored : (drive service definition store driver reading).store.run = some run) :
    ∃ request, driver.stage.request? = some request ∧
      CreatedFrom service definition request run := by
  cases drive_run service definition store driver reading with
  | kept run_eq => rw [run_eq, none_stored] at stored; cases stored
  | writes update at_persist run_eq =>
      rw [run_eq, none_stored] at stored
      cases stored
  | resolves at_resolve run_eq =>
      rw [run_eq, none_stored] at stored
      cases stored
  | creates created none_before status run_eq asked from_request =>
      rw [run_eq] at stored
      obtain rfl := Option.some.inj stored
      exact ⟨_, asked, from_request⟩

/-- No worker starts by itself. -/
theorem work_idle (index : Nat) {other : Nat} (idle : driver.workers other = .idle) :
    (work service definition store driver index reading).driver.workers other = .idle := by
  by_cases same : other = index
  · subst same
    rw [work_still service definition store driver other reading (by rw [idle]; rfl)
      (by rw [idle]; rfl)]
    exact idle
  · have found := work_case service definition store driver index reading
    generalize work service definition store driver index reading = move at found ⊢
    cases found with
    | stays => exact idle
    | claims | requests | marks => rwa [enterWorker_workers, Function.update_of_ne same]
    | proceeds _ _ _ _ _ _ _ workers_eq => rwa [workers_eq, Function.update_of_ne same]

theorem work_identity (index : Nat) {run : WorkflowRun} (stored : store.run = some run) :
    ∃ later, (work service definition store driver index reading).store.run = some later ∧
      later.identity = run.identity := by
  obtain ⟨run_eq, _⟩ | ⟨message, _, move_eq⟩ :=
    work_run service definition store driver index reading
  · exact ⟨run, run_eq.trans stored, rfl⟩
  · rw [move_eq]
    exact ⟨updateRun driver.run (RunUpdate.apply (.budgetFailed message) driver.run) run,
      by rw [Store.write, stored]; rfl, rfl⟩

theorem work_none (index : Nat) (none_stored : store.run = none) :
    (work service definition store driver index reading).store.run = none := by
  obtain ⟨run_eq, _⟩ | ⟨message, _, move_eq⟩ :=
    work_run service definition store driver index reading
  · exact run_eq.trans none_stored
  · rw [move_eq, Store.write, none_stored]
    rfl

end Calls

/-! ## Soundness of calls -/

/-- A call works with the definition that it was made for, and in the loop with one that it
has looked up for the run. -/
structure CallSound (looked : WorkflowDefinition → WorkflowRun → Prop) (store : Store)
    (driver : Driver) (definition : WorkflowDefinition) (starting : Option Origin) : Prop where
  asked : ∀ request, driver.stage.request? = some request → ∃ origin, starting = some origin ∧
    origin.definition = definition ∧ origin.request = request
  absent : store.run = none → driver.stage.isFresh = true
  entry : driver.stage.isEntry = true → ∀ index, driver.workers index = .idle
  held : driver.stage.isFresh = false → ∀ run, store.run = some run →
    driver.run.identity = run.identity
  checked : driver.Active → ∀ run, store.run = some run → looked definition run.identity

section Sound

variable {looked : WorkflowDefinition → WorkflowRun → Prop}
variable {service : WorkflowService} {definition : WorkflowDefinition} {starting : Option Origin}
variable {store after : Store} {driver : Driver} {reading : Reading}

/-- A call that is at its entry has no worker on its way. -/
theorem CallSound.not_active (sound : CallSound looked store driver definition starting)
    (entering : driver.stage.isEntry = true) : ¬driver.Active := by
  rintro (looping | ⟨index, busy⟩)
  · rw [Stage.not_inLoop_of_isEntry entering] at looping
    cases looping
  · exact busy (sound.entry entering index)

/-- What others do to the rows: a run that is stored keeps its identity. -/
structure Store.Later (store after : Store) : Prop where
  kept : ∀ run, store.run = some run → ∃ later, after.run = some later ∧
    later.identity = run.identity

/-- The moves of others leave a call sound. -/
theorem CallSound.frame (sound : CallSound looked store driver definition starting)
    (later : store.Later after) {now : WorkflowDefinition → WorkflowRun → Prop}
    (kept : store.run.isSome = true → now = looked) :
    CallSound now after driver definition starting := by
  have from_before {run : WorkflowRun} (stored : after.run = some run)
      (not_fresh : driver.stage.isFresh = false) :
      ∃ earlier, store.run = some earlier ∧ run.identity = earlier.identity := by
    cases before : store.run with
    | none =>
        rw [sound.absent before] at not_fresh
        cases not_fresh
    | some earlier =>
        obtain ⟨found, found_eq, same⟩ := later.kept earlier before
        rw [stored] at found_eq
        obtain rfl := Option.some.inj found_eq
        exact ⟨earlier, rfl, same⟩
  refine ⟨sound.asked, ?_, sound.entry, ?_, ?_⟩
  · intro none_stored
    apply sound.absent
    cases before : store.run with
    | none => rfl
    | some earlier =>
        obtain ⟨found, found_eq, _⟩ := later.kept earlier before
        rw [none_stored] at found_eq
        cases found_eq
  · intro not_fresh run stored
    obtain ⟨earlier, before, same⟩ := from_before stored not_fresh
    exact (sound.held not_fresh earlier before).trans same.symm
  · intro active run stored
    have not_fresh : driver.stage.isFresh = false := by
      by_contra fresh
      rw [Bool.not_eq_false] at fresh
      exact sound.not_active (Stage.isEntry_of_isFresh fresh) active
    obtain ⟨earlier, before, same⟩ := from_before stored not_fresh
    rw [kept (by rw [before]; rfl), same]
    exact sound.checked active earlier before

theorem drive_later (service : WorkflowService) (definition : WorkflowDefinition) :
    store.Later (drive service definition store driver reading).store :=
  ⟨fun _ stored => drive_identity service definition store driver reading stored⟩

theorem work_later (service : WorkflowService) (definition : WorkflowDefinition) (index : Nat) :
    store.Later (work service definition store driver index reading).store :=
  ⟨fun _ stored => work_identity service definition store driver reading index stored⟩

/-- A transaction of a call leaves it sound, with another definition only where it has looked
that up and found the checksum of the run. -/
theorem CallSound.drive (sound : CallSound looked store driver definition starting)
    {next : WorkflowDefinition}
    (kept : driver.stage = .load ∨ next = definition)
    (found : driver.stage = .load → reading.definition = .found → ∀ run, store.run = some run →
      looked next run.identity)
    {now : WorkflowDefinition → WorkflowRun → Prop}
    (same_looked : store.run.isSome = true → now = looked)
    (running : (drive service next store driver reading).driver.stage ≠ .off) :
    CallSound now (Workflows.drive service next store driver reading).store
      (Workflows.drive service next store driver reading).driver next starting := by
  have transition := drive_transition service next store driver reading
  have later : store.Later (Workflows.drive service next store driver reading).store :=
    drive_later service next
  have active := drive_active service next store driver reading
  have workers := drive_worker_of_not_inLoop service next store driver reading
  generalize Workflows.drive service next store driver reading = move at *
  have unchanged (not_load : driver.stage ≠ .load) : next = definition :=
    kept.resolve_left not_load
  have created_fresh (none_stored : store.run = none) : move.driver.stage.isFresh = true :=
    transition.isFresh none_stored (sound.absent none_stored) running
  have from_before {run : WorkflowRun} (stored : move.store.run = some run)
      (not_fresh : move.driver.stage.isFresh = false) :
      ∃ earlier, store.run = some earlier ∧ run.identity = earlier.identity := by
    cases before : store.run with
    | none =>
        rw [created_fresh before] at not_fresh
        cases not_fresh
    | some earlier =>
        obtain ⟨found, found_eq, same⟩ := later.kept earlier before
        rw [stored] at found_eq
        obtain rfl := Option.some.inj found_eq
        exact ⟨earlier, rfl, same⟩
  have entry : move.driver.stage.isEntry = true → ∀ index, move.driver.workers index = .idle := by
    intro entering index
    have was_entering := transition.isEntry entering
    rw [workers (Stage.not_inLoop_of_isEntry was_entering)]
    exact sound.entry was_entering index
  refine ⟨?_, ?_, entry, ?_, ?_⟩
  · intro request asks
    have asked := transition.request? asks
    rw [unchanged (by rintro at_load; rw [at_load] at asked; cases asked)]
    exact sound.asked request asked
  · intro none_stored
    apply created_fresh
    cases before : store.run with
    | none => rfl
    | some earlier =>
        obtain ⟨found, found_eq, _⟩ := later.kept earlier before
        rw [none_stored] at found_eq
        cases found_eq
  · intro not_fresh run stored
    obtain ⟨earlier, before, same⟩ := from_before stored not_fresh
    exact (transition.held sound.held running not_fresh before).trans same.symm
  · intro now_active run stored
    have not_fresh : move.driver.stage.isFresh = false := by
      by_contra fresh
      rw [Bool.not_eq_false] at fresh
      have entering := Stage.isEntry_of_isFresh fresh
      obtain looping | ⟨index, busy⟩ := now_active
      · rw [Stage.not_inLoop_of_isEntry entering] at looping
        cases looping
      · exact busy (entry entering index)
    obtain ⟨earlier, before, same⟩ := from_before stored not_fresh
    rw [same_looked (by rw [before]; rfl), same]
    obtain was_active | ⟨at_load, was_found⟩ := active now_active
    · have not_load : driver.stage ≠ .load := by
        intro at_load
        exact sound.not_active (by rw [at_load]; rfl) was_active
      rw [unchanged not_load]
      exact sound.checked was_active earlier before
    · exact found at_load was_found earlier before

/-- A transaction of a worker leaves its call sound. -/
theorem CallSound.work (sound : CallSound looked store driver definition starting)
    (index : Nat) :
    CallSound looked (work service definition store driver index reading).store
      (work service definition store driver index reading).driver definition starting := by
  obtain ⟨stage_eq, _⟩ := work_keeps service definition store driver index reading
  have framed :=
    sound.frame (@work_later store driver reading service definition index) fun _ => rfl
  have same_run : (Workflows.work service definition store driver index reading).driver.run.identity
      = driver.run.identity := by
    obtain ⟨_, run_eq⟩ | ⟨message, _, move_eq⟩ :=
      work_run service definition store driver index reading
    · rw [run_eq]
    · rw [move_eq]
      exact identity_apply _ _
  refine ⟨?_, ?_, ?_, ?_, ?_⟩
  · rw [stage_eq]
    exact framed.asked
  · rw [stage_eq]
    exact framed.absent
  · rw [stage_eq]
    intro entering other
    exact work_idle service definition store driver reading index (sound.entry entering other)
  · rw [stage_eq, same_run]
    exact framed.held
  · rintro active
    apply framed.checked
    obtain looping | ⟨other, busy⟩ := active
    · exact .inl (stage_eq ▸ looping)
    · refine .inr ⟨other, fun idle => busy ?_⟩
      exact work_idle service definition store driver reading index idle

theorem CallSound.launched {ctx : ExecutionContext} {allowed : String → Bool} {call : RunCall}
    (asked : ∀ request, call = .start request → ∃ origin, starting = some origin ∧
      origin.definition = definition ∧ origin.request = request) :
    CallSound looked store { stage := call.stage, ctx, allowed } definition starting := by
  have fresh : call.stage.isFresh = true := by cases call <;> rfl
  have idle : ¬Driver.Active { stage := call.stage, ctx, allowed } := by
    rintro (looping | ⟨index, busy⟩)
    · have not_looping := Stage.not_inLoop_of_isEntry (Stage.isEntry_of_isFresh fresh)
      exact absurd looping (by simp [not_looping])
    · exact busy rfl
  refine ⟨?_, fun _ => fresh, fun _ _ => rfl, ?_, fun active => absurd active idle⟩
  · intro request asks
    cases call with
    | start started =>
        obtain rfl := Option.some.inj asks
        exact asked _ rfl
    | _ => cases asks
  · intro not_fresh
    exact absurd fresh (by simp [show call.stage.isFresh = false from not_fresh])

end Sound

/-! ## Soundness of runs -/

section Tracked

variable (operations : WorkflowOperations)
variable (looked : Origin → WorkflowDefinition → WorkflowRun → Prop)

/-- A definition has been looked up for a run. -/
def TrackedRun.Looked (tracked : TrackedRun) (definition : WorkflowDefinition)
    (run : WorkflowRun) : Prop :=
  ∃ origin, tracked.origin = some origin ∧ looked origin definition run

/-- The calls on a run are sound, and the run remembers what it was created from. -/
structure TrackedSound (tracked : TrackedRun) : Prop where
  calls : ∀ caller, (tracked.engine.drivers caller).stage ≠ .off →
    CallSound (tracked.Looked looked) tracked.engine.store (tracked.engine.drivers caller)
      (tracked.loaded caller) (tracked.starting caller)
  created : ∀ run, tracked.engine.store.run = some run → ∃ origin,
    tracked.origin = some origin ∧
      CreatedFrom operations.service origin.definition origin.request run

theorem trackedSound_initial : TrackedSound operations looked {} := by
  constructor
  · exact fun _ running => absurd rfl running
  · intro run stored
    cases show none = some run from stored

variable {operations looked} {tracked next : TrackedRun}

/-- A move of one call leaves all calls sound that it leaves alone. -/
theorem TrackedSound.moved (sound : TrackedSound operations looked tracked) {caller : Nat}
    {move : Move} (engine_eq : next.engine = tracked.engine.after caller move)
    (later : tracked.engine.store.Later move.store)
    (loaded_eq : ∀ other, other ≠ caller → next.loaded other = tracked.loaded other)
    (starting_eq : ∀ other, other ≠ caller → next.starting other = tracked.starting other)
    (origin_eq : tracked.engine.store.run.isSome = true → next.origin = tracked.origin)
    (own : move.driver.stage ≠ .off → CallSound (next.Looked looked) move.store move.driver
      (next.loaded caller) (next.starting caller))
    (created : tracked.engine.store.run = none → ∀ run, move.store.run = some run →
      ∃ origin, next.origin = some origin ∧
        CreatedFrom operations.service origin.definition origin.request run) :
    TrackedSound operations looked next := by
  constructor
  · intro other running
    rw [engine_eq] at running ⊢
    by_cases same : other = caller
    · subst same
      rw [after_drivers_self] at running ⊢
      exact own running
    · rw [after_drivers_ne _ _ same] at running ⊢
      rw [loaded_eq other same, starting_eq other same]
      refine (sound.calls other running).frame later fun stored => ?_
      unfold TrackedRun.Looked
      rw [origin_eq stored]
  · intro run stored
    rw [engine_eq] at stored
    cases before : tracked.engine.store.run with
    | none => exact created before run stored
    | some earlier =>
        obtain ⟨found, found_eq, same⟩ := later.kept earlier before
        rw [after_store, found_eq] at stored
        obtain rfl := Option.some.inj stored
        obtain ⟨origin, has_origin, from_origin⟩ := sound.created earlier before
        rw [← origin_eq (by rw [before]; rfl)] at has_origin
        exact ⟨origin, has_origin, from_origin.of_identity same⟩

theorem Store.Later.refl (store : Store) : store.Later store :=
  ⟨fun run stored => ⟨run, stored, rfl⟩⟩

theorem TrackedRun.isFree_iff (caller : Nat) :
    tracked.isFree caller = true ↔ (tracked.engine.drivers caller).stage = .off := by
  unfold TrackedRun.isFree
  split
  next free => exact ⟨fun _ => free, fun _ => rfl⟩
  next busy => exact ⟨nofun, fun free => absurd free busy⟩

/-- A call that is launched replaces one that has ended. -/
theorem after_launch {caller : Nat} (free : (tracked.engine.drivers caller).stage = .off)
    (definition : WorkflowDefinition) (ctx : ExecutionContext) (allowed : String → Bool)
    (call : RunCall) :
    (tracked.after operations definition (.launch caller ctx allowed call)).engine =
      tracked.engine.after caller
        { store := tracked.engine.store, driver := { stage := call.stage, ctx, allowed } } := by
  unfold TrackedRun.after engineStep
  dsimp only
  rw [free]

/-- A run that is stored stays so. -/
theorem TrackedRun.step_later {state : OperationsState} (input : Input) :
    tracked.engine.store.Later (tracked.step operations state input).engine.store := by
  cases input with
  | launch launched ctx allowed call =>
      cases call with
      | start => exact .refl _
      | resume | owner | admin =>
          unfold TrackedRun.step TrackedRun.after engineStep
          dsimp only
          split <;> exact .refl _
  | drive other reading => exact drive_later _ _
  | work other index reading =>
      unfold TrackedRun.step TrackedRun.after engineStep
      dsimp only
      split
      next => exact .refl _
      next => exact work_later _ _ _
  | crash crashed => exact .refl _
  | decide confirmationId status =>
      unfold TrackedRun.step TrackedRun.after engineStep
      dsimp only
      split
      next => exact .refl _
      next => exact ⟨fun run stored => ⟨run, stored, rfl⟩⟩

/-- `start` leaves the calls on its run sound. -/
theorem TrackedSound.begin (sound : TrackedSound operations looked tracked) {caller : Nat}
    (free : (tracked.engine.drivers caller).stage = .off) (ctx : ExecutionContext)
    (allowed : String → Bool) (origin : Origin) :
    TrackedSound operations looked
      { tracked.after operations origin.definition
          (.launch caller ctx allowed (.start origin.request)) with
        loaded := Function.update tracked.loaded caller origin.definition
        starting := Function.update tracked.starting caller (some origin) } := by
  refine @TrackedSound.moved operations looked tracked _ sound caller _
    (after_launch free origin.definition ctx allowed _) (.refl _) ?_ ?_ (fun _ => rfl) ?_ ?_
  · exact fun other different => Function.update_of_ne different ..
  · exact fun other different => Function.update_of_ne different ..
  · intro _
    dsimp only
    rw [Function.update_self, Function.update_self]
    apply CallSound.launched
    rintro request ⟨⟩
    exact ⟨origin, rfl, rfl, rfl⟩
  · exact fun none_stored run stored => nomatch none_stored.symm.trans stored

/-- What a call that is about to load consults. -/
theorem consult_load {state : OperationsState} {caller : Nat} {reading : Reading}
    (at_load : (tracked.engine.drivers caller).stage = .load)
    {run : WorkflowRun} (stored : tracked.engine.store.run = some run)
    (found : (consult operations state tracked caller reading).1.definition = .found) :
    lookUp operations state run =
      some (consult operations state tracked caller reading).2 := by
  unfold consult at found ⊢
  dsimp only at found ⊢
  rw [at_load] at found ⊢
  dsimp only at found ⊢
  rw [stored] at found ⊢
  dsimp only at found ⊢
  split
  next definition looked_up => exact looked_up
  next none_found =>
    rw [none_found] at found
    dsimp only at found
    split at found <;> cases found

theorem consult_of_ne_load {state : OperationsState} {caller : Nat} {reading : Reading}
    (not_load : (tracked.engine.drivers caller).stage ≠ .load) :
    (consult operations state tracked caller reading).2 = tracked.loaded caller := by
  unfold consult
  dsimp only
  split
  next at_load => exact absurd at_load not_load
  next => rfl
  next => rfl
  next => rfl

/-- Another call than `start` that is launched is sound. -/
theorem TrackedSound.launch (sound : TrackedSound operations looked tracked) (caller : Nat)
    (ctx : ExecutionContext) (allowed : String → Bool) {call : RunCall}
    (not_start : ∀ request, call ≠ .start request) (definition : WorkflowDefinition) :
    TrackedSound operations looked
      (tracked.after operations definition (.launch caller ctx allowed call)) := by
  by_cases free : (tracked.engine.drivers caller).stage = .off
  · refine @TrackedSound.moved operations looked tracked _ sound caller _
      (after_launch free definition ctx allowed call) (.refl _) (fun _ _ => rfl) (fun _ _ => rfl)
      (fun _ => rfl) ?_ ?_
    · exact fun _ => CallSound.launched fun request is_start => absurd is_start (not_start request)
    · exact fun none_stored run stored => nomatch none_stored.symm.trans stored
  · unfold TrackedRun.after engineStep
    dsimp only
    split
    next off => exact absurd off free
    next => exact sound

/-- A move of a call leaves the calls on its run sound, if what it looks up is good. -/
theorem TrackedSound.drive (sound : TrackedSound operations looked tracked)
    {state : OperationsState} {caller : Nat} {reading : Reading}
    (good : (tracked.engine.drivers caller).stage = .load → ∀ run definition,
      tracked.engine.store.run = some run → lookUp operations state run = some definition →
      tracked.Looked looked definition run.identity) :
    TrackedSound operations looked (driveRun operations state tracked caller reading) := by
  have was_running (running : (Workflows.drive operations.service
      (consult operations state tracked caller reading).2 tracked.engine.store
      (tracked.engine.drivers caller)
      (consult operations state tracked caller reading).1).driver.stage ≠ .off) :
      (tracked.engine.drivers caller).stage ≠ .off := by
    intro ended
    rw [drive_off ended] at running
    exact running ended
  have looked_eq (stored : tracked.engine.store.run.isSome = true) :
      (driveRun operations state tracked caller reading).origin = tracked.origin := by
    unfold driveRun
    dsimp only
    rw [if_neg]
    simp [Option.isNone_iff_eq_none, Option.isSome_iff_ne_none.mp stored]
  refine @TrackedSound.moved operations looked tracked _ sound caller
    (Workflows.drive operations.service (consult operations state tracked caller reading).2
      tracked.engine.store (tracked.engine.drivers caller)
      (consult operations state tracked caller reading).1)
    rfl (drive_later _ _) ?_ (fun _ _ => rfl) looked_eq ?_ ?_
  · exact fun other different => Function.update_of_ne different ..
  · intro running
    have loaded_eq : (driveRun operations state tracked caller reading).loaded caller =
        (consult operations state tracked caller reading).2 := Function.update_self ..
    rw [loaded_eq]
    apply (sound.calls caller (was_running running)).drive _ _ _ running
    · by_cases at_load : (tracked.engine.drivers caller).stage = .load
      · exact .inl at_load
      · exact .inr (consult_of_ne_load at_load)
    · intro at_load found run stored
      exact good at_load run _ stored (consult_load at_load stored found)
    · intro stored
      unfold TrackedRun.Looked
      rw [looked_eq stored]
  · intro none_stored run stored
    obtain ⟨request, asked, from_request⟩ := drive_creates operations.service _ _ _ _ none_stored
      stored
    have running : (tracked.engine.drivers caller).stage ≠ .off := by
      intro ended
      rw [ended] at asked
      cases asked
    have not_load : (tracked.engine.drivers caller).stage ≠ .load := by
      intro at_load
      rw [at_load] at asked
      cases asked
    obtain ⟨origin, starting, definition_eq, request_eq⟩ :=
      (sound.calls caller running).asked request asked
    refine ⟨origin, ?_, ?_⟩
    · unfold driveRun
      dsimp only
      rw [if_pos, starting]
      have after_eq : (tracked.after operations
          (consult operations state tracked caller reading).2 (.drive caller
            (consult operations state tracked caller reading).1)).engine.store.run = some run :=
        stored
      rw [none_stored, after_eq]
      rfl
    · rw [consult_of_ne_load not_load] at from_request
      rw [definition_eq, request_eq]
      exact from_request

/-- A move of a worker leaves the calls on its run sound. -/
theorem TrackedSound.work (sound : TrackedSound operations looked tracked) (caller index : Nat)
    (reading : Reading) :
    TrackedSound operations looked
      (tracked.after operations (tracked.loaded caller) (.work caller index reading)) := by
  unfold TrackedRun.after engineStep
  dsimp only
  split
  next => exact sound
  next running =>
    refine @TrackedSound.moved operations looked tracked _ sound caller
      (Workflows.work operations.service (tracked.loaded caller) tracked.engine.store
        (tracked.engine.drivers caller) index reading)
      rfl (work_later _ _ _) (fun _ _ => rfl) (fun _ _ => rfl) (fun _ => rfl) ?_ ?_
    · exact fun _ => (sound.calls caller running).work index
    · intro none_stored run stored
      rw [work_none operations.service _ _ _ _ _ none_stored] at stored
      cases stored

/-- An input of the engine leaves the calls on a run sound, if what is looked up is good. -/
theorem TrackedSound.step (sound : TrackedSound operations looked tracked)
    {state : OperationsState} {input : Input}
    (good : ∀ caller reading, input = .drive caller reading →
      (tracked.engine.drivers caller).stage = .load → ∀ run definition,
      tracked.engine.store.run = some run → lookUp operations state run = some definition →
      tracked.Looked looked definition run.identity) :
    TrackedSound operations looked (tracked.step operations state input) := by
  cases input with
  | launch caller ctx allowed call =>
      cases call with
      | start request => exact sound
      | resume | owner | admin =>
          exact sound.launch caller ctx allowed (fun _ is_start => by cases is_start) _
  | drive caller reading => exact sound.drive (good caller reading rfl)
  | work caller index reading => exact sound.work caller index reading
  | crash caller =>
      exact @TrackedSound.moved operations looked tracked _ sound caller
        ⟨tracked.engine.store, (tracked.engine.drivers caller).stop, []⟩ rfl (.refl _)
        (fun _ _ => rfl) (fun _ _ => rfl) (fun _ => rfl) (fun running => absurd rfl running)
        fun none_stored run stored => nomatch none_stored.symm.trans stored
  | decide confirmationId status =>
      unfold TrackedRun.step TrackedRun.after engineStep
      dsimp only
      split
      next => exact sound
      next =>
        refine ⟨fun caller running => ?_, sound.created⟩
        apply (sound.calls caller running).frame
        · exact ⟨fun run stored => ⟨run, stored, rfl⟩⟩
        · exact fun _ => rfl

end Tracked

/-! ## The stores and all runs -/

section Services

variable (operations : WorkflowOperations) (state : OperationsState)

theorem resolveDefinition_definitions (source : Source) (templateVersion : Option Int) :
    (resolveDefinition operations state source templateVersion).2 = state.definitions ∨
      ∃ definition, register operations.config operations.maxSteps state.definitions definition =
        .ok (resolveDefinition operations state source templateVersion).2 := by
  unfold resolveDefinition
  cases source with
  | named name =>
      left
      dsimp only
      split
      next => rfl
      next =>
        split
        next => split <;> rfl
        next => rfl
  | given definition =>
      dsimp only
      split
      next => exact .inl rfl
      next =>
        split
        next => exact .inl rfl
        next =>
          split
          next => exact .inl rfl
          next after registered => exact .inr ⟨definition, registered⟩

/-- The tick turns to a schedule that it has found due. -/
def TurnsTo (schedule : WorkflowSchedule) : OperationsInput → Prop
  | .tick index _ _ _ _ => state.due[index]? = some schedule
  | _ => False

/-- The tick calls `start` for a schedule. -/
structure ScheduledStart (input : OperationsInput) (source : Source) (request : StartRequest)
    (schedule : WorkflowSchedule) : Prop where
  turns : TurnsTo state schedule input
  source_eq : source = .named schedule.workflowName
  request_eq : ∃ runId, request = { runId, params := schedule.paramsRedacted }

/-- The key of the run on which an input begins a call, if it begins one. -/
def OperationsInput.begun? : OperationsInput → Option RunKey
  | .start _ ctx _ token _ _ => some (ctx.actorId, token)
  | .tick index _ now _ _ => state.due[index]?.map fun schedule =>
      (schedule.actorId, scheduleToken operations schedule now)
  | .run key (.launch ..) => some key
  | _ => none

/-- What one input does to the run of a key. -/
inductive RunChange (input : OperationsInput) (key : RunKey) : TrackedRun → Prop where
  | kept : RunChange input key (state.runs key)
  | begins {caller : Nat} (ctx : ExecutionContext) (allowed : String → Bool) (source : Source)
      (origin : Origin)
      (free : ((state.runs key).engine.drivers caller).stage = .off)
      (resolved : (resolveDefinition operations state source
        origin.request.templateVersion).1 = .ok origin.definition)
      (scheduled : ∀ schedule, origin.schedule = some schedule →
        ScheduledStart state input source origin.request schedule)
      (begun : input.begun? operations state = some key) (owner : ctx.actorId = key.1) :
      RunChange input key
        { (state.runs key).after operations origin.definition
            (.launch caller ctx allowed (.start origin.request)) with
          loaded := Function.update (state.runs key).loaded caller origin.definition
          starting := Function.update (state.runs key).starting caller (some origin) }
  | steps (engineInput : Input) (input_eq : input = .run key engineInput) :
      RunChange input key ((state.runs key).step operations state engineInput)

/-- What one input does to the registered definitions, the templates and the runs. -/
structure StoresChange (input : OperationsInput) (after : OperationsState) : Prop where
  definitions : after.definitions = state.definitions ∨ ∃ maxSteps definition,
    register operations.config maxSteps state.definitions definition = .ok after.definitions
  templates : after.templates = state.templates ∨ ∃ definition, input = .publish definition ∧
    after.templates = (publish operations.config.platform state.templates definition).1
  runs : ∀ key, RunChange operations state input key (after.runs key)

variable {operations state}

theorem StoresChange.of_kept {input : OperationsInput} {after : OperationsState}
    (definitions_eq : after.definitions = state.definitions)
    (templates_eq : after.templates = state.templates) (runs_eq : after.runs = state.runs) :
    StoresChange operations state input after :=
  ⟨.inl definitions_eq, .inl templates_eq, fun _ => runs_eq ▸ .kept⟩

theorem beginRun_change {input : OperationsInput} (due : List WorkflowSchedule) (caller : Nat)
    (ctx : ExecutionContext) (allowed : String → Bool) (key : RunKey) (source : Source)
    (request : StartRequest) (schedule? : Option WorkflowSchedule)
    (scheduled : ∀ schedule, schedule? = some schedule →
      ScheduledStart state input source request schedule)
    (begun : input.begun? operations state = some key) (owner : ctx.actorId = key.1) :
    StoresChange operations state input
      (beginRun operations { state with due } caller ctx allowed key source request schedule?) := by
  unfold beginRun
  extract_lets tracked resolved registered
  split
  next => exact .of_kept rfl rfl rfl
  next free =>
    rw [Bool.not_eq_true, Bool.not_eq_false', TrackedRun.isFree_iff] at free
    have definitions_eq : registered.definitions = state.definitions ∨
        ∃ maxSteps definition, register operations.config maxSteps state.definitions definition =
          .ok registered.definitions := by
      obtain same | ⟨definition, made⟩ :=
        resolveDefinition_definitions operations state source request.templateVersion
      · exact .inl same
      · exact .inr ⟨operations.maxSteps, definition, made⟩
    split
    next => exact ⟨definitions_eq, .inl rfl, fun _ => .kept⟩
    next definition found =>
      refine ⟨definitions_eq, .inl rfl, fun other => ?_⟩
      by_cases same : other = key
      · subst same
        unfold OperationsState.putRun
        dsimp only
        rw [Function.update_self]
        exact .begins ctx allowed source ⟨definition, request, schedule?⟩ free found scheduled
          begun owner
      · unfold OperationsState.putRun
        dsimp only
        rw [Function.update_of_ne same]
        exact .kept

variable (operations state)

theorem operationsStep_change (input : OperationsInput) :
    StoresChange operations state input (operationsStep operations state input).1 := by
  unfold operationsStep
  cases input with
  | register definition maxSteps =>
      dsimp only
      split
      next definitions made => exact ⟨.inr ⟨_, definition, made⟩, .inl rfl, fun _ => .kept⟩
      next => exact .of_kept rfl rfl rfl
  | publish definition => exact ⟨.inl rfl, .inr ⟨definition, rfl, rfl⟩, fun _ => .kept⟩
  | createSchedule | updateSchedule =>
      dsimp only
      split <;> exact .of_kept rfl rfl rfl
  | deleteSchedule | listDue | advance => exact .of_kept rfl rfl rfl
  | tick index caller now runId allowed =>
      dsimp only
      split
      next => exact .of_kept rfl rfl rfl
      next schedule found =>
        unfold tickSchedule
        extract_lets key request
        split
        next => exact .of_kept rfl rfl rfl
        next =>
          apply beginRun_change
          · rintro _ ⟨⟩
            exact ⟨found, rfl, runId, rfl⟩
          · exact congrArg (Option.map fun schedule : WorkflowSchedule =>
              (schedule.actorId, scheduleToken operations schedule now)) found
          · rfl
  | start caller ctx allowed token source request =>
      apply beginRun_change state.due
      · intro schedule unscheduled
        cases unscheduled
      · rfl
      · rfl
  | run key engineInput =>
      refine ⟨.inl rfl, .inl rfl, fun other => ?_⟩
      by_cases same : other = key
      · subst same
        unfold OperationsState.putRun
        dsimp only
        rw [Function.update_self]
        exact .steps engineInput rfl
      · unfold OperationsState.putRun
        dsimp only
        rw [Function.update_of_ne same]
        exact .kept

/-- What a run has been created from, and what the calls of `start` would create it from,
has a property. -/
structure OriginsHave (property : Origin → Prop) (tracked : TrackedRun) : Prop where
  starting : ∀ caller origin, tracked.starting caller = some origin → property origin
  origin : ∀ origin, tracked.origin = some origin → property origin

theorem originsHave_initial (property : Origin → Prop) : OriginsHave property {} := by
  constructor
  · intro caller origin starting
    cases show none = some origin from starting
  · intro origin created
    cases show none = some origin from created

variable {operations state}

theorem OriginsHave.trackedStep {property : Origin → Prop} {tracked : TrackedRun}
    (origins : OriginsHave property tracked) (input : Input) :
    OriginsHave property (tracked.step operations state input) := by
  cases input with
  | launch _ _ _ call => cases call <;> exact ⟨origins.starting, origins.origin⟩
  | work | crash | decide => exact ⟨origins.starting, origins.origin⟩
  | drive caller reading =>
      refine ⟨origins.starting, fun origin created => ?_⟩
      unfold TrackedRun.step driveRun at created
      dsimp only at created
      split at created
      · exact origins.starting caller origin created
      · exact origins.origin origin created

/-- A property that `start` establishes holds of all origins. -/
theorem OriginsHave.change {property : Origin → Prop} {input : OperationsInput} {key : RunKey}
    {after : TrackedRun} (origins : OriginsHave property (state.runs key))
    (change : RunChange operations state input key after)
    (begun : ∀ source origin, (resolveDefinition operations state source
        origin.request.templateVersion).1 = .ok origin.definition →
      (∀ schedule, origin.schedule = some schedule →
        ScheduledStart state input source origin.request schedule) → property origin) :
    OriginsHave property after := by
  cases change with
  | kept => exact origins
  | @begins caller _ _ source origin free resolved scheduled =>
      refine ⟨fun other created starting => ?_, origins.origin⟩
      by_cases same : other = caller
      · subst same
        dsimp only at starting
        rw [Function.update_self] at starting
        cases starting
        exact begun source origin resolved scheduled
      · dsimp only at starting
        rw [Function.update_of_ne same] at starting
        exact origins.starting other created starting
  | steps engineInput => exact origins.trackedStep engineInput

variable (operations state)

/-- The calls on all runs are sound. -/
def AllTracked (looked : Origin → WorkflowDefinition → WorkflowRun → Prop) : Prop :=
  ∀ key, TrackedSound operations looked (state.runs key)

variable {operations state} {looked : Origin → WorkflowDefinition → WorkflowRun → Prop}

/-- What a call of a run looks up, and whether it is good. -/
def GoodLookUps (operations : WorkflowOperations)
    (looked : Origin → WorkflowDefinition → WorkflowRun → Prop) (state : OperationsState) :
    OperationsInput → Prop
  | .run key (.drive caller _) =>
      ((state.runs key).engine.drivers caller).stage = .load → ∀ run definition,
        (state.runs key).engine.store.run = some run →
        lookUp operations state run = some definition →
        (state.runs key).Looked looked definition run.identity
  | _ => True

theorem AllTracked.step (all : AllTracked operations state looked) {input : OperationsInput}
    (good : GoodLookUps operations looked state input) :
    AllTracked operations (operationsStep operations state input).1 looked := by
  intro key
  have change := (operationsStep_change operations state input).runs key
  generalize (operationsStep operations state input).1.runs key = after at change
  cases change with
  | kept => exact all key
  | begins ctx allowed source origin free => exact (all key).begin free ctx allowed origin
  | steps engineInput input_eq =>
      subst input_eq
      apply (all key).step
      rintro caller reading rfl at_load run definition stored found
      exact good at_load run definition stored found

theorem mem_dispatches {key shown : RunKey} {definition other : WorkflowDefinition}
    {events : List EngineEvent} {index : Nat} {action : Action}
    (member : .dispatched shown other index action ∈ dispatches key definition events) :
    shown = key ∧ other = definition ∧ .requested index action ∈ events := by
  induction events with
  | nil => cases member
  | cons event rest ih =>
      unfold dispatches at member
      split at member
      next => cases member
      next requested action' rest' list_eq =>
        obtain ⟨rfl, rfl⟩ := List.cons.inj list_eq
        obtain same | later := List.mem_cons.mp member
        · cases same
          exact ⟨rfl, rfl, List.mem_cons_self⟩
        · obtain ⟨key_eq, definition_eq, found⟩ := ih later
          exact ⟨key_eq, definition_eq, List.mem_cons_of_mem _ found⟩
      next event' rest' not_requested list_eq =>
        obtain ⟨rfl, rfl⟩ := List.cons.inj list_eq
        obtain ⟨key_eq, definition_eq, found⟩ := ih member
        exact ⟨key_eq, definition_eq, List.mem_cons_of_mem _ found⟩

/-- A step is dispatched by a worker whose action is ready, of a call that is on its way. -/
structure DispatchedBy (operations : WorkflowOperations) (state : OperationsState)
    (input : OperationsInput) (key : RunKey) (definition : WorkflowDefinition) (index : Nat)
    (action : Action) (caller : Nat) (reading : Reading) (step : WorkflowStep) : Prop where
  input_eq : input = .run key (.work caller index reading)
  running : ((state.runs key).engine.drivers caller).stage ≠ .off
  loaded : definition = (state.runs key).loaded caller
  step_eq : definition.steps[index]? = some step
  ready : ((state.runs key).engine.drivers caller).workers index = .request action

theorem dispatchedBy_of_mem {input : OperationsInput} {key : RunKey}
    {definition : WorkflowDefinition} {index : Nat} {action : Action}
    (shown : .dispatched key definition index action ∈ (operationsStep operations state input).2) :
    ∃ caller reading step,
      DispatchedBy operations state input key definition index action caller reading step := by
  unfold operationsStep at shown
  cases input with
  | register | createSchedule | updateSchedule =>
      dsimp only at shown
      split at shown <;> cases shown
  | publish | deleteSchedule | listDue | advance | start => cases shown
  | tick =>
      dsimp only at shown
      split at shown
      next => cases shown
      next =>
        unfold tickSchedule at shown
        dsimp only at shown
        split at shown
        next => cases shown
        next => cases List.mem_singleton.mp shown
  | run other engineInput =>
      dsimp only at shown
      cases engineInput with
      | launch | drive | crash | decide => cases shown
      | work caller worked reading =>
          unfold TrackedRun.shown at shown
          obtain ⟨rfl, loaded, requested⟩ := mem_dispatches shown
          unfold engineStep at requested
          dsimp only at requested
          split at requested
          next => cases requested
          next running =>
            have found := work_case operations.service ((state.runs key).loaded caller)
              (state.runs key).engine.store ((state.runs key).engine.drivers caller) worked reading
            generalize work operations.service ((state.runs key).loaded caller)
              (state.runs key).engine.store ((state.runs key).engine.drivers caller) worked
              reading = move at found requested
            cases found with
            | stays | claims | marks => cases requested
            | proceeds _ _ _ _ _ _ _ _ quiet => exact absurd requested (quiet _ _)
            | requests step _ step_eq ready =>
                cases List.mem_singleton.mp requested
                exact ⟨caller, reading, step, rfl, running, loaded, loaded ▸ step_eq, ready⟩

/-- The run whose step is dispatched is stored, and the definition has been looked up for it. -/
theorem AllTracked.dispatched (all : AllTracked operations state looked)
    {input : OperationsInput} {key : RunKey} {definition : WorkflowDefinition} {index : Nat}
    {action : Action} {caller : Nat} {reading : Reading} {step : WorkflowStep}
    (dispatched : DispatchedBy operations state input key definition index action caller reading
      step) :
    ∃ run origin, (state.runs key).engine.store.run = some run ∧
      (state.runs key).origin = some origin ∧
      CreatedFrom operations.service origin.definition origin.request run ∧
      looked origin definition run.identity := by
  have sound := (all key).calls caller dispatched.running
  have active : ((state.runs key).engine.drivers caller).Active :=
    .inr ⟨index, by rw [dispatched.ready]; nofun⟩
  cases stored : (state.runs key).engine.store.run with
  | none =>
      exact absurd active
        (sound.not_active (Stage.isEntry_of_isFresh (sound.absent stored)))
  | some run =>
      obtain ⟨origin, has_origin, from_origin⟩ := (all key).created run stored
      obtain ⟨other, has_other, good⟩ := sound.checked active run stored
      rw [has_origin] at has_other
      obtain rfl := Option.some.inj has_other
      exact ⟨run, origin, rfl, has_origin, from_origin, dispatched.loaded ▸ good⟩

end Services

end Era.Workflows
