import Era.Workflows.ExactlyOnce

/-!
# Sequential histories

The calls on a run follow one another, each ends or crashes before the next begins, and
confirmations are decided in between.  What holds in such a history is proved of the one
call that is on its way and of the rows that a call leaves behind.
-/

namespace Era.Workflows

open Era.Core Era.Lib Era.Services

/-- A call begins, and a confirmation is decided, only when no call is on its way. -/
def Sequential (state : EngineState) : Input → Prop
  | .launch .. | .decide .. => ∀ caller, (state.drivers caller).stage = .off
  | .drive .. | .work .. | .crash .. => True

/-! ## One call at a time -/

section Serial

variable (rest : Store → Prop) (busy : Store → Driver → Prop)

/-- The rows are at rest, or agree with the call that is on its way. -/
structure Agrees (store : Store) (driver : Driver) : Prop where
  rest : driver.stage = .off → rest store
  busy : driver.stage ≠ .off → busy store driver

/-- At most one call is on its way. -/
def Serial (state : EngineState) : Prop :=
  ∃ caller, (∀ other, other ≠ caller → (state.drivers other).stage = .off) ∧
    Agrees rest busy state.store (state.drivers caller)

variable (service : WorkflowService) (definition : WorkflowDefinition)
variable (condition : EngineState → Input → Prop)

/-- What keeps a property of the one call and of the rows that it leaves behind. -/
structure SerialRule : Prop where
  sequential : ∀ state input, condition state input → Sequential state input
  initially : rest initialState.store
  launches : ∀ store ctx allowed (call : RunCall), rest store →
    busy store { stage := call.stage, ctx, allowed }
  decides : ∀ store confirmations, rest store → rest { store with confirmations }
  drives : ∀ state caller reading, condition state (.drive caller reading) →
    busy state.store (state.drivers caller) →
      Agrees rest busy (drive service definition state.store (state.drivers caller) reading).store
        (drive service definition state.store (state.drivers caller) reading).driver
  works : ∀ state caller index reading, condition state (.work caller index reading) →
    busy state.store (state.drivers caller) →
      Agrees rest busy
        (work service definition state.store (state.drivers caller) index reading).store
        (work service definition state.store (state.drivers caller) index reading).driver
  crashes : ∀ state caller, condition state (.crash caller) →
    busy state.store (state.drivers caller) → rest state.store

variable {rest busy service definition condition}

theorem RunCall.stage_ne_off (call : RunCall) : call.stage ≠ .off := by
  cases call <;> simp [RunCall.stage]

/-- The call that is on its way agrees with the rows. -/
theorem Serial.on_its_way {state : EngineState} {caller : Nat} (serial : Serial rest busy state)
    (running : (state.drivers caller).stage ≠ .off) :
    busy state.store (state.drivers caller) := by
  obtain ⟨active, off, agrees⟩ := serial
  by_cases same : caller = active
  · subst same
    exact agrees.busy running
  · exact absurd (off caller same) running

/-- A move of the one call. -/
theorem Serial.after {state : EngineState} {caller : Nat} {move : Move}
    (off : ∀ other, other ≠ caller → (state.drivers other).stage = .off)
    (agrees : Agrees rest busy move.store move.driver) :
    Serial rest busy (state.after caller move) := by
  refine ⟨caller, ?_, ?_⟩
  · intro other different
    rw [after_drivers_ne state move different]
    exact off other different
  · rwa [after_store, after_drivers_self]

/-- A move of a call that has ended changes nothing. -/
theorem Serial.idle {state : EngineState} {caller : Nat} {move : Move}
    (serial : Serial rest busy state) (ended : (state.drivers caller).stage = .off)
    (store_eq : move.store = state.store) (still : move.driver.stage = .off) :
    Serial rest busy (state.after caller move) := by
  obtain ⟨active, off, agrees⟩ := serial
  refine ⟨active, ?_, ?_⟩
  · intro other different
    by_cases same : other = caller
    · rw [same, after_drivers_self, still]
    · rw [after_drivers_ne state move same]
      exact off other different
  · rw [after_store, store_eq]
    by_cases same : active = caller
    · subst same
      rw [after_drivers_self]
      exact ⟨fun _ => agrees.rest ended, fun running => absurd still running⟩
    · rwa [after_drivers_ne state move same]

theorem Serial.others {state : EngineState} {caller : Nat} (serial : Serial rest busy state)
    (running : (state.drivers caller).stage ≠ .off) (other : Nat) (different : other ≠ caller) :
    (state.drivers other).stage = .off := by
  obtain ⟨active, off, _⟩ := serial
  by_cases same : other = active
  · subst same
    exact absurd (off caller different.symm) running
  · exact off other same

theorem Serial.at_rest {state : EngineState} (serial : Serial rest busy state)
    (off : ∀ caller, (state.drivers caller).stage = .off) : rest state.store := by
  obtain ⟨active, _, agrees⟩ := serial
  exact agrees.rest (off active)

theorem drive_off {store : Store} {driver : Driver} (ended : driver.stage = .off)
    (reading : Reading) :
    drive service definition store driver reading = { store, driver } := by
  unfold drive
  rw [ended]

theorem SerialRule.step (rule : SerialRule rest busy service definition condition)
    {state : EngineState} {input : Input} (serial : Serial rest busy state)
    (allowed : condition state input) :
    Serial rest busy (engineStep service definition state input).1 := by
  have sequential := rule.sequential state input allowed
  cases input with
  | launch caller ctx permitted call =>
      unfold engineStep
      dsimp only
      rw [sequential caller]
      apply Serial.after fun other _ => sequential other
      refine ⟨fun ended => absurd ended call.stage_ne_off, fun _ => ?_⟩
      exact rule.launches state.store ctx permitted call (serial.at_rest sequential)
  | drive caller reading =>
      by_cases ended : (state.drivers caller).stage = .off
      · apply serial.idle ended
        · rw [drive_off ended]
        · rw [drive_off ended, ended]
      · exact .after (serial.others ended)
          (rule.drives state caller reading allowed (serial.on_its_way ended))
  | work caller index reading =>
      unfold engineStep
      dsimp only
      split
      next => exact serial
      next running =>
        exact .after (serial.others running)
          (rule.works state caller index reading allowed (serial.on_its_way running))
  | crash caller =>
      by_cases ended : (state.drivers caller).stage = .off
      · exact serial.idle ended rfl rfl
      · apply Serial.after (serial.others ended)
        refine ⟨fun _ => ?_, fun running => absurd rfl running⟩
        exact rule.crashes state caller allowed (serial.on_its_way ended)
  | decide confirmationId status =>
      unfold engineStep
      dsimp only
      split
      next => exact serial
      next =>
        refine ⟨0, fun other _ => sequential other, ?_, ?_⟩
        · exact fun _ => rule.decides state.store _ (serial.at_rest sequential)
        · exact fun running => absurd (sequential 0) running

theorem SerialRule.serial_initial (rule : SerialRule rest busy service definition condition) :
    Serial rest busy initialState :=
  ⟨0, fun _ _ => rfl, fun _ => rule.initially, fun running => absurd rfl running⟩

/-- What follows of a step from the rows and the call on its way holds of every step of a
sequential history. -/
theorem SerialRule.admits (rule : SerialRule rest busy service definition condition)
    {property : EngineState → Input → Prop} {inputs : List Input}
    (holds : ∀ state input, Serial rest busy state → condition state input →
      property state input)
    (admitted : (engine service definition).Admits condition initialState inputs) :
    (engine service definition).Admits property initialState inputs :=
  .of_invariant rule.serial_initial (fun _ _ serial allowed => rule.step serial allowed) holds
    admitted

end Serial

/-! ## One caller -/

def Stage.isOff : Stage → Bool
  | .off => true
  | _ => false

/-- One caller makes all the calls, and no call before the last has ended. -/
def OneCaller (caller : Nat) (state : EngineState) : Input → Bool
  | .launch other .. => other == caller && (state.drivers caller).stage.isOff
  | .decide .. => (state.drivers caller).stage.isOff
  | .drive other _ | .work other _ _ | .crash other => other == caller

theorem Stage.eq_off {stage : Stage} (off : stage.isOff = true) : stage = .off := by
  cases stage <;> first | rfl | cases off

section OneCaller

variable {service : WorkflowService} {definition : WorkflowDefinition} {caller : Nat}

theorem off_step {state : EngineState} {input : Input}
    (off : ∀ other, other ≠ caller → (state.drivers other).stage = .off)
    (allowed : OneCaller caller state input = true) (other : Nat) (different : other ≠ caller) :
    (((engineStep service definition state input).1).drivers other).stage = .off := by
  have untouched (move : Move) : ((state.after caller move).drivers other).stage = .off := by
    rw [after_drivers_ne state move different]
    exact off other different
  cases input with
  | launch launched ctx permitted call =>
      simp only [OneCaller, Bool.and_eq_true, beq_iff_eq] at allowed
      obtain ⟨rfl, ended⟩ := allowed
      unfold engineStep
      dsimp only
      split
      next => exact untouched _
      next => exact off other different
  | drive driven reading =>
      rw [OneCaller, beq_iff_eq] at allowed
      subst allowed
      exact untouched _
  | work driven index reading =>
      rw [OneCaller, beq_iff_eq] at allowed
      subst allowed
      unfold engineStep
      dsimp only
      split
      next => exact off other different
      next => exact untouched _
  | crash crashed =>
      rw [OneCaller, beq_iff_eq] at allowed
      subst allowed
      exact untouched _
  | decide confirmationId status =>
      unfold engineStep
      dsimp only
      split <;> exact off other different

/-- The calls of one caller are a sequential history. -/
theorem sequential_of_oneCaller {inputs : List Input}
    (admitted : (engine service definition).Admits (fun state input =>
      OneCaller caller state input = true) initialState inputs) :
    (engine service definition).Admits Sequential initialState inputs := by
  have all_off (state : EngineState)
      (off : ∀ other, other ≠ caller → (state.drivers other).stage = .off)
      (ended : (state.drivers caller).stage.isOff = true) (other : Nat) :
      (state.drivers other).stage = .off := by
    by_cases same : other = caller
    · rw [same]
      exact Stage.eq_off ended
    · exact off other same
  have holds (state : EngineState) (input : Input)
      (off : ∀ other, other ≠ caller → (state.drivers other).stage = .off)
      (allowed : OneCaller caller state input = true) : Sequential state input := by
    cases input with
    | launch launched ctx permitted call =>
        exact all_off state off (Bool.and_eq_true_iff.mp allowed).2
    | decide confirmationId status => exact all_off state off allowed
    | drive | work | crash => exact True.intro
  have preserved (state : EngineState) (input : Input)
      (off : ∀ other, other ≠ caller → (state.drivers other).stage = .off)
      (allowed : OneCaller caller state input = true) (other : Nat) (different : other ≠ caller) :
      ((engineStep service definition state input).1.drivers other).stage = .off :=
    off_step off allowed other different
  exact .of_invariant (fun _ _ => rfl) preserved holds admitted

end OneCaller

/-! ## What a call knows about its steps -/

/-- A call selects pending steps and no step twice, waits for those that its workers
execute, and its workers execute what they have claimed. -/
structure Tracks (store : Store) (driver : Driver) : Prop where
  distinct : driver.stage.unsubmitted.Nodup
  members : ∀ index ∈ driver.stage.unsubmitted, index ∈ driver.batch
  selected : ∀ index ∈ driver.stage.unsubmitted, statusAt store.steps index = .pending ∧
    (driver.workers index).isQueued = false ∧ (driver.workers index).isActive = false
  working : ∀ index, (driver.workers index).isQueued = true ∨
    (driver.workers index).isActive = true → driver.Executes index
  queued : ∀ index, (driver.workers index).isQueued = true →
    statusAt store.steps index = .pending
  active : ∀ index, (driver.workers index).isActive = true →
    statusAt store.steps index = .running
  awaited : ∀ index ∈ driver.stage.awaited, statusAt store.steps index ≠ .pending

theorem Replaces.statusAt {before after : List WorkflowStepRun} (replaces : Replaces before after)
    {index : Nat} (claimed : statusAt before index ≠ .pending) :
    statusAt after index ≠ .pending := by
  intro pending
  cases found : after[index]? with
  | none =>
      have missing : before[index]? = none := by
        rw [List.getElem?_eq_none_iff] at found ⊢
        rwa [← replaces.length_eq]
      rw [Workflows.statusAt, missing] at claimed
      exact claimed rfl
  | some row =>
      obtain ⟨earlier, stored, _, was_pending⟩ := replaces.row index row found
      rw [Workflows.statusAt, found] at pending
      rw [Workflows.statusAt, stored] at claimed
      exact claimed (was_pending pending)

theorem statusAt_set_self {rows : List WorkflowStepRun} {index : Nat}
    {earlier row : WorkflowStepRun} (found : rows[index]? = some earlier) :
    statusAt (rows.set index row) index = row.status := by
  obtain ⟨bound, _⟩ := List.getElem?_eq_some_iff.mp found
  rw [statusAt, List.getElem?_set_self bound]
  rfl

theorem statusAt_set_ne (rows : List WorkflowStepRun) (row : WorkflowStepRun) {index other : Nat}
    (different : other ≠ index) : statusAt (rows.set index row) other = statusAt rows other := by
  rw [statusAt, statusAt, List.getElem?_set_ne different.symm]

theorem statusAt_modify_ne (rows : List WorkflowStepRun)
    (change : WorkflowStepRun → WorkflowStepRun) {index other : Nat} (different : other ≠ index) :
    statusAt (rows.modify index change) other = statusAt rows other := by
  rw [statusAt, statusAt, List.getElem?_modify_ne _ _ different.symm]

theorem waitingIndices_nodup (rows : List WorkflowStepRun) : (waitingIndices rows).Nodup := by
  unfold waitingIndices
  apply List.Nodup.sublist (List.filter_sublist.map Prod.snd)
  rw [List.zipIdx_map_snd]
  exact List.nodup_range'

theorem mem_waitingIndices {rows : List WorkflowStepRun} {index : Nat} :
    index ∈ waitingIndices rows ↔ statusAt rows index = .waiting := by
  simp only [waitingIndices, List.mem_map, List.mem_filter, Prod.exists, exists_eq_right,
    List.mem_zipIdx_iff_getElem?, beq_iff_eq, statusAt]
  constructor
  · rintro ⟨row, found, waiting⟩
    rw [found]
    exact waiting
  · intro waiting
    cases found : rows[index]? with
    | none =>
        rw [found] at waiting
        cases waiting
    | some row =>
        rw [found] at waiting
        exact ⟨row, rfl, waiting⟩

/-- A step that is ready is pending. -/
theorem pending_of_isReady {definition : WorkflowDefinition} {rows : List WorkflowStepRun}
    {index : Nat} {step : WorkflowStep} (ready : isReady definition rows index step = true) :
    statusAt rows index = .pending := by
  unfold isReady at ready
  cases status : statusAt rows index with
  | pending => rfl
  | running | waiting | completed | failed | ambiguous | cancelled | skipped
  | skippedConditional =>
      rw [status] at ready
      cases ready

theorem mem_readyIndices {definition : WorkflowDefinition} {rows : List WorkflowStepRun}
    {index : Nat} : index ∈ readyIndices definition rows ↔
      ∃ step, definition.steps[index]? = some step ∧
        isReady definition rows index step = true := by
  simp [readyIndices, List.mem_zipIdx_iff_getElem?]

theorem readyIndices_nodup (definition : WorkflowDefinition) (rows : List WorkflowStepRun) :
    (readyIndices definition rows).Nodup := by
  unfold readyIndices
  apply List.Nodup.sublist (List.filter_sublist.map Prod.snd)
  rw [List.zipIdx_map_snd]
  exact List.nodup_range'

theorem sliceTo_sublist {α : Type} (items : List α) (stop : Int) :
    (sliceTo items stop).Sublist items := by
  unfold sliceTo
  split <;> exact List.take_sublist ..

theorem foldl_min_mem (first : Nat) (rest : List Nat) : rest.foldl min first ∈ first :: rest :=
  List.min?_mem List.min?_cons'

/-- A batch is made of ready steps, none of them twice. -/
theorem mem_of_mem_chooseBatch {definition : WorkflowDefinition} {maxPendingConfirmations : Int}
    {ready : List Nat} {index : Nat}
    (member : index ∈ chooseBatch definition maxPendingConfirmations ready) : index ∈ ready := by
  unfold chooseBatch at member
  split at member
  next => cases member
  next first rest =>
    split at member
    next => exact List.mem_of_mem_filter ((sliceTo_sublist _ _).subset member)
    next =>
      rw [List.mem_singleton] at member
      rw [member]
      exact foldl_min_mem first rest

theorem chooseBatch_nodup (definition : WorkflowDefinition) (maxPendingConfirmations : Int)
    {ready : List Nat} (distinct : ready.Nodup) :
    (chooseBatch definition maxPendingConfirmations ready).Nodup := by
  unfold chooseBatch
  split
  next => exact List.nodup_nil
  next =>
    split
    next => exact (distinct.filter _).sublist (sliceTo_sublist _ _)
    next => exact List.nodup_singleton _

/-! ## A call keeps track of its steps -/

section Tracked

variable {service : WorkflowService} {definition : WorkflowDefinition}
variable {store : Store} {driver : Driver}

theorem Tracks.launched (store : Store) (ctx : ExecutionContext) (allowed : String → Bool)
    (call : RunCall) : Tracks store { stage := call.stage, ctx, allowed } := by
  have unsubmitted : call.stage.unsubmitted = [] := by cases call <;> rfl
  have awaited : call.stage.awaited = [] := by cases call <;> rfl
  constructor <;> simp [unsubmitted, awaited, WorkerStage.isQueued, WorkerStage.isActive]

/-- The workers of a call that waits for none are idle. -/
theorem Tracks.none_working (tracks : Tracks store driver) (idle : ∀ index, ¬driver.Executes index)
    (index : Nat) :
    (driver.workers index).isQueued = false ∧ (driver.workers index).isActive = false := by
  have none_works := mt (tracks.working index) (idle index)
  rwa [not_or, Bool.not_eq_true, Bool.not_eq_true] at none_works

/-- A call that waits for no worker, and goes on without selecting a step. -/
theorem Tracks.idle {move : Move} (tracks : Tracks store driver)
    (idle : ∀ index, ¬driver.Executes index)
    (unsubmitted : move.driver.stage.unsubmitted = [])
    (awaited : ∀ index ∈ move.driver.stage.awaited,
      statusAt move.store.steps index ≠ .pending)
    (workers_eq : move.driver.workers = driver.workers) :
    Tracks move.store move.driver := by
  have not_queued (index : Nat) : (move.driver.workers index).isQueued = false := by
    rw [workers_eq, (tracks.none_working idle index).1]
  have not_active (index : Nat) : (move.driver.workers index).isActive = false := by
    rw [workers_eq, (tracks.none_working idle index).2]
  constructor
  · rw [unsubmitted]
    exact List.nodup_nil
  · simp [unsubmitted]
  · simp [unsubmitted]
  · simp [not_queued, not_active]
  · simp [not_queued]
  · simp [not_active]
  · exact awaited

/-- A finished worker is neither queued nor active. -/
theorem WorkerStage.not_isFinished {stage : WorkerStage}
    (works : stage.isQueued = true ∨ stage.isActive = true) : ¬stage.isFinished = true := by
  cases stage with
  | finished => simp [WorkerStage.isQueued, WorkerStage.isActive] at works
  | idle | queued | budget | overspent | overspentRelease | inspect | request | mark =>
      simp [WorkerStage.isFinished]

/-- A transaction of a call keeps track of its steps. -/
theorem Tracks.drive (tracks : Tracks store driver) (reading : Reading) :
    Tracks (drive service definition store driver reading).store
      (drive service definition store driver reading).driver := by
  have executes : ∀ index, driver.Executes index →
      (Workflows.drive service definition store driver reading).driver.Executes index ∨
        (driver.workers index).isFinished = true :=
    fun index => drive_executes service definition store driver reading
  have found := drive_case service definition store driver reading
  generalize Workflows.drive service definition store driver reading = move at executes found ⊢
  have still_executes (index : Nat) (works : (driver.workers index).isQueued = true ∨
      (driver.workers index).isActive = true) : move.driver.Executes index :=
    (executes index (tracks.working index works)).resolve_right
      (WorkerStage.not_isFinished works)
  cases found with
  | quiet steps_eq workers_eq unsubmitted awaited =>
      constructor
      · obtain ⟨same, _⟩ | none := unsubmitted
        · exact same ▸ tracks.distinct
        · exact none ▸ List.nodup_nil
      · obtain ⟨same, batch_eq⟩ | none := unsubmitted
        · rw [same, batch_eq]
          exact tracks.members
        · simp [none]
      · rw [workers_eq, steps_eq]
        obtain ⟨same, _⟩ | none := unsubmitted
        · exact same ▸ tracks.selected
        · simp [none]
      · exact workers_eq ▸ still_executes
      · rw [workers_eq, steps_eq]
        exact tracks.queued
      · rw [workers_eq, steps_eq]
        exact tracks.active
      · rw [steps_eq]
        obtain none | ⟨fewer, _⟩ := awaited
        · simp [none]
        · exact fun index member => tracks.awaited index (fewer.subset member)
  | selects at_head store_eq none_waiting unsettled batch_eq unsubmitted_eq awaited_eq workers_eq =>
      have none_working := tracks.none_working (not_executes_of_stage at_head rfl)
      constructor
      · rw [unsubmitted_eq, batch_eq]
        exact chooseBatch_nodup _ _ (readyIndices_nodup _ _)
      · rw [unsubmitted_eq]
        exact fun index member => member
      · intro index member
        rw [unsubmitted_eq, batch_eq] at member
        obtain ⟨step, _, ready⟩ := mem_readyIndices.mp (mem_of_mem_chooseBatch member)
        rw [workers_eq, store_eq]
        exact ⟨pending_of_isReady ready, none_working index⟩
      · simp [workers_eq, none_working]
      · simp [workers_eq, none_working]
      · simp [workers_eq, none_working]
      · simp [awaited_eq]
  | queues index steps_eq batch_eq executes_index unsubmitted_eq awaited_eq workers_eq =>
      have head_selected : index ∈ driver.stage.unsubmitted := by simp [unsubmitted_eq]
      have distinct := tracks.distinct
      rw [unsubmitted_eq, List.nodup_cons] at distinct
      constructor
      · exact distinct.2
      · intro other member
        rw [batch_eq]
        exact tracks.members other (by simp [unsubmitted_eq, member])
      · intro other member
        have different : other ≠ index := fun same => distinct.1 (same ▸ member)
        rw [workers_eq, Function.update_of_ne different, steps_eq]
        exact tracks.selected other (by simp [unsubmitted_eq, member])
      · intro other works
        by_cases same : other = index
        · rw [same]
          exact executes_index (tracks.members index head_selected)
        · rw [workers_eq, Function.update_of_ne same] at works
          exact still_executes other works
      · intro other queued
        rw [steps_eq]
        by_cases same : other = index
        · rw [same]
          exact (tracks.selected index head_selected).1
        · rw [workers_eq, Function.update_of_ne same] at queued
          exact tracks.queued other queued
      · intro other active
        rw [steps_eq]
        by_cases same : other = index
        · subst same
          rw [workers_eq, Function.update_self] at active
          cases active
        · rw [workers_eq, Function.update_of_ne same] at active
          exact tracks.active other active
      · simp [awaited_eq]
  | gathers at_head store_eq unsubmitted_eq awaited_eq rows_eq workers_eq =>
      apply tracks.idle (not_executes_of_stage at_head rfl) unsubmitted_eq _ workers_eq
      intro index member
      rw [awaited_eq, mem_waitingIndices] at member
      rw [store_eq, member]
      simp
  | settles index change idle changed attempt_eq steps_eq unsubmitted_eq awaited_eq rows_eq
    workers_eq =>
      apply tracks.idle idle unsubmitted_eq _ workers_eq
      intro other member
      rw [steps_eq]
      apply (Replaces.modify store.steps index attempt_eq _).statusAt
      · exact tracks.awaited other (by simp [awaited_eq, member])
      · intro row pending
        have done := changed row
        rw [pending] at done
        simp at done
  | skips index at_skip steps_eq unsubmitted_eq awaited_eq workers_eq =>
      exact tracks.idle (not_executes_of_stage at_skip rfl) unsubmitted_eq (by simp [awaited_eq])
        workers_eq
  | resolves at_resolve index steps_eq unsubmitted_eq awaited_eq workers_eq =>
      exact tracks.idle (not_executes_of_stage at_resolve rfl) unsubmitted_eq
        (by simp [awaited_eq]) workers_eq
  | creates request at_create none_before created steps_eq unsubmitted_eq awaited_eq workers_eq =>
      exact tracks.idle (not_executes_of_stage at_create rfl) unsubmitted_eq
        (by simp [awaited_eq]) workers_eq

/-- A worker that is queued or active goes on. -/
theorem Tracks.advances {move : Move} {index : Nat} {stage : WorkerStage}
    (tracks : Tracks store driver)
    (works : (driver.workers index).isQueued = true ∨ (driver.workers index).isActive = true)
    (stage_eq : move.driver.stage = driver.stage) (batch_eq : move.driver.batch = driver.batch)
    (workers_eq : move.driver.workers = Function.update driver.workers index stage)
    (unqueued : stage.isQueued = false)
    (others : ∀ other, other ≠ index →
      statusAt move.store.steps other = statusAt store.steps other)
    (running : stage.isActive = true → statusAt move.store.steps index = .running)
    (claimed : statusAt move.store.steps index ≠ .pending) :
    Tracks move.store move.driver := by
  have executes_eq (other : Nat) : move.driver.Executes other ↔ driver.Executes other := by
    rw [Driver.Executes, Driver.Executes, stage_eq, batch_eq]
  have not_selected : index ∉ driver.stage.unsubmitted := by
    intro member
    obtain ⟨_, not_queued, not_active⟩ := tracks.selected index member
    rw [not_queued, not_active] at works
    simp at works
  constructor
  · rw [stage_eq]
    exact tracks.distinct
  · rw [stage_eq, batch_eq]
    exact tracks.members
  · intro other member
    rw [stage_eq] at member
    have different : other ≠ index := fun same => not_selected (same ▸ member)
    rw [workers_eq, Function.update_of_ne different, others other different]
    exact tracks.selected other member
  · intro other still
    rw [executes_eq]
    by_cases same : other = index
    · rw [same]
      exact tracks.working index works
    · rw [workers_eq, Function.update_of_ne same] at still
      exact tracks.working other still
  · intro other queued
    by_cases same : other = index
    · rw [workers_eq, same, Function.update_self, unqueued] at queued
      cases queued
    · rw [workers_eq, Function.update_of_ne same] at queued
      rw [others other same]
      exact tracks.queued other queued
  · intro other active
    by_cases same : other = index
    · rw [workers_eq, same, Function.update_self] at active
      rw [same]
      exact running active
    · rw [workers_eq, Function.update_of_ne same] at active
      rw [others other same]
      exact tracks.active other active
  · intro other member
    rw [stage_eq] at member
    by_cases same : other = index
    · rwa [same]
    · rw [others other same]
      exact tracks.awaited other member

/-- A transaction of a worker keeps track of the steps of its call. -/
theorem Tracks.work (tracks : Tracks store driver) (index : Nat) (reading : Reading) :
    Tracks (work service definition store driver index reading).store
      (work service definition store driver index reading).driver := by
  have found := work_case service definition store driver index reading
  generalize Workflows.work service definition store driver index reading = move at found ⊢
  cases found with
  | stays => exact tracks
  | @claims row queued free found =>
      have running : statusAt (store.steps.set index (claimStep row)) index = .running :=
        statusAt_set_self found
      refine tracks.advances (.inl ?_) rfl rfl rfl rfl ?_ (fun _ => running) ?_
      · rw [queued]
        rfl
      · exact fun other different => statusAt_set_ne _ _ different
      · simp [running]
  | proceeds stage was_open active steps_eq stage_eq rows_eq batch_eq workers_eq silent =>
      have was_active := WorkerStage.isActive_of_mayRequest was_open
      have running := tracks.active index was_active
      refine tracks.advances (.inr was_active) stage_eq batch_eq workers_eq ?_ ?_ ?_ ?_
      · cases stage with
        | queued => cases active
        | idle | budget | overspent | overspentRelease | inspect | request | mark | finished => rfl
      · simp [steps_eq]
      · simp [steps_eq, running]
      · simp [steps_eq, running]
  | requests step reading found was_request =>
      have was_active : (driver.workers index).isActive = true := by
        rw [was_request]
        rfl
      have running := tracks.active index was_active
      apply tracks.advances (.inr was_active) rfl rfl rfl rfl
      · simp
      · simp [running]
      · simp [running]
  | @marks mark row was_mark found =>
      have marked : statusAt (store.steps.set index (mark.apply row)) index = mark.status := by
        rw [statusAt_set_self found, StepMark.apply_status]
      refine tracks.advances (.inr ?_) rfl rfl rfl rfl ?_ ?_ ?_
      · rw [was_mark]
        rfl
      · exact fun other different => statusAt_set_ne _ _ different
      · exact fun active => nomatch active
      · simp [marked, StepMark.status_ne_pending]

/-- Workers do nothing while their call waits for none. -/
theorem Tracks.work_idle {index : Nat} {reading : Reading} (tracks : Tracks store driver)
    (idle : driver.stage.isExecuting = false) :
    Workflows.work service definition store driver index reading = { store, driver } := by
  have none_working := tracks.none_working (not_executes_of_stage rfl idle) index
  exact work_still service definition store driver index reading none_working.1 none_working.2

variable (service definition)

/-- In a sequential history a call keeps track of its steps. -/
theorem tracksRule : SerialRule (fun _ => True) Tracks service definition Sequential where
  sequential _ _ sequential := sequential
  initially := True.intro
  launches store ctx allowed call _ := .launched store ctx allowed call
  decides _ _ _ := True.intro
  drives _ _ reading _ tracks := ⟨fun _ => True.intro, fun _ => tracks.drive reading⟩
  works _ _ index reading _ tracks := ⟨fun _ => True.intro, fun _ => tracks.work index reading⟩
  crashes _ _ _ _ := True.intro

/-- A call that keeps track of its steps claims only pending ones. -/
theorem Serial.claimsPending {state : EngineState} (serial : Serial (fun _ => True) Tracks state)
    (input : Input) : ClaimsPending state input := by
  cases input with
  | work caller index reading =>
      intro claims
      unfold Driver.claims at claims
      split at claims
      next => cases claims
      next running =>
        have queued := (Bool.and_eq_true_iff.mp claims).1
        exact (serial.on_its_way running).queued index queued
  | launch | drive | crash | decide => exact True.intro

/-- In a sequential history no step is dispatched twice: every claim finds its step pending,
the action of a step is passed to the execution service at most once, and no step is
attempted twice. -/
theorem dispatched_once {inputs : List Input}
    (sequential : (engine service definition).Admits Sequential initialState inputs) :
    (engine service definition).Admits ClaimsPending initialState inputs ∧
      ∀ index, requestCount index ((engine service definition).trace id initialState inputs) ≤ 1 ∧
        ∀ row : WorkflowStepRun,
          ((engine service definition).stateAfter initialState inputs).store.steps[index]? =
            some row → row.attempt ≤ 1 := by
  have claimsPending := (tracksRule service definition).admits
    (fun _ input serial _ => serial.claimsPending input) sequential
  have exclusive := exclusive_stateAfter service definition claimsPending
  exact ⟨claimsPending, fun index => ⟨exclusive.once index, exclusive.attempts index⟩⟩

theorem engine_step : (engine service definition).step = engineStep service definition := rfl

theorem launch_step {state : EngineState} {caller : Nat}
    (free : (state.drivers caller).stage = .off) (ctx : ExecutionContext)
    (allowed : String → Bool) (call : RunCall) :
    engineStep service definition state (.launch caller ctx allowed call) =
      (state.after caller
        { store := state.store, driver := { stage := call.stage, ctx, allowed } }, []) := by
  unfold engineStep
  dsimp only
  rw [free]

/-! ## Dispatches -/

variable {service definition}

/-- A worker passes on only the action that it has prepared. -/
theorem requested_by_work {state : EngineState} {caller index other : Nat} {action : Action}
    {reading : Reading}
    (requested : EngineEvent.requested index action ∈
      (engineStep service definition state (.work caller other reading)).2) :
    (state.drivers caller).stage ≠ .off ∧
      (state.drivers caller).workers index = .request action := by
  unfold engineStep at requested
  dsimp only at requested
  split at requested
  next => cases requested
  next running =>
    have found := work_case service definition state.store (state.drivers caller) other reading
    generalize Workflows.work service definition state.store (state.drivers caller) other
      reading = move at found requested
    cases found with
    | stays | claims | marks => cases requested
    | proceeds stage was_open active steps_eq stage_eq rows_eq batch_eq workers_eq silent =>
        exact absurd requested (silent index action)
    | requests step reading found was_request =>
        rw [List.mem_singleton] at requested
        cases requested
        exact ⟨running, was_request⟩

/-- The action of a step is passed on by a worker of a call that is on its way. -/
theorem requested_by {state : EngineState} {input : Input} {index : Nat} {action : Action}
    (requested : EngineEvent.requested index action ∈
      (engineStep service definition state input).2) :
    ∃ caller, (state.drivers caller).stage ≠ .off ∧
      (state.drivers caller).workers index = .request action := by
  cases input with
  | launch caller ctx permitted call =>
      unfold engineStep at requested
      dsimp only at requested
      split at requested <;> cases requested
  | drive caller reading =>
      exact absurd requested
        (drive_not_requested service definition state.store (state.drivers caller) reading index
          action)
  | work caller other reading => exact ⟨caller, requested_by_work requested⟩
  | crash caller => cases requested
  | decide confirmationId status =>
      unfold engineStep at requested
      dsimp only at requested
      split at requested <;> cases requested

/-- A dispatched step has been claimed by the call that is on its way. -/
theorem Tracks.active_of_request {index : Nat} {action : Action} (tracks : Tracks store driver)
    (requests : driver.workers index = .request action) :
    statusAt store.steps index = .running ∧ driver.Executes index := by
  have active : (driver.workers index).isActive = true := by
    rw [requests]
    rfl
  exact ⟨tracks.active index active, tracks.working index (.inr active)⟩

end Tracked

namespace Demo

/-- A catalog with the one action of the demonstration steps. -/
def config : Config :=
  { Services.Demo.config with
    catalog := { specs := [
      { actionType := "browser.inspect", riskLevel := .safe, capabilityDomain := "browser" }] } }

/-- A call starts the run and crashes while its first step is running; another resumes it. -/
def crashed : List Input :=
  start 0 :: moves 0 7 ++ works 0 0 1 ++ .crash 0 :: launch 0 .resume :: moves 0 6 ++ works 0 1 3

end Demo

theorem dispatched_once_demo :
    (engine Demo.service Demo.pair).Admits ClaimsPending initialState Demo.crashed ∧
      ∀ index, requestCount index
          ((engine Demo.service Demo.pair).trace id initialState Demo.crashed) ≤ 1 ∧
        ∀ row : WorkflowStepRun,
          ((engine Demo.service Demo.pair).stateAfter initialState
            Demo.crashed).store.steps[index]? = some row → row.attempt ≤ 1 :=
  dispatched_once Demo.service Demo.pair
    (sequential_of_oneCaller (show (engine Demo.service Demo.pair).Admits
      (fun state input => OneCaller 0 state input = true) initialState Demo.crashed by
        decide +kernel))

end Era.Workflows
