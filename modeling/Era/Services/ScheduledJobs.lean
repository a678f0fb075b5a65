import Era.Services.Jobs
import Era.Services.Schedules

/-!
# Ticks of the job schedules

A tick submits the schedules that it has found due one after the other, and writes the next run
of each back afterwards.  Other ticks, other calls and crashes come in between.
-/

namespace Era.Services

open Era.Core Era.Lib Era.Security

/-- The schedules, and the job service that they submit to. -/
structure ScheduledJobService where
  schedules : ScheduleService
  jobs : JobService

/-- How far a tick has come.  A ticker is a caller of `submit` as well. -/
inductive TickerPhase where
  | idle
  | ticking (process : Nat) (now : String) (due : List Schedule)
  | submitting (process : Nat) (now : String) (schedule : Schedule) (rest : List Schedule)
  | advancing (process : Nat) (now jobId : String) (schedule : Schedule) (rest : List Schedule)

/-- The process in which a tick runs. -/
def TickerPhase.process? : TickerPhase → Option Nat
  | .idle => none
  | .ticking process _ _ | .submitting process _ _ _ | .advancing process _ _ _ _ => some process

def TickerPhase.isIdle : TickerPhase → Bool
  | .idle => true
  | .ticking _ _ _ | .submitting _ _ _ _ | .advancing _ _ _ _ _ => false

/-- Whether a caller is free for another call of `submit`. -/
def SubmitPhase.isFree : SubmitPhase → Bool
  | .idle | .ended _ => true
  | .lookingUp _ | .creating _ | .lookingAgain _ | .created _ => false

structure ScheduledState where
  table : List Schedule := []
  jobs : JobState := {}
  tickers : Nat → TickerPhase := fun _ => .idle

inductive ScheduledInput where
  | create (id : String) (request : ScheduleRequest) (now : String)
  | update (id actorId : String) (change : ScheduleChange) (now : String)
  | delete (id actorId : String)
  | tick (ticker process : Nat) (now : String)
  /-- A tick goes on to the end of its next transaction. -/
  | proceed (ticker : Nat) (jobId : String)
  /-- A tick ends where it is. -/
  | abort (ticker : Nat)
  /-- Whatever else happens to the jobs. -/
  | jobs (input : JobInput)

inductive ScheduledEvent where
  /-- The tick creates the job of a due schedule. -/
  | fired (schedule : Schedule) (jobId : String)
  | job (event : JobEvent)

/-- The call of `submit` for a due schedule. -/
def Submission.call (submission : Submission) (process : Nat) (jobId : String) : SubmitCall :=
  { process
    jobId
    action := submission.action
    ctx := { actorId := submission.actorId }
    idempotencyKey := some submission.idempotencyKey }

namespace ScheduledState

variable (state : ScheduledState)

def enter (ticker : Nat) (phase : TickerPhase) : ScheduledState :=
  { state with tickers := Function.update state.tickers ticker phase }

/-- The tick calls `submit` for a schedule. -/
def submit (ticker process : Nat) (now : String) (schedule : Schedule) (rest : List Schedule)
    (jobId : String) : ScheduledState :=
  { state.enter ticker (.submitting process now schedule rest) with
    jobs := state.jobs.enter ticker
      (.lookingUp ((submissionOf schedule now).call process jobId)) }

end ScheduledState

section Service

variable (service : ScheduledJobService)

/-- What a tick shows of its call of `submit`. -/
def firedBy (schedule : Schedule) : JobEvent → ScheduledEvent
  | .created jobId => .fired schedule jobId
  | event => .job event

/-- The next step of a tick.  What `submit` raises ends it. -/
def proceedTicker (state : ScheduledState) (ticker : Nat) (jobId : String) :
    ScheduledState × List ScheduledEvent :=
  match state.tickers ticker with
  | .idle => (state, [])
  | .ticking _ _ [] => (state.enter ticker .idle, [])
  | .ticking process now (schedule :: rest) =>
      (state.submit ticker process now schedule rest jobId, [])
  | .submitting process now schedule rest =>
      match state.jobs.calls ticker with
      | .ended (.ok job) => (state.enter ticker (.advancing process now job.id schedule rest), [])
      | .ended (.error _) => (state.enter ticker .idle, [])
      | _ =>
          let moved := proceedSubmit service.jobs state.jobs ticker
          ({ state with jobs := moved.1 }, moved.2.map (firedBy schedule))
  | .advancing process now submitted schedule rest =>
      ({ state.enter ticker (.ticking process now rest) with
        table := advanceSchedule service.schedules state.table schedule now submitted }, [])

/-- The callers of `submit` that an input of the job service moves. -/
def JobInput.caller? : JobInput → Option Nat
  | .submit caller _ | .proceed caller => some caller
  | .start _ | .crash _ | .shutdown _ | .work _ _ => none

/-- The ticks that go on after an input of the job service: a crash ends those of its process. -/
def ScheduledState.keptTickers (state : ScheduledState) : JobInput → Nat → TickerPhase
  | .crash process => fun ticker =>
      if (state.tickers ticker).process? = some process then .idle else state.tickers ticker
  | _ => state.tickers

def scheduledStep (state : ScheduledState) :
    ScheduledInput → ScheduledState × List ScheduledEvent
  | .create id request now =>
      ({ state with
        table := (scheduleStep service.schedules state.table (.create id request now)).1 }, [])
  | .update id actorId change now =>
      ({ state with
        table := (scheduleStep service.schedules state.table (.update id actorId change now)).1 },
        [])
  | .delete id actorId =>
      ({ state with
        table := (scheduleStep service.schedules state.table (.delete id actorId)).1 }, [])
  | .tick ticker process now =>
      if state.jobs.live process && (state.tickers ticker).isIdle &&
          (state.jobs.calls ticker).isFree then
        (state.enter ticker (.ticking process now
          (listDue Schedule.toRecurrence Schedule.nextRunAt state.table now 50)), [])
      else (state, [])
  | .proceed ticker jobId => proceedTicker service state ticker jobId
  | .abort ticker =>
      if (state.tickers ticker).isIdle then (state, [])
      else ({ state.enter ticker .idle with jobs := state.jobs.enter ticker .idle }, [])
  | .jobs input =>
      if input.caller?.any fun caller => !(state.tickers caller).isIdle then (state, [])
      else
        let moved := jobStep service.jobs state.jobs input
        ({ state with jobs := moved.1, tickers := state.keptTickers input },
          moved.2.map ScheduledEvent.job)

def scheduledJobs : Machine ScheduledState ScheduledInput (List ScheduledEvent) :=
  { step := scheduledStep service }

/-- The tick creates a job for a due time of a schedule. -/
def ScheduledEvent.firesFor (id actorId due : String) : ScheduledEvent → Bool
  | .fired schedule _ =>
      schedule.id == id && schedule.actorId == actorId && schedule.nextRunAt == some due
  | .job _ => false

end Service

/-! ## The job of a key -/

/-- The actor and the key of a job are found under an identifier. -/
def KeyStored (jobs : List Job) (actorId keyHash : String) : Prop :=
  ∃ jobId job, Table.find Job.id jobs jobId = some job ∧ job.actorId = actorId ∧
    job.idempotencyKeyHash = some keyHash

section Keys

variable {service : JobService} {jobs : List Job} {actorId keyHash : String}

theorem KeyStored.append (stored : KeyStored jobs actorId keyHash) (job : Job) :
    KeyStored (jobs ++ [job]) actorId keyHash := by
  obtain ⟨jobId, found, is_found, same⟩ := stored
  exact ⟨jobId, found, Table.find_append_of_some is_found, same⟩

theorem KeyStored.recovered (stored : KeyStored jobs actorId keyHash) :
    KeyStored (jobs.map Job.recovered) actorId keyHash := by
  obtain ⟨jobId, job, found, same_actor, same_key⟩ := stored
  have keeps (job : Job) : job.recovered.id = job.id ∧ job.recovered.actorId = job.actorId ∧
      job.recovered.idempotencyKeyHash = job.idempotencyKeyHash := by
    unfold Job.recovered
    split <;> exact ⟨rfl, rfl, rfl⟩
  refine ⟨jobId, job.recovered, ?_, (keeps job).2.1.trans same_actor,
    (keeps job).2.2.trans same_key⟩
  rw [Table.find_map fun job => (keeps job).1, found]
  rfl

theorem KeyStored.update (stored : KeyStored jobs actorId keyHash) (jobId : String)
    {change : Job → Job} (keeps : ∀ job, (change job).id = job.id ∧
      (change job).actorId = job.actorId ∧
      (change job).idempotencyKeyHash = job.idempotencyKeyHash) :
    KeyStored (updateJob jobs jobId change) actorId keyHash := by
  obtain ⟨owner, job, found, same_actor, same_key⟩ := stored
  unfold updateJob
  split
  · exact ⟨owner, job, found, same_actor, same_key⟩
  next updated is_updated =>
    have named : (change updated).id = jobId :=
      (keeps updated).1.trans (Table.find_eq_some is_updated).2
    by_cases same : owner = jobId
    · obtain rfl := Option.some.inj (found.symm.trans (same ▸ is_updated))
      refine ⟨jobId, change job, ?_, (keeps job).2.1.trans same_actor,
        (keeps job).2.2.trans same_key⟩
      rw [← named]
      exact Table.find_store_self (by rw [named]; exact is_updated)
    · refine ⟨owner, job, ?_, same_actor, same_key⟩
      rwa [Table.find_store_ne (by rwa [named])]

/-- A key that is stored keeps others from being created with it. -/
theorem KeyStored.violates (stored : KeyStored jobs actorId keyHash) {job : Job}
    (same_actor : job.actorId = actorId) (same_key : job.idempotencyKeyHash = some keyHash) :
    job.violates jobs = true := by
  obtain ⟨jobId, found, is_found, actor_eq, key_eq⟩ := stored
  refine List.any_eq_true.mpr ⟨found, (Table.find_eq_some is_found).1, ?_⟩
  rw [actor_eq, key_eq, same_actor, same_key]
  simp

/-- A job that has been created is found with its key. -/
theorem KeyStored.created {job : Job} (fresh : job.violates jobs = false)
    (same_actor : job.actorId = actorId) (same_key : job.idempotencyKeyHash = some keyHash) :
    KeyStored (jobs ++ [job]) actorId keyHash := by
  have absent := Option.map_eq_none_iff.mp (statusIn_of_violates fresh)
  exact ⟨job.id, job, Table.find_append_self absent, same_actor, same_key⟩

variable {state : JobState}

theorem KeyStored.proceedSubmit (stored : KeyStored state.jobs actorId keyHash) (caller : Nat) :
    KeyStored (proceedSubmit service state caller).1.jobs actorId keyHash := by
  unfold Services.proceedSubmit
  split
  · split
    · exact stored
    · split <;> exact stored
  next call creating =>
    split
    · exact stored
    · exact stored.append (call.job service)
  · split <;> exact stored
  · exact stored
  · exact stored
  · exact stored

/-- No job ever loses its key. -/
theorem KeyStored.jobStep (stored : KeyStored state.jobs actorId keyHash) (input : JobInput) :
    KeyStored (jobStep service state input).1.jobs actorId keyHash := by
  unfold Services.jobStep
  cases input with
  | start process =>
      dsimp only
      split
      · exact stored
      · exact stored.recovered
  | crash | shutdown => exact stored
  | submit caller call =>
      dsimp only
      split
      · split <;> exact stored
      · split <;> exact stored
      · exact stored
  | proceed caller => exact stored.proceedSubmit caller
  | work jobId answer =>
      dsimp only
      split
      next work _ =>
        unfold proceedWork
        split
        · exact stored.update jobId fun _ => ⟨rfl, rfl, rfl⟩
        · exact stored
        · exact stored.update jobId fun _ => ⟨rfl, rfl, rfl⟩
        · exact stored.update jobId fun _ => ⟨rfl, rfl, rfl⟩
      · exact stored

end Keys

/-! ## What ticks hold -/

/-- The schedules that a tick has still before it, or is busy with. -/
def TickerPhase.schedules : TickerPhase → List Schedule
  | .idle => []
  | .ticking _ _ due => due
  | .submitting _ _ schedule rest | .advancing _ _ _ schedule rest => schedule :: rest

/-- The call that is on its way. -/
def SubmitPhase.call? : SubmitPhase → Option SubmitCall
  | .lookingUp call | .creating call | .lookingAgain call | .created call => some call
  | .idle | .ended _ => none

/-- A tick holds schedules that are due, and submits the one that it is busy with. -/
structure TickersFit (state : ScheduledState) : Prop where
  due : ∀ ticker, ∀ schedule ∈ (state.tickers ticker).schedules, schedule.nextRunAt.isSome = true
  calls : ∀ ticker process now schedule rest call,
    state.tickers ticker = .submitting process now schedule rest →
    (state.jobs.calls ticker).call? = some call →
      call.ctx.actorId = schedule.actorId ∧
        call.idempotencyKey = some (submissionOf schedule now).idempotencyKey

section Ticks

variable {service : ScheduledJobService} {state : ScheduledState}

/-- Ticks and calls of `submit` that go on as they were, or end. -/
theorem TickersFit.frame (fits : TickersFit state) {after : ScheduledState}
    (tickers : ∀ ticker, after.tickers ticker = state.tickers ticker ∨
      after.tickers ticker = .idle)
    (calls : ∀ ticker call, after.tickers ticker ≠ .idle →
      (after.jobs.calls ticker).call? = some call →
        (state.jobs.calls ticker).call? = some call) : TickersFit after := by
  constructor
  · intro ticker schedule held
    obtain same | idle := tickers ticker
    · exact fits.due ticker schedule (same ▸ held)
    · rw [idle] at held
      cases held
  · intro ticker process now schedule rest call submitting called
    have busy : after.tickers ticker ≠ .idle := by
      rw [submitting]
      intro idle
      cases idle
    obtain same | idle := tickers ticker
    · exact fits.calls ticker process now schedule rest call (same ▸ submitting)
        (calls ticker call busy called)
    · exact absurd idle busy

/-- A tick enters a phase in which it does not call `submit`. -/
theorem TickersFit.enter (fits : TickersFit state) (ticker : Nat) {phase : TickerPhase}
    (due : ∀ schedule ∈ phase.schedules, schedule.nextRunAt.isSome = true)
    (calls_not : ∀ process now schedule rest, phase ≠ .submitting process now schedule rest) :
    TickersFit (state.enter ticker phase) := by
  constructor
  · intro other schedule held
    unfold ScheduledState.enter at held
    dsimp only at held
    by_cases same : other = ticker
    · rw [same, Function.update_self] at held
      exact due schedule held
    · rw [Function.update_of_ne same] at held
      exact fits.due other schedule held
  · intro other process now schedule rest call submitting called
    unfold ScheduledState.enter at submitting
    dsimp only at submitting
    by_cases same : other = ticker
    · rw [same, Function.update_self] at submitting
      exact absurd submitting (calls_not process now schedule rest)
    · rw [Function.update_of_ne same] at submitting
      exact fits.calls other process now schedule rest call submitting called

theorem TickersFit.submit (fits : TickersFit state) (ticker process : Nat) (now : String)
    {schedule : Schedule} {rest : List Schedule} (jobId : String)
    (due : ∀ held ∈ schedule :: rest, held.nextRunAt.isSome = true) :
    TickersFit (state.submit ticker process now schedule rest jobId) := by
  constructor
  · intro other held member
    unfold ScheduledState.submit ScheduledState.enter at member
    dsimp only at member
    by_cases same : other = ticker
    · rw [same, Function.update_self] at member
      exact due held member
    · rw [Function.update_of_ne same] at member
      exact fits.due other held member
  · intro other process' now' held rest' call submitting called
    unfold ScheduledState.submit ScheduledState.enter JobState.enter at submitting called
    dsimp only at submitting called
    by_cases same : other = ticker
    · rw [same, Function.update_self] at submitting called
      cases submitting
      cases called
      exact ⟨rfl, rfl⟩
    · rw [Function.update_of_ne same] at submitting called
      exact fits.calls other process' now' held rest' call submitting called

/-- A caller that enters a phase with its own call, or with none. -/
theorem JobState.enter_call? {jobs : JobState} {caller : Nat} {phase : SubmitPhase}
    (own : ∀ call, phase.call? = some call → (jobs.calls caller).call? = some call) (other : Nat)
    (call : SubmitCall) (called : ((jobs.enter caller phase).calls other).call? = some call) :
    (jobs.calls other).call? = some call := by
  unfold JobState.enter at called
  dsimp only at called
  by_cases same : other = caller
  · rw [same, Function.update_self] at called
    exact same ▸ own call called
  · rwa [Function.update_of_ne same] at called

/-- No transaction of `submit` makes a call of its own. -/
theorem proceedSubmit_call? {service : JobService} {jobs : JobState} (caller other : Nat)
    (call : SubmitCall)
    (called : ((proceedSubmit service jobs caller).1.calls other).call? = some call) :
    (jobs.calls other).call? = some call := by
  unfold proceedSubmit at called
  split at called
  next before at_lookup =>
    have own : ∀ call, (SubmitPhase.creating before).call? = some call →
        (jobs.calls caller).call? = some call := by
      rw [at_lookup]
      exact fun _ same => same
    split at called
    · exact JobState.enter_call? own other call called
    · split at called
      · exact JobState.enter_call? (fun _ none => by cases none) other call called
      · exact JobState.enter_call? own other call called
  next before at_create =>
    have own (phase : SubmitPhase) (same : phase.call? = some before) :
        ∀ call, phase.call? = some call → (jobs.calls caller).call? = some call := by
      rw [at_create, same]
      exact fun _ same => same
    split at called
    · exact JobState.enter_call? (own _ rfl) other call called
    · exact JobState.enter_call? (own (.created before) rfl) other call called
  · split at called <;>
      exact JobState.enter_call? (fun _ none => by cases none) other call called
  next before _ =>
    exact @JobState.enter_call? jobs caller (.ended (.ok (before.job service)))
      (fun _ none => by cases none) other call called
  · exact called
  · exact called

/-- An input of the job service starts no call but that of its own caller. -/
theorem jobStep_call? {service : JobService} {jobs : JobState} {input : JobInput} {other : Nat}
    (apart : input.caller? ≠ some other) (call : SubmitCall)
    (called : ((jobStep service jobs input).1.calls other).call? = some call) :
    (jobs.calls other).call? = some call := by
  unfold jobStep at called
  cases input with
  | start process =>
      dsimp only at called
      split at called <;> exact called
  | crash process =>
      dsimp only at called
      split at called
      · cases called
      · exact called
  | shutdown process => exact called
  | proceed caller => exact proceedSubmit_call? caller other call called
  | submit caller submitted =>
      have different : other ≠ caller := fun same => apart (same ▸ rfl)
      have entered : (jobs.enter caller (.lookingUp submitted)).calls other = jobs.calls other :=
        Function.update_of_ne different _ _
      dsimp only at called
      split at called
      · split at called
        · rwa [entered] at called
        · exact called
      · split at called
        · rwa [entered] at called
        · exact called
      · exact called
  | work jobId answer =>
      dsimp only at called
      split at called
      next work _ =>
        unfold proceedWork at called
        split at called <;> exact called
      · exact called

theorem keptTickers_eq (input : JobInput) (ticker : Nat) :
    state.keptTickers input ticker = state.tickers ticker ∨
      state.keptTickers input ticker = .idle := by
  unfold ScheduledState.keptTickers
  split
  · split
    · exact .inr rfl
    · exact .inl rfl
  · exact .inl rfl

theorem TickersFit.proceed (fits : TickersFit state) (ticker : Nat) (jobId : String) :
    TickersFit (proceedTicker service state ticker jobId).1 := by
  have held := fits.due ticker
  unfold proceedTicker
  split
  · exact fits
  · exact fits.enter ticker (fun _ none => by cases none) fun _ _ _ _ same => by cases same
  next process now schedule rest ticking =>
    rw [ticking] at held
    exact fits.submit ticker process now jobId held
  next process now schedule rest submitting =>
    rw [submitting] at held
    split
    · exact fits.enter ticker held fun _ _ _ _ same => by cases same
    · exact fits.enter ticker (fun _ none => by cases none) fun _ _ _ _ same => by cases same
    · exact fits.frame (fun _ => .inl rfl) fun other call _ => proceedSubmit_call? ticker other call
  next process now submitted schedule rest advancing =>
    rw [advancing] at held
    have entered : TickersFit (state.enter ticker (.ticking process now rest)) :=
      fits.enter ticker (fun other member => held other (List.mem_cons_of_mem _ member))
        fun _ _ _ _ same => by cases same
    exact ⟨entered.due, entered.calls⟩

theorem TickersFit.step (fits : TickersFit state) (input : ScheduledInput) :
    TickersFit (scheduledStep service state input).1 := by
  unfold scheduledStep
  cases input with
  | create | update | delete => exact ⟨fits.due, fits.calls⟩
  | tick ticker process now =>
      dsimp only
      split
      · exact fits.enter ticker (fun _ member => isSome_of_mem_listDue member)
          fun _ _ _ _ same => by cases same
      · exact fits
  | proceed ticker jobId => exact fits.proceed ticker jobId
  | abort ticker =>
      dsimp only
      split
      · exact fits
      · have ended : TickersFit (state.enter ticker .idle) :=
          fits.enter ticker (fun _ none => by cases none) fun _ _ _ _ same => by cases same
        exact ended.frame (fun _ => .inl rfl) fun other call _ =>
          JobState.enter_call? (fun _ none => by cases none) other call
  | jobs input =>
      dsimp only
      split
      · exact fits
      next unused =>
        refine fits.frame (keptTickers_eq input) fun other call busy => jobStep_call? ?_ call
        intro own
        rw [own, Option.any_some, Bool.not_eq_true, Bool.not_eq_false'] at unused
        apply busy
        obtain same | idle := @keptTickers_eq state input other
        · refine same.trans ?_
          cases phase : state.tickers other with
          | idle => rfl
          | _ =>
              rw [phase] at unused
              cases unused
        · exact idle

/-! ## What is fired -/

theorem proceedSubmit_creates {service : JobService} {jobs : JobState} (caller : Nat) :
    (proceedSubmit service jobs caller).2 = [] ∨ ∃ call, jobs.calls caller = .creating call ∧
      (call.job service).violates jobs.jobs = false ∧
      (proceedSubmit service jobs caller).1.jobs = jobs.jobs ++ [call.job service] ∧
      (proceedSubmit service jobs caller).2 = [.created call.jobId] := by
  unfold proceedSubmit
  split
  · split
    · exact .inl rfl
    · split <;> exact .inl rfl
  next call at_create =>
    split
    · exact .inl rfl
    next fresh => exact .inr ⟨call, at_create, Bool.eq_false_of_not_eq_true fresh, rfl, rfl⟩
  · split <;> exact .inl rfl
  · exact .inl rfl
  · exact .inl rfl
  · exact .inl rfl

/-- The hash of the key with which a tick submits a schedule for a due time. -/
def dueKeyHash (service : ScheduledJobService) (id actorId due : String) : String :=
  keyFingerprint service.jobs.platform actorId ("sched:" ++ id ++ ":" ++ due)

/-- A job is fired where its key is not stored, and stores it. -/
structure FiresFor (service : ScheduledJobService) (state after : ScheduledState)
    (id actorId due : String) : Prop where
  fresh : ¬KeyStored state.jobs.jobs actorId (dueKeyHash service id actorId due)
  stored : KeyStored after.jobs.jobs actorId (dueKeyHash service id actorId due)

theorem submission_keyHash {schedule : Schedule} {now due : String} {call : SubmitCall}
    (time : schedule.nextRunAt = some due) (actor : call.ctx.actorId = schedule.actorId)
    (key : call.idempotencyKey = some (submissionOf schedule now).idempotencyKey) :
    call.keyHash service.jobs =
      some (dueKeyHash service schedule.id schedule.actorId due) := by
  have not_empty : "sched:" ++ schedule.id ++ ":" ++ due ≠ "" := by
    intro empty
    have lengths := congrArg String.length empty
    simp only [String.length_append] at lengths
    have five : "sched:".length = 6 := by decide
    have none : "".length = 0 := by decide
    omega
  have key_eq : (submissionOf schedule now).idempotencyKey =
      "sched:" ++ schedule.id ++ ":" ++ due := by
    unfold submissionOf
    rw [time]
    rfl
  unfold SubmitCall.keyHash dueKeyHash
  rw [key, key_eq, actor, Option.filter_some, if_pos (bne_iff_ne.mpr not_empty)]
  rfl

/-- What one step fires for a due time of a schedule. -/
theorem scheduledStep_fires (fits : TickersFit state) (input : ScheduledInput)
    (id actorId due : String) :
    (scheduledStep service state input).2.countP (ScheduledEvent.firesFor id actorId due) = 0 ∨
      (scheduledStep service state input).2.countP
          (ScheduledEvent.firesFor id actorId due) = 1 ∧
        FiresFor service state (scheduledStep service state input).1 id actorId due := by
  cases input with
  | create | update | delete => exact .inl rfl
  | tick ticker process now =>
      unfold scheduledStep
      dsimp only
      split <;> exact .inl rfl
  | abort ticker =>
      unfold scheduledStep
      dsimp only
      split <;> exact .inl rfl
  | jobs input =>
      unfold scheduledStep
      dsimp only
      split
      · exact .inl rfl
      · refine .inl (List.countP_eq_zero.mpr fun event shown => ?_)
        obtain ⟨_, _, rfl⟩ := List.mem_map.mp shown
        exact Bool.false_ne_true
  | proceed ticker jobId =>
      have due_held := fits.due ticker
      unfold scheduledStep proceedTicker
      dsimp only
      split
      · exact .inl rfl
      · exact .inl rfl
      · exact .inl rfl
      next process now schedule rest submitting =>
        split
        · exact .inl rfl
        · exact .inl rfl
        · obtain quiet | ⟨call, at_create, fresh, jobs_eq, shown⟩ :=
            @proceedSubmit_creates service.jobs state.jobs ticker
          · rw [quiet]
            exact .inl rfl
          · obtain ⟨same_actor, same_key⟩ := fits.calls ticker process now schedule rest call
              submitting (by rw [at_create]; rfl)
            dsimp only
            rw [shown, List.map_singleton, List.countP_singleton]
            split
            next fires =>
              simp only [firedBy, ScheduledEvent.firesFor, Bool.and_eq_true, beq_iff_eq] at fires
              obtain ⟨⟨rfl, rfl⟩, time⟩ := fires
              have key_eq := @submission_keyHash service _ _ _ _ time same_actor same_key
              refine .inr ⟨rfl, fun stored => ?_, ?_⟩
              · rw [stored.violates same_actor key_eq] at fresh
                cases fresh
              · dsimp only
                rw [jobs_eq]
                exact .created fresh same_actor key_eq
            · exact .inl rfl
      · exact .inl rfl

/-- The key of a job that has been fired stays. -/
theorem scheduledStep_keyStored {actorId keyHash : String}
    (stored : KeyStored state.jobs.jobs actorId keyHash) (input : ScheduledInput) :
    KeyStored (scheduledStep service state input).1.jobs.jobs actorId keyHash := by
  unfold scheduledStep
  cases input with
  | create | update | delete => exact stored
  | tick ticker process now =>
      dsimp only
      split <;> exact stored
  | abort ticker =>
      dsimp only
      split <;> exact stored
  | jobs input =>
      dsimp only
      split
      · exact stored
      · exact stored.jobStep input
  | proceed ticker jobId =>
      unfold proceedTicker
      dsimp only
      split
      · exact stored
      · exact stored
      · exact stored
      · split
        · exact stored
        · exact stored
        · exact stored.proceedSubmit ticker
      · exact stored

/-- Ticks create one job at most for a due time of a schedule. -/
theorem jobs_fired_once (service : ScheduledJobService) (scheduleId actorId due : String)
    (inputs : List ScheduledInput) :
    ((scheduledJobs service).trace id {} inputs).countP
      (ScheduledEvent.firesFor scheduleId actorId due) ≤ 1 := by
  have started : TickersFit {} := by
    constructor
    · intro _ _ held
      cases held
    · intro _ _ _ _ _ _ submitting
      cases submitting
  apply @Machine.countP_trace_le_one _ _ _ (scheduledJobs service) _ id TickersFit
    (fun state => KeyStored state.jobs.jobs actorId (dueKeyHash service scheduleId actorId due))
    _ _ started
  · exact fun _ input fits => fits.step input
  · exact fun _ input stored => scheduledStep_keyStored stored input
  · intro state input fits
    obtain none | ⟨one, _⟩ := @scheduledStep_fires service state fits input scheduleId actorId due
    · exact none.trans_le (Nat.zero_le 1)
    · exact one.le
  · intro state input fits firing
    obtain none | ⟨_, fires⟩ := @scheduledStep_fires service state fits input scheduleId actorId due
    · exact absurd none firing.ne'
    · exact ⟨fires.fresh, fires.stored⟩

end Ticks

end Era.Services
