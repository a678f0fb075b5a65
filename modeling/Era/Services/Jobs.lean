import Mathlib.Logic.Function.Basic
import Era.Core.ToolRegistry
import Era.Lib.Machine
import Era.Lib.Table
import Era.Security.Hashing
import Era.Security.Redaction
import Era.Services.System

/-!
# Background jobs

A job is a row that any process can read and a request that only the process that has created
the row has in its memory.  Every process fails the unfinished jobs that it finds when it starts.
-/

namespace Era.Services

open Era.Core Era.Lib Era.Security

inductive JobStatus where
  | queued
  | running
  | completed
  | failed
  deriving DecidableEq, Repr

/-- `_INTERRUPTIBLE_STATUSES`. -/
def JobStatus.isInterruptible : JobStatus → Bool
  | .queued | .running => true
  | .completed | .failed => false

/-- A row of `job`. -/
structure Job where
  id : String
  actorId : String
  idempotencyKeyHash : Option String
  requestHash : Option String
  status : JobStatus
  actionType : String
  actionParams : Params
  credentialRefs : List (String × String)
  response : Option ExecutionResponse := none
  error : Option String := none

/-- What a submission raises. -/
inductive SubmitError where
  | idempotencyConflict (message : String)
  | integrityError
  deriving DecidableEq, Repr

/-- What the service is wired with. -/
structure JobService where
  platform : Platform
  catalog : ActionCatalog

/-- A call of `submit`, with the random identifier that it draws. -/
structure SubmitCall where
  process : Nat
  jobId : String
  action : Action
  ctx : ExecutionContext
  idempotencyKey : Option String := none

/-! ## Fingerprints and payloads -/

/-- `request_fingerprint`. -/
def requestFingerprint (platform : Platform) (actionType : String) (params : Params) : String :=
  platform.sha256Hex (String.ofList (canonicalJson platform
    (.dict [("action_type", .str actionType), ("params", .dict params)])))

/-- `_job_key_fingerprint`, which is `key_fingerprint`. -/
def keyFingerprint (platform : Platform) (actorId idempotencyKey : String) : String :=
  platform.sha256Hex (String.ofList (canonicalJson platform
    (.dict [("actor_id", .str actorId), ("key", .str idempotencyKey)])))

/-- `_response_payload`: the challenge is only shown once. -/
def responsePayload (response : ExecutionResponse) : ExecutionResponse :=
  { response with challenge := none }

namespace SubmitCall

variable (call : SubmitCall) (service : JobService)

def requestHash : String :=
  requestFingerprint service.platform call.action.actionType call.action.params

def keyHash : Option String :=
  (call.idempotencyKey.filter (· != "")).map fun key =>
    keyFingerprint service.platform call.ctx.actorId key

/-- The row that `submit` inserts. -/
def job : Job :=
  { id := call.jobId
    actorId := call.ctx.actorId
    idempotencyKeyHash := call.keyHash service
    requestHash := some (call.requestHash service)
    status := .queued
    actionType := call.action.actionType
    actionParams := redactParams
      (((service.catalog.get call.action.actionType).map ActionSpec.secretFields).getD [])
      call.action.params
    credentialRefs := call.ctx.credentials }

end SubmitCall

/-! ## The table of jobs -/

/-- `get_by_idempotency_key`. -/
def getByIdempotencyKey (jobs : List Job) (actorId : String) (keyHash : Option String) :
    Option Job :=
  jobs.find? fun job => job.actorId == actorId && job.idempotencyKeyHash == keyHash

/-- An insertion violates the primary key, or the unique pair of actor and key. -/
def Job.violates (job : Job) (jobs : List Job) : Bool :=
  jobs.any fun stored => stored.id == job.id ||
    (job.idempotencyKeyHash.isSome && stored.actorId == job.actorId &&
      stored.idempotencyKeyHash == job.idempotencyKeyHash)

/-- `_resolve_existing`. -/
def resolveExisting (existing : Job) (requestHash : String) : Except SubmitError Job :=
  if existing.requestHash.any (· != "") && existing.requestHash != some requestHash then
    .error (.idempotencyConflict "idempotency key was already used with a different request")
  else .ok existing

/-- What `recover` makes of a row. -/
def Job.recovered (job : Job) : Job :=
  if job.status.isInterruptible then
    { job with status := .failed, error := some "interrupted by restart" }
  else job

/-- A row is read and updated in one transaction; a row that is gone is left alone. -/
def updateJob (jobs : List Job) (jobId : String) (change : Job → Job) : List Job :=
  match Table.find Job.id jobs jobId with
  | none => jobs
  | some job => Table.store Job.id jobs (change job)

/-- `_mark_status`. -/
def markStatus (jobs : List Job) (jobId : String) (status : JobStatus) (error : Option String) :
    List Job :=
  updateJob jobs jobId fun job => { job with status, error := error.or job.error }

/-- The last transaction of `_run`, once the request has been answered. -/
def markCompleted (jobs : List Job) (jobId : String) (response : ExecutionResponse) : List Job :=
  updateJob jobs jobId fun job =>
    { job with status := .completed, response := some (responsePayload response) }

/-! ## Processes -/

/-- How far a call of `submit` has come. -/
inductive SubmitPhase where
  | idle
  | lookingUp (call : SubmitCall)
  | creating (call : SubmitCall)
  | lookingAgain (call : SubmitCall)
  | created (call : SubmitCall)
  | ended (answer : Except SubmitError Job)

/-- How far the worker of a job has come. -/
inductive WorkPhase where
  | waiting
  | marked
  | answered (answer : Except String ExecutionResponse)

/-- A job in the memory of a process. -/
structure Work where
  process : Nat
  action : Action
  ctx : ExecutionContext
  phase : WorkPhase

/-- The table, the processes that live, and what they have in their memory. -/
structure JobState where
  jobs : List Job := []
  live : Nat → Bool := fun _ => false
  calls : Nat → SubmitPhase := fun _ => .idle
  works : String → Option Work := fun _ => none

/-- One step of the processes. -/
inductive JobInput where
  | start (process : Nat)
  | crash (process : Nat)
  /-- `shutdown`: what the workers have not begun is dropped. -/
  | shutdown (process : Nat)
  | submit (caller : Nat) (call : SubmitCall)
  | proceed (caller : Nat)
  /-- A worker goes on with a job; the answer is that of the execution service. -/
  | work (jobId : String) (answer : Except String ExecutionResponse)

inductive JobEvent where
  | created (jobId : String)
  | recovered (jobId : String)
  | dispatched (jobId : String)
  deriving DecidableEq

/-- The process in which a call runs. -/
def SubmitPhase.process? : SubmitPhase → Option Nat
  | .lookingUp call | .creating call | .lookingAgain call | .created call => some call.process
  | .idle | .ended _ => none

def JobState.enter (state : JobState) (caller : Nat) (phase : SubmitPhase) : JobState :=
  { state with calls := Function.update state.calls caller phase }

def JobState.setWork (state : JobState) (jobId : String) (work : Option Work) : JobState :=
  { state with works := Function.update state.works jobId work }

section Service

variable (service : JobService)

/-- The next transaction of a call of `submit`. -/
def proceedSubmit (state : JobState) (caller : Nat) : JobState × List JobEvent :=
  match state.calls caller with
  | .lookingUp call =>
      match call.keyHash service with
      | none => (state.enter caller (.creating call), [])
      | some keyHash =>
          match getByIdempotencyKey state.jobs call.ctx.actorId (some keyHash) with
          | some existing =>
              (state.enter caller (.ended (resolveExisting existing (call.requestHash service))),
                [])
          | none => (state.enter caller (.creating call), [])
  | .creating call =>
      if (call.job service).violates state.jobs then (state.enter caller (.lookingAgain call), [])
      else
        ({ state.enter caller (.created call) with
          jobs := state.jobs ++ [call.job service] }, [.created call.jobId])
  | .lookingAgain call =>
      match getByIdempotencyKey state.jobs call.ctx.actorId (call.keyHash service) with
      | some existing =>
          (state.enter caller (.ended (resolveExisting existing (call.requestHash service))), [])
      | none => (state.enter caller (.ended (.error .integrityError)), [])
  -- The request is only handed on in memory.
  | .created call =>
      ((state.enter caller (.ended (.ok (call.job service)))).setWork call.jobId
        (some {
          process := call.process, action := call.action, ctx := call.ctx, phase := .waiting }),
        [])
  | .idle | .ended _ => (state, [])

/-- The next step of `_run`. -/
def proceedWork (state : JobState) (jobId : String) (work : Work)
    (answer : Except String ExecutionResponse) : JobState × List JobEvent :=
  match work.phase with
  | .waiting =>
      ({ state.setWork jobId (some { work with phase := .marked }) with
        jobs := markStatus state.jobs jobId .running none }, [])
  | .marked =>
      (state.setWork jobId (some { work with phase := .answered answer }), [.dispatched jobId])
  | .answered (.error error) =>
      ({ state.setWork jobId none with
        jobs := markStatus state.jobs jobId .failed (some error) }, [])
  | .answered (.ok response) =>
      ({ state.setWork jobId none with jobs := markCompleted state.jobs jobId response }, [])

/-- The memory that a process keeps when it drops part of its work. -/
def JobState.dropWorks (state : JobState) (dropped : Work → Bool) : JobState :=
  { state with works := fun jobId => (state.works jobId).filter fun work => !dropped work }

def WorkPhase.isWaiting : WorkPhase → Bool
  | .waiting => true
  | .marked | .answered _ => false

def jobStep (state : JobState) : JobInput → JobState × List JobEvent
  | .start process =>
      if state.live process then (state, [])
      else
        ({ state with
          jobs := state.jobs.map Job.recovered
          live := Function.update state.live process true },
          (state.jobs.filter fun job => job.status.isInterruptible).map fun job =>
            .recovered job.id)
  | .crash process =>
      let gone := state.dropWorks fun work => work.process == process
      ({ gone with
        live := Function.update state.live process false
        calls := fun caller =>
          if (state.calls caller).process? = some process then .idle else state.calls caller }, [])
  | .shutdown process =>
      (state.dropWorks fun work => work.process == process && work.phase.isWaiting, [])
  | .submit caller call =>
      match state.calls caller with
      | .idle | .ended _ =>
          if state.live call.process then (state.enter caller (.lookingUp call), [])
          else (state, [])
      | _ => (state, [])
  | .proceed caller => proceedSubmit service state caller
  | .work jobId answer =>
      match state.works jobId with
      | some work => proceedWork state jobId work answer
      | none => (state, [])

def jobMachine : Machine JobState JobInput (List JobEvent) := { step := jobStep service }

/-! ## The law of the life of a job -/

/-- A process that lives has the job in its memory. -/
def JobState.Holds (state : JobState) (jobId : String) : Prop :=
  (∃ work, state.works jobId = some work) ∨
    ∃ caller call, state.calls caller = .created call ∧ call.jobId = jobId

/-- The ways in which the status of a job may change. -/
inductive StatusMove (state : JobState) (input : JobInput) (jobId : String) :
    JobStatus → JobStatus → Prop where
  | stays (status : JobStatus) : StatusMove state input jobId status status
  | runs : StatusMove state input jobId .queued .running
  | completes : StatusMove state input jobId .running .completed
  | fails (answer : Except String ExecutionResponse) : input = .work jobId answer →
      StatusMove state input jobId .running .failed
  | recovered (status : JobStatus) (process : Nat) : input = .start process →
      status.isInterruptible = true → ¬state.Holds jobId →
      StatusMove state input jobId status .failed

/-- The status of a job. -/
def statusIn (jobs : List Job) (jobId : String) : Option JobStatus :=
  (Table.find Job.id jobs jobId).map Job.status

/-- The status of every job moves as it may, and what is dispatched is running. -/
structure JobLaw (state : JobState) (input : JobInput) : Prop where
  moves : ∀ jobId before, statusIn state.jobs jobId = some before →
    ∃ after, statusIn (jobStep service state input).1.jobs jobId = some after ∧
      StatusMove state input jobId before after
  dispatches : ∀ jobId, JobEvent.dispatched jobId ∈ (jobStep service state input).2 →
    statusIn state.jobs jobId = some .running

/-- What has been failed by a recovery is not dispatched any more. -/
def NeverDispatchedAgain (events : List JobEvent) : Prop :=
  events.Pairwise fun earlier later => ∀ jobId, earlier = .recovered jobId →
    later ≠ .dispatched jobId

/-- No process starts while another has a job in its memory that is not finished. -/
def RecoversUnheld (state : JobState) : JobInput → Prop
  | .start process => state.live process = false →
      ∀ job ∈ state.jobs, job.status.isInterruptible = true → ¬state.Holds job.id
  | .crash _ | .shutdown _ | .submit _ _ | .proceed _ | .work _ _ => True

end Service

/-! ## The status of a job in the table -/

section Status

variable {jobs : List Job} {jobId other : String}

theorem statusIn_recovered (jobs : List Job) (jobId : String) :
    statusIn (jobs.map Job.recovered) jobId =
      (statusIn jobs jobId).map fun status =>
        if status.isInterruptible then .failed else status := by
  have keeps (job : Job) : job.recovered.id = job.id := by
    unfold Job.recovered
    split <;> rfl
  unfold statusIn
  rw [Table.find_map keeps, Option.map_map, Option.map_map]
  congr 1
  funext job
  unfold Job.recovered
  dsimp only [Function.comp_apply]
  split <;> rfl

theorem statusIn_updateJob_self {change : Job → Job} {before status : JobStatus}
    (keeps : ∀ job, (change job).id = job.id) (changes : ∀ job, (change job).status = status)
    (found : statusIn jobs jobId = some before) :
    statusIn (updateJob jobs jobId change) jobId = some status := by
  obtain ⟨job, stored, _⟩ := Option.map_eq_some_iff.mp found
  have named : (change job).id = jobId := (keeps job).trans (Table.find_eq_some stored).2
  have updated : updateJob jobs jobId change = Table.store Job.id jobs (change job) := by
    unfold updateJob
    rw [stored]
  unfold statusIn
  rw [updated, ← named, Table.find_store_self (by rw [named]; exact stored), Option.map_some,
    changes]

theorem statusIn_updateJob_ne {change : Job → Job} (keeps : ∀ job, (change job).id = job.id)
    (different : other ≠ jobId) :
    statusIn (updateJob jobs jobId change) other = statusIn jobs other := by
  unfold updateJob statusIn
  split
  · rfl
  next job stored =>
    have named : (change job).id = jobId := (keeps job).trans (Table.find_eq_some stored).2
    rw [Table.find_store_ne (by rwa [named])]

theorem statusIn_markStatus {before : JobStatus} (status : JobStatus) (error : Option String)
    (found : statusIn jobs jobId = some before) :
    statusIn (markStatus jobs jobId status error) jobId = some status :=
  statusIn_updateJob_self (fun _ => rfl) (fun _ => rfl) found

theorem statusIn_markCompleted {before : JobStatus} (response : ExecutionResponse)
    (found : statusIn jobs jobId = some before) :
    statusIn (markCompleted jobs jobId response) jobId = some .completed :=
  statusIn_updateJob_self (fun _ => rfl) (fun _ => rfl) found

theorem statusIn_append_ne {job : Job} (different : jobId ≠ job.id) :
    statusIn (jobs ++ [job]) jobId = statusIn jobs jobId :=
  congrArg (Option.map Job.status) (Table.find_append_ne different)

theorem statusIn_append_self {job : Job} (absent : statusIn jobs job.id = none) :
    statusIn (jobs ++ [job]) job.id = some job.status :=
  congrArg (Option.map Job.status) (Table.find_append_self (Option.map_eq_none_iff.mp absent))

theorem statusIn_of_violates {job : Job} (fresh : job.violates jobs = false) :
    statusIn jobs job.id = none := by
  unfold statusIn Table.find
  rw [Option.map_eq_none_iff, List.find?_eq_none]
  intro stored member same
  have violated := List.any_eq_false.mp fresh stored member
  simp [same] at violated

end Status

/-! ## What is in memory -/

/-- The status of a row while a worker is busy with its job. -/
def WorkPhase.status : WorkPhase → JobStatus
  | .waiting => .queued
  | .marked | .answered _ => .running

/-- What holds as long as recoveries find nothing in memory. -/
structure JobsFit (state : JobState) : Prop where
  works : ∀ jobId work, state.works jobId = some work →
    statusIn state.jobs jobId = some work.phase.status
  created : ∀ caller call, state.calls caller = .created call →
    statusIn state.jobs call.jobId = some .queued ∧ state.works call.jobId = none
  unique : ∀ one other call another, state.calls one = .created call →
    state.calls other = .created another → call.jobId = another.jobId → one = other

section Memory

variable {service : JobService} {state : JobState}

theorem jobsFit_start (jobs : List Job) : JobsFit { jobs } := by
  refine ⟨fun _ _ found => ?_, fun _ _ created => ?_, fun _ _ _ _ created => ?_⟩
  · cases found
  · cases created
  · cases created

/-- A call is at a point where it has not created its job, or has handed it on. -/
theorem JobsFit.enter (fits : JobsFit state) (caller : Nat) {phase : SubmitPhase}
    (not_created : ∀ call, phase ≠ .created call) : JobsFit (state.enter caller phase) := by
  have earlier {other : Nat} {call : SubmitCall}
      (created : (state.enter caller phase).calls other = .created call) :
      state.calls other = .created call := by
    unfold JobState.enter at created
    dsimp only at created
    by_cases same : other = caller
    · rw [same, Function.update_self] at created
      exact absurd created (not_created call)
    · rwa [Function.update_of_ne same] at created
  exact ⟨fits.works, fun other call created => fits.created other call (earlier created),
    fun one other call another first second =>
      fits.unique one other call another (earlier first) (earlier second)⟩

/-- Work is dropped, and calls are. -/
theorem JobsFit.drop (fits : JobsFit state) {after : JobState} (jobs_eq : after.jobs = state.jobs)
    (works : ∀ jobId work, after.works jobId = some work → state.works jobId = some work)
    (calls : ∀ caller call, after.calls caller = .created call →
      state.calls caller = .created call) : JobsFit after := by
  refine ⟨fun jobId work found => ?_, fun caller call created => ⟨?_, ?_⟩,
    fun one other call another first second =>
      fits.unique one other call another (calls one call first) (calls other another second)⟩
  · rw [jobs_eq]
    exact fits.works jobId work (works jobId work found)
  · rw [jobs_eq]
    exact (fits.created caller call (calls caller call created)).1
  · have idle := (fits.created caller call (calls caller call created)).2
    cases found : after.works call.jobId with
    | none => rfl
    | some work =>
        rw [works _ work found] at idle
        cases idle

/-- A worker moves the row of its job, and only that. -/
theorem JobsFit.progress (fits : JobsFit state) {jobId : String} {work : Work} {jobs : List Job}
    {next : Option Work} (held : state.works jobId = some work)
    (others : ∀ other, other ≠ jobId → statusIn jobs other = statusIn state.jobs other)
    (own : ∀ work, next = some work → statusIn jobs jobId = some work.phase.status) :
    JobsFit { state.setWork jobId next with jobs } := by
  have apart {caller : Nat} {call : SubmitCall} (created : state.calls caller = .created call) :
      call.jobId ≠ jobId := by
    intro same
    have idle := (fits.created caller call created).2
    rw [same, held] at idle
    cases idle
  refine ⟨fun other found held_other => ?_, fun caller call created => ⟨?_, ?_⟩, fits.unique⟩
  · unfold JobState.setWork at held_other
    dsimp only at held_other ⊢
    by_cases same : other = jobId
    · subst same
      rw [Function.update_self] at held_other
      exact own found held_other
    · rw [Function.update_of_ne same] at held_other
      rw [others other same]
      exact fits.works other found held_other
  · exact (others _ (apart created)).trans (fits.created caller call created).1
  · exact (Function.update_of_ne (apart created) _ _).trans (fits.created caller call created).2

/-- What is in memory is held. -/
theorem JobsFit.holds_of_work (fits : JobsFit state) {jobId : String} {work : Work}
    (held : state.works jobId = some work) :
    ∃ job ∈ state.jobs, job.status.isInterruptible = true ∧ job.id = jobId := by
  obtain ⟨job, stored, status⟩ := Option.map_eq_some_iff.mp (fits.works jobId work held)
  refine ⟨job, (Table.find_eq_some stored).1, ?_, (Table.find_eq_some stored).2⟩
  rw [status]
  cases work.phase <;> rfl

theorem JobsFit.holds_of_created (fits : JobsFit state) {caller : Nat} {call : SubmitCall}
    (created : state.calls caller = .created call) :
    ∃ job ∈ state.jobs, job.status.isInterruptible = true ∧ job.id = call.jobId := by
  obtain ⟨job, stored, status⟩ := Option.map_eq_some_iff.mp (fits.created caller call created).1
  exact ⟨job, (Table.find_eq_some stored).1, by rw [status]; rfl, (Table.find_eq_some stored).2⟩

/-- A recovery that is allowed finds nothing in memory. -/
theorem JobsFit.recover (fits : JobsFit state) {process : Nat} {live : Nat → Bool}
    {jobs : List Job} (unheld : RecoversUnheld state (.start process))
    (dead : state.live process = false) : JobsFit { state with jobs, live } := by
  refine ⟨fun jobId work held => ?_, fun caller call created => ?_,
    fun one other call another created => ?_⟩
  · obtain ⟨job, member, unfinished, rfl⟩ := fits.holds_of_work held
    exact absurd (.inl ⟨work, held⟩) (unheld dead job member unfinished)
  · obtain ⟨job, member, unfinished, named⟩ := fits.holds_of_created created
    exact absurd (.inr ⟨caller, call, created, named.symm⟩) (unheld dead job member unfinished)
  · exact fits.unique one other call another created

/-- The transactions of a submission. -/
theorem proceedSubmit_fits (fits : JobsFit state) (caller : Nat) :
    JobsFit (proceedSubmit service state caller).1 := by
  unfold proceedSubmit
  split
  next call at_lookup =>
    split
    · exact fits.enter caller nofun
    · split <;> exact fits.enter caller nofun
  next call at_create =>
    split
    · exact fits.enter caller nofun
    next fresh =>
      have absent := statusIn_of_violates (Bool.eq_false_of_not_eq_true fresh)
      have apart {jobId : String} {status : JobStatus}
          (found : statusIn state.jobs jobId = some status) : jobId ≠ (call.job service).id := by
        rintro rfl
        rw [absent] at found
        cases found
      have created_cases {other : Nat} {another : SubmitCall}
          (created : (state.enter caller (.created call)).calls other = .created another) :
          other = caller ∧ another = call ∨ state.calls other = .created another := by
        unfold JobState.enter at created
        dsimp only at created
        by_cases same : other = caller
        · rw [same, Function.update_self] at created
          exact .inl ⟨same, (SubmitPhase.created.inj created).symm⟩
        · rw [Function.update_of_ne same] at created
          exact .inr created
      refine ⟨fun jobId work held => ?_, fun other another created => ?_,
        fun one other first second first_created second_created same => ?_⟩
      · have found := fits.works jobId work held
        exact (statusIn_append_ne (apart found)).trans found
      · obtain ⟨rfl, rfl⟩ | created := created_cases created
        · refine ⟨statusIn_append_self absent, ?_⟩
          cases held : state.works another.jobId with
          | none => exact held
          | some work => exact absurd rfl (apart (fits.works _ work held))
        · obtain ⟨found, idle⟩ := fits.created other another created
          exact ⟨(statusIn_append_ne (apart found)).trans found, idle⟩
      · obtain ⟨rfl, rfl⟩ | earlier := created_cases first_created
        · obtain ⟨rfl, _⟩ | other_earlier := created_cases second_created
          · rfl
          · exact absurd same.symm (apart (fits.created other second other_earlier).1)
        · obtain ⟨rfl, rfl⟩ | other_earlier := created_cases second_created
          · exact absurd same (apart (fits.created one first earlier).1)
          · exact fits.unique one other first second earlier other_earlier same
  next call at_second =>
    split <;> exact fits.enter caller nofun
  next call created =>
    obtain ⟨queued, idle⟩ := fits.created caller call created
    have apart {other : Nat} {another : SubmitCall}
        (later : (state.enter caller (.ended (.ok (call.job service)))).calls other =
          .created another) :
        state.calls other = .created another ∧ another.jobId ≠ call.jobId := by
      unfold JobState.enter at later
      dsimp only at later
      by_cases same : other = caller
      · rw [same, Function.update_self] at later
        cases later
      · rw [Function.update_of_ne same] at later
        exact ⟨later, fun named =>
          same (fits.unique other caller another call later created named)⟩
    refine ⟨fun jobId work held => ?_, fun other another later => ⟨?_, ?_⟩,
      fun one other first second first_later second_later =>
        fits.unique one other first second (apart first_later).1 (apart second_later).1⟩
    · unfold JobState.setWork at held
      dsimp only at held
      by_cases same : jobId = call.jobId
      · subst same
        rw [Function.update_self] at held
        obtain rfl := Option.some.inj held
        exact queued
      · rw [Function.update_of_ne same] at held
        exact fits.works jobId work held
    · exact (fits.created other another (apart later).1).1
    · exact (Function.update_of_ne (apart later).2 _ _).trans
        (fits.created other another (apart later).1).2
  · exact fits
  · exact fits

/-- The transactions of a worker. -/
theorem proceedWork_fits (fits : JobsFit state) {jobId : String} {work : Work}
    (held : state.works jobId = some work) (answer : Except String ExecutionResponse) :
    JobsFit (proceedWork state jobId work answer).1 := by
  have found := fits.works jobId work held
  unfold proceedWork
  split
  next waiting =>
    refine fits.progress held (fun other different => ?_) fun next next_eq => ?_
    · exact statusIn_updateJob_ne (fun _ => rfl) different
    · obtain rfl := Option.some.inj next_eq
      exact statusIn_markStatus .running none found
  next marked =>
    refine fits.progress held (fun _ _ => rfl) fun next next_eq => ?_
    obtain rfl := Option.some.inj next_eq
    rw [marked] at found
    exact found
  next answered =>
    exact fits.progress held (fun other => statusIn_updateJob_ne fun _ => rfl)
      fun _ ended => by cases ended
  next answered =>
    exact fits.progress held (fun other => statusIn_updateJob_ne fun _ => rfl)
      fun _ ended => by cases ended

theorem jobStep_fits (fits : JobsFit state) {input : JobInput}
    (unheld : RecoversUnheld state input) : JobsFit (jobStep service state input).1 := by
  cases input with
  | start process =>
      unfold jobStep
      dsimp only
      split
      · exact fits
      next dead => exact fits.recover unheld (Bool.eq_false_of_not_eq_true dead)
  | crash process =>
      refine fits.drop rfl (fun jobId work held => (Option.filter_eq_some_iff.mp held).1)
        fun caller call created => ?_
      unfold jobStep at created
      dsimp only at created
      split at created
      · cases created
      · exact created
  | shutdown process =>
      exact fits.drop rfl (fun jobId work held => (Option.filter_eq_some_iff.mp held).1)
        fun _ _ created => created
  | submit caller call =>
      unfold jobStep
      dsimp only
      split
      · split
        · exact fits.enter caller nofun
        · exact fits
      · split
        · exact fits.enter caller nofun
        · exact fits
      · exact fits
  | proceed caller => exact proceedSubmit_fits fits caller
  | work jobId answer =>
      unfold jobStep
      dsimp only
      split
      next work held => exact proceedWork_fits fits held answer
      · exact fits

/-! ## The law -/

/-- A table in which the status of one job has moved at most. -/
theorem moves_of_one {jobs : List Job} {input : JobInput} {jobId : String}
    {earlier later : JobStatus} (found : statusIn state.jobs jobId = some earlier)
    (others : ∀ other, other ≠ jobId → statusIn jobs other = statusIn state.jobs other)
    (own : statusIn jobs jobId = some later)
    (move : StatusMove state input jobId earlier later)
    (other : String) (before : JobStatus) (stored : statusIn state.jobs other = some before) :
    ∃ after, statusIn jobs other = some after ∧ StatusMove state input other before after := by
  by_cases same : other = jobId
  · subst same
    obtain rfl := Option.some.inj (found.symm.trans stored)
    exact ⟨later, own, move⟩
  · exact ⟨before, (others other same).trans stored, .stays before⟩

theorem jobStep_moves (fits : JobsFit state) {input : JobInput}
    (unheld : RecoversUnheld state input) (jobId : String) (before : JobStatus)
    (stored : statusIn state.jobs jobId = some before) :
    ∃ after, statusIn (jobStep service state input).1.jobs jobId = some after ∧
      StatusMove state input jobId before after := by
  have unchanged {jobs : List Job} (same : jobs = state.jobs) :
      ∃ after, statusIn jobs jobId = some after ∧ StatusMove state input jobId before after :=
    ⟨before, by rw [same]; exact stored, .stays before⟩
  cases input with
  | start process =>
      unfold jobStep
      dsimp only
      split
      · exact unchanged rfl
      next dead =>
        refine ⟨_, by rw [statusIn_recovered, stored]; rfl, ?_⟩
        dsimp only
        split
        next unfinished =>
          obtain ⟨job, found, rfl⟩ := Option.map_eq_some_iff.mp stored
          obtain ⟨member, rfl⟩ := Table.find_eq_some found
          exact .recovered _ process rfl unfinished
            (unheld (Bool.eq_false_of_not_eq_true dead) job member unfinished)
        · exact .stays before
  | crash process => exact unchanged rfl
  | shutdown process => exact unchanged rfl
  | submit caller call =>
      unfold jobStep
      dsimp only
      split
      · split <;> exact unchanged rfl
      · split <;> exact unchanged rfl
      · exact unchanged rfl
  | proceed caller =>
      unfold jobStep proceedSubmit
      dsimp only
      split
      · split
        · exact unchanged rfl
        · split <;> exact unchanged rfl
      next call at_create =>
        split
        · exact unchanged rfl
        next fresh =>
          have absent := statusIn_of_violates (Bool.eq_false_of_not_eq_true fresh)
          refine ⟨before, (statusIn_append_ne ?_).trans stored, .stays before⟩
          rintro rfl
          rw [absent] at stored
          cases stored
      · split <;> exact unchanged rfl
      · exact unchanged rfl
      · exact unchanged rfl
      · exact unchanged rfl
  | work worked answer =>
      unfold jobStep
      dsimp only
      split
      next work held =>
        have found := fits.works worked work held
        unfold proceedWork
        split
        next waiting =>
          rw [waiting] at found
          refine moves_of_one found ?_ (statusIn_markStatus .running none found) .runs jobId
            before stored
          exact fun other => statusIn_updateJob_ne fun _ => rfl
        next marked => exact unchanged rfl
        next answered =>
          rw [answered] at found
          refine moves_of_one found ?_ (statusIn_markStatus .failed _ found) (.fails answer rfl)
            jobId before stored
          exact fun other => statusIn_updateJob_ne fun _ => rfl
        next answered =>
          rw [answered] at found
          refine moves_of_one found ?_ (statusIn_markCompleted _ found) .completes jobId before
            stored
          exact fun other => statusIn_updateJob_ne fun _ => rfl
      · exact unchanged rfl

theorem proceedSubmit_events {caller : Nat} {event : JobEvent}
    (shown : event ∈ (proceedSubmit service state caller).2) : ∃ jobId, event = .created jobId := by
  unfold proceedSubmit at shown
  split at shown
  · split at shown
    · cases shown
    · split at shown <;> cases shown
  · split at shown
    · cases shown
    · exact ⟨_, List.mem_singleton.mp shown⟩
  · split at shown <;> cases shown
  · cases shown
  · cases shown
  · cases shown

/-- What the steps show: a start what it recovers, and a worker what it dispatches. -/
theorem jobStep_events {input : JobInput} {event : JobEvent}
    (shown : event ∈ (jobStep service state input).2) :
    (∃ jobId, event = .created jobId) ∨
    (∃ process job, input = .start process ∧ state.live process = false ∧ job ∈ state.jobs ∧
      job.status.isInterruptible = true ∧ event = .recovered job.id) ∨
    ∃ jobId answer work, input = .work jobId answer ∧ state.works jobId = some work ∧
      work.phase = .marked ∧ event = .dispatched jobId := by
  cases input with
  | start process =>
      unfold jobStep at shown
      dsimp only at shown
      split at shown
      · cases shown
      next dead =>
        obtain ⟨job, member, rfl⟩ := List.mem_map.mp shown
        obtain ⟨stored, unfinished⟩ := List.mem_filter.mp member
        exact .inr (.inl ⟨process, job, rfl, Bool.eq_false_of_not_eq_true dead, stored, unfinished,
          rfl⟩)
  | crash process => cases shown
  | shutdown process => cases shown
  | submit caller call =>
      unfold jobStep at shown
      dsimp only at shown
      split at shown
      · split at shown <;> cases shown
      · split at shown <;> cases shown
      · cases shown
  | proceed caller => exact .inl (proceedSubmit_events shown)
  | work jobId answer =>
      unfold jobStep at shown
      dsimp only at shown
      split at shown
      next work held =>
        unfold proceedWork at shown
        split at shown
        · cases shown
        next marked =>
          exact .inr (.inr ⟨jobId, answer, work, rfl, held, marked, List.mem_singleton.mp shown⟩)
        · cases shown
        · cases shown
      · cases shown

theorem jobLaw_of_fits (fits : JobsFit state) {input : JobInput}
    (unheld : RecoversUnheld state input) : JobLaw service state input := by
  refine ⟨jobStep_moves fits unheld, fun jobId dispatched => ?_⟩
  obtain ⟨_, created⟩ | ⟨_, _, _, _, _, _, recovered⟩ | ⟨worked, _, work, _, held, marked, same⟩ :=
    jobStep_events dispatched
  · cases created
  · cases recovered
  · cases same
    have found := fits.works jobId work held
    rwa [marked] at found

/-- The job has ended. -/
def EndedIn (jobs : List Job) (jobId : String) : Prop :=
  ∃ status, statusIn jobs jobId = some status ∧ status.isInterruptible = false

/-- A job that has ended stays so. -/
theorem endedIn_kept (fits : JobsFit state) {input : JobInput}
    (unheld : RecoversUnheld state input) {jobId : String} (ended : EndedIn state.jobs jobId) :
    EndedIn (jobStep service state input).1.jobs jobId := by
  obtain ⟨status, found, final⟩ := ended
  obtain ⟨after, found_after, move⟩ :=
    @jobStep_moves service state fits input unheld jobId status found
  cases move with
  | stays => exact ⟨status, found_after, final⟩
  | recovered => exact ⟨.failed, found_after, rfl⟩
  | runs | completes | fails => cases final

/-- What a step recovers has ended afterwards. -/
theorem recovered_ended {input : JobInput} {jobId : String}
    (recovered : JobEvent.recovered jobId ∈ (jobStep service state input).2) :
    EndedIn (jobStep service state input).1.jobs jobId := by
  obtain ⟨_, created⟩ | ⟨process, job, rfl, dead, member, _, same⟩ |
    ⟨_, _, _, _, _, _, dispatched⟩ := jobStep_events recovered
  · cases created
  · obtain rfl := JobEvent.recovered.inj same
    have stored : (Table.find Job.id state.jobs job.id).isSome :=
      List.find?_isSome.mpr ⟨job, member, beq_self_eq_true _⟩
    obtain ⟨first, found⟩ := Option.isSome_iff_exists.mp stored
    have after : statusIn (jobStep service state (.start process)).1.jobs job.id =
        some (if first.status.isInterruptible then .failed else first.status) := by
      unfold jobStep
      dsimp only
      rw [dead, if_neg Bool.false_ne_true, statusIn_recovered, statusIn, found]
      rfl
    refine ⟨_, after, ?_⟩
    split
    · rfl
    next final => exact Bool.eq_false_of_not_eq_true final
  · cases dispatched

/-- What a step shows is not dispatched in the same step as something is recovered. -/
theorem jobStep_pairwise (input : JobInput) :
    NeverDispatchedAgain (jobStep service state input).2 := by
  refine List.pairwise_of_forall_mem_list fun earlier shown later now jobId recovered => ?_
  rintro rfl
  obtain ⟨_, created⟩ | ⟨_, _, _, _, _, _, other⟩ | ⟨_, _, _, works, _, _, _⟩ :=
    jobStep_events now
  · cases created
  · cases other
  · obtain ⟨_, created⟩ | ⟨_, _, starts, _, _, _, _⟩ | ⟨_, _, _, _, _, _, other⟩ :=
      jobStep_events shown
    · rw [recovered] at created
      cases created
    · rw [works] at starts
      cases starts
    · rw [recovered] at other
      cases other

/-- What has been shown, and the state it has led to. -/
structure RecoveredFits (seen : List JobEvent) (state : JobState) : Prop where
  fits : JobsFit state
  ended : ∀ jobId, JobEvent.recovered jobId ∈ seen → EndedIn state.jobs jobId
  again : NeverDispatchedAgain seen

theorem jobStep_recoveredFits {seen : List JobEvent} (fits : RecoveredFits seen state)
    {input : JobInput} (unheld : RecoversUnheld state input) :
    RecoveredFits (seen ++ (jobStep service state input).2) (jobStep service state input).1 := by
  refine ⟨jobStep_fits fits.fits unheld, fun jobId recovered => ?_, ?_⟩
  · obtain earlier | now := List.mem_append.mp recovered
    · exact endedIn_kept fits.fits unheld (fits.ended jobId earlier)
    · exact recovered_ended now
  · refine List.pairwise_append.mpr ⟨fits.again, jobStep_pairwise input, ?_⟩
    rintro earlier shown later now jobId rfl rfl
    obtain ⟨status, found, final⟩ := fits.ended jobId shown
    have running := (jobLaw_of_fits fits.fits unheld).dispatches jobId now
    obtain rfl := Option.some.inj (found.symm.trans running)
    cases final

end Memory

/-- The life of every job obeys its law as long as no process starts while another has an
unfinished job in its memory. -/
theorem jobs_lawful (service : JobService) (jobs : List Job) {inputs : List JobInput}
    (unheld : (jobMachine service).Admits RecoversUnheld { jobs } inputs) :
    (jobMachine service).Admits (JobLaw service) { jobs } inputs ∧
      NeverDispatchedAgain ((jobMachine service).trace id { jobs } inputs) := by
  constructor
  · exact unheld.of_invariant (jobsFit_start jobs)
      (fun _ _ inMemory unheld => jobStep_fits inMemory unheld)
      (fun _ _ inMemory unheld => jobLaw_of_fits inMemory unheld)
  · have started : RecoveredFits [] { jobs } :=
      ⟨jobsFit_start jobs, fun _ recovered => (by cases recovered), List.Pairwise.nil⟩
    have kept := @Machine.trace_invariant_of_admits _ _ _ (jobMachine service) _ id RecoveredFits
      RecoversUnheld _ _ started (fun _ _ _ fits unheld => jobStep_recoveredFits fits unheld) unheld
    exact kept.again

namespace Demo

def jobService : JobService := { platform := Demo.platform, catalog := Demo.config.catalog }

/-- A process has queued a job that nobody has begun. -/
def queuedJob : List JobInput :=
  .start 0 ::
    .submit 0 { process := 0, jobId := "job", action := { actionType := "stub.noop", params := [] },
                ctx := { actorId := "alice" } } :: List.replicate 3 (.proceed 0)

/-- A job that was running when its process crashed. -/
def left : Job :=
  { id := "left", actorId := "alice", idempotencyKeyHash := none, requestHash := none
    status := .running, actionType := "stub.noop", actionParams := [], credentialRefs := [] }

/-- The steps of a worker whose request raises. -/
def workedJob : List JobInput := List.replicate 3 (.work "job" (.error "RuntimeError: down"))

end Demo

/-- A process that starts fails the job that a crash has left behind. -/
theorem jobs_lawful_demo :
    (jobMachine Demo.jobService).Admits (JobLaw Demo.jobService) { jobs := [Demo.left] }
        [.start 0] ∧
      statusIn ((jobMachine Demo.jobService).stateAfter { jobs := [Demo.left] } [.start 0]).jobs
        "left" = some .failed := by
  have unheld : (jobMachine Demo.jobService).Admits RecoversUnheld { jobs := [Demo.left] }
      [.start 0] := by
    refine Machine.admits_cons.mpr ⟨fun _ _ _ _ held => ?_, Machine.admits_nil _ _⟩
    obtain ⟨work, found⟩ | ⟨caller, call, created, _⟩ := held
    · cases found
    · cases created
  exact ⟨(jobs_lawful Demo.jobService [Demo.left] unheld).1, by decide +kernel⟩

/-- A process that starts fails the job of another, which is dispatched afterwards. -/
theorem not_jobs_lawful :
    ¬∀ inputs, (jobMachine Demo.jobService).Admits (JobLaw Demo.jobService) {} inputs ∧
      NeverDispatchedAgain ((jobMachine Demo.jobService).trace id {} inputs) := by
  intro lawful
  have shown : (jobMachine Demo.jobService).trace id {}
      (Demo.queuedJob ++ .start 1 :: Demo.workedJob) =
        [.created "job", .recovered "job", .dispatched "job"] := by
    decide +kernel
  have again := (lawful (Demo.queuedJob ++ .start 1 :: Demo.workedJob)).2
  rw [shown] at again
  have later := List.rel_of_pairwise_cons (List.pairwise_cons.mp again).2
    (List.mem_singleton.mpr rfl)
  exact later "job" rfl rfl

end Era.Services
