import Mathlib.Logic.Function.Basic
import Era.Repositories.AuditVerify

/-!
# Concurrent writers of the audit log

A transaction that appends to the log reads its last row, flushes the next one and
commits later.  Reads see committed rows, one transaction at a time holds the write
lock of SQLite, and two rows of one number violate the uniqueness of `seq`.  The
lock of the repository covers the read and the flush; the lock of the execution
service covers the commit as well, but only `_record` takes it.
-/

namespace Era.Repositories

open Era.Core Era.Lib Era.Security

/-! ## Writers -/

/-- Where a transaction that appends to the log comes from. -/
inductive WriterKind where
  /-- `ExecutionService._record`, of the outcome of a dispatch or of anything else. -/
  | record (terminal : Bool)
  /-- `ExecutionService._require_confirmation`. -/
  | requireConfirmation
  /-- `ExecutionService.approve` with a confirmation that it resolves. -/
  | approve
  /-- `ExecutionService.approve` with an unknown confirmation or a resolved one. -/
  | redundantApprove
  /-- `ExecutionService.deny`. -/
  | deny
  /-- `PolicyService.create_version`. -/
  | createVersion
  /-- `VaultService._audit`. -/
  | vault
  /-- `WorkflowService.admin_resolve_ambiguous`, `admin_cancel` and `admin_approve`. -/
  | operator
  deriving DecidableEq

namespace WriterKind

/-- Whether the transaction, with its commit, runs under `_audit_write_lock`. -/
def locksService : WriterKind → Bool
  | record _ => true
  | _ => false

/-- Whether the transaction flushes a change to another table before it appends. -/
def writesFirst : WriterKind → Bool
  | requireConfirmation | approve | deny | createVersion => true
  | record _ | redundantApprove | vault | operator => false

end WriterKind

/-- A transaction with the entry that it appends, in one of the processes. -/
structure AuditWriter where
  process : Nat
  kind : WriterKind
  entry : NewAuditEntry
  now : Instant

/-- How far a transaction has come. -/
inductive WriterPhase where
  | idle
  | begun
  | wrote
  /-- The last row has been read and the next one built on it. -/
  | read (next : AuditLogRow)
  | flushed (row : AuditLogRow)
  | committed (row : AuditLogRow)
  /-- Rolled back because the number of the row had been taken. -/
  | lost
  /-- Rolled back for any other reason. -/
  | aborted

/-- A transaction appends once it has flushed what comes first. -/
def WriterPhase.readyToAppend (kind : WriterKind) : WriterPhase → Bool
  | begun => !kind.writesFirst
  | wrote => true
  | _ => false

/-- The committed log, the holders of the three locks and the phase of each
transaction. -/
structure AuditRaceState where
  log : List AuditLogRow
  writer : Option Nat
  appendLock : Nat → Option Nat
  serviceLock : Nat → Option Nat
  phases : Nat → WriterPhase

/-- One step of one transaction. -/
inductive AuditRaceStep where
  | begin (caller : Nat)
  | write (caller : Nat)
  | read (caller : Nat)
  | flush (caller : Nat)
  | commit (caller : Nat)
  | abort (caller : Nat)

namespace AuditRaceState

def enter (state : AuditRaceState) (caller : Nat) (phase : WriterPhase) : AuditRaceState :=
  { state with phases := Function.update state.phases caller phase }

/-- Every lock that a transaction holds is free. -/
def release (state : AuditRaceState) (caller : Nat) : AuditRaceState :=
  { state with
    writer := if state.writer = some caller then none else state.writer
    appendLock := fun process =>
      if state.appendLock process = some caller then none else state.appendLock process
    serviceLock := fun process =>
      if state.serviceLock process = some caller then none else state.serviceLock process }

@[simp] theorem enter_log (state : AuditRaceState) (caller : Nat) (phase : WriterPhase) :
    (state.enter caller phase).log = state.log := rfl

@[simp] theorem enter_writer (state : AuditRaceState) (caller : Nat) (phase : WriterPhase) :
    (state.enter caller phase).writer = state.writer := rfl

@[simp] theorem release_log (state : AuditRaceState) (caller : Nat) :
    (state.release caller).log = state.log := rfl

@[simp] theorem release_phases (state : AuditRaceState) (caller : Nat) :
    (state.release caller).phases = state.phases := rfl

theorem phases_enter (state : AuditRaceState) (caller other : Nat) (phase : WriterPhase) :
    (state.enter caller phase).phases other =
      if other = caller then phase else state.phases other := by
  simp [enter, Function.update_apply]

end AuditRaceState

section Race

variable {platform : Platform} (floats : FloatReading platform) {library : SigningLibrary}
variable (repo : SQLiteAuditRepo library) (writers : Nat → AuditWriter)

/-- A transaction that is not ready for a step, or that waits for a lock, stays where
it is. -/
def auditRaceStep (state : AuditRaceState) : AuditRaceStep → AuditRaceState
  | .begin caller =>
      let writer := writers caller
      match state.phases caller with
      | .idle =>
          if writer.kind.locksService then
            match state.serviceLock writer.process with
            | none =>
                { state.enter caller .begun with
                  serviceLock := Function.update state.serviceLock writer.process (some caller) }
            | some _ => state
          else state.enter caller .begun
      | _ => state
  -- The first flush of a transaction waits for the write lock of SQLite.
  | .write caller =>
      match state.phases caller, state.writer with
      | .begun, none =>
          if (writers caller).kind.writesFirst then
            { state.enter caller .wrote with writer := some caller }
          else state
      | _, _ => state
  -- `append` takes its lock, reads the last row and builds the next one.
  | .read caller =>
      let writer := writers caller
      if (state.phases caller).readyToAppend writer.kind &&
          (state.appendLock writer.process).isNone then
        match repo.nextRow floats writer.now writer.entry state.log with
        | some next =>
            { state.enter caller (.read next) with
              appendLock := Function.update state.appendLock writer.process (some caller) }
        | none => (state.enter caller .aborted).release caller
      else state
  | .flush caller =>
      match state.phases caller with
      | .read next =>
          if state.writer = none ∨ state.writer = some caller then
            if state.log.any fun row => row.cell .seq == next.cell .seq then
              (state.enter caller .lost).release caller
            else
              { state.enter caller (.flushed next) with
                writer := some caller
                appendLock :=
                  Function.update state.appendLock (writers caller).process none }
          else state
      | _ => state
  | .commit caller =>
      match state.phases caller with
      | .flushed row =>
          { (state.enter caller (.committed row)).release caller with log := state.log ++ [row] }
      | _ => state
  | .abort caller =>
      match state.phases caller with
      | .begun | .wrote | .read _ | .flushed _ => (state.enter caller .aborted).release caller
      | _ => state

/-- Any number of appending transactions, interleaved step by step. -/
def auditRace : Machine AuditRaceState AuditRaceStep Unit where
  step state step := (auditRaceStep floats repo writers state step, ())

/-- No transaction has begun. -/
def auditRaceStart (log : List AuditLogRow) : AuditRaceState :=
  { log, writer := none, appendLock := fun _ => none, serviceLock := fun _ => none
    phases := fun _ => .idle }

/-- The log is one chain with consecutive numbers, what has been committed is in it,
and no outcome of a dispatch has been lost. -/
structure ChainKept (state : AuditRaceState) : Prop where
  honest : Honest floats repo state.log
  stored : ∀ caller row, state.phases caller = .committed row → row ∈ state.log
  kept : ∀ caller, (writers caller).kind = .record true → state.phases caller ≠ .lost

/-- No entry is committed while the outcome of a dispatch waits to be flushed behind
the row that was the last one before. -/
def CommitsNoStale (state : AuditRaceState) (step : AuditRaceStep) : Prop :=
  ∀ caller row other next, step = .commit caller → state.phases caller = .flushed row →
    (writers other).kind = .record true → state.phases other ≠ .read next

end Race

/-! ## What one step can do -/

/-- A transaction enters a phase; the other transactions keep theirs, and the write
lock if they hold it. -/
structure Enters (state : AuditRaceState) (caller : Nat) (phase : WriterPhase)
    (next : AuditRaceState) : Prop where
  phases_eq : ∀ other, next.phases other = if other = caller then phase else state.phases other
  writer_kept : ∀ other, other ≠ caller → state.writer = some other → next.writer = some other

/-- A transaction in another phase was there before. -/
theorem Enters.phases_of_ne {state next : AuditRaceState} {caller other : Nat}
    {phase found : WriterPhase} (enters : Enters state caller phase next)
    (entered : next.phases other = found) (different : phase ≠ found) :
    other ≠ caller ∧ state.phases other = found := by
  rw [enters.phases_eq] at entered
  split at entered
  · exact absurd entered different
  next ne => exact ⟨ne, entered⟩

theorem enters_release {state next : AuditRaceState} {caller : Nat} {phase : WriterPhase}
    (phases : next.phases = (state.enter caller phase).phases)
    (writer : next.writer = (state.release caller).writer) :
    Enters state caller phase next := by
  constructor
  · intro other
    rw [phases, AuditRaceState.phases_enter]
  · intro other different holds
    have notCaller : ¬state.writer = some caller := by
      rw [holds]
      exact fun same => different (Option.some.inj same)
    rw [writer, AuditRaceState.release, if_neg notCaller, holds]

/-- Phases that say nothing about the log. -/
def WriterPhase.Quiet (phase : WriterPhase) : Prop :=
  phase = .begun ∨ phase = .wrote ∨ phase = .aborted

section Moves

variable {platform : Platform} (floats : FloatReading platform) {library : SigningLibrary}
variable (repo : SQLiteAuditRepo library) (writers : Nat → AuditWriter)

/-- Everything that a step can do. -/
inductive RaceMove (state : AuditRaceState) (step : AuditRaceStep) (next : AuditRaceState) :
    Prop where
  | stays (same : next = state)
  | enters (caller : Nat) (phase : WriterPhase) (enters : Enters state caller phase next)
      (log_eq : next.log = state.log) (quiet : phase.Quiet)
  | reads (caller : Nat) (row : AuditLogRow) (enters : Enters state caller (.read row) next)
      (log_eq : next.log = state.log)
      (built : repo.nextRow floats (writers caller).now (writers caller).entry state.log =
        some row)
  | flushes (caller : Nat) (row : AuditLogRow) (enters : Enters state caller (.flushed row) next)
      (log_eq : next.log = state.log) (was : state.phases caller = .read row)
      (free : ∀ other ∈ state.log, other.cell .seq ≠ row.cell .seq)
      (holds : next.writer = some caller)
  | loses (caller : Nat) (row : AuditLogRow) (enters : Enters state caller .lost next)
      (log_eq : next.log = state.log) (was : state.phases caller = .read row)
      (taken : ∃ other ∈ state.log, other.cell .seq = row.cell .seq)
  | commits (caller : Nat) (row : AuditLogRow)
      (enters : Enters state caller (.committed row) next)
      (log_eq : next.log = state.log ++ [row]) (was : state.phases caller = .flushed row)
      (step_eq : step = .commit caller)

theorem auditRaceStep_moves (state : AuditRaceState) (step : AuditRaceStep) :
    RaceMove floats repo writers state step (auditRaceStep floats repo writers state step) := by
  have keeps : ∀ {caller phase next}, next.phases = (state.enter caller phase).phases →
      next.writer = state.writer → Enters state caller phase next := by
    intro caller phase next phases writer
    exact ⟨fun other => by rw [phases, AuditRaceState.phases_enter],
      fun other _ holds => by rw [writer, holds]⟩
  cases step with
  | begin caller =>
      simp only [auditRaceStep]
      split
      · split
        · split
          · exact .enters caller .begun (keeps rfl rfl) rfl (.inl rfl)
          · exact .stays rfl
        · exact .enters caller .begun (keeps rfl rfl) rfl (.inl rfl)
      · exact .stays rfl
  | write caller =>
      simp only [auditRaceStep]
      split
      next free =>
        split
        · refine .enters caller .wrote ⟨fun other => ?_, fun other _ holds => ?_⟩ rfl
            (.inr (.inl rfl))
          · exact AuditRaceState.phases_enter ..
          · rw [free] at holds
            cases holds
        · exact .stays rfl
      · exact .stays rfl
  | read caller =>
      simp only [auditRaceStep]
      split
      · split
        next row built => exact .reads caller row (keeps rfl rfl) rfl built
        · exact .enters caller .aborted (enters_release rfl rfl) rfl (.inr (.inr rfl))
      · exact .stays rfl
  | flush caller =>
      simp only [auditRaceStep]
      split
      next row was =>
        split
        next unlocked =>
          split
          next taken =>
            obtain ⟨other, member, same⟩ := List.any_eq_true.mp taken
            exact .loses caller row (enters_release rfl rfl) rfl was
              ⟨other, member, by simpa using same⟩
          next free =>
            refine .flushes caller row ⟨fun other => ?_, fun other different holds => ?_⟩ rfl was
              (fun other member same => free ?_) rfl
            · exact AuditRaceState.phases_enter ..
            · cases unlocked with
              | inl none => exact absurd (none.symm.trans holds) (by simp)
              | inr own => exact absurd (Option.some.inj (holds.symm.trans own)) different
            · exact List.any_eq_true.mpr ⟨other, member, by simp [same]⟩
        · exact .stays rfl
      · exact .stays rfl
  | commit caller =>
      simp only [auditRaceStep]
      split
      next row was => exact .commits caller row (enters_release rfl rfl) rfl was rfl
      · exact .stays rfl
  | abort caller =>
      simp only [auditRaceStep]
      split
      all_goals first
        | exact .stays rfl
        | exact .enters caller .aborted (enters_release rfl rfl) rfl (.inr (.inr rfl))

variable {floats repo writers}

/-! ## The chain under every interleaving -/

/-- What holds of the committed log and of the rows under way, whatever the order of
the steps. -/
structure ChainInvariant (floats : FloatReading platform) (repo : SQLiteAuditRepo library)
    (writers : Nat → AuditWriter) (state : AuditRaceState) : Prop where
  honest : Honest floats repo state.log
  stored : ∀ caller row, state.phases caller = .committed row → row ∈ state.log
  reads : ∀ caller next, state.phases caller = .read next → ∃ before, before <+: state.log ∧
    repo.nextRow floats (writers caller).now (writers caller).entry before = some next
  flushed : ∀ caller row, state.phases caller = .flushed row → state.writer = some caller ∧
    repo.nextRow floats (writers caller).now (writers caller).entry state.log = some row

/-- A row whose number is free has been built on the whole log: the numbers of the log
are those up to its length. -/
theorem eq_of_free {log before : List AuditLogRow} {row : AuditLogRow} {now : Instant}
    {entry : NewAuditEntry} (honest : Honest floats repo log) (earlier : before <+: log)
    (built : repo.nextRow floats now entry before = some row)
    (free : ∀ other ∈ log, other.cell .seq ≠ row.cell .seq) : before = log := by
  obtain ⟨after, rfl⟩ := earlier
  cases after with
  | nil => exact (List.append_nil before).symm
  | cons next after =>
      have found : (before ++ next :: after)[before.length]? = some next := by simp
      have same := (honest.cell_seq found).trans (honest.left.nextRow_seq built).symm
      exact absurd same (free next (by simp))

/-- A step that leaves the log alone keeps the chain if the phase it enters may be
entered. -/
theorem ChainInvariant.enter {state next : AuditRaceState} {caller : Nat} {phase : WriterPhase}
    (invariant : ChainInvariant floats repo writers state)
    (enters : Enters state caller phase next) (log_eq : next.log = state.log)
    (notCommitted : ∀ row, phase ≠ .committed row)
    (reads : ∀ row, phase = .read row → ∃ before, before <+: state.log ∧
      repo.nextRow floats (writers caller).now (writers caller).entry before = some row)
    (flushed : ∀ row, phase = .flushed row → next.writer = some caller ∧
      repo.nextRow floats (writers caller).now (writers caller).entry state.log = some row) :
    ChainInvariant floats repo writers next := by
  constructor
  · rw [log_eq]
    exact invariant.honest
  · intro other row entered
    rw [log_eq]
    exact invariant.stored other row (enters.phases_of_ne entered (notCommitted row)).2
  · intro other row entered
    rw [log_eq]
    rw [enters.phases_eq] at entered
    split at entered
    next same => exact same ▸ reads row entered
    next => exact invariant.reads other row entered
  · intro other row entered
    rw [log_eq]
    rw [enters.phases_eq] at entered
    split at entered
    next same => exact same ▸ flushed row entered
    next different =>
      obtain ⟨holds, built⟩ := invariant.flushed other row entered
      exact ⟨enters.writer_kept other different holds, built⟩

/-- A commit by the holder of the write lock extends the chain. -/
theorem ChainInvariant.commit {state next : AuditRaceState} {caller : Nat} {row : AuditLogRow}
    (invariant : ChainInvariant floats repo writers state)
    (enters : Enters state caller (.committed row) next)
    (log_eq : next.log = state.log ++ [row]) (was : state.phases caller = .flushed row) :
    ChainInvariant floats repo writers next := by
  obtain ⟨holds, built⟩ := invariant.flushed caller row was
  constructor
  · rw [log_eq]
    exact invariant.honest.append built
  · intro other found entered
    rw [log_eq]
    rw [enters.phases_eq] at entered
    split at entered
    · obtain rfl := WriterPhase.committed.inj entered
      simp
    · exact List.mem_append_left _ (invariant.stored other found entered)
  · intro other found entered
    rw [log_eq]
    have earlier := enters.phases_of_ne entered (by simp)
    obtain ⟨before, shorter, foundBuilt⟩ := invariant.reads other found earlier.2
    exact ⟨before, shorter.trans (List.prefix_append _ _), foundBuilt⟩
  · intro other found entered
    have earlier := enters.phases_of_ne entered (by simp)
    obtain ⟨otherHolds, _⟩ := invariant.flushed other found earlier.2
    exact absurd (Option.some.inj (otherHolds.symm.trans holds)) earlier.1

/-- Every step keeps the chain. -/
theorem ChainInvariant.step {state : AuditRaceState}
    (invariant : ChainInvariant floats repo writers state) (step : AuditRaceStep) :
    ChainInvariant floats repo writers (auditRaceStep floats repo writers state step) := by
  cases auditRaceStep_moves floats repo writers state step with
  | stays same => exact same.symm ▸ invariant
  | enters caller phase enters log_eq quiet =>
      apply invariant.enter enters log_eq
      all_goals
        rintro row rfl
        obtain quiet | quiet | quiet := quiet <;> cases quiet
  | reads caller row enters log_eq built =>
      apply invariant.enter enters log_eq (by simp)
      · intro found same
        exact ⟨state.log, List.prefix_rfl, WriterPhase.read.inj same ▸ built⟩
      · simp
  | flushes caller row enters log_eq was free holds =>
      apply invariant.enter enters log_eq (by simp) (by simp)
      intro found same
      obtain rfl := WriterPhase.flushed.inj same
      obtain ⟨before, earlier, built⟩ := invariant.reads caller row was
      exact ⟨holds, eq_of_free invariant.honest earlier built free ▸ built⟩
  | loses caller row enters log_eq was taken =>
      exact invariant.enter enters log_eq (by simp) (by simp) (by simp)
  | commits caller row enters log_eq was step_eq => exact invariant.commit enters log_eq was

/-! ## Outcomes of dispatches -/

/-- No outcome of a dispatch has been lost, and those under way are built on the whole
log. -/
structure OutcomesFresh (floats : FloatReading platform) (repo : SQLiteAuditRepo library)
    (writers : Nat → AuditWriter) (state : AuditRaceState) : Prop where
  kept : ∀ caller, (writers caller).kind = .record true → state.phases caller ≠ .lost
  fresh : ∀ caller next, (writers caller).kind = .record true →
    state.phases caller = .read next →
    repo.nextRow floats (writers caller).now (writers caller).entry state.log = some next

/-- A step that commits nothing in front of a waiting outcome loses none. -/
theorem OutcomesFresh.step {state : AuditRaceState}
    (invariant : ChainInvariant floats repo writers state)
    (outcomes : OutcomesFresh floats repo writers state) {step : AuditRaceStep}
    (allowed : CommitsNoStale writers state step) :
    OutcomesFresh floats repo writers (auditRaceStep floats repo writers state step) := by
  cases auditRaceStep_moves floats repo writers state step with
  | stays same => exact same.symm ▸ outcomes
  | enters caller phase enters log_eq quiet =>
      have notLost : phase ≠ .lost := by
        rintro rfl
        obtain quiet | quiet | quiet := quiet <;> cases quiet
      have notRead : ∀ row, phase ≠ .read row := by
        rintro row rfl
        obtain quiet | quiet | quiet := quiet <;> cases quiet
      constructor
      · intro other kind lost
        exact outcomes.kept other kind (enters.phases_of_ne lost notLost).2
      · intro other row kind entered
        rw [log_eq]
        exact outcomes.fresh other row kind (enters.phases_of_ne entered (notRead row)).2
  | reads caller row enters log_eq built =>
      constructor
      · intro other kind lost
        exact outcomes.kept other kind (enters.phases_of_ne lost (by simp)).2
      · intro other found kind entered
        rw [log_eq]
        rw [enters.phases_eq] at entered
        split at entered
        next same => exact same ▸ WriterPhase.read.inj entered ▸ built
        next => exact outcomes.fresh other found kind entered
  | flushes caller row enters log_eq was free holds =>
      constructor
      · intro other kind lost
        exact outcomes.kept other kind (enters.phases_of_ne lost (by simp)).2
      · intro other found kind entered
        rw [log_eq]
        exact outcomes.fresh other found kind (enters.phases_of_ne entered (by simp)).2
  | loses caller row enters log_eq was taken =>
      constructor
      · intro other kind lost
        rw [enters.phases_eq] at lost
        split at lost
        next same =>
          subst same
          -- The number of a row built on the whole log is not in the log.
          have built := outcomes.fresh other row kind was
          obtain ⟨found, member, sameSeq⟩ := taken
          obtain ⟨index, at_index⟩ := List.getElem?_of_mem member
          obtain ⟨bound, _⟩ := List.getElem?_eq_some_iff.mp at_index
          rw [invariant.honest.cell_seq at_index, invariant.honest.nextRow_seq built,
            Cell.integer.injEq] at sameSeq
          omega
        next => exact outcomes.kept other kind lost
      · intro other found kind entered
        rw [log_eq]
        exact outcomes.fresh other found kind (enters.phases_of_ne entered (by simp)).2
  | commits caller row enters log_eq was step_eq =>
      constructor
      · intro other kind lost
        exact outcomes.kept other kind (enters.phases_of_ne lost (by simp)).2
      · intro other found kind entered
        have earlier := enters.phases_of_ne entered (by simp)
        exact absurd earlier.2 (allowed caller row other found step_eq was kind)

theorem chainInvariant_start {log : List AuditLogRow} (honest : Honest floats repo log) :
    ChainInvariant floats repo writers (auditRaceStart log) :=
  ⟨honest, by simp [auditRaceStart], by simp [auditRaceStart], by simp [auditRaceStart]⟩

/-- In every interleaving the committed log is one chain with consecutive numbers. -/
theorem chainInvariant_stateAfter {log : List AuditLogRow} (honest : Honest floats repo log)
    (schedule : List AuditRaceStep) :
    ChainInvariant floats repo writers
      ((auditRace floats repo writers).stateAfter (auditRaceStart log) schedule) :=
  Machine.invariant (chainInvariant_start honest) (fun _ step kept => kept.step step) schedule

/-- An outcome in front of which an entry is committed loses its number to it. -/
theorem lost_of_commit {state : AuditRaceState}
    (invariant : ChainInvariant floats repo writers state) {caller other : Nat}
    {row next : AuditLogRow} (was : state.phases caller = .flushed row)
    (waits : state.phases other = .read next) :
    (auditRaceStep floats repo writers (auditRaceStep floats repo writers state (.commit caller))
      (.flush other)).phases other = .lost := by
  obtain ⟨holds, built⟩ := invariant.flushed caller row was
  obtain ⟨before, shorter, nextBuilt⟩ := invariant.reads other next waits
  have different : other ≠ caller := by
    rintro rfl
    rw [was] at waits
    cases waits
  have taken : (state.log ++ [row]).any (fun found => found.cell .seq == next.cell .seq) =
      true := by
    obtain ⟨after, log_eq⟩ := shorter
    have earlier : Honest floats repo before := by
      have honest := invariant.honest
      rw [← log_eq] at honest
      exact honest.left
    have bound : before.length < (state.log ++ [row]).length := by
      simp only [← log_eq, List.length_append, List.length_singleton]
      omega
    have found := List.getElem?_eq_getElem bound
    rw [List.any_eq_true]
    refine ⟨_, List.getElem_mem bound, beq_iff_eq.mpr ?_⟩
    exact ((invariant.honest.append built).cell_seq found).trans
      (earlier.nextRow_seq nextBuilt).symm
  have stillWaits : (auditRaceStep floats repo writers state (.commit caller)).phases other =
      .read next := by
    simp [auditRaceStep, was, AuditRaceState.phases_enter, different, waits]
  rw [auditRaceStep]
  simp only [stillWaits]
  simp [auditRaceStep, was, AuditRaceState.release, holds, taken, AuditRaceState.phases_enter]

/-- As long as no entry is committed in front of an outcome that waits to be flushed,
the chain is kept and no outcome is lost. -/
theorem chainKept_of_commitsNoStale {log : List AuditLogRow} (honest : Honest floats repo log)
    {schedule : List AuditRaceStep}
    (admitted : (auditRace floats repo writers).Admits (CommitsNoStale writers)
      (auditRaceStart log) schedule) :
    ChainKept floats repo writers
      ((auditRace floats repo writers).stateAfter (auditRaceStart log) schedule) := by
  have started : OutcomesFresh floats repo writers (auditRaceStart log) :=
    ⟨by simp [auditRaceStart], by simp [auditRaceStart]⟩
  have both := Machine.invariant_of_admits
    (motive := fun state => ChainInvariant floats repo writers state ∧
      OutcomesFresh floats repo writers state)
    ⟨chainInvariant_start honest, started⟩
    (fun _ step kept allowed => ⟨kept.1.step step, kept.2.step kept.1 allowed⟩) admitted
  exact ⟨both.1.honest, both.1.stored, both.2.kept⟩

/-- A run meets the condition if and only if the chain is kept in every state that it
reaches, and by a flush of any transaction there. -/
theorem chainKept_iff {log : List AuditLogRow} (honest : Honest floats repo log)
    (schedule : List AuditRaceStep) :
    (auditRace floats repo writers).Admits (CommitsNoStale writers) (auditRaceStart log)
        schedule ↔
      ∀ before after, schedule = before ++ after →
        ChainKept floats repo writers
            ((auditRace floats repo writers).stateAfter (auditRaceStart log) before) ∧
          ∀ caller, ChainKept floats repo writers
            ((auditRace floats repo writers).stateAfter (auditRaceStart log)
              (before ++ [.flush caller])) := by
  constructor
  · rintro admitted before after rfl
    refine ⟨chainKept_of_commitsNoStale honest admitted.left, fun caller => ?_⟩
    apply chainKept_of_commitsNoStale honest
    rw [Machine.admits_append]
    refine ⟨admitted.left, Machine.admits_cons.mpr ⟨?_, Machine.admits_nil _ _⟩⟩
    rintro committer row other next ⟨⟩
  · intro kept before step after split committer row other next step_eq was kind waits
    subst step_eq
    have invariant : ChainInvariant floats repo writers _ :=
      chainInvariant_stateAfter honest before
    have reached := (kept (before ++ [.commit committer]) after (by simp [split])).2 other
    apply reached.kept other kind
    simpa [auditRace] using lost_of_commit invariant was waits

end Moves

/-! ## An approval commits behind a record -/

namespace Demo

def repo : SQLiteAuditRepo library := { genesisHash := "", signer := none }

/-- An approval of one confirmation, and the record of what another dispatch has come
to, in one process. -/
def writers (caller : Nat) : AuditWriter :=
  { process := 0
    kind := if caller = 0 then .approve else .record true
    entry := entry [] distinctKeys_empty
    now := { microseconds := 0, inRange := zero_inRange } }

/-- The approval has flushed its entry when the record, under the lock of the service,
reads the log; it commits before the record flushes. -/
def overtaken : List AuditRaceStep :=
  [.begin 0, .write 0, .read 0, .flush 0, .begin 1, .read 1, .flush 1, .commit 0, .flush 1]

end Demo

theorem honest_nil {platform : Platform} (floats : FloatReading platform)
    {library : SigningLibrary} (repo : SQLiteAuditRepo library) : Honest floats repo [] :=
  ⟨[], rfl, trivial, by simp [Numbered]⟩

theorem chainKept_iff_demo :
    (auditRace Demo.floats Demo.repo Demo.writers).Admits (CommitsNoStale Demo.writers)
        (auditRaceStart []) (Demo.overtaken.take 4) ↔
      ∀ before after, Demo.overtaken.take 4 = before ++ after →
        ChainKept Demo.floats Demo.repo Demo.writers
            ((auditRace Demo.floats Demo.repo Demo.writers).stateAfter (auditRaceStart [])
              before) ∧
          ∀ caller, ChainKept Demo.floats Demo.repo Demo.writers
            ((auditRace Demo.floats Demo.repo Demo.writers).stateAfter (auditRaceStart [])
              (before ++ [.flush caller])) :=
  chainKept_iff (honest_nil Demo.floats Demo.repo) _

/-- The outcome of a dispatch is lost to the number that the approval has taken. -/
theorem not_chainKept :
    ¬∀ schedule, ChainKept Demo.floats Demo.repo Demo.writers
      ((auditRace Demo.floats Demo.repo Demo.writers).stateAfter (auditRaceStart [])
        schedule) := by
  intro kept
  exact (kept Demo.overtaken).kept 1 rfl rfl

end Era.Repositories
