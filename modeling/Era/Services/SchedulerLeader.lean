import Mathlib.Logic.Function.Basic
import Era.Core.Clock
import Era.Lib.Machine

/-!
# The leader of the schedulers

One row says which process ticks the schedules.  A call reads the row, decides in memory and
updates the row by its primary key; calls of other processes come in between.
-/

namespace Era.Services

open Era.Core Era.Lib

/-- The row of `scheduler_leader`. -/
structure SchedulerLeader where
  leaderId : String
  heartbeatAt : String
  version : Int
  deriving DecidableEq

inductive LeaderCall where
  | tryClaim
  | heartbeat
  | release
  deriving DecidableEq, Repr

/-- What a call makes of the row that it has read. -/
inductive LeaderDecision where
  | rejects
  | inserts (row : SchedulerLeader)
  | updates (row after : SchedulerLeader)

/-- What the processes are started with. -/
structure SchedulerLeaderService where
  /-- The random identifier of each process. -/
  leaderId : Nat → String
  /-- In microseconds. -/
  heartbeatTimeout : Int
  /-- `datetime.fromisoformat`, in UTC where the text names no zone. -/
  readTime : String → Option Instant

/-- How far the call of a process has come. -/
inductive LeaderPhase where
  | idle
  | called (call : LeaderCall) (now : String)
  | read (call : LeaderCall) (now : String) (row : Option SchedulerLeader)
  | decided (call : LeaderCall) (decision : LeaderDecision)

/-- The stored row, the clock that the processes share, whether the row has been stale since it
was written, and the phase of each process. -/
structure LeaderState where
  row : Option SchedulerLeader
  clock : Instant
  lapsed : Bool
  phases : Nat → LeaderPhase

/-- One step of one process, or of the clock. -/
inductive LeaderInput where
  | clock (now : Instant)
  | call (process : Nat) (call : LeaderCall)
  | read (process : Nat)
  | decide (process : Nat)
  | write (process : Nat)

inductive LeaderEvent where
  /-- A call writes the row. -/
  | wrote (process : Nat)
  /-- `try_claim` or `heartbeat` returns true. -/
  | led (process : Nat)
  deriving DecidableEq

section Service

variable (service : SchedulerLeaderService)

/-- `_is_stale`. -/
def SchedulerLeaderService.isStale (clock : Instant) (heartbeatAt : String) : Bool :=
  if heartbeatAt = "" then true
  else
    match service.readTime heartbeatAt with
    | none => true
    | some heartbeat =>
        decide (service.heartbeatTimeout < (clock.microseconds : Int) - heartbeat.microseconds)

/-- The row after a heartbeat. -/
def SchedulerLeader.beat (row : SchedulerLeader) (now : String) : SchedulerLeader :=
  { row with heartbeatAt := now, version := row.version + 1 }

/-- What `try_claim`, `heartbeat` and `release` decide. -/
def SchedulerLeaderService.decideCall (process : Nat) (clock : Instant) (now : String) :
    LeaderCall → Option SchedulerLeader → LeaderDecision
  | .tryClaim, none =>
      .inserts { leaderId := service.leaderId process, heartbeatAt := now, version := 1 }
  | .tryClaim, some row =>
      if row.leaderId = service.leaderId process then .updates row (row.beat now)
      else if service.isStale clock row.heartbeatAt then
        .updates row { row.beat now with leaderId := service.leaderId process }
      else .rejects
  | .heartbeat, none => .rejects
  | .heartbeat, some row =>
      if row.leaderId ≠ service.leaderId process then .rejects else .updates row (row.beat now)
  | .release, none => .rejects
  | .release, some row =>
      if row.leaderId = service.leaderId process then
        .updates row { row.beat (utcnowIso clock) with leaderId := "" }
      else .rejects

/-- `UPDATE … WHERE id = 'singleton'`: the columns that have changed since the row was read. -/
def SchedulerLeader.flush (row after stored : SchedulerLeader) : SchedulerLeader :=
  { leaderId := if after.leaderId = row.leaderId then stored.leaderId else after.leaderId
    heartbeatAt :=
      if after.heartbeatAt = row.heartbeatAt then stored.heartbeatAt else after.heartbeatAt
    version := if after.version = row.version then stored.version else after.version }

theorem SchedulerLeader.flush_current (row after : SchedulerLeader) :
    row.flush after row = after := by
  unfold flush
  cases row
  cases after
  dsimp only
  congr <;> split <;> simp_all

def LeaderState.enter (state : LeaderState) (process : Nat) (phase : LeaderPhase) : LeaderState :=
  { state with phases := Function.update state.phases process phase }

/-- A call has written the row. -/
def LeaderState.store (state : LeaderState) (process : Nat) (row : SchedulerLeader) :
    LeaderState :=
  { state.enter process .idle with
    row := some row
    lapsed := service.isStale state.clock row.heartbeatAt }

/-- What a call shows that has written the row. -/
def LeaderCall.events (call : LeaderCall) (process : Nat) : List LeaderEvent :=
  if call = .release then [.wrote process] else [.wrote process, .led process]

/-- A process that is not ready for a step stays where it is. -/
def leaderStep (state : LeaderState) : LeaderInput → LeaderState × List LeaderEvent
  | .clock now =>
      ({ state with
        clock := now
        lapsed := state.lapsed || state.row.any fun row => service.isStale now row.heartbeatAt },
        [])
  | .call process call =>
      match state.phases process with
      | .idle => (state.enter process (.called call (utcnowIso state.clock)), [])
      | _ => (state, [])
  | .read process =>
      match state.phases process with
      | .called call now => (state.enter process (.read call now state.row), [])
      | _ => (state, [])
  | .decide process =>
      match state.phases process with
      | .read call now row =>
          (state.enter process (.decided call
            (service.decideCall process state.clock now call row)), [])
      | _ => (state, [])
  | .write process =>
      match state.phases process with
      | .decided _ .rejects => (state.enter process .idle, [])
      | .decided call (.inserts row) =>
          match state.row with
          | none => (state.store service process row, call.events process)
          -- `IntegrityError`: the call raises.
          | some _ => (state.enter process .idle, [])
      | .decided call (.updates row after) =>
          match state.row with
          | some stored => (state.store service process (row.flush after stored),
              call.events process)
          -- `StaleDataError`: no row has been updated.
          | none => (state.enter process .idle, [])
      | _ => (state, [])

def leaderElection : Machine LeaderState LeaderInput (List LeaderEvent) :=
  { step := leaderStep service }

/-- No process has called yet. -/
def electionStart (row : Option SchedulerLeader) (clock : Instant) : LeaderState :=
  { row
    clock
    lapsed := row.any fun row => service.isStale clock row.heartbeatAt
    phases := fun _ => .idle }

/-- Nobody writes over the lease of another process that has not been stale, and whoever is told
that it leads is the leader of the stored row. -/
structure LeadsAlone (state : LeaderState) (input : LeaderInput) : Prop where
  held : ∀ process other row, LeaderEvent.wrote process ∈ (leaderStep service state input).2 →
    state.row = some row → other ≠ process → row.leaderId = service.leaderId other →
    state.lapsed = true
  named : ∀ process, LeaderEvent.led process ∈ (leaderStep service state input).2 →
    ∃ row, (leaderStep service state input).1.row = some row ∧
      row.leaderId = service.leaderId process

/-- The row that a call has read and is about to update. -/
def LeaderPhase.updating : LeaderPhase → Option SchedulerLeader
  | .decided _ (.updates row _) => some row
  | .decided _ .rejects | .decided _ (.inserts _) => none
  | .idle | .called _ _ | .read _ _ _ => none

/-- An update finds the row as its call has read it.  The update itself does not check this. -/
def UpdatesCurrentRow (state : LeaderState) : LeaderInput → Prop
  | .write process => ∀ row ∈ (state.phases process).updating, state.row = some row
  | .clock _ | .call _ _ | .read _ | .decide _ => True

instance (state : LeaderState) : (input : LeaderInput) → Decidable (UpdatesCurrentRow state input)
  | .write process =>
      inferInstanceAs (Decidable (∀ row ∈ (state.phases process).updating, state.row = some row))
  | .clock _ | .call _ _ | .read _ | .decide _ => isTrue True.intro

end Service

/-! ## What one step can do -/

section Moves

variable {service : SchedulerLeaderService} {state : LeaderState}

/-- A decision on a row that has been read. -/
inductive Decides (service : SchedulerLeaderService) (process : Nat) (clock : Instant) :
    LeaderCall → Option SchedulerLeader → LeaderDecision → Prop where
  | rejects (call : LeaderCall) (row : Option SchedulerLeader) :
      Decides service process clock call row .rejects
  | inserts (row : SchedulerLeader) : row.leaderId = service.leaderId process →
      Decides service process clock .tryClaim none (.inserts row)
  | updates (call : LeaderCall) (row after : SchedulerLeader) :
      row.leaderId = service.leaderId process ∨ service.isStale clock row.heartbeatAt = true →
      after.version = row.version + 1 →
      (call ≠ .release → after.leaderId = service.leaderId process) →
      Decides service process clock call (some row) (.updates row after)

theorem decideCall_decides (service : SchedulerLeaderService) (process : Nat) (clock : Instant)
    (now : String) (call : LeaderCall) (row : Option SchedulerLeader) :
    Decides service process clock call row (service.decideCall process clock now call row) := by
  unfold SchedulerLeaderService.decideCall
  split
  · exact .inserts _ rfl
  next row =>
    split
    next own => exact .updates _ _ _ (.inl own) rfl fun _ => own
    next =>
      split
      next stale => exact .updates _ _ _ (.inr stale) rfl fun _ => rfl
      next => exact .rejects _ _
  · exact .rejects _ _
  next row =>
    split
    next => exact .rejects _ _
    next own => exact .updates _ _ _ (.inl (not_not.mp own)) rfl fun _ => not_not.mp own
  · exact .rejects _ _
  next row =>
    split
    next own => exact .updates _ _ _ (.inl own) rfl fun not_release => absurd rfl not_release
    next => exact .rejects _ _

/-- The ways in which one step changes the election. -/
inductive LeaderMove (service : SchedulerLeaderService) (state : LeaderState) :
    LeaderInput → LeaderState × List LeaderEvent → Prop where
  | waits (input : LeaderInput) : LeaderMove service state input (state, [])
  | ticks (now : Instant) :
      LeaderMove service state (.clock now) (leaderStep service state (.clock now))
  | begins (process : Nat) (call : LeaderCall) (now : String) :
      LeaderMove service state (.call process call) (state.enter process (.called call now), [])
  | reads (process : Nat) (call : LeaderCall) (now : String) :
      LeaderMove service state (.read process)
        (state.enter process (.read call now state.row), [])
  | decides (process : Nat) (call : LeaderCall) (now : String) (row : Option SchedulerLeader)
      (decision : LeaderDecision) : state.phases process = .read call now row →
      Decides service process state.clock call row decision →
      LeaderMove service state (.decide process)
        (state.enter process (.decided call decision), [])
  | ends (process : Nat) :
      LeaderMove service state (.write process) (state.enter process .idle, [])
  | inserts (process : Nat) (call : LeaderCall) (row : SchedulerLeader) : state.row = none →
      state.phases process = .decided call (.inserts row) →
      LeaderMove service state (.write process)
        (state.store service process row, call.events process)
  | updates (process : Nat) (call : LeaderCall) (row after stored : SchedulerLeader) :
      state.row = some stored → state.phases process = .decided call (.updates row after) →
      LeaderMove service state (.write process)
        (state.store service process (row.flush after stored), call.events process)

theorem leaderStep_move (service : SchedulerLeaderService) (state : LeaderState)
    (input : LeaderInput) : LeaderMove service state input (leaderStep service state input) := by
  cases input with
  | clock now => exact .ticks now
  | call process call =>
      unfold leaderStep
      dsimp only
      split
      · exact .begins process call _
      · exact .waits _
  | read process =>
      unfold leaderStep
      dsimp only
      split
      · exact .reads process _ _
      · exact .waits _
  | decide process =>
      unfold leaderStep
      dsimp only
      split
      next call now row at_read =>
        exact .decides process call now row _ at_read (decideCall_decides ..)
      · exact .waits _
  | write process =>
      unfold leaderStep
      dsimp only
      split
      · exact .ends process
      next call row decided =>
        split
        next absent => exact .inserts process call row absent decided
        · exact .ends process
      next call row after decided =>
        split
        next stored found => exact .updates process call row after stored found decided
        · exact .ends process
      · exact .waits _

end Moves

/-! ## What has been read -/

section Reading

variable {service : SchedulerLeaderService} {state : LeaderState}

/-- A row that has been read is the stored one or an earlier version of it. -/
def LeaderState.Behind (state : LeaderState) (row : SchedulerLeader) : Prop :=
  ∃ stored, state.row = some stored ∧ (row = stored ∨ row.version < stored.version)

/-- What holds of the phase of a process. -/
def PhaseFits (service : SchedulerLeaderService) (state : LeaderState) (process : Nat) :
    LeaderPhase → Prop
  | .read _ _ (some row) => state.Behind row
  | .decided call (.inserts row) => call = .tryClaim ∧ row.leaderId = service.leaderId process
  | .decided call (.updates row after) =>
      state.Behind row ∧ after.version = row.version + 1 ∧
        (call ≠ .release → after.leaderId = service.leaderId process) ∧
        (row.leaderId ≠ service.leaderId process → state.row = some row → state.lapsed = true)
  | .idle | .called _ _ | .read _ _ none | .decided _ .rejects => True

/-- What holds as long as updates find the row as it has been read. -/
structure ReadsFit (service : SchedulerLeaderService) (state : LeaderState) : Prop where
  phases : ∀ process, PhaseFits service state process (state.phases process)
  lapses : ∀ row, state.row = some row → service.isStale state.clock row.heartbeatAt = true →
    state.lapsed = true

theorem PhaseFits.congr {after : LeaderState} {process : Nat} {phase : LeaderPhase}
    (fits : PhaseFits service state process phase) (row_eq : after.row = state.row)
    (lapses : state.lapsed = true → after.lapsed = true) :
    PhaseFits service after process phase := by
  unfold PhaseFits LeaderState.Behind at *
  split at fits
  · rwa [row_eq]
  · exact fits
  · rw [row_eq]
    exact ⟨fits.1, fits.2.1, fits.2.2.1, fun other same => lapses (fits.2.2.2 other same)⟩
  all_goals trivial

/-- A new version leaves what has been read behind. -/
theorem PhaseFits.behind {after : LeaderState} {process : Nat} {phase : LeaderPhase}
    (fits : PhaseFits service state process phase) {stored next : SchedulerLeader}
    (before : state.row = some stored) (row_eq : after.row = some next)
    (newer : stored.version < next.version) : PhaseFits service after process phase := by
  have moves_on {row : SchedulerLeader} (behind : state.Behind row) :
      row.version < next.version := by
    obtain ⟨current, current_eq, same | older⟩ := behind
    · obtain rfl := Option.some.inj (before.symm.trans current_eq)
      rwa [same]
    · obtain rfl := Option.some.inj (before.symm.trans current_eq)
      omega
  unfold PhaseFits at *
  split at fits
  · exact ⟨next, row_eq, .inr (moves_on fits)⟩
  · exact fits
  · refine ⟨⟨next, row_eq, .inr (moves_on fits.1)⟩, fits.2.1, fits.2.2.1, fun _ same => ?_⟩
    rw [row_eq] at same
    have older := moves_on fits.1
    rw [Option.some.inj same] at older
    exact absurd older (lt_irrefl _)
  all_goals trivial

theorem ReadsFit.enter (fits : ReadsFit service state) {process : Nat} {phase : LeaderPhase}
    (phase_fits : PhaseFits service state process phase) :
    ReadsFit service (state.enter process phase) := by
  refine ⟨fun other => ?_, fits.lapses⟩
  unfold LeaderState.enter
  dsimp only
  by_cases same : other = process
  · subst same
    rw [Function.update_self]
    exact phase_fits.congr rfl id
  · rw [Function.update_of_ne same]
    exact (fits.phases other).congr rfl id

theorem electionStart_fits (service : SchedulerLeaderService) (row : Option SchedulerLeader)
    (clock : Instant) : ReadsFit service (electionStart service row clock) := by
  refine ⟨fun _ => True.intro, fun stored found stale => ?_⟩
  unfold electionStart at found ⊢
  dsimp only at found ⊢
  rw [found]
  exact stale

theorem readsFit_store {process : Nat} {row : SchedulerLeader}
    (others : ∀ other, PhaseFits service (state.store service process row) other
      (state.phases other)) : ReadsFit service (state.store service process row) := by
  refine ⟨fun other => ?_, fun stored found stale => ?_⟩
  · by_cases same : other = process
    · subst same
      unfold LeaderState.store LeaderState.enter
      dsimp only
      rw [Function.update_self]
      exact True.intro
    · have kept := others other
      unfold LeaderState.store LeaderState.enter at kept ⊢
      dsimp only at kept ⊢
      rwa [Function.update_of_ne same]
  · unfold LeaderState.store at found stale ⊢
    dsimp only at found stale ⊢
    rw [Option.some.inj found]
    exact stale

theorem UpdatesCurrentRow.row_eq {process : Nat} {call : LeaderCall} {row after : SchedulerLeader}
    (current : UpdatesCurrentRow state (.write process))
    (decided : state.phases process = .decided call (.updates row after)) :
    state.row = some row :=
  current row (by rw [decided]; rfl)

theorem leaderStep_fits (fits : ReadsFit service state) {input : LeaderInput}
    (current : UpdatesCurrentRow state input) :
    ReadsFit service (leaderStep service state input).1 := by
  have move := leaderStep_move service state input
  revert move
  generalize leaderStep service state input = after
  intro move
  cases move with
  | waits => exact fits
  | ticks now =>
      refine ⟨fun process => (fits.phases process).congr rfl fun lapsed => ?_,
        fun row found stale => ?_⟩
      · unfold leaderStep
        dsimp only
        rw [lapsed, Bool.true_or]
      · unfold leaderStep at found stale ⊢
        dsimp only at found stale ⊢
        rw [found, Option.any_some, stale, Bool.or_true]
  | begins process call now => exact fits.enter True.intro
  | reads process call now =>
      apply fits.enter
      cases found : state.row with
      | none => exact True.intro
      | some row => exact ⟨row, found, .inl rfl⟩
  | decides process call now row decision at_read decides =>
      apply fits.enter
      have read_fits := fits.phases process
      rw [at_read] at read_fits
      cases decides with
      | rejects => exact True.intro
      | inserts row own => exact ⟨rfl, own⟩
      | updates call row after grounds version own =>
          refine ⟨read_fits, version, own, fun other same => ?_⟩
          exact fits.lapses row same (grounds.resolve_left other)
  | ends process => exact fits.enter True.intro
  | inserts process call row absent decided =>
      apply readsFit_store
      intro other
      have kept := fits.phases other
      unfold PhaseFits LeaderState.Behind at *
      split at kept
      · obtain ⟨stored, found, _⟩ := kept
        rw [absent] at found
        cases found
      · exact kept
      · obtain ⟨⟨stored, found, _⟩, _⟩ := kept
        rw [absent] at found
        cases found
      all_goals trivial
  | updates process call row after stored found decided =>
      have same := current.row_eq decided
      obtain rfl := Option.some.inj (found.symm.trans same)
      have newer := fits.phases process
      rw [decided] at newer
      apply readsFit_store
      intro other
      rw [SchedulerLeader.flush_current]
      apply (fits.phases other).behind found rfl
      have version := newer.2.1
      omega

theorem wrote_mem_events {call : LeaderCall} {process writer : Nat}
    (wrote : LeaderEvent.wrote writer ∈ call.events process) : writer = process := by
  unfold LeaderCall.events at wrote
  split at wrote <;> simpa using wrote

theorem led_mem_events {call : LeaderCall} {process leader : Nat}
    (led : LeaderEvent.led leader ∈ call.events process) :
    leader = process ∧ call ≠ .release := by
  unfold LeaderCall.events at led
  split at led
  · simp at led
  next not_release => exact ⟨by simpa using led, not_release⟩

/-- An update that finds its row as it has been read leaves fresh leases of others alone. -/
theorem leadsAlone_of_fits (distinct : Function.Injective service.leaderId)
    (fits : ReadsFit service state) {input : LeaderInput}
    (current : UpdatesCurrentRow state input) : LeadsAlone service state input := by
  have move := leaderStep_move service state input
  constructor
  · intro process other row wrote stored_eq different owned
    revert wrote move
    generalize leaderStep service state input = after
    intro move wrote
    cases move with
    | waits | begins | reads | decides | ends => cases wrote
    | ticks => cases wrote
    | inserts writer call inserted absent decided =>
        rw [absent] at stored_eq
        cases stored_eq
    | updates writer call read after stored found decided =>
        obtain rfl := wrote_mem_events wrote
        have same := current.row_eq decided
        have fits_here := fits.phases process
        rw [decided] at fits_here
        obtain rfl := Option.some.inj (same.symm.trans stored_eq)
        refine fits_here.2.2.2 (fun own => ?_) same
        exact different (distinct (owned.symm.trans own))
  · intro process led
    revert led move
    generalize leaderStep service state input = after
    intro move led
    cases move with
    | waits | begins | reads | decides | ends => cases led
    | ticks => cases led
    | inserts writer call inserted absent decided =>
        obtain ⟨rfl, _⟩ := led_mem_events led
        have fits_here := fits.phases process
        rw [decided] at fits_here
        exact ⟨inserted, rfl, fits_here.2⟩
    | updates writer call read after stored found decided =>
        obtain ⟨rfl, not_release⟩ := led_mem_events led
        have same := current.row_eq decided
        obtain rfl := Option.some.inj (found.symm.trans same)
        have fits_here := fits.phases process
        rw [decided] at fits_here
        exact ⟨_, rfl, by rw [SchedulerLeader.flush_current]; exact fits_here.2.2.1 not_release⟩

end Reading

/-- There is one leader at a time as long as updates find the row as their calls have read it. -/
theorem leads_alone (service : SchedulerLeaderService)
    (distinct : Function.Injective service.leaderId) (row : Option SchedulerLeader)
    (clock : Instant) {inputs : List LeaderInput}
    (current : (leaderElection service).Admits UpdatesCurrentRow (electionStart service row clock)
      inputs) :
    (leaderElection service).Admits (LeadsAlone service) (electionStart service row clock)
      inputs :=
  current.of_invariant (electionStart_fits service row clock)
    (fun _ _ reads current => leaderStep_fits reads current)
    (fun _ _ reads current => leadsAlone_of_fits distinct reads current)

namespace Demo

/-- Processes with identifiers of different lengths, and half a minute between heartbeats. -/
def leaders : SchedulerLeaderService :=
  { leaderId := fun process => String.ofList (List.replicate (process + 1) 'p')
    heartbeatTimeout := 30000000
    readTime := fromIsoformat }

theorem leaders_distinct : Function.Injective leaders.leaderId := by
  intro one other same
  have lengths := congrArg (fun text => text.toList.length) same
  unfold leaders at lengths
  simpa using lengths

def midnight : Instant := ⟨0, zero_inRange⟩

/-- A minute later. -/
def minutePast : Instant := ⟨60000000, by decide⟩

def calls (process : Nat) (call : LeaderCall) : List LeaderInput :=
  [.call process call, .read process, .decide process, .write process]

/-- Two processes find the lease of a third stale. -/
def contested : List LeaderInput :=
  calls 0 .tryClaim ++ [.clock minutePast, .call 1 .tryClaim, .call 2 .tryClaim, .read 1, .read 2,
    .decide 1, .decide 2, .write 1]

end Demo

/-- A process takes over from another whose lease is stale. -/
theorem leads_alone_demo :
    (leaderElection Demo.leaders).Admits (LeadsAlone Demo.leaders)
      (electionStart Demo.leaders none Demo.midnight) Demo.contested :=
  leads_alone Demo.leaders Demo.leaders_distinct none Demo.midnight (by decide +kernel)

/-- Two processes that have read the same stale lease are both told that they lead. -/
theorem not_leads_alone :
    ¬∀ inputs, (leaderElection Demo.leaders).Admits (LeadsAlone Demo.leaders)
      (electionStart Demo.leaders none Demo.midnight) inputs := by
  intro alone
  have last := alone (Demo.contested ++ [.write 2]) Demo.contested (.write 2) [] rfl
  have writes : LeaderEvent.wrote 2 ∈ (leaderStep Demo.leaders ((leaderElection
      Demo.leaders).stateAfter (electionStart Demo.leaders none Demo.midnight) Demo.contested)
        (.write 2)).2 := by
    decide +kernel
  have stored : ((leaderElection Demo.leaders).stateAfter
      (electionStart Demo.leaders none Demo.midnight) Demo.contested).row.map
        SchedulerLeader.leaderId = some (Demo.leaders.leaderId 1) := by
    decide +kernel
  have fresh : ((leaderElection Demo.leaders).stateAfter
      (electionStart Demo.leaders none Demo.midnight) Demo.contested).lapsed = false := by
    decide +kernel
  obtain ⟨row, found, owned⟩ := Option.map_eq_some_iff.mp stored
  have lapsed := last.held 2 1 row writes found (by decide) owned
  rw [fresh] at lapsed
  cases lapsed

end Era.Services
