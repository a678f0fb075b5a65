import Mathlib.Algebra.Order.Ring.Rat
import Mathlib.Logic.Function.Basic
import Era.Lib.Machine
import Era.Lib.RollingWindow

/-!
# The rate limiter of the providers

Every actor has a bucket with the times of what it has been admitted, from which times are taken
when they have left the window.
-/

namespace Era.Providers

open Era.Lib

/-- A limiter, with the start of the window that ends at a time: `current - window_seconds`,
however it is rounded. -/
structure ActorRateLimiter (Time : Type*) [LinearOrder Time] where
  limit : Nat
  cutoff : Time → Time
  monotone : Monotone cutoff

/-- `ActorRateLimiter(limit=..., window_seconds=...)`, in exact arithmetic. -/
def ActorRateLimiter.ofSeconds (limit : Int) (windowSeconds : ℚ) : ActorRateLimiter ℚ :=
  { limit := (max 1 limit).toNat
    cutoff := fun current => current - max (1 / 1000) windowSeconds
    monotone := fun _ _ ordered => sub_le_sub_right ordered _ }

inductive LimiterRequest where
  | allow
  | allowMany (count : Int)
  | remaining

structure LimiterCall (Time : Type*) where
  actorId : Option String
  now : Time
  request : LimiterRequest

/-- The bucket of an actor. -/
def bucketKey (actorId : Option String) : String := (actorId.filter (· ≠ "")).getD "<anonymous>"

/-- The units of a bucket. -/
abbrev logged {Time : Type*} (units : List (String × Time)) (key : String) : List Time :=
  (units.filter fun unit => unit.1 == key).map Prod.snd

@[simp] theorem logged_replicate {Time : Type*} (count : Nat) (bucket key : String) (now : Time) :
    logged (List.replicate count (bucket, now)) key =
      if bucket = key then List.replicate count now else [] := by
  by_cases same : bucket = key
  · simp [logged, same]
  · simp [logged, same]

section Limiter

variable {Time : Type*} [LinearOrder Time] (limiter : ActorRateLimiter Time)

/-- `_timestamps`. -/
abbrev Buckets (Time : Type*) := String → List Time

/-- The loop that takes times from the front of a bucket. -/
def pruned (buckets : Buckets Time) (actorId : Option String) (now : Time) : List Time :=
  RollingWindow.forget limiter.cutoff now (buckets (bucketKey actorId))

/-- `allow_many`. -/
def allowMany (buckets : Buckets Time) (actorId : Option String) (count : Int) (now : Time) :
    Buckets Time × Bool :=
  if count < 1 then (buckets, false)
  else
    let bucket := pruned limiter buckets actorId now
    if (limiter.limit : Int) < bucket.length + count then
      (Function.update buckets (bucketKey actorId) bucket, false)
    else
      (Function.update buckets (bucketKey actorId) (bucket ++ List.replicate count.toNat now),
        true)

/-- `remaining`. -/
def remaining (buckets : Buckets Time) (actorId : Option String) (now : Time) :
    Buckets Time × Int :=
  let bucket := pruned limiter buckets actorId now
  (Function.update buckets (bucketKey actorId) bucket, max 0 (limiter.limit - bucket.length))

/-- How many units a call asks for. -/
def LimiterRequest.count : LimiterRequest → Int
  | .allow => 1
  | .allowMany count => count
  | .remaining => 0

/-- A call, with the units that it is admitted: a bucket and a time for each. -/
def limiterStep (buckets : Buckets Time) (call : LimiterCall Time) :
    Buckets Time × List (String × Time) :=
  match call.request with
  | .remaining => ((remaining limiter buckets call.actorId call.now).1, [])
  | .allow | .allowMany _ =>
      let answer := allowMany limiter buckets call.actorId call.request.count call.now
      (answer.1,
        if answer.2 then
          List.replicate call.request.count.toNat (bucketKey call.actorId, call.now)
        else [])

def rateLimiter : Machine (Buckets Time) (LimiterCall Time) (List (String × Time)) :=
  { step := limiterStep limiter }

/-! ## What is promised -/

/-- The times of the units that have been admitted to a bucket. -/
def admittedTimes (calls : List (LimiterCall Time)) (key : String) : List Time :=
  logged ((rateLimiter limiter).trace id (fun _ => []) calls) key

/-- All units of a call are recorded, or none is, and but for times that have left the window
nothing else changes. -/
def RecordsAllOrNone (buckets : Buckets Time) (key : String) (count : Int) (now : Time)
    (answer : Buckets Time × Bool) : Prop :=
  (∀ other, other ≠ key → answer.1 other = buckets other) ∧
    ∃ dropped kept, buckets key = dropped ++ kept ∧
      (∀ time ∈ dropped, time ≤ limiter.cutoff now) ∧
      (answer.2 = true ∧ answer.1 key = kept ++ List.replicate count.toNat now ∨
        answer.2 = false ∧ answer.1 key = kept)

/-- What the limiter keeps to after calls. -/
structure LimitsActors (calls : List (LimiterCall Time)) : Prop where
  bounded : ∀ actorId stop, (admittedTimes limiter calls (bucketKey actorId)).countP
    (RollingWindow.inWindow limiter.cutoff stop) ≤ limiter.limit
  atomic : ∀ actorId count now, 1 ≤ count →
    let buckets := (rateLimiter limiter).stateAfter (fun _ => []) calls
    RecordsAllOrNone limiter buckets (bucketKey actorId) count now
      (allowMany limiter buckets actorId count now)
  succeeds_iff : ∀ actorId count now, 1 ≤ count →
    let buckets := (rateLimiter limiter).stateAfter (fun _ => []) calls
    (allowMany limiter buckets actorId count now).2 = true ↔
      count ≤ (remaining limiter buckets actorId now).2

/-! ## One call -/

variable {limiter} {buckets : Buckets Time}

/-- A call is admitted if its units fit beside what is kept; its bucket is pruned, unless nothing
is asked for. -/
theorem allowMany_cases (limiter : ActorRateLimiter Time) (buckets : Buckets Time)
    (actorId : Option String) (count : Int) (now : Time) :
    allowMany limiter buckets actorId count now = (buckets, false) ∧ count < 1 ∨
      allowMany limiter buckets actorId count now = (Function.update buckets (bucketKey actorId)
        (pruned limiter buckets actorId now), false) ∨
      allowMany limiter buckets actorId count now = (Function.update buckets (bucketKey actorId)
          (pruned limiter buckets actorId now ++ List.replicate count.toNat now), true) ∧
        (pruned limiter buckets actorId now).length + count.toNat ≤ limiter.limit := by
  unfold allowMany
  split
  next nothing => exact .inl ⟨rfl, nothing⟩
  next =>
    dsimp only
    split
    next => exact .inr (.inl rfl)
    next room => exact .inr (.inr ⟨rfl, by omega⟩)

theorem recordsAllOrNone_allowMany (actorId : Option String) (count : Int) (now : Time) :
    RecordsAllOrNone limiter buckets (bucketKey actorId) count now
      (allowMany limiter buckets actorId count now) := by
  have cut : buckets (bucketKey actorId) =
      (buckets (bucketKey actorId)).takeWhile (fun time => decide (time ≤ limiter.cutoff now)) ++
        pruned limiter buckets actorId now := List.takeWhile_append_dropWhile.symm
  have left : ∀ time ∈ (buckets (bucketKey actorId)).takeWhile
      (fun time => decide (time ≤ limiter.cutoff now)), time ≤ limiter.cutoff now := by
    intro time member
    have expired := List.mem_takeWhile_imp member
    exact of_decide_eq_true expired
  rcases allowMany_cases limiter buckets actorId count now with
    ⟨answer, -⟩ | answer | ⟨answer, -⟩
  · rw [answer]
    exact ⟨fun _ _ => rfl, [], _, rfl, List.forall_mem_nil _, .inr ⟨rfl, rfl⟩⟩
  · rw [answer]
    exact ⟨fun other different => Function.update_of_ne different .., _, _, cut, left,
      .inr ⟨rfl, Function.update_self ..⟩⟩
  · rw [answer]
    exact ⟨fun other different => Function.update_of_ne different .., _, _, cut, left,
      .inl ⟨rfl, Function.update_self ..⟩⟩

theorem allowMany_iff {count : Int} (positive : 1 ≤ count) (actorId : Option String)
    (now : Time) :
    (allowMany limiter buckets actorId count now).2 = true ↔
      count ≤ (remaining limiter buckets actorId now).2 := by
  unfold allowMany remaining
  rw [if_neg (by omega)]
  dsimp only
  split
  next full => exact iff_of_false (by simp) (by omega)
  next room => exact iff_of_true rfl (by omega)

/-! ## Whole runs -/

variable {logs : String → List Time} {now : Time}

/-- Every bucket keeps its log. -/
abbrev KeepsLogs (limiter : ActorRateLimiter Time) (now : Time) (logs : String → List Time)
    (buckets : Buckets Time) : Prop :=
  ∀ key, RollingWindow.Keeps limiter.cutoff limiter.limit now (logs key) (buckets key)

theorem KeepsLogs.prune (keeps : KeepsLogs limiter now logs buckets) (actorId : Option String) :
    KeepsLogs limiter now logs (Function.update buckets (bucketKey actorId)
      (pruned limiter buckets actorId now)) := by
  intro key
  by_cases same : key = bucketKey actorId
  · subst same
    rw [Function.update_self]
    exact (keeps _).forget
  · rw [Function.update_of_ne same]
    exact keeps key

theorem KeepsLogs.unlogged (keeps : KeepsLogs limiter now logs buckets) :
    KeepsLogs limiter now (fun key => logs key ++ logged [] key) buckets := by
  intro key
  simpa [logged] using keeps key

theorem KeepsLogs.allowMany (keeps : KeepsLogs limiter now logs buckets)
    (actorId : Option String) (count : Int) :
    let answer := allowMany limiter buckets actorId count now
    KeepsLogs limiter now (fun key => logs key ++ logged
      (if answer.2 then List.replicate count.toNat (bucketKey actorId, now) else []) key)
      answer.1 := by
  intro answer
  rcases allowMany_cases limiter buckets actorId count now with
    ⟨same, -⟩ | same | ⟨same, room⟩
  · simp only [answer, same, Bool.false_eq_true, if_false]
    exact keeps.unlogged
  · simp only [answer, same, Bool.false_eq_true, if_false]
    exact (keeps.prune actorId).unlogged
  · intro key
    simp only [answer, same, if_true, logged_replicate]
    by_cases own : key = bucketKey actorId
    · subst own
      rw [if_pos rfl, Function.update_self]
      exact (keeps _).forget.append limiter.monotone room
    · rw [if_neg (Ne.symm own), Function.update_of_ne own, List.append_nil]
      exact keeps key

/-- What one call does to what is kept of every log. -/
theorem KeepsLogs.step {call : LimiterCall Time}
    (keeps : KeepsLogs limiter call.now logs buckets) :
    KeepsLogs limiter call.now
      (fun key => logs key ++ logged (limiterStep limiter buckets call).2 key)
      (limiterStep limiter buckets call).1 := by
  obtain ⟨actorId, now, request⟩ := call
  cases request with
  | allow => exact keeps.allowMany actorId 1
  | allowMany count => exact keeps.allowMany actorId count
  | remaining => exact (keeps.prune actorId).unlogged

variable (limiter)

theorem keepsLogs_stateAfter (calls : List (LimiterCall Time)) :
    calls.Pairwise (fun earlier later => earlier.now ≤ later.now) →
      ∀ now, (∀ call ∈ calls, call.now ≤ now) →
        KeepsLogs limiter now (admittedTimes limiter calls)
          ((rateLimiter limiter).stateAfter (fun _ => []) calls) := by
  induction calls using List.reverseRecOn with
  | nil => exact fun _ now _ key => RollingWindow.keeps_nil limiter.limit now
  | append_singleton before call ih =>
      intro ordered now latest
      obtain ⟨orderedBefore, -, before_le⟩ := List.pairwise_append.mp ordered
      have keeps := (ih orderedBefore call.now fun earlier member =>
        before_le earlier member call (List.mem_singleton_self call)).step
      intro key
      have kept := (keeps key).mono limiter.monotone (latest call (by simp))
      rw [Machine.stateAfter_append]
      have log_eq : admittedTimes limiter (before ++ [call]) key =
          admittedTimes limiter before key ++ logged (limiterStep limiter
            ((rateLimiter limiter).stateAfter (fun _ => []) before) call).2 key := by
        unfold admittedTimes logged
        rw [Machine.trace_append, List.filter_append, List.map_append, Machine.trace_cons,
          Machine.trace_nil, List.append_nil]
        rfl
      rw [log_eq]
      exact kept

/-- The limiter bounds every window, admits units together, and tells how many it admits. -/
theorem limitsActors (calls : List (LimiterCall Time))
    (ordered : calls.Pairwise fun earlier later => earlier.now ≤ later.now) :
    LimitsActors limiter calls := by
  refine ⟨?_, ?_, ?_⟩
  · intro actorId stop
    cases last : calls.getLast? with
    | none =>
        rw [List.getLast?_eq_none_iff] at last
        subst last
        exact Nat.zero_le _
    | some call =>
        have latest : ∀ earlier ∈ calls, earlier.now ≤ call.now := by
          obtain ⟨before, rfl⟩ := List.getLast?_eq_some_iff.mp last
          intro earlier member
          obtain old | own := List.mem_append.mp member
          · exact (List.pairwise_append.mp ordered).2.2 earlier old call
              (List.mem_singleton_self call)
          · rw [List.mem_singleton.mp own]
        exact (keepsLogs_stateAfter limiter calls ordered call.now latest _).bounded stop
  · intro actorId count now _
    exact recordsAllOrNone_allowMany actorId count now
  · intro actorId count now positive
    exact allowMany_iff positive actorId now

end Limiter

/-- Three units for two are refused, and two are admitted. -/
theorem limitsActors_demo :
    LimitsActors (ActorRateLimiter.ofSeconds 2 60) [
      { actorId := some "alice", now := 0, request := .allowMany 3 },
      { actorId := some "alice", now := 1, request := .allowMany 2 },
      { actorId := some "alice", now := 59, request := .allow }] :=
  limitsActors _ _ (by decide)

end Era.Providers
