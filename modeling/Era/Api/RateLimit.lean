import Mathlib.Algebra.Order.Ring.Rat
import Mathlib.Data.Finset.Dedup
import Mathlib.Data.Finset.Order
import Mathlib.Data.List.MinMax
import Mathlib.Data.Rat.Floor
import Mathlib.Logic.Function.Basic
import Era.Lib.FixedWindow
import Era.Lib.Machine

/-!
# The rate limiter of the API

A request is counted against the window of its address, and against that of its key if it has
one.  Every 256th check takes the windows that have ended out of the dictionary.
-/

namespace Era.Api

open Era.Lib Era.Lib.FixedWindow

/-- A limiter as its constructor accepts it. -/
structure FixedWindowRateLimiter where
  keyLimit : Nat
  ipLimit : Nat
  windowSeconds : ℚ
  keyLimit_pos : 1 ≤ keyLimit
  ipLimit_pos : 1 ≤ ipLimit
  windowSeconds_pos : 0 < windowSeconds

structure RateLimitDecision where
  allowed : Bool
  limit : Nat
  remaining : Nat
  retryAfter : Int
  deriving DecidableEq

structure RateCall where
  apiKeyHash : Option String := none
  ip : String
  now : ℚ

/-- `_windows`. -/
abbrev Windows := String → Option (Window ℚ)

structure LimiterState where
  windows : Windows := fun _ => none
  checks : Nat := 0

def ipIdentity (ip : String) : String := "ip:" ++ ip

def keyIdentity (apiKeyHash : String) : String := "key:" ++ apiKeyHash

section Limiter

variable (limiter : FixedWindowRateLimiter)

/-- The identities that a request is counted against, with their limits. -/
def FixedWindowRateLimiter.buckets (call : RateCall) : List (String × Nat) :=
  (ipIdentity call.ip, limiter.ipLimit) ::
    match call.apiKeyHash with
    | some hash => if hash = "" then [] else [(keyIdentity hash, limiter.keyLimit)]
    | none => []

/-- `max(1, math.ceil(...))`. -/
def retryAfter (seconds : ℚ) : Int := max 1 ⌈seconds⌉

def FixedWindowRateLimiter.secondsLeft (now : ℚ) (window : Window ℚ) : ℚ :=
  limiter.windowSeconds - (now - window.startedAt)

/-- The loop over the buckets, which ends at the first that is exhausted. -/
def FixedWindowRateLimiter.visit (now : ℚ) : Windows → List (String × Nat) →
    Windows × Except RateLimitDecision (List (String × Window ℚ × Nat))
  | windows, [] => (windows, .ok [])
  | windows, (identity, limit) :: rest =>
      let window := current limiter.windowSeconds now (windows identity)
      let windows := Function.update windows identity (some window)
      if limit ≤ window.count then
        (windows, .error {
          allowed := false
          limit
          remaining := 0
          retryAfter := retryAfter (limiter.secondsLeft now window) })
      else
        match FixedWindowRateLimiter.visit now windows rest with
        | (windows, .ok active) => (windows, .ok ((identity, window, limit) :: active))
        | (windows, .error decision) => (windows, .error decision)

/-- Every active window is counted up. -/
def countUp (windows : Windows) (active : List (String × Window ℚ × Nat)) : Windows :=
  active.foldl (fun windows (identity, window, _) =>
    Function.update windows identity (some window.increment)) windows

/-- `_remove_stale`. -/
def FixedWindowRateLimiter.removeStale (now : ℚ) (windows : Windows) : Windows :=
  fun identity => (windows identity).filter fun window =>
    now - limiter.windowSeconds < window.startedAt

/-- `check`, with or without the clean-up. -/
def FixedWindowRateLimiter.check (cleans : Bool) (state : LimiterState) (call : RateCall) :
    LimiterState × RateLimitDecision :=
  let checks := state.checks + 1
  match limiter.visit call.now state.windows (limiter.buckets call) with
  | (windows, .error decision) => ({ windows, checks }, decision)
  | (windows, .ok active) =>
      let windows := countUp windows active
      ({ windows :=
          if cleans && checks % 256 == 0 then limiter.removeStale call.now windows else windows
         checks },
       { allowed := true
         limit := (active.map fun (_, _, limit) => limit).min?.getD 0
         remaining :=
          (active.map fun (_, window, limit) => limit - window.increment.count).min?.getD 0
         retryAfter := retryAfter
          ((active.map fun (_, window, _) => limiter.secondsLeft call.now window).min?.getD 0) })

/-- A check with what has been decided, and the identities whose window it has opened. -/
structure Checked where
  call : RateCall
  decision : RateLimitDecision
  opened : List String

abbrev FixedWindowRateLimiter.names (call : RateCall) : List String :=
  (limiter.buckets call).map Prod.fst

def FixedWindowRateLimiter.opened (call : RateCall) (before after : Windows) : List String :=
  (limiter.names call).filter fun identity =>
    opens limiter.windowSeconds call.now (before identity) &&
      (after identity).any fun window => window.startedAt == call.now

def FixedWindowRateLimiter.machine (cleans : Bool) : Machine LimiterState RateCall Checked :=
  { step := fun state call =>
      let (after, decision) := limiter.check cleans state call
      (after, { call, decision, opened := limiter.opened call state.windows after.windows }) }

/-! ## What is promised -/

def Checked.openings (identity : String) (checked : Checked) : List ℚ :=
  if identity ∈ checked.opened then [checked.call.now] else []

def Checked.admitted (identity : String) (checked : Checked) : List ℚ :=
  if checked.decision.allowed ∧ identity ∈ limiter.names checked.call then [checked.call.now]
  else []

/-- When windows of an identity have opened. -/
def FixedWindowRateLimiter.openings (calls : List RateCall) (identity : String) : List ℚ :=
  (limiter.machine true).trace (Checked.openings identity) {} calls

/-- When requests of an identity have been admitted. -/
def FixedWindowRateLimiter.admitted (calls : List RateCall) (identity : String) : List ℚ :=
  (limiter.machine true).trace (Checked.admitted limiter identity) {} calls

/-- How much of its last window an identity has used up. -/
def FixedWindowRateLimiter.used (calls : List RateCall) (identity : String) (now : ℚ) : Nat :=
  taken limiter.windowSeconds (limiter.openings calls identity) (limiter.admitted calls identity)
    now

def FixedWindowRateLimiter.decisions (cleans : Bool) (calls : List RateCall) :
    List RateLimitDecision :=
  ((limiter.machine cleans).outputs {} calls).map Checked.decision

/-- The decision on a request after others. -/
def FixedWindowRateLimiter.decide (before : List RateCall) (call : RateCall) :
    RateLimitDecision :=
  (limiter.check true ((limiter.machine true).stateAfter {} before) call).2

/-- The limit of an address or of a key. -/
inductive FixedWindowRateLimiter.LimitOf : String → Nat → Prop where
  | ip (ip : String) : LimitOf (ipIdentity ip) limiter.ipLimit
  | key (hash : String) : LimitOf (keyIdentity hash) limiter.keyLimit

structure LimitsRequests (calls : List RateCall) : Prop where
  /-- Every window admits as many requests as its limit at most. -/
  bounded : ∀ identity limit, limiter.LimitOf identity limit →
    ∀ start ∈ limiter.openings calls identity,
      (limiter.admitted calls identity).countP (within limiter.windowSeconds start) ≤ limit
  /-- The windows of an identity do not overlap, and what is admitted is admitted in one. -/
  apart : ∀ identity limit, limiter.LimitOf identity limit →
    (limiter.openings calls identity).Pairwise fun earlier later =>
      earlier + limiter.windowSeconds ≤ later
  covered : ∀ identity limit, limiter.LimitOf identity limit →
    ∀ time ∈ limiter.admitted calls identity, ∃ start ∈ limiter.openings calls identity,
      within limiter.windowSeconds start time = true
  admits_iff : ∀ before call after, calls = before ++ call :: after →
    ((limiter.decide before call).allowed = true ↔
      ∀ bucket ∈ limiter.buckets call, limiter.used before bucket.1 call.now < bucket.2)
  rejected : ∀ before call after, calls = before ++ call :: after →
    (limiter.decide before call).allowed = false →
      ∀ identity limit, limiter.LimitOf identity limit → ∀ now, call.now ≤ now →
        limiter.used (before ++ [call]) identity now = limiter.used before identity now
  uncleaned : limiter.decisions true calls = limiter.decisions false calls

/-! ## One check -/

variable {limiter} {windows : Windows} {call : RateCall}

theorem ipIdentity_ne (ip hash : String) : ipIdentity ip ≠ keyIdentity hash := by
  intro same
  have texts := congrArg String.toList same
  simp [ipIdentity, keyIdentity] at texts

theorem names_nodup (call : RateCall) : (limiter.names call).Nodup := by
  unfold FixedWindowRateLimiter.names FixedWindowRateLimiter.buckets
  cases call.apiKeyHash with
  | none => simp
  | some hash =>
      by_cases empty : hash = ""
      · simp [empty]
      · simp [empty, ipIdentity_ne]

theorem limitOf_of_mem {identity : String} {limit : Nat}
    (member : (identity, limit) ∈ limiter.buckets call) : limiter.LimitOf identity limit := by
  unfold FixedWindowRateLimiter.buckets at member
  obtain first | later := List.mem_cons.mp member
  · cases first
    exact .ip call.ip
  · cases hashed : call.apiKeyHash with
    | none => simp [hashed] at later
    | some hash =>
        by_cases empty : hash = ""
        · simp [hashed, empty] at later
        · simp only [hashed, empty, if_false, List.mem_singleton] at later
          cases later
          exact .key hash

/-- An identity has one limit. -/
theorem FixedWindowRateLimiter.LimitOf.unique {identity : String} {limit other : Nat}
    (one : limiter.LimitOf identity limit) (two : limiter.LimitOf identity other) :
    limit = other := by
  generalize named : identity = name at two
  cases one with
  | ip ip =>
      cases two with
      | ip => rfl
      | key hash => exact absurd named (ipIdentity_ne ip hash)
  | key hash =>
      cases two with
      | ip ip => exact absurd named.symm (ipIdentity_ne ip hash)
      | key => rfl

/-- What is left of the dictionary when all identities have been visited. -/
def visited (limiter : FixedWindowRateLimiter) (now : ℚ) (windows : Windows)
    (names : List String) : Windows :=
  fun identity =>
    if identity ∈ names then some (current limiter.windowSeconds now (windows identity))
    else windows identity

/-- All buckets have room and are active, or one has none and the request is rejected. -/
theorem visit_cases (limiter : FixedWindowRateLimiter) (now : ℚ) (buckets : List (String × Nat))
    (distinct : (buckets.map Prod.fst).Nodup) (windows : Windows) :
    (∀ bucket ∈ buckets,
        (current limiter.windowSeconds now (windows bucket.1)).count < bucket.2) ∧
      limiter.visit now windows buckets =
        (visited limiter now windows (buckets.map Prod.fst), .ok (buckets.map fun bucket =>
          (bucket.1, current limiter.windowSeconds now (windows bucket.1), bucket.2))) ∨
    (∃ bucket ∈ buckets,
        bucket.2 ≤ (current limiter.windowSeconds now (windows bucket.1)).count) ∧
      ∃ left decision, limiter.visit now windows buckets = (left, .error decision) ∧
        decision.allowed = false ∧ ∀ identity, left identity = windows identity ∨
          identity ∈ buckets.map Prod.fst ∧
            left identity = some (current limiter.windowSeconds now (windows identity)) := by
  induction buckets generalizing windows with
  | nil => exact .inl ⟨List.forall_mem_nil _, rfl⟩
  | cons bucket rest ih =>
      obtain ⟨identity, limit⟩ := bucket
      rw [List.map_cons, List.nodup_cons] at distinct
      have others : ∀ other, other ≠ identity → Function.update windows identity
          (some (current limiter.windowSeconds now (windows identity))) other = windows other :=
        fun other different => Function.update_of_ne different ..
      have rest_ne : ∀ other ∈ rest, other.1 ≠ identity := fun other member same =>
        distinct.1 (List.mem_map.mpr ⟨other, member, same⟩)
      rw [FixedWindowRateLimiter.visit]
      split
      next full =>
        refine .inr ⟨⟨_, List.mem_cons_self, full⟩, _, _, rfl, rfl, fun other => ?_⟩
        by_cases same : other = identity
        · subst same
          exact .inr ⟨List.mem_cons_self, Function.update_self ..⟩
        · exact .inl (others other same)
      next room =>
        rcases ih distinct.2 (Function.update windows identity
          (some (current limiter.windowSeconds now (windows identity)))) with
          ⟨rooms, answer⟩ | ⟨⟨full, member, exhausted⟩, left, decision, answer, refused, moves⟩
        · refine .inl ⟨List.forall_mem_cons.mpr ⟨not_le.mp room, fun other member => ?_⟩, ?_⟩
          · have rest_room := rooms other member
            rwa [others _ (rest_ne other member)] at rest_room
          · rw [answer]
            dsimp only
            refine Prod.ext (funext fun other => ?_) (congrArg Except.ok ?_)
            · by_cases same : other = identity
              · subst same
                simp [visited, distinct.1]
              · have mem_iff : other ∈ identity :: rest.map Prod.fst ↔ other ∈ rest.map Prod.fst :=
                  List.mem_cons.trans (or_iff_right same)
                simp only [visited, others other same, List.map_cons, mem_iff]
            · refine congrArg (List.cons _) (List.map_congr_left fun other member => ?_)
              rw [others _ (rest_ne other member)]
        · rw [others _ (rest_ne full member)] at exhausted
          rw [answer]
          refine .inr ⟨⟨full, List.mem_cons_of_mem _ member, exhausted⟩, left, decision, rfl,
            refused, fun other => ?_⟩
          by_cases same : other = identity
          · subst same
            obtain kept | ⟨again, -⟩ := moves other
            · exact .inr ⟨List.mem_cons_self, kept.trans (Function.update_self ..)⟩
            · exact absurd again distinct.1
          · obtain kept | ⟨again, visits⟩ := moves other
            · exact .inl (kept.trans (others other same))
            · rw [others other same] at visits
              exact .inr ⟨List.mem_cons_of_mem _ again, visits⟩

/-- Every identity that is active is counted up once. -/
theorem countUp_active (limiter : FixedWindowRateLimiter) (now : ℚ) (buckets : List (String × Nat))
    (distinct : (buckets.map Prod.fst).Nodup) (start windows : Windows) (identity : String) :
    countUp start (buckets.map fun bucket =>
      (bucket.1, current limiter.windowSeconds now (windows bucket.1), bucket.2)) identity =
      if identity ∈ buckets.map Prod.fst then
        some (current limiter.windowSeconds now (windows identity)).increment
      else start identity := by
  induction buckets generalizing start with
  | nil => rfl
  | cons bucket rest ih =>
      rw [List.map_cons, List.nodup_cons] at distinct
      refine (ih distinct.2 (Function.update start bucket.1
        (some (current limiter.windowSeconds now (windows bucket.1)).increment))).trans ?_
      rw [List.map_cons]
      by_cases same : identity = bucket.1
      · subst same
        rw [if_neg distinct.1, if_pos List.mem_cons_self, Function.update_self]
      · simp only [List.mem_cons, same, false_or, Function.update_of_ne same]

/-- What a check does to the window of an identity. -/
inductive WindowMoves (limiter : FixedWindowRateLimiter) (call : RateCall) (identity : String) :
    Bool → Option (Window ℚ) → Option (Window ℚ) → Prop where
  | increment (window : Option (Window ℚ)) (named : identity ∈ limiter.names call)
      (room : ∀ limit, limiter.LimitOf identity limit →
        (current limiter.windowSeconds call.now window).count < limit) :
      WindowMoves limiter call identity true window
        (some (current limiter.windowSeconds call.now window).increment)
  | visit (window : Option (Window ℚ)) (named : identity ∈ limiter.names call) :
      WindowMoves limiter call identity false window
        (some (current limiter.windowSeconds call.now window))
  | keep (window : Option (Window ℚ)) : WindowMoves limiter call identity false window window
  | forget (window : Window ℚ) (elapsed : ended limiter.windowSeconds call.now window = true) :
      WindowMoves limiter call identity false (some window) none

theorem ended_iff_stale {now : ℚ} {window : Window ℚ} :
    ended limiter.windowSeconds now window = true ↔
      ¬now - limiter.windowSeconds < window.startedAt := by
  rw [ended_iff, not_lt, le_sub_iff_add_le]

/-- The clean-up takes away what has ended. -/
theorem removeStale_cases (now : ℚ) (windows : Windows) (identity : String) :
    limiter.removeStale now windows identity = windows identity ∨
      ∃ window, windows identity = some window ∧
        ended limiter.windowSeconds now window = true ∧
        limiter.removeStale now windows identity = none := by
  unfold FixedWindowRateLimiter.removeStale
  cases stored : windows identity with
  | none => exact .inl rfl
  | some window =>
      by_cases recent : now - limiter.windowSeconds < window.startedAt
      · exact .inl (by simp [Option.filter, recent])
      · exact .inr ⟨window, rfl, ended_iff_stale.mpr recent, by simp [Option.filter, recent]⟩

theorem not_ended_current (now : ℚ) (window : Option (Window ℚ)) :
    ended limiter.windowSeconds now (current limiter.windowSeconds now window) = false := by
  have fresh : ended limiter.windowSeconds now { startedAt := now } = false := by
    rw [← Bool.not_eq_true, ended_iff]
    exact not_le.mpr (lt_add_of_pos_right now limiter.windowSeconds_pos)
  unfold current
  split
  next window =>
    split
    · exact fresh
    next runs => exact Bool.not_eq_true _ ▸ runs
  next => exact fresh

/-- A dictionary is cleaned up or left as it is. -/
theorem cleanUp_cases (limiter : FixedWindowRateLimiter) (cleaned : Bool) (now : ℚ)
    (windows : Windows) (identity : String) :
    (if cleaned then limiter.removeStale now windows else windows) identity = windows identity ∨
      ∃ window, windows identity = some window ∧
        ended limiter.windowSeconds now window = true ∧
        (if cleaned then limiter.removeStale now windows else windows) identity = none := by
  cases cleaned with
  | false => exact .inl rfl
  | true => exact removeStale_cases now windows identity

/-- The check moves every window in one of four ways, and admits if all buckets have room. -/
theorem check_cases (limiter : FixedWindowRateLimiter) (cleans : Bool) (state : LimiterState)
    (call : RateCall) :
    ((limiter.check cleans state call).2.allowed = true ↔ ∀ bucket ∈ limiter.buckets call,
      (current limiter.windowSeconds call.now (state.windows bucket.1)).count < bucket.2) ∧
    ∀ identity, WindowMoves limiter call identity
      ((limiter.check cleans state call).2.allowed && decide (identity ∈ limiter.names call))
      (state.windows identity) ((limiter.check cleans state call).1.windows identity) := by
  unfold FixedWindowRateLimiter.check
  dsimp only
  rcases visit_cases limiter call.now (limiter.buckets call) (names_nodup call)
    state.windows with
    ⟨rooms, answer⟩ | ⟨⟨full, member, exhausted⟩, left, decision, answer, refused, moves⟩
  · rw [answer]
    refine ⟨iff_of_true rfl rooms, fun identity => ?_⟩
    dsimp only
    have counted := countUp_active limiter call.now (limiter.buckets call)
      (names_nodup call) (visited limiter call.now state.windows (limiter.names call))
      state.windows identity
    by_cases named : identity ∈ limiter.names call
    · rw [decide_eq_true named, Bool.and_true]
      rw [if_pos named] at counted
      have room : ∀ limit, limiter.LimitOf identity limit →
          (current limiter.windowSeconds call.now (state.windows identity)).count < limit := by
        intro limit limited
        obtain ⟨bucket, member, rfl⟩ := List.mem_map.mp named
        rw [limited.unique (limitOf_of_mem member)]
        exact rooms bucket member
      rcases cleanUp_cases limiter (cleans && (state.checks + 1) % 256 == 0) call.now
        (countUp _ _) identity with kept | ⟨window, found, elapsed, -⟩
      · rw [kept, counted]
        exact .increment _ named room
      · -- The clean-up does not see a window that has just been counted up.
        rw [counted] at found
        cases found
        exact absurd elapsed (Bool.eq_false_iff.mp (not_ended_current call.now _))
    · rw [decide_eq_false named, Bool.and_false]
      rw [if_neg named, visited, if_neg named] at counted
      rcases cleanUp_cases limiter (cleans && (state.checks + 1) % 256 == 0) call.now
        (countUp _ _) identity with kept | ⟨window, found, elapsed, gone⟩
      · rw [kept, counted]
        exact .keep _
      · rw [gone, ← counted, found]
        exact .forget window elapsed
  · rw [answer]
    refine ⟨iff_of_false (by simp [refused]) fun rooms =>
      not_lt.mpr exhausted (rooms full member), fun identity => ?_⟩
    dsimp only
    rw [refused, Bool.false_and]
    obtain kept | ⟨named, visits⟩ := moves identity
    · rw [kept]
      exact .keep _
    · rw [visits]
      exact .visit _ named

/-! ## Whole runs -/

theorem mem_opened {before after : Windows} {identity : String} :
    identity ∈ limiter.opened call before after ↔ identity ∈ limiter.names call ∧
      opens limiter.windowSeconds call.now (before identity) = true ∧
        ∃ window, after identity = some window ∧ window.startedAt = call.now := by
  unfold FixedWindowRateLimiter.opened
  rw [List.mem_filter, Bool.and_eq_true, Option.any_eq_true]
  simp only [beq_iff_eq]

/-- The counts are kept by what a check does to a window. -/
theorem WindowMoves.counts {before after : Windows} {identity : String} {admits : Bool}
    (moves : WindowMoves limiter call identity admits (before identity) (after identity))
    {limit : Nat} (limited : limiter.LimitOf identity limit) {openings admitted : List ℚ}
    (counts : Counts limiter.windowSeconds limit call.now openings admitted (before identity)) :
    Counts limiter.windowSeconds limit call.now
      (openings ++ if identity ∈ limiter.opened call before after then [call.now] else [])
      (admitted ++ if admits then [call.now] else []) (after identity) := by
  have opened (named : identity ∈ limiter.names call) {window : Window ℚ}
      (moved : after identity = some window) (started : window.startedAt =
        (current limiter.windowSeconds call.now (before identity)).startedAt) :
      (openings ++ if identity ∈ limiter.opened call before after then [call.now] else []) =
        if opens limiter.windowSeconds call.now (before identity) then openings ++ [call.now]
        else openings := by
    by_cases opening : opens limiter.windowSeconds call.now (before identity) = true
    · rw [current_of_opens opening] at started
      rw [if_pos (mem_opened.mpr ⟨named, opening, window, moved, started⟩), if_pos opening]
    · rw [if_neg fun member => opening (mem_opened.mp member).2.1, if_neg opening,
        List.append_nil]
  generalize old_eq : before identity = old at moves counts opened
  generalize new_eq : after identity = new at moves opened ⊢
  cases moves with
  | increment _ named room =>
      rw [opened named rfl rfl]
      exact counts.open.increment (not_ended_current call.now _) (room limit limited)
  | visit _ named =>
      rw [opened named rfl rfl, if_neg Bool.false_ne_true, List.append_nil]
      exact counts.open
  | keep =>
      have unopened : identity ∉ limiter.opened call before after := by
        intro member
        obtain ⟨-, opening, window, found, started⟩ := mem_opened.mp member
        rw [old_eq] at opening
        rw [new_eq] at found
        subst found
        have elapsed := ended_iff.mp (show ended _ _ window = true from opening)
        rw [started] at elapsed
        exact not_lt.mpr elapsed (lt_add_of_pos_right call.now limiter.windowSeconds_pos)
      rw [if_neg unopened, if_neg Bool.false_ne_true, List.append_nil, List.append_nil]
      exact counts
  | forget window elapsed =>
      have unopened : identity ∉ limiter.opened call before after := by
        intro member
        obtain ⟨-, -, window, found, -⟩ := mem_opened.mp member
        rw [new_eq] at found
        cases found
      rw [if_neg unopened, if_neg Bool.false_ne_true, List.append_nil, List.append_nil]
      exact counts.clear elapsed

theorem openings_concat (before : List RateCall) (call : RateCall) (identity : String) :
    limiter.openings (before ++ [call]) identity = limiter.openings before identity ++
      if identity ∈ limiter.opened call ((limiter.machine true).stateAfter {} before).windows
        (limiter.check true ((limiter.machine true).stateAfter {} before) call).1.windows
      then [call.now] else [] := by
  unfold FixedWindowRateLimiter.openings
  rw [Machine.trace_append, Machine.trace_cons, Machine.trace_nil, List.append_nil]
  rfl

theorem admitted_concat (before : List RateCall) (call : RateCall) (identity : String) :
    limiter.admitted (before ++ [call]) identity = limiter.admitted before identity ++
      if (limiter.decide before call).allowed && decide (identity ∈ limiter.names call)
      then [call.now] else [] := by
  unfold FixedWindowRateLimiter.admitted
  rw [Machine.trace_append, Machine.trace_cons, Machine.trace_nil, List.append_nil]
  simp only [Bool.and_eq_true, decide_eq_true_iff]
  rfl

theorem counts_stateAfter (calls : List RateCall) {identity : String} {limit : Nat}
    (limited : limiter.LimitOf identity limit) :
    calls.Pairwise (fun earlier later => earlier.now ≤ later.now) →
      ∀ now, (∀ call ∈ calls, call.now ≤ now) →
        Counts limiter.windowSeconds limit now (limiter.openings calls identity)
          (limiter.admitted calls identity)
          (((limiter.machine true).stateAfter {} calls).windows identity) := by
  induction calls using List.reverseRecOn with
  | nil => exact fun _ now _ => counts_nil limit now
  | append_singleton before call ih =>
      intro ordered now latest
      obtain ⟨orderedBefore, -, before_le⟩ := List.pairwise_append.mp ordered
      have counts := ih orderedBefore call.now fun earlier member =>
        before_le earlier member call (List.mem_singleton_self call)
      have moves := (check_cases limiter true ((limiter.machine true).stateAfter {} before)
        call).2 identity
      have counted := (moves.counts limited counts).mono (latest call (by simp))
      rw [openings_concat, admitted_concat, Machine.stateAfter_append]
      exact counted

theorem used_eq {before : List RateCall} {identity : String} {limit : Nat}
    (limited : limiter.LimitOf identity limit)
    (ordered : before.Pairwise fun earlier later => earlier.now ≤ later.now) {now : ℚ}
    (latest : ∀ call ∈ before, call.now ≤ now) :
    limiter.used before identity now = (current limiter.windowSeconds now
      (((limiter.machine true).stateAfter {} before).windows identity)).count :=
  (counts_stateAfter before limited ordered now latest).taken_eq

theorem decide_allowed_iff {before : List RateCall} {call : RateCall}
    (ordered : before.Pairwise fun earlier later => earlier.now ≤ later.now)
    (latest : ∀ earlier ∈ before, earlier.now ≤ call.now) :
    (limiter.decide before call).allowed = true ↔
      ∀ bucket ∈ limiter.buckets call, limiter.used before bucket.1 call.now < bucket.2 := by
  refine (check_cases limiter true _ call).1.trans (forall₂_congr fun bucket member => ?_)
  rw [used_eq (limitOf_of_mem member) ordered latest]

/-- A check that does not admit leaves all windows used as they were. -/
theorem WindowMoves.count_eq {identity : String} {old new : Option (Window ℚ)}
    (moves : WindowMoves limiter call identity false old new) {now : ℚ} (later : call.now ≤ now) :
    (current limiter.windowSeconds now new).count =
      (current limiter.windowSeconds now old).count := by
  cases moves with
  | visit => exact count_current_current later
  | keep => rfl
  | forget window elapsed =>
      have opening : opens limiter.windowSeconds now (some window) = true :=
        ended_mono elapsed later
      rw [current_of_opens opening]
      rfl

theorem used_rejected {before : List RateCall} {call : RateCall}
    (ordered : (before ++ [call]).Pairwise fun earlier later => earlier.now ≤ later.now)
    (refused : (limiter.decide before call).allowed = false) {identity : String} {limit : Nat}
    (limited : limiter.LimitOf identity limit) {now : ℚ} (later : call.now ≤ now) :
    limiter.used (before ++ [call]) identity now = limiter.used before identity now := by
  obtain ⟨orderedBefore, -, before_le⟩ := List.pairwise_append.mp ordered
  have latest : ∀ earlier ∈ before, earlier.now ≤ now := fun earlier member =>
    (before_le earlier member call (List.mem_singleton_self call)).trans later
  have latest_now : ∀ earlier ∈ before ++ [call], earlier.now ≤ now := by
    intro earlier member
    obtain old | own := List.mem_append.mp member
    · exact latest earlier old
    · rwa [List.mem_singleton.mp own]
  have moves := (check_cases limiter true ((limiter.machine true).stateAfter {} before) call).2
    identity
  have unadmitted :
      (limiter.check true ((limiter.machine true).stateAfter {} before) call).2.allowed = false :=
    refused
  rw [unadmitted, Bool.false_and] at moves
  rw [used_eq limited ordered latest_now, used_eq limited orderedBefore latest,
    Machine.stateAfter_append]
  exact moves.count_eq later

/-! ## The clean-up -/

/-- Two dictionaries that differ in windows that have ended. -/
def Alike (limiter : FixedWindowRateLimiter) (now : ℚ) (cleaned kept : Windows) : Prop :=
  ∀ identity, cleaned identity = kept identity ∨
    cleaned identity = none ∧ opens limiter.windowSeconds now (kept identity) = true

variable {now : ℚ} {cleaned kept : Windows}

theorem Alike.mono (alike : Alike limiter now cleaned kept) {later : ℚ} (ordered : now ≤ later) :
    Alike limiter later cleaned kept := by
  intro identity
  obtain same | ⟨gone, opening⟩ := alike identity
  · exact .inl same
  · exact .inr ⟨gone, opens_mono opening ordered⟩

theorem Alike.current_eq (alike : Alike limiter now cleaned kept) (identity : String) :
    current limiter.windowSeconds now (cleaned identity) =
      current limiter.windowSeconds now (kept identity) := by
  obtain same | ⟨gone, opening⟩ := alike identity
  · rw [same]
  · rw [gone, current_of_opens opening]
    rfl

theorem Alike.update (alike : Alike limiter now cleaned kept) (identity : String)
    (window : Option (Window ℚ)) :
    Alike limiter now (Function.update cleaned identity window)
      (Function.update kept identity window) := by
  intro other
  by_cases same : other = identity
  · subst same
    exact .inl (by rw [Function.update_self, Function.update_self])
  · rw [Function.update_of_ne same, Function.update_of_ne same]
    exact alike other

/-- The buckets are visited alike. -/
theorem Alike.visit (alike : Alike limiter now cleaned kept) (buckets : List (String × Nat)) :
    (limiter.visit now cleaned buckets).2 = (limiter.visit now kept buckets).2 ∧
      Alike limiter now (limiter.visit now cleaned buckets).1
        (limiter.visit now kept buckets).1 := by
  induction buckets generalizing cleaned kept with
  | nil => exact ⟨rfl, alike⟩
  | cons bucket rest ih =>
      obtain ⟨identity, limit⟩ := bucket
      rw [FixedWindowRateLimiter.visit, FixedWindowRateLimiter.visit, alike.current_eq identity]
      have moved := alike.update identity
        (some (current limiter.windowSeconds now (kept identity)))
      split
      next => exact ⟨rfl, moved⟩
      next =>
        obtain ⟨same, alike_rest⟩ := ih moved
        generalize limiter.visit now (Function.update cleaned identity
          (some (current limiter.windowSeconds now (kept identity)))) rest = one
          at same alike_rest ⊢
        generalize limiter.visit now (Function.update kept identity
          (some (current limiter.windowSeconds now (kept identity)))) rest = other
          at same alike_rest ⊢
        obtain ⟨cleanedRest, result⟩ := one
        obtain ⟨keptRest, _⟩ := other
        subst same
        cases result with
        | error => exact ⟨rfl, alike_rest⟩
        | ok => exact ⟨rfl, alike_rest⟩

theorem Alike.countUp (alike : Alike limiter now cleaned kept)
    (active : List (String × Window ℚ × Nat)) :
    Alike limiter now (countUp cleaned active) (countUp kept active) := by
  induction active generalizing cleaned kept with
  | nil => exact alike
  | cons bucket rest ih => exact ih (alike.update _ _)

theorem Alike.cleanUp (alike : Alike limiter now cleaned kept) (cleans : Bool) :
    Alike limiter now (if cleans then limiter.removeStale now cleaned else cleaned) kept := by
  intro identity
  rcases cleanUp_cases limiter cleans now cleaned identity with
    same | ⟨window, found, elapsed, gone⟩
  · rw [same]
    exact alike identity
  · obtain same | ⟨missing, -⟩ := alike identity
    · rw [gone, ← same, found]
      exact .inr ⟨rfl, elapsed⟩
    · rw [missing] at found
      cases found

/-- A check decides alike with and without the clean-up. -/
theorem Alike.check {state uncleaned : LimiterState}
    (alike : Alike limiter call.now state.windows uncleaned.windows) :
    (limiter.check true state call).2 = (limiter.check false uncleaned call).2 ∧
      Alike limiter call.now (limiter.check true state call).1.windows
        (limiter.check false uncleaned call).1.windows := by
  obtain ⟨same, visited_alike⟩ := alike.visit (limiter.buckets call)
  unfold FixedWindowRateLimiter.check
  generalize limiter.visit call.now state.windows (limiter.buckets call) = one
    at same visited_alike ⊢
  generalize limiter.visit call.now uncleaned.windows (limiter.buckets call) = other
    at same visited_alike ⊢
  obtain ⟨cleanedVisited, result⟩ := one
  obtain ⟨keptVisited, _⟩ := other
  subst same
  cases result with
  | error => exact ⟨rfl, visited_alike⟩
  | ok active => exact ⟨rfl, (visited_alike.countUp active).cleanUp _⟩

theorem decisions_alike (now : ℚ) {state uncleaned : LimiterState} (calls : List RateCall)
    (ordered : calls.Pairwise fun earlier later => earlier.now ≤ later.now)
    (first : ∀ call ∈ calls, now ≤ call.now)
    (alike : Alike limiter now state.windows uncleaned.windows) :
    ((limiter.machine true).outputs state calls).map Checked.decision =
      ((limiter.machine false).outputs uncleaned calls).map Checked.decision := by
  induction calls generalizing now state uncleaned with
  | nil => rfl
  | cons call rest ih =>
      obtain ⟨first_rest, orderedRest⟩ := List.pairwise_cons.mp ordered
      obtain ⟨same, alike_rest⟩ := (alike.mono (first call List.mem_cons_self)).check
      exact congrArg₂ List.cons same (ih call.now orderedRest first_rest alike_rest)

end Limiter

namespace Demo

theorem two_pos : 1 ≤ 2 := by decide

theorem three_pos : 1 ≤ 3 := by decide

/-- Two requests a minute for a key, and three for an address. -/
def rateLimiter : FixedWindowRateLimiter :=
  { keyLimit := 2
    ipLimit := 3
    windowSeconds := 60
    keyLimit_pos := two_pos
    ipLimit_pos := three_pos
    windowSeconds_pos := by decide }

end Demo

end Era.Api
