import Mathlib.Algebra.Order.Field.Rat
import Era.Core.Retry

/-!
# What the retry loop does to the outside

The loop again, now with the calls it makes and the backoff sleeps it takes, each
with the reading of the clock it started from.  Forgetting these readings gives the
loop back.  Against a monotonic clock that a sleep advances by at least its delay,
the loop is bounded, keeps to the deadline and is faithful to its attempts.
-/

namespace Era.Core

/-- A call of `execute`. -/
structure RetryCall (α : Type) where
  attempt : Nat
  start : PyFloat
  answer : Except Raised α

/-- A backoff sleep, taken after the attempt of the same number. -/
structure BackoffSleep where
  attempt : Nat
  start : PyFloat
  delay : ℚ

/-- Result of the retry loop together with its calls and sleeps, in order. -/
structure RetryTrace (α : Type) where
  result : Except Raised α
  calls : List (RetryCall α)
  sleeps : List BackoffSleep

/-- The trace without the readings of the clock. -/
def RetryTrace.run {α : Type} (trace : RetryTrace α) : RetryRun α :=
  ⟨trace.result, trace.calls.map RetryCall.answer⟩

/-- The loop of `with_retry` with what it does to the outside. -/
def tracedLoop {α : Type} (policy : RetryPolicy) (deadline : Option PyFloat)
    (texts : RetryTexts) (attempts : Attempts α) :
    (remaining attempt : Nat) → (lastError : Option Raised) → RetryTrace α
  | 0, _, lastError => ⟨.error (lastError.getD texts.noResult), [], []⟩
  | remaining + 1, attempt, _ =>
      let clock := attempts.clock attempt
      if deadline.any fun limit => (limit.sub clock.before).le (.finite 0) then
        ⟨.error texts.budgetExhausted, [], []⟩
      else
        let call : RetryCall α := ⟨attempt, clock.before, attempts.answer attempt⟩
        match attempts.answer attempt with
        | .ok value => ⟨.ok value, [call], []⟩
        | .error (.toolError code message) =>
            let failure := Raised.toolError code message
            if policy.isRetryable code = false ∨ policy.maxAttempts ≤ attempt then
              ⟨.error failure, [call], []⟩
            else
              let delay := policy.backoffFor attempt
              match deadline.filter fun limit =>
                  (limit.sub clock.after).le (.finite 0) ||
                    (limit.sub clock.after).lt (.finite delay) with
              | some limit =>
                  ⟨.error (texts.backoffExceeds (.finite delay) (limit.sub clock.after)),
                    [call], []⟩
              | none =>
                  let rest := tracedLoop policy deadline texts attempts
                    remaining (attempt + 1) (some failure)
                  ⟨rest.result, call :: rest.calls,
                    ⟨attempt, clock.after, delay⟩ :: rest.sleeps⟩
        | .error failure => ⟨.error failure, [call], []⟩

/-- `with_retry`, with what it does to the outside. -/
def tracedRetry {α : Type} (policy : RetryPolicy) (deadline : Option PyFloat)
    (texts : RetryTexts) (attempts : Attempts α) : RetryTrace α :=
  tracedLoop policy deadline texts attempts policy.maxAttempts 1 none

/-- A monotonic clock around the attempts of one dispatch, which a backoff sleep
advances by its delay. -/
structure MonotoneClock (policy : RetryPolicy) where
  before : Nat → ℚ
  after : Nat → ℚ
  before_le_after : ∀ attempt, before attempt ≤ after attempt
  slept : ∀ attempt, after attempt + policy.backoffFor attempt ≤ before (attempt + 1)

/-- Attempts with these answers, around which the clock reads so. -/
def MonotoneClock.attempts {α : Type} {policy : RetryPolicy} (clock : MonotoneClock policy)
    (answer : Nat → Except Raised α) : Attempts α :=
  ⟨answer, fun attempt => ⟨.finite (clock.before attempt), .finite (clock.after attempt)⟩⟩

namespace PyFloat

theorem finite_le_finite_iff {left right : ℚ} :
    (PyFloat.finite left).le (.finite right) = true ↔ left ≤ right := decide_eq_true_iff

theorem negZero_le (right : PyFloat) :
    PyFloat.negZero.le right = (PyFloat.finite 0).le right := by
  cases right <;> rfl

/-- Nothing remains up to a limit exactly when the limit has been reached. -/
theorem sub_finite_le_zero (limit : PyFloat) (now : ℚ) :
    (limit.sub (.finite now)).le (.finite 0) = limit.le (.finite now) := by
  have shift : ∀ value : ℚ, (PyFloat.finite (value + -now)).le (.finite 0) =
      (PyFloat.finite value).le (.finite now) := by
    intro value
    rw [Bool.eq_iff_iff, finite_le_finite_iff, finite_le_finite_iff, ← sub_eq_add_neg,
      sub_nonpos]
  by_cases zero : now = 0
  · subst zero
    cases limit with
    | finite value => simp [sub, add, neg, toRat?]
    | negZero => simp [sub, add, neg, toRat?, negZero_le]
    | posInf | negInf | nan => rfl
  · cases limit with
    | finite value => simpa [sub, add, neg, toRat?, zero] using shift value
    | negZero => simpa [sub, add, neg, toRat?, zero, negZero_le] using shift 0
    | posInf | negInf | nan => simp [sub, add, neg, le, zero]

/-- Less remains up to a limit than a delay exactly when the limit comes before the
end of the delay. -/
theorem sub_finite_lt (limit : PyFloat) (now delay : ℚ) :
    (limit.sub (.finite now)).lt (.finite delay) = limit.lt (.finite (now + delay)) := by
  have shift : ∀ value : ℚ, (PyFloat.finite (value + -now)).lt (.finite delay) =
      (PyFloat.finite value).lt (.finite (now + delay)) := by
    intro value
    simp only [lt]
    congr 1
    rw [Bool.eq_iff_iff, finite_le_finite_iff, finite_le_finite_iff, ← sub_eq_add_neg,
      le_sub_iff_add_le']
  have negZero_lt : ∀ right : ℚ, PyFloat.negZero.lt (.finite right) =
      (PyFloat.finite 0).lt (.finite right) := fun _ => rfl
  by_cases zero : now = 0
  · subst zero
    cases limit with
    | finite value => simp [sub, add, neg, toRat?]
    | negZero => simp [sub, add, neg, toRat?, negZero_lt]
    | posInf | negInf | nan => rfl
  · cases limit with
    | finite value => simpa [sub, add, neg, toRat?, zero] using shift value
    | negZero => simpa [sub, add, neg, toRat?, zero, negZero_lt] using shift 0
    | posInf | negInf | nan => simp [sub, add, neg, lt, le, zero]

/-- A limit that comes before an instant comes before every later one. -/
theorem le_finite_of_le {limit : PyFloat} {earlier later : ℚ} (ordered : earlier ≤ later)
    (reached : limit.le (.finite earlier) = true) : limit.le (.finite later) = true := by
  cases limit with
  | finite value | negZero =>
      simp only [le, toRat?, Option.getD_some] at reached ⊢
      exact decide_eq_true ((of_decide_eq_true reached).trans ordered)
  | posInf | nan => simp [le] at reached
  | negInf => simp [le]

theorem le_finite_of_lt {limit : PyFloat} {instant : ℚ}
    (passed : limit.lt (.finite instant) = true) : limit.le (.finite instant) = true := by
  cases limit with
  | finite value | negZero =>
      simp only [lt, le, toRat?, Option.getD_some, Bool.not_eq_true'] at passed ⊢
      exact decide_eq_true (not_le.mp (of_decide_eq_false passed)).le
  | posInf | nan => simp [lt, le] at passed
  | negInf => simp [le]

end PyFloat

namespace RetryPolicy

theorem backoffFor_nonneg (policy : RetryPolicy) (attempt : Nat) :
    0 ≤ policy.backoffFor attempt :=
  le_min (mul_nonneg policy.baseBackoffSeconds_nonneg
    (pow_nonneg (zero_le_one.trans policy.one_le_backoffFactor) _))
    policy.maxBackoffSeconds_nonneg

theorem backoffFor_le (policy : RetryPolicy) (attempt : Nat) :
    policy.backoffFor attempt ≤ policy.maxBackoffSeconds := min_le_right _ _

/-- Delays do not get shorter. -/
theorem backoffFor_mono (policy : RetryPolicy) : Monotone policy.backoffFor := by
  intro earlier later ordered
  refine min_le_min_right _ (mul_le_mul_of_nonneg_left ?_ policy.baseBackoffSeconds_nonneg)
  exact pow_le_pow_right₀ policy.one_le_backoffFactor (by omega)

end RetryPolicy

section Loop

variable {α : Type} {policy : RetryPolicy} {deadline : Option PyFloat}
variable {texts : RetryTexts}

/-- The shape of the trace of a loop that starts at the given attempt: one case for
each way an iteration ends. -/
inductive Traced (policy : RetryPolicy) (deadline : Option PyFloat)
    (clock : MonotoneClock policy) (answer : Nat → Except Raised α) :
    Nat → RetryTrace α → Prop
  /-- The deadline has been reached. -/
  | late {attempt : Nat} {limit : PyFloat} {message : String}
      (limited : deadline = some limit)
      (reached : limit.le (.finite (clock.before attempt)) = true) :
      Traced policy deadline clock answer attempt ⟨.error (.toolError .timeout message), [], []⟩
  /-- The attempt is the last one. -/
  | final {attempt : Nat}
      (inTime : ∀ limit, deadline = some limit →
        limit.le (.finite (clock.before attempt)) = false)
      (last : ¬RetriedAnswer policy (answer attempt) ∨ policy.maxAttempts ≤ attempt) :
      Traced policy deadline clock answer attempt
        ⟨answer attempt, [⟨attempt, .finite (clock.before attempt), answer attempt⟩], []⟩
  /-- The deadline leaves no time for the backoff. -/
  | tooLong {attempt : Nat} {limit : PyFloat} {message : String}
      (inTime : ∀ limit, deadline = some limit →
        limit.le (.finite (clock.before attempt)) = false)
      (retried : RetriedAnswer policy (answer attempt))
      (more : attempt < policy.maxAttempts) (limited : deadline = some limit)
      (reached : limit.le (.finite (clock.before (attempt + 1))) = true) :
      Traced policy deadline clock answer attempt
        ⟨.error (.toolError .timeout message),
          [⟨attempt, .finite (clock.before attempt), answer attempt⟩], []⟩
  /-- The loop sleeps and goes on. -/
  | again {attempt : Nat} {rest : RetryTrace α}
      (inTime : ∀ limit, deadline = some limit →
        limit.le (.finite (clock.before attempt)) = false)
      (retried : RetriedAnswer policy (answer attempt))
      (more : attempt < policy.maxAttempts)
      (fits : ∀ limit, deadline = some limit →
        limit.lt (.finite (clock.after attempt + policy.backoffFor attempt)) = false)
      (follows : Traced policy deadline clock answer (attempt + 1) rest) :
      Traced policy deadline clock answer attempt
        ⟨rest.result,
          ⟨attempt, .finite (clock.before attempt), answer attempt⟩ :: rest.calls,
          ⟨attempt, .finite (clock.after attempt), policy.backoffFor attempt⟩ :: rest.sleeps⟩

variable {clock : MonotoneClock policy} {answer : Nat → Except Raised α}

/-- One iteration, given what the iterations after it do. -/
theorem tracedLoop_step (remaining attempt : Nat) (lastError : Option Raised)
    (next : attempt < policy.maxAttempts → ∀ failure, Traced policy deadline clock answer
      (attempt + 1) (tracedLoop policy deadline texts (clock.attempts answer) remaining
        (attempt + 1) (some failure))) :
    Traced policy deadline clock answer attempt
      (tracedLoop policy deadline texts (clock.attempts answer) (remaining + 1) attempt
        lastError) := by
  simp only [tracedLoop, MonotoneClock.attempts, PyFloat.sub_finite_le_zero,
    PyFloat.sub_finite_lt]
  split
  next exhausted =>
    obtain ⟨limit, limited, reached⟩ := (Option.any_eq_true _ _).mp exhausted
    exact .late limited reached
  next started =>
    have inTime : ∀ limit, deadline = some limit →
        limit.le (.finite (clock.before attempt)) = false := by
      rintro limit rfl
      simpa using started
    have final : ∀ result, answer attempt = result →
        (¬RetriedAnswer policy result ∨ policy.maxAttempts ≤ attempt) →
        Traced policy deadline clock answer attempt
          ⟨result, [⟨attempt, .finite (clock.before attempt), result⟩], []⟩ := by
      rintro _ rfl last
      exact .final inTime last
    cases outcome : answer attempt with
    | ok value => exact final _ outcome (.inl (by simp [RetriedAnswer]))
    | error failure =>
        cases failure with
        | exception _ _ | baseException _ =>
            exact final _ outcome (.inl (by simp [RetriedAnswer]))
        | toolError code message =>
            dsimp only
            split
            next stopped =>
              exact final _ outcome (stopped.imp_left fun definite => by
                simp [RetriedAnswer, definite])
            next retried =>
              rw [not_or, Bool.not_eq_false, Nat.not_le] at retried
              have repeated : RetriedAnswer policy (answer attempt) :=
                ⟨code, message, outcome, retried.1⟩
              split
              next limit tooLong =>
                rw [← outcome]
                rw [Option.filter_eq_some_iff, Bool.or_eq_true] at tooLong
                obtain ⟨limited, reached⟩ := tooLong
                refine .tooLong inTime repeated retried.2 limited ?_
                cases reached with
                | inl reached =>
                    exact PyFloat.le_finite_of_le ((le_add_of_nonneg_right
                      (policy.backoffFor_nonneg attempt)).trans (clock.slept attempt)) reached
                | inr passed =>
                    exact PyFloat.le_finite_of_le (clock.slept attempt)
                      (PyFloat.le_finite_of_lt passed)
              next fits =>
                rw [← outcome]
                refine .again inTime repeated retried.2 ?_ (next retried.2 _)
                rintro limit rfl
                simp only [Option.filter_eq_none_iff, Bool.not_eq_true,
                  Bool.or_eq_false_iff] at fits
                exact (fits limit rfl).2

/-- By induction on the iterations to go, within the budget of `retryLoop_follows`. -/
theorem tracedLoop_traced (remaining attempt : Nat) (lastError : Option Raised)
    (budget : policy.maxAttempts + 1 ≤ attempt + (remaining + 1)) :
    Traced policy deadline clock answer attempt
      (tracedLoop policy deadline texts (clock.attempts answer) (remaining + 1) attempt
        lastError) := by
  induction remaining generalizing attempt lastError with
  | zero => exact tracedLoop_step 0 attempt lastError (fun more => by omega)
  | succ remaining ih =>
      exact tracedLoop_step (remaining + 1) attempt lastError
        (fun _ failure => ih (attempt + 1) (some failure) (by omega))

theorem tracedRetry_traced :
    Traced policy deadline clock answer 1
      (tracedRetry policy deadline texts (clock.attempts answer)) := by
  obtain ⟨remaining, maxAttempts_eq⟩ : ∃ remaining, policy.maxAttempts = remaining + 1 :=
    ⟨policy.maxAttempts - 1, by have := policy.maxAttempts_pos; omega⟩
  rw [tracedRetry, maxAttempts_eq]
  exact tracedLoop_traced remaining 1 none (by omega)

/-! ### What a trace comes to -/

/-- How a loop that starts at attempt `first` ends. -/
inductive RetryTrace.Ends (policy : RetryPolicy) (deadline : Option PyFloat)
    (clock : MonotoneClock policy) (first : Nat) (trace : RetryTrace α) : Prop
  /-- With what the last attempt returned or raised, which is not to be repeated. -/
  | answered {earlier : List (RetryCall α)} {last : RetryCall α}
      (calls_eq : trace.calls = earlier ++ [last]) (result_eq : trace.result = last.answer)
      (done : ¬RetriedAnswer policy last.answer ∨ policy.maxAttempts ≤ last.attempt)
  /-- With `TIMEOUT`, as the next attempt would start at the deadline or later. -/
  | prevented {limit : PyFloat} {message : String}
      (result_eq : trace.result = .error (.toolError .timeout message))
      (failed : ∀ call ∈ trace.calls, RetriedAnswer policy call.answer)
      (more : first + trace.calls.length ≤ policy.maxAttempts) (limited : deadline = some limit)
      (reached : limit.le (.finite (clock.before (first + trace.calls.length))) = true)

namespace Traced

variable {first : Nat} {trace : RetryTrace α}

theorem calls_eq (traced : Traced policy deadline clock answer first trace) :
    trace.calls = (List.range' first trace.calls.length).map fun attempt =>
      ⟨attempt, .finite (clock.before attempt), answer attempt⟩ := by
  induction traced with
  | late | final | tooLong => simp
  | again _ _ _ _ _ ih => simpa [List.range'_succ] using ih

theorem sleeps_eq (traced : Traced policy deadline clock answer first trace) :
    trace.sleeps = (List.range' first trace.sleeps.length).map fun attempt =>
      ⟨attempt, .finite (clock.after attempt), policy.backoffFor attempt⟩ := by
  induction traced with
  | late | final | tooLong => simp
  | again _ _ _ _ _ ih => simpa [List.range'_succ] using ih

theorem calls_length_le (traced : Traced policy deadline clock answer first trace)
    (within : first ≤ policy.maxAttempts) :
    first + trace.calls.length ≤ policy.maxAttempts + 1 := by
  induction traced with
  | late | final | tooLong => simp; omega
  | again _ _ more _ _ ih =>
      have := ih more
      simp only [List.length_cons]
      omega

/-- Every call that another one follows has failed with a retried error. -/
theorem retried (traced : Traced policy deadline clock answer first trace) :
    ∀ call ∈ trace.calls.dropLast, RetriedAnswer policy call.answer := by
  induction traced with
  | late | final | tooLong => simp
  | @again attempt rest _ failed _ _ _ ih =>
      intro call member
      cases calls : rest.calls with
      | nil => simp [calls] at member
      | cons next later =>
          rw [calls, List.dropLast_cons_cons, List.mem_cons] at member
          cases member with
          | inl here => exact here ▸ failed
          | inr there => exact ih call (calls ▸ there)

/-- No attempt starts at or after the deadline. -/
theorem inTime (traced : Traced policy deadline clock answer first trace) :
    ∀ call ∈ trace.calls, ∀ limit, deadline = some limit → limit.le call.start = false := by
  induction traced with
  | late => simp
  | final early | tooLong early => simpa using early
  | again early _ _ _ _ ih =>
      intro call member
      cases List.mem_cons.mp member with
      | inl here => exact here ▸ early
      | inr there => exact ih call there

/-- No sleep is begun that ends after the deadline. -/
theorem sleepFits (traced : Traced policy deadline clock answer first trace) :
    ∀ sleep ∈ trace.sleeps, ∀ limit, deadline = some limit →
      limit.lt (sleep.start.add (.finite sleep.delay)) = false := by
  induction traced with
  | late | final | tooLong => simp
  | again _ _ _ fits _ ih =>
      intro sleep member
      cases List.mem_cons.mp member with
      | inl here => exact here ▸ fits
      | inr there => exact ih sleep there

theorem ends (traced : Traced policy deadline clock answer first trace)
    (within : first ≤ policy.maxAttempts) : trace.Ends policy deadline clock first := by
  induction traced with
  | late limited reached => exact .prevented rfl (by simp) within limited reached
  | @final attempt _ last => exact .answered (List.nil_append _).symm rfl last
  | @tooLong attempt limit message _ failed more limited reached =>
      exact .prevented rfl (by simpa using failed) more limited reached
  | @again attempt rest _ failed more _ _ ih =>
      cases ih more with
      | @answered earlier last calls result done =>
          have longer : (⟨attempt, .finite (clock.before attempt), answer attempt⟩ ::
              rest.calls : List (RetryCall α)) =
              (⟨attempt, .finite (clock.before attempt), answer attempt⟩ :: earlier) ++ [last] := by
            simp [calls]
          exact .answered longer result done
      | prevented result all more limited reached =>
          have shift : attempt + (rest.calls.length + 1) = attempt + 1 + rest.calls.length := by
            omega
          refine .prevented result ?_ (by simpa [shift] using more) limited
            (by simpa [shift] using reached)
          intro call member
          cases List.mem_cons.mp member with
          | inl here => exact here ▸ failed
          | inr there => exact all call there

end Traced

/-- The loop is bounded and faithful to its attempts. -/
structure RetryTrace.BoundedFaithful (policy : RetryPolicy) (deadline : Option PyFloat)
    (clock : MonotoneClock policy) (answer : Nat → Except Raised α)
    (trace : RetryTrace α) : Prop where
  calls_eq : trace.calls = (List.range' 1 trace.calls.length).map fun attempt =>
    ⟨attempt, .finite (clock.before attempt), answer attempt⟩
  calls_le : trace.calls.length ≤ policy.maxAttempts
  retried : ∀ call ∈ trace.calls.dropLast, ∃ code message,
    call.answer = .error (.toolError code message) ∧ code ∈ policy.retryableCodes ∧
      code ∉ neverRetryCodes
  inTime : ∀ call ∈ trace.calls, ∀ limit, deadline = some limit → limit.le call.start = false
  sleeps_eq : trace.sleeps = (List.range' 1 trace.sleeps.length).map fun attempt =>
    ⟨attempt, .finite (clock.after attempt), policy.backoffFor attempt⟩
  sleepFits : ∀ sleep ∈ trace.sleeps, ∀ limit, deadline = some limit →
    limit.lt (sleep.start.add (.finite sleep.delay)) = false
  delaysGrow : (trace.sleeps.map BackoffSleep.delay).Pairwise (· ≤ ·)
  delaysCapped : ∀ sleep ∈ trace.sleeps, sleep.delay ≤ policy.maxBackoffSeconds
  ends : trace.Ends policy deadline clock 1

end Loop

end Era.Core
