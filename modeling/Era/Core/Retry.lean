import Mathlib.Tactic.NormNum
import Era.Core.Result

/-!
# Retry policy and retry loop

The loop calls a provider at most `max_attempts` times, repeats only after a
retryable code and never starts an attempt, or sleeps, past the deadline.  The
answers of the provider and the readings of the monotonic clock are the inputs
of one run of the loop.
-/

namespace Era.Core

/-- Hard bound on `max_attempts`. -/
def maxAttemptsBound : Nat := 10

/-- Failures considered safe to retry by default. -/
def defaultRetryableCodes : List ProviderErrorCode := [.unavailable, .providerError]

/-- Codes that are never retried, whatever the policy says. -/
def neverRetryCodes : List ProviderErrorCode :=
  [.validation, .auth, .forbidden, .notFound, .conflict, .timeout,
    .sideEffectUnknown, .notImplemented, .internal, .unknown]

theorem singleAttempt_pos : 1 ≤ 1 := le_rfl

theorem singleAttempt_le : 1 ≤ maxAttemptsBound := by decide

theorem defaultMaxAttempts_pos : 1 ≤ 3 := by decide

theorem defaultMaxAttempts_le : 3 ≤ maxAttemptsBound := by decide

theorem defaultBaseBackoff_nonneg : (0 : ℚ) ≤ 1 / 10 := by norm_num

theorem defaultMaxBackoff_nonneg : (0 : ℚ) ≤ 2 := by norm_num

theorem one_le_defaultBackoffFactor : (1 : ℚ) ≤ 2 := by norm_num

/-- Configuration of the retry loop.  The checks of `__post_init__` are fields,
so a policy that exists has passed them. -/
structure RetryPolicy where
  maxAttempts : Nat := 3
  baseBackoffSeconds : ℚ := 1 / 10
  maxBackoffSeconds : ℚ := 2
  backoffFactor : ℚ := 2
  retryableCodes : List ProviderErrorCode := defaultRetryableCodes
  maxAttempts_pos : 1 ≤ maxAttempts := by
    first | exact defaultMaxAttempts_pos | decide
  maxAttempts_le : maxAttempts ≤ maxAttemptsBound := by
    first | exact defaultMaxAttempts_le | decide
  baseBackoffSeconds_nonneg : 0 ≤ baseBackoffSeconds := by
    first | exact defaultBaseBackoff_nonneg | norm_num
  maxBackoffSeconds_nonneg : 0 ≤ maxBackoffSeconds := by
    first | exact defaultMaxBackoff_nonneg | norm_num
  one_le_backoffFactor : 1 ≤ backoffFactor := by
    first | exact one_le_defaultBackoffFactor | norm_num

namespace RetryPolicy

/-- True only for explicitly retryable codes; never-retry codes win. -/
def isRetryable (policy : RetryPolicy) (code : ProviderErrorCode) : Bool :=
  if code ∈ neverRetryCodes then false else code ∈ policy.retryableCodes

/-- Exponential backoff before attempt `attempt + 1`. -/
def backoffFor (policy : RetryPolicy) (attempt : Nat) : ℚ :=
  min (policy.baseBackoffSeconds * policy.backoffFactor ^ (max attempt 1 - 1))
    policy.maxBackoffSeconds

/-- `dataclasses.replace(policy, max_attempts=1)`. -/
def singleAttempt (policy : RetryPolicy) : RetryPolicy :=
  { policy with
    maxAttempts := 1
    maxAttempts_pos := singleAttempt_pos
    maxAttempts_le := singleAttempt_le }

@[simp] theorem singleAttempt_maxAttempts (policy : RetryPolicy) :
    policy.singleAttempt.maxAttempts = 1 := rfl

@[simp] theorem singleAttempt_isRetryable (policy : RetryPolicy)
    (code : ProviderErrorCode) :
    policy.singleAttempt.isRetryable code = policy.isRetryable code := rfl

/-- A retryable code is one of the two transient codes. -/
theorem isRetryable_transient {policy : RetryPolicy} {code : ProviderErrorCode}
    (retryable : policy.isRetryable code = true) :
    code = .unavailable ∨ code = .providerError := by
  cases code <;> simp [isRetryable, neverRetryCodes] at retryable ⊢

end RetryPolicy

/-- Readings of the monotonic clock around one attempt: before it starts and
after it has failed. -/
structure AttemptClock where
  before : PyFloat
  after : PyFloat

/-- What a provider does in one dispatch: the answer to each numbered call of
`execute`, should the call be made, and the clock around it. -/
structure Attempts (α : Type) where
  answer : Nat → Except Raised α
  clock : Nat → AttemptClock

/-- Result of the retry loop together with the answers of the calls it made, in
order. -/
structure RetryRun (α : Type) where
  result : Except Raised α
  calls : List (Except Raised α)

/-- How the loop words its own errors; `%g` formatting of seconds is left to the
platform. -/
structure RetryTexts where
  stage : String := "execute"
  formatSeconds : PyFloat → String

namespace RetryTexts

def budgetExhausted (texts : RetryTexts) : Raised :=
  .toolError .timeout
    ("provider " ++ texts.stage ++ " retry budget exhausted (deadline reached)")

def backoffExceeds (texts : RetryTexts) (delay remaining : PyFloat) : Raised :=
  .toolError .timeout
    ("provider " ++ texts.stage ++ " retry budget exhausted (backoff " ++
      texts.formatSeconds delay ++ "s exceeds remaining " ++
      texts.formatSeconds (if remaining.lt (.finite 0) then .finite 0 else remaining) ++ "s)")

def noResult (texts : RetryTexts) : Raised :=
  .toolError .internal
    ("provider " ++ texts.stage ++ " retry loop terminated without result")

end RetryTexts

/-- The `for` loop of `with_retry`, with `remaining` iterations to go before
attempt number `attempt`; `lastError` is what the loop re-raises if it ever runs
out of iterations. -/
def retryLoop {α : Type} (policy : RetryPolicy) (deadline : Option PyFloat)
    (texts : RetryTexts) (attempts : Attempts α) :
    (remaining attempt : Nat) → (lastError : Option Raised) → RetryRun α
  | 0, _, lastError => ⟨.error (lastError.getD texts.noResult), []⟩
  | remaining + 1, attempt, _ =>
      let clock := attempts.clock attempt
      if deadline.any fun limit => (limit.sub clock.before).le (.finite 0) then
        ⟨.error texts.budgetExhausted, []⟩
      else
        match attempts.answer attempt with
        | .ok value => ⟨.ok value, [.ok value]⟩
        | .error (.toolError code message) =>
            let failure := Raised.toolError code message
            if policy.isRetryable code = false ∨ policy.maxAttempts ≤ attempt then
              ⟨.error failure, [.error failure]⟩
            else
              let delay := PyFloat.finite (policy.backoffFor attempt)
              match deadline.filter fun limit =>
                  (limit.sub clock.after).le (.finite 0) ||
                    (limit.sub clock.after).lt delay with
              | some limit =>
                  ⟨.error (texts.backoffExceeds delay (limit.sub clock.after)),
                    [.error failure]⟩
              | none =>
                  let rest := retryLoop policy deadline texts attempts
                    remaining (attempt + 1) (some failure)
                  ⟨rest.result, .error failure :: rest.calls⟩
        | .error failure => ⟨.error failure, [.error failure]⟩

/-- Run `execute` with bounded, deadline-aware retries. -/
def withRetry {α : Type} (policy : RetryPolicy) (deadline : Option PyFloat)
    (texts : RetryTexts) (attempts : Attempts α) : RetryRun α :=
  retryLoop policy deadline texts attempts policy.maxAttempts 1 none

section Loop

variable {α : Type} {policy : RetryPolicy} {deadline : Option PyFloat}
variable {texts : RetryTexts} {attempts : Attempts α}

/-- What one iteration can do: refuse to start, make a call and stop with an
answer that is not retried, make a call and stop because the backoff does not
fit, or make a call and go on. -/
theorem retryLoop_succ_cases (policy : RetryPolicy) (deadline : Option PyFloat)
    (texts : RetryTexts) (attempts : Attempts α) (remaining attempt : Nat)
    (lastError : Option Raised) :
    let run := retryLoop policy deadline texts attempts (remaining + 1) attempt lastError
    (run.result = .error texts.budgetExhausted ∧ run.calls = []) ∨
    (run.result = attempts.answer attempt ∧ run.calls = [attempts.answer attempt]) ∨
    (∃ code message delay left,
      attempts.answer attempt = .error (.toolError code message) ∧
      policy.isRetryable code = true ∧
      run.result = .error (texts.backoffExceeds delay left) ∧
      run.calls = [attempts.answer attempt]) ∨
    (∃ code message,
      attempts.answer attempt = .error (.toolError code message) ∧
      policy.isRetryable code = true ∧ attempt < policy.maxAttempts ∧
      let rest := retryLoop policy deadline texts attempts remaining (attempt + 1)
        (some (.toolError code message))
      run.result = rest.result ∧ run.calls = attempts.answer attempt :: rest.calls) := by
  intro run
  simp only [run, retryLoop]
  split
  · exact .inl ⟨rfl, rfl⟩
  · cases answer : attempts.answer attempt with
    | ok value => exact .inr (.inl ⟨rfl, rfl⟩)
    | error failure =>
        cases failure with
        | exception typeName message => exact .inr (.inl ⟨rfl, rfl⟩)
        | baseException typeName => exact .inr (.inl ⟨rfl, rfl⟩)
        | toolError code message =>
            dsimp only
            split
            · exact .inr (.inl ⟨rfl, rfl⟩)
            next retried =>
              rw [not_or, Bool.not_eq_false, Nat.not_le] at retried
              split
              next limit _ =>
                exact .inr (.inr (.inl ⟨code, message, _, _, rfl, retried.1, rfl, rfl⟩))
              · exact .inr (.inr (.inr ⟨code, message, rfl, retried.1, retried.2, rfl, rfl⟩))

/-- An answer is an error the policy retries. -/
def RetriedAnswer (policy : RetryPolicy) (answer : Except Raised α) : Prop :=
  ∃ code message, answer = .error (.toolError code message) ∧ policy.isRetryable code = true

/-- What a run of the loop that starts at attempt `first` looks like: its calls
are consecutive attempts, all but the last failed with a retried error, and the
result is either the answer of the last call or the loop's own `TIMEOUT` after
nothing but retried errors. -/
structure RetryRun.Follows (policy : RetryPolicy) (attempts : Attempts α) (first : Nat)
    (run : RetryRun α) : Prop where
  calls_eq : run.calls =
    (List.range run.calls.length).map fun index => attempts.answer (first + index)
  retried : ∀ index, index + 1 < run.calls.length →
    RetriedAnswer policy (attempts.answer (first + index))
  result_eq :
    (∃ message, run.result = .error (.toolError .timeout message) ∧
      ∀ index, index < run.calls.length →
        RetriedAnswer policy (attempts.answer (first + index))) ∨
    ∃ last, run.calls.length = last + 1 ∧ run.result = attempts.answer (first + last)

/-- One more retried call in front of a run. -/
theorem RetryRun.Follows.cons {first : Nat} {run rest : RetryRun α}
    (follows : rest.Follows policy attempts (first + 1))
    (retried : RetriedAnswer policy (attempts.answer first))
    (result_eq : run.result = rest.result)
    (calls_eq : run.calls = attempts.answer first :: rest.calls) :
    run.Follows policy attempts first := by
  have length_eq : run.calls.length = rest.calls.length + 1 := by simp [calls_eq]
  have shifted : ∀ index, first + 1 + index = first + (index + 1) := by intro index; omega
  refine ⟨?_, ?_, ?_⟩
  · rw [length_eq, List.range_succ_eq_map, List.map_cons, List.map_map, calls_eq]
    congr 1
    rw [follows.calls_eq]
    simp only [List.length_map, List.length_range, shifted, Function.comp_def,
      Nat.succ_eq_add_one]
  · intro index inside
    cases index with
    | zero => exact retried
    | succ index =>
        rw [← shifted]
        exact follows.retried index (by omega)
  · cases follows.result_eq with
    | inl timedOut =>
        obtain ⟨message, result, all⟩ := timedOut
        refine .inl ⟨message, result_eq.trans result, ?_⟩
        intro index inside
        cases index with
        | zero => exact retried
        | succ index =>
            rw [← shifted]
            exact all index (by omega)
    | inr answered =>
        obtain ⟨last, lastIs, result⟩ := answered
        refine .inr ⟨last + 1, by omega, ?_⟩
        rw [result_eq, result, shifted]

/-- By induction on the iterations to go; as long as the loop still has the
iterations its policy allows, it cannot fall through to its last line. -/
theorem retryLoop_follows (remaining attempt : Nat) (lastError : Option Raised)
    (budget : policy.maxAttempts + 1 ≤ attempt + (remaining + 1)) :
    (retryLoop policy deadline texts attempts (remaining + 1) attempt lastError).Follows
      policy attempts attempt := by
  induction remaining generalizing attempt lastError with
  | zero =>
      obtain ⟨result, calls⟩ | ⟨result, calls⟩ | ⟨code, message, delay, left, answer,
        retryable, result, calls⟩ | ⟨code, message, answer, retryable, more, _, _⟩ :=
        retryLoop_succ_cases policy deadline texts attempts 0 attempt lastError
      · exact ⟨by simp [calls], by simp [calls], .inl ⟨_, result, by simp [calls]⟩⟩
      · exact ⟨by simp [calls], by simp [calls], .inr ⟨0, by simp [calls], result⟩⟩
      · refine ⟨by simp [calls], by simp [calls], .inl ⟨_, result, ?_⟩⟩
        intro index inside
        obtain rfl : index = 0 := by simpa [calls] using inside
        exact ⟨code, message, answer, retryable⟩
      · omega
  | succ remaining ih =>
      obtain ⟨result, calls⟩ | ⟨result, calls⟩ | ⟨code, message, delay, left, answer,
        retryable, result, calls⟩ | ⟨code, message, answer, retryable, more, result, calls⟩ :=
        retryLoop_succ_cases policy deadline texts attempts (remaining + 1) attempt lastError
      · exact ⟨by simp [calls], by simp [calls], .inl ⟨_, result, by simp [calls]⟩⟩
      · exact ⟨by simp [calls], by simp [calls], .inr ⟨0, by simp [calls], result⟩⟩
      · refine ⟨by simp [calls], by simp [calls], .inl ⟨_, result, ?_⟩⟩
        intro index inside
        obtain rfl : index = 0 := by simpa [calls] using inside
        exact ⟨code, message, answer, retryable⟩
      · exact (ih (attempt + 1) _ (by omega)).cons ⟨code, message, answer, retryable⟩
          result calls

theorem retryLoop_calls_length_le (remaining attempt : Nat) (lastError : Option Raised) :
    (retryLoop policy deadline texts attempts remaining attempt lastError).calls.length ≤
      remaining := by
  induction remaining generalizing attempt lastError with
  | zero => simp [retryLoop]
  | succ remaining ih =>
      obtain ⟨_, calls⟩ | ⟨_, calls⟩ | ⟨_, _, _, _, _, _, _, calls⟩ |
        ⟨code, message, _, _, _, _, calls⟩ :=
        retryLoop_succ_cases policy deadline texts attempts remaining attempt lastError
      · simp [calls]
      · simp [calls]
      · simp [calls]
      · rw [calls, List.length_cons]
        exact Nat.succ_le_succ (ih (attempt + 1) _)

/-- A dispatch makes at most `max_attempts` calls. -/
theorem withRetry_calls_length_le :
    (withRetry policy deadline texts attempts).calls.length ≤ policy.maxAttempts :=
  retryLoop_calls_length_le policy.maxAttempts 1 none

theorem withRetry_follows :
    (withRetry policy deadline texts attempts).Follows policy attempts 1 := by
  obtain ⟨remaining, maxAttempts_eq⟩ : ∃ remaining, policy.maxAttempts = remaining + 1 :=
    ⟨policy.maxAttempts - 1, by have := policy.maxAttempts_pos; omega⟩
  rw [withRetry, maxAttempts_eq]
  exact retryLoop_follows remaining 1 none (by omega)

/-- A run that made calls ends with its last call, or gives up after it; the calls
before the last were all retried. -/
theorem RetryRun.Follows.ends {first : Nat} {run : RetryRun α}
    (follows : run.Follows policy attempts first) (called : run.calls ≠ []) :
    ∃ earlier last, run.calls = earlier ++ [last] ∧
      (∀ answer ∈ earlier, RetriedAnswer policy answer) ∧
      (run.result = last ∨ RetriedAnswer policy last ∧
        ∃ message, run.result = .error (.toolError .timeout message)) := by
  obtain ⟨count, length_eq⟩ : ∃ count, run.calls.length = count + 1 :=
    Nat.exists_eq_add_one.mpr (List.length_pos_iff.mpr called)
  refine ⟨(List.range count).map fun index => attempts.answer (first + index),
    attempts.answer (first + count), ?_, ?_, ?_⟩
  · rw [follows.calls_eq, length_eq, List.range_succ, List.map_append, List.map_singleton]
  · intro answer member
    obtain ⟨index, inside, rfl⟩ := List.mem_map.mp member
    exact follows.retried index (by simp at inside; omega)
  · cases follows.result_eq with
    | inl gaveUp =>
        obtain ⟨message, result, retried⟩ := gaveUp
        exact .inr ⟨retried count (by omega), message, result⟩
    | inr answered =>
        obtain ⟨last, lastIs, result⟩ := answered
        obtain rfl : last = count := by omega
        exact .inl result

/-! ### Which calls the loop makes -/

/-- The deadline lets an attempt start. -/
def Starts (deadline : Option PyFloat) (attempts : Attempts α) (attempt : Nat) : Prop :=
  deadline.any (fun limit => (limit.sub (attempts.clock attempt).before).le (.finite 0)) = false

/-- An attempt that the loop repeats: its error is retried, attempts are left and
the backoff fits before the deadline. -/
structure Repeats (policy : RetryPolicy) (deadline : Option PyFloat) (attempts : Attempts α)
    (attempt : Nat) : Prop where
  retried : RetriedAnswer policy (attempts.answer attempt)
  attemptsLeft : attempt < policy.maxAttempts
  backoffFits : deadline.filter (fun limit =>
    (limit.sub (attempts.clock attempt).after).le (.finite 0) ||
      (limit.sub (attempts.clock attempt).after).lt (.finite (policy.backoffFor attempt))) = none

/-- The loop from attempt `first` on gets to the attempt that comes `index` later. -/
def GetsTo (policy : RetryPolicy) (deadline : Option PyFloat) (attempts : Attempts α)
    (first : Nat) : (index : Nat) → Prop
  | 0 => Starts deadline attempts first
  | index + 1 => Starts deadline attempts first ∧ Repeats policy deadline attempts first ∧
      GetsTo policy deadline attempts (first + 1) index

/-- The number of calls, by what happens to the first. -/
theorem retryLoop_calls_length_cases (policy : RetryPolicy) (deadline : Option PyFloat)
    (texts : RetryTexts) (attempts : Attempts α) (remaining attempt : Nat)
    (lastError : Option Raised) :
    let run := retryLoop policy deadline texts attempts (remaining + 1) attempt lastError
    (¬Starts deadline attempts attempt ∧ run.calls.length = 0) ∨
    (Starts deadline attempts attempt ∧ ¬Repeats policy deadline attempts attempt ∧
      run.calls.length = 1) ∨
    (Starts deadline attempts attempt ∧ Repeats policy deadline attempts attempt ∧
      ∃ failure, run.calls.length =
        (retryLoop policy deadline texts attempts remaining (attempt + 1)
          (some failure)).calls.length + 1) := by
  intro run
  simp only [run, retryLoop]
  split
  next exhausted => exact .inl ⟨by simp [Starts, exhausted], rfl⟩
  next inTime =>
    have starts : Starts deadline attempts attempt := Bool.eq_false_iff.mpr inTime
    cases answer : attempts.answer attempt with
    | ok value =>
        refine .inr (.inl ⟨starts, fun repeated => ?_, rfl⟩)
        obtain ⟨_, _, failed, _⟩ := repeated.retried
        cases answer.symm.trans failed
    | error failure =>
        cases failure with
        | exception _ _ | baseException _ =>
            refine .inr (.inl ⟨starts, fun repeated => ?_, rfl⟩)
            obtain ⟨_, _, failed, _⟩ := repeated.retried
            cases answer.symm.trans failed
        | toolError code message =>
            dsimp only
            split
            next final =>
              refine .inr (.inl ⟨starts, fun repeated => ?_, rfl⟩)
              obtain ⟨_, _, failed, retryable⟩ := repeated.retried
              cases answer.symm.trans failed
              cases final with
              | inl definite => exact Bool.false_ne_true (definite.symm.trans retryable)
              | inr last => exact absurd repeated.attemptsLeft (Nat.not_lt.mpr last)
            next retried =>
              rw [not_or, Bool.not_eq_false, Nat.not_le] at retried
              split
              next limit tooLong =>
                refine .inr (.inl ⟨starts, fun repeated => ?_, rfl⟩)
                cases tooLong.symm.trans repeated.backoffFits
              next fits =>
                exact .inr (.inr ⟨starts, ⟨⟨code, message, answer, retried.1⟩, retried.2, fits⟩,
                  _, rfl⟩)

/-- By induction on the iterations to go, within the budget of `retryLoop_follows`. -/
theorem lt_retryLoop_calls_length_iff (remaining attempt index : Nat)
    (lastError : Option Raised) (budget : policy.maxAttempts + 1 ≤ attempt + (remaining + 1)) :
    index < (retryLoop policy deadline texts attempts (remaining + 1) attempt
      lastError).calls.length ↔ GetsTo policy deadline attempts attempt index := by
  induction remaining generalizing attempt index lastError with
  | zero =>
      obtain ⟨late, length⟩ | ⟨starts, final, length⟩ | ⟨_, repeated, _⟩ :=
        retryLoop_calls_length_cases policy deadline texts attempts 0 attempt lastError
      · cases index <;> simp [length, GetsTo, late]
      · cases index <;> simp [length, GetsTo, starts, final]
      · have := repeated.attemptsLeft
        omega
  | succ remaining ih =>
      obtain ⟨late, length⟩ | ⟨starts, final, length⟩ | ⟨starts, repeated, failure, length⟩ :=
        retryLoop_calls_length_cases policy deadline texts attempts (remaining + 1) attempt
          lastError
      · cases index <;> simp [length, GetsTo, late]
      · cases index <;> simp [length, GetsTo, starts, final]
      · rw [length]
        cases index with
        | zero => simp [GetsTo, starts]
        | succ index =>
            rw [Nat.add_lt_add_iff_right, ih (attempt + 1) index (some failure) (by omega)]
            simp [GetsTo, starts, repeated]

/-- The loop makes exactly the calls that it gets to. -/
theorem lt_withRetry_calls_length_iff {index : Nat} :
    index < (withRetry policy deadline texts attempts).calls.length ↔
      GetsTo policy deadline attempts 1 index := by
  obtain ⟨remaining, maxAttempts_eq⟩ : ∃ remaining, policy.maxAttempts = remaining + 1 :=
    ⟨policy.maxAttempts - 1, by have := policy.maxAttempts_pos; omega⟩
  rw [withRetry, maxAttempts_eq]
  exact lt_retryLoop_calls_length_iff remaining 1 index none (by omega)

/-- A `BaseException` passes the loop. -/
theorem withRetry_baseException_iff {typeName : String} :
    (withRetry policy deadline texts attempts).result = .error (.baseException typeName) ↔
      .error (.baseException typeName) ∈ (withRetry policy deadline texts attempts).calls := by
  have follows : (withRetry policy deadline texts attempts).Follows policy attempts 1 :=
    withRetry_follows
  generalize withRetry policy deadline texts attempts = run at follows
  by_cases called : run.calls = []
  · cases follows.result_eq with
    | inl gaveUp =>
        obtain ⟨message, result, _⟩ := gaveUp
        simp [called, result]
    | inr answered =>
        obtain ⟨last, lastIs, _⟩ := answered
        simp [called] at lastIs
  · obtain ⟨earlier, last, calls, retried, ends⟩ := follows.ends called
    have notRetried : ∀ answer : Except Raised α, RetriedAnswer policy answer →
        answer ≠ .error (.baseException typeName) := by
      rintro _ ⟨code, message, rfl, _⟩
      simp
    constructor
    · intro result
      cases ends with
      | inl same => simp [calls, ← same, result]
      | inr gaveUp =>
          obtain ⟨_, message, timedOut⟩ := gaveUp
          simp [timedOut] at result
    · intro member
      rw [calls] at member
      cases List.mem_append.mp member with
      | inl old => exact absurd rfl (notRetried _ (retried _ old))
      | inr new =>
          obtain rfl := List.mem_singleton.mp new
          cases ends with
          | inl same => exact same
          | inr gaveUp => exact absurd rfl (notRetried _ gaveUp.1)

end Loop

end Era.Core
