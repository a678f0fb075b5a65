import Era.Services.Confirmation
import Era.Services.Idempotency
import Era.Services.Schedules

/-!
# Timestamps in the order of time

Expiry, staleness and due times are decided by comparing the texts of timestamps.  Every
such decision is the one that comparing the instants gives.
-/

namespace Era.Services

open Era.Core

/-! ## Shifted timestamps -/

/-- The time so many seconds after an instant, inside the calendar or not. -/
def timeAfter (start : Instant) (seconds : Int) : Int :=
  start.microseconds + seconds * 1000000

/-- The calendar has an instant at a time. -/
def InCalendar (time : Int) : Prop := 0 ≤ time ∧ time < 3652059 * 86400000000

instance (time : Int) : Decidable (InCalendar time) := inferInstanceAs (Decidable (_ ∧ _))

/-- Comparing with `_add_seconds` is comparing with the instant so many seconds later; the
function raises only where the calendar has no such instant. -/
def ShiftInOrder (start : Instant) (seconds : Int) : Prop :=
  match addSeconds start.isoformat seconds with
  | none => ¬InCalendar (timeAfter start seconds)
  | some shifted => InCalendar (timeAfter start seconds) ∧ ∀ now : Instant,
      (shifted < now.isoformat ↔ timeAfter start seconds < now.microseconds) ∧
      (now.isoformat < shifted ↔ now.microseconds < timeAfter start seconds) ∧
      (shifted ≤ now.isoformat ↔ timeAfter start seconds ≤ now.microseconds) ∧
      (now.isoformat ≤ shifted ↔ now.microseconds ≤ timeAfter start seconds)

theorem addSeconds_eq_none_iff {start : Instant} {seconds : Int} :
    start.addSeconds seconds = none ↔ ¬InCalendar (timeAfter start seconds) := by
  rw [Instant.addSeconds_eq_none, InCalendar, timeAfter]
  omega

theorem timeAfter_of_addSeconds {start shifted : Instant} {seconds : Int}
    (added : start.addSeconds seconds = some shifted) :
    InCalendar (timeAfter start seconds) ∧ timeAfter start seconds = shifted.microseconds := by
  constructor
  · by_contra outside
    rw [addSeconds_eq_none_iff.mpr outside] at added
    cases added
  · exact (Instant.addSeconds_microseconds added).symm

theorem shiftInOrder (start : Instant) (seconds : Int) : ShiftInOrder start seconds := by
  unfold ShiftInOrder
  rw [addSeconds_isoformat]
  cases added : start.addSeconds seconds with
  | none => exact addSeconds_eq_none_iff.mp added
  | some shifted =>
      have ⟨inside, same⟩ := timeAfter_of_addSeconds added
      refine ⟨inside, fun now => ?_⟩
      rw [same]
      simp only [Instant.isoformat_lt_iff, Instant.isoformat_le_iff, Nat.cast_lt, Nat.cast_le,
        and_self]

/-! ## Rows by the time of their next run -/

/-- Where a row stands in the order of the next runs; a row without one comes first. -/
def runOrder (nextRun : Option Instant) : Nat := nextRun.elim 0 (·.microseconds + 1)

/-- `list_due` by instants. -/
def dueByTime {Row : Type} (recurrence : Row → Recurrence) (nextRun : Row → Option Instant)
    (table : List Row) (now : Instant) (limit : Nat) : List Row :=
  ((table.filter fun row => (recurrence row).enabled &&
    (nextRun row).any fun due => decide (due.microseconds ≤ now.microseconds)).mergeSort
      fun one other => decide (runOrder (nextRun one) ≤ runOrder (nextRun other))).take limit

theorem empty_le (text : String) : "" ≤ text :=
  String.not_lt.mp fun before => List.not_lt_nil text.toList before

theorem empty_lt_isoformat (instant : Instant) : "" < instant.isoformat := by
  have read := fromIsoformat_isoformat instant
  change [] < instant.isoformat.toList
  cases printed : instant.isoformat.toList with
  | nil =>
      rw [fromIsoformat, printed] at read
      cases read
  | cons first rest => exact List.nil_lt_cons first rest

theorem isoformat_le_iff_runOrder (one other : Option Instant) :
    (one.map Instant.isoformat).getD "" ≤ (other.map Instant.isoformat).getD "" ↔
      runOrder one ≤ runOrder other := by
  rcases one with _ | one
  · simp [runOrder, empty_le]
  rcases other with _ | other
  · exact iff_of_false (String.not_le.mpr (empty_lt_isoformat one)) (Nat.not_succ_le_zero _)
  · simp [runOrder, Instant.isoformat_le_iff]

theorem listDue_isoformat {Row : Type} (recurrence : Row → Recurrence)
    (nextRun : Row → Option Instant) (table : List Row) (now : Instant) (limit : Nat) :
    listDue recurrence (fun row => (nextRun row).map Instant.isoformat) table now.isoformat
      limit = dueByTime recurrence nextRun table now limit := by
  simp only [listDue, dueByTime, isoformat_le_iff_runOrder, Option.any_map,
    Instant.isoformat_le_iff]

/-! ## The checks -/

theorem validateConfirmation_expired_iff (config : Config) (row : PendingConfirmation)
    (expires now : Instant) (action : Action) (challenge : Option String) :
    validateConfirmation config now { row with expiresAt := expires.isoformat } action
        challenge = .error "expired" ↔
      row.status = .pending ∧ row.usedAt = none ∧ expires.microseconds < now.microseconds := by
  simp only [validateConfirmation, utcnowIso, Instant.isoformat_lt_iff]
  by_cases pending : row.status = .pending
  · cases used : row.usedAt with
    | some time => simp [pending]
    | none =>
        by_cases passed : expires.microseconds < now.microseconds
        · simp [pending, passed]
        · -- The later checks refuse for other reasons.
          simp only [pending, passed, ne_eq, not_true_eq_false, if_false, Option.isSome_none,
            Bool.false_eq_true, and_false, iff_false]
          split
          · simp
          split
          · split
            · split
              · simp
              split <;> simp
            · simp
          · simp
  · simp [pending]

theorem isStaleProcessing_isoformat (service : IdempotencyService) (record : IdempotencyRecord)
    (created now : Instant) :
    service.isStaleProcessing
        { record with status := .processing, createdAt := created.isoformat } now =
      if InCalendar (timeAfter created service.processingTtlSeconds) then
        some (decide (timeAfter created service.processingTtlSeconds < now.microseconds))
      else none := by
  simp only [IdempotencyService.isStaleProcessing, ne_eq, not_true_eq_false, if_false,
    addSeconds_isoformat, Option.map_map]
  cases added : created.addSeconds service.processingTtlSeconds with
  | none => rw [if_neg (addSeconds_eq_none_iff.mp added), Option.map_none]
  | some shifted =>
      have ⟨inside, same⟩ := timeAfter_of_addSeconds added
      rw [if_pos inside, Option.map_some, same]
      simp only [Function.comp_apply, utcnowIso, Instant.isoformat_lt_iff, Nat.cast_lt]

theorem overdue_putConfirmation (db : Database) (id : String) (row : PendingConfirmation)
    (expires now : Instant) :
    (db.putConfirmation id { row with expiresAt := expires.isoformat }).overdue now id =
      (row.status = .pending && decide (expires.microseconds ≤ now.microseconds)) := by
  rw [Database.overdue, Database.putConfirmation_confirmations_self, Option.any_some, utcnowIso,
    ← decide_not]
  simp only [Instant.isoformat_lt_iff, Nat.not_lt]

/-- Every check of expiry, of staleness and of due times compares instants. -/
structure ChecksInOrder (config : Config) (service : IdempotencyService) : Prop where
  texts : ∀ one other : Instant,
    (one.isoformat < other.isoformat ↔ one.microseconds < other.microseconds) ∧
    (one.isoformat ≤ other.isoformat ↔ one.microseconds ≤ other.microseconds) ∧
    (one.isoformat = other.isoformat ↔ one.microseconds = other.microseconds)
  shifted : ∀ (start : Instant) (seconds : Int), ShiftInOrder start seconds
  /-- `ConfirmationService.validate`. -/
  confirmation : ∀ (row : PendingConfirmation) (expires now : Instant) (action : Action)
    (challenge : Option String),
    validateConfirmation config now { row with expiresAt := expires.isoformat } action
        challenge = .error "expired" ↔
      row.status = .pending ∧ row.usedAt = none ∧ expires.microseconds < now.microseconds
  /-- The query of the sweeper. -/
  sweep : ∀ (db : Database) (id : String) (row : PendingConfirmation) (expires now : Instant),
    (db.putConfirmation id { row with expiresAt := expires.isoformat }).overdue now id =
      (row.status = .pending && decide (expires.microseconds ≤ now.microseconds))
  /-- `_is_expired`. -/
  record : ∀ (record : IdempotencyRecord) (expires now : Instant),
    IdempotencyRecord.isExpired { record with expiresAt := expires.isoformat } now =
      decide (expires.microseconds < now.microseconds)
  /-- `_is_stale_processing`. -/
  stale : ∀ (record : IdempotencyRecord) (created now : Instant),
    service.isStaleProcessing
        { record with status := .processing, createdAt := created.isoformat } now =
      if InCalendar (timeAfter created service.processingTtlSeconds) then
        some (decide (timeAfter created service.processingTtlSeconds < now.microseconds))
      else none
  /-- `list_due`. -/
  due : ∀ {Row : Type} (recurrence : Row → Recurrence) (nextRun : Row → Option Instant)
    (table : List Row) (now : Instant) (limit : Nat),
    listDue recurrence (fun row => (nextRun row).map Instant.isoformat) table now.isoformat
      limit = dueByTime recurrence nextRun table now limit

/-- Timestamps are compared as texts, and every comparison agrees with the order of time. -/
theorem timestamps_inOrder (config : Config) (service : IdempotencyService) :
    ChecksInOrder config service where
  texts one other :=
    ⟨one.isoformat_lt_iff other, one.isoformat_le_iff other, one.isoformat_inj other⟩
  shifted := shiftInOrder
  confirmation := validateConfirmation_expired_iff config
  sweep := overdue_putConfirmation
  record record expires now := by
    simp only [IdempotencyRecord.isExpired, utcnowIso, Instant.isoformat_lt_iff]
  stale := isStaleProcessing_isoformat service
  due := listDue_isoformat

end Era.Services
