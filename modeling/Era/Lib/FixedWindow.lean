import Mathlib.Algebra.Order.Group.Defs
import Mathlib.Data.List.Basic
import Mathlib.Order.Basic

/-!
# Fixed windows

A window opens at the first request after the one before it has ended, and counts what it admits.
What is counted is told apart from the log of all that has been admitted.
-/

namespace Era.Lib.FixedWindow

/-- A window with what it has admitted. -/
structure Window (Time : Type*) where
  startedAt : Time
  count : Nat := 0
  deriving DecidableEq

/-- A request is counted. -/
def Window.increment {Time : Type*} (window : Window Time) : Window Time :=
  { window with count := window.count + 1 }

variable {Time : Type*} [AddCommGroup Time] [LinearOrder Time] (width : Time)

/-- The window has ended. -/
def ended (now : Time) (window : Window Time) : Bool := width ≤ now - window.startedAt

/-- The window of a request: a new one opens if there is none or it has ended. -/
def current (now : Time) : Option (Window Time) → Window Time
  | some window => if ended width now window then { startedAt := now } else window
  | none => { startedAt := now }

/-- A new window opens. -/
def opens (now : Time) (window : Option (Window Time)) : Bool := window.all (ended width now)

/-- A time lies in the window that starts at another. -/
def within (start time : Time) : Bool := start ≤ time && time < start + width

/-- How much of the window that has opened last is taken. -/
def taken (openings admitted : List Time) (now : Time) : Nat :=
  match openings.getLast? with
  | some start => if now < start + width then admitted.countP (within width start) else 0
  | none => 0

/-- What a window tells of the times at which windows have opened, and of those that have been
admitted. -/
inductive Tells (now : Time) (openings admitted : List Time) :
    Option (Window Time) → Prop where
  | none (past : ∀ start ∈ openings, start + width ≤ now) : Tells now openings admitted none
  | some (window : Window Time) (last : openings.getLast? = some window.startedAt)
      (started : window.startedAt ≤ now)
      (counted : admitted.countP (within width window.startedAt) = window.count) :
      Tells now openings admitted (some window)

/-- No window admits more than the limit, windows do not overlap, and every time that is admitted
lies in one. -/
structure Counts (limit : Nat) (now : Time) (openings admitted : List Time)
    (window : Option (Window Time)) : Prop where
  tells : Tells width now openings admitted window
  bounded : ∀ start ∈ openings, admitted.countP (within width start) ≤ limit
  apart : openings.Pairwise fun earlier later => earlier + width ≤ later
  covered : ∀ time ∈ admitted, ∃ start ∈ openings, within width start time = true

variable {width} {limit : Nat} {now later : Time} {openings admitted : List Time}
variable {window : Option (Window Time)}

theorem counts_nil (limit : Nat) (now : Time) : Counts width limit now [] [] none :=
  ⟨.none (List.forall_mem_nil _), List.forall_mem_nil _, .nil, List.forall_mem_nil _⟩

theorem Counts.mono (counts : Counts width limit now openings admitted window)
    (ordered : now ≤ later) : Counts width limit later openings admitted window := by
  refine { counts with tells := ?_ }
  cases counts.tells with
  | none past => exact .none fun start member => (past start member).trans ordered
  | some window last started counted => exact .some window last (started.trans ordered) counted

theorem within_iff {start time : Time} :
    within width start time = true ↔ start ≤ time ∧ time < start + width := by
  unfold within
  rw [Bool.and_eq_true, decide_eq_true_iff, decide_eq_true_iff]

/-- The window that has opened last ends last. -/
theorem Counts.before_last (counts : Counts width limit now openings admitted window)
    {last start : Time} (is_last : openings.getLast? = some last) (member : start ∈ openings) :
    start = last ∨ start + width ≤ last := by
  obtain ⟨before, rfl⟩ := List.getLast?_eq_some_iff.mp is_last
  obtain earlier | same := List.mem_append.mp member
  · exact .inr ((List.pairwise_append.mp counts.apart).2.2 start earlier last
      (List.mem_singleton_self last))
  · exact .inl (List.mem_singleton.mp same)

theorem current_of_opens (opening : opens width now window = true) :
    current width now window = { startedAt := now } := by
  cases window with
  | none => rfl
  | some window => exact if_pos opening

theorem current_of_not_opens (runs : opens width now window ≠ true) :
    some (current width now window) = window := by
  cases window with
  | none => exact absurd rfl runs
  | some window => exact congrArg some (if_neg runs)

variable [IsOrderedAddMonoid Time]

theorem ended_iff {window : Window Time} :
    ended width now window = true ↔ window.startedAt + width ≤ now := by
  unfold ended
  rw [decide_eq_true_iff, le_sub_iff_add_le, add_comm]

/-- The counter of a window is what is taken of it. -/
theorem Counts.taken_eq (counts : Counts width limit now openings admitted window) :
    taken width openings admitted now = (current width now window).count := by
  unfold taken
  cases counts.tells with
  | none past =>
      cases last : openings.getLast? with
      | none => rfl
      | some start => exact if_neg (not_lt.mpr (past start (List.mem_of_getLast? last)))
  | some window last started counted =>
      rw [last]
      by_cases elapsed : ended width now window = true
      · simp [current, elapsed, not_lt.mpr (ended_iff.mp elapsed)]
      · have runs : now < window.startedAt + width := not_le.mp (mt ended_iff.mpr elapsed)
        simp [current, elapsed, runs, counted]

/-- A window opens when all windows before it have ended. -/
theorem Counts.past (counts : Counts width limit now openings admitted window)
    (opening : opens width now window = true) : ∀ start ∈ openings, start + width ≤ now := by
  intro start member
  cases counts.tells with
  | none past => exact past start member
  | some window last started counted =>
      have elapsed := ended_iff.mp (show ended width now window = true from opening)
      obtain rfl | earlier := counts.before_last last member
      · exact elapsed
      · exact earlier.trans started

/-- The window of a request is counted from when it opens. -/
theorem Counts.open (counts : Counts width limit now openings admitted window) :
    Counts width limit now (if opens width now window then openings ++ [now] else openings)
      admitted (some (current width now window)) := by
  by_cases opening : opens width now window = true
  · have past := counts.past opening
    have unused : admitted.countP (within width now) = 0 := by
      rw [List.countP_eq_zero]
      intro time member inside
      obtain ⟨start, opened, covers⟩ := counts.covered time member
      have before := (within_iff.mp covers).2.trans_le (past start opened)
      exact not_lt.mpr (within_iff.mp inside).1 before
    rw [if_pos opening, current_of_opens opening]
    refine ⟨.some _ List.getLast?_concat le_rfl unused, ?_, ?_, ?_⟩
    · intro start member
      obtain old | own := List.mem_append.mp member
      · exact counts.bounded start old
      · rw [List.mem_singleton.mp own, unused]
        exact Nat.zero_le limit
    · refine List.pairwise_append.mpr ⟨counts.apart, List.pairwise_singleton _ _, ?_⟩
      intro start member _ own
      rw [List.mem_singleton.mp own]
      exact past start member
    · intro time member
      obtain ⟨start, opened, covers⟩ := counts.covered time member
      exact ⟨start, List.mem_append_left _ opened, covers⟩
  · rwa [if_neg opening, current_of_not_opens opening]

/-- A request is admitted to a window that runs and has room. -/
theorem Counts.increment {window : Window Time}
    (counts : Counts width limit now openings admitted (some window))
    (runs : ended width now window = false) (room : window.count < limit) :
    Counts width limit now openings (admitted ++ [now])
      (some window.increment) := by
  cases counts.tells with
  | some _ last started counted =>
      have inside : within width window.startedAt now = true :=
        within_iff.mpr ⟨started, not_le.mp fun elapsed => by simp [ended_iff.mpr elapsed] at runs⟩
      have counted_now : (admitted ++ [now]).countP (within width window.startedAt) =
          window.count + 1 := by
        rw [List.countP_append, counted, List.countP_singleton, if_pos inside]
      refine ⟨.some _ last started counted_now, ?_, counts.apart, ?_⟩
      · intro start member
        obtain rfl | earlier := counts.before_last last member
        · rw [counted_now]
          exact room
        · -- A window that has ended does not see the request.
          have outside : within width start now ≠ true :=
            fun sees => not_lt.mpr (earlier.trans started) (within_iff.mp sees).2
          rw [List.countP_append, List.countP_singleton, if_neg outside]
          exact counts.bounded start member
      · intro time member
        obtain old | own := List.mem_append.mp member
        · exact counts.covered time old
        · rw [List.mem_singleton.mp own]
          exact ⟨_, List.mem_of_getLast? last, inside⟩

/-- A window that has ended can be forgotten. -/
theorem Counts.clear {window : Window Time}
    (counts : Counts width limit now openings admitted (some window))
    (elapsed : ended width now window = true) : Counts width limit now openings admitted none :=
  { counts with tells := .none (counts.past elapsed) }

/-- What has ended stays so. -/
theorem ended_mono {window : Window Time} (elapsed : ended width now window = true)
    (ordered : now ≤ later) : ended width later window = true :=
  ended_iff.mpr ((ended_iff.mp elapsed).trans ordered)

theorem opens_mono (opening : opens width now window = true) (ordered : now ≤ later) :
    opens width later window = true := by
  cases window with
  | none => rfl
  | some window =>
      have elapsed : ended width now window = true := opening
      exact ended_mono elapsed ordered

/-- A window that has been visited is used as much as before. -/
theorem count_current_current (ordered : now ≤ later) :
    (current width later (some (current width now window))).count =
      (current width later window).count := by
  by_cases opening : opens width now window = true
  · rw [current_of_opens opening, current_of_opens (opens_mono opening ordered)]
    unfold current
    dsimp only
    split <;> rfl
  · rw [current_of_not_opens opening]

end Era.Lib.FixedWindow
