import Mathlib.Data.List.TakeWhile
import Mathlib.Order.Monotone.Defs
import Mathlib.Order.Lattice

/-!
# Rolling windows

Times are logged, and a copy of the log forgets times from its front once they have left the
window that ends now.  As long as the copy stays small, every window of the log does.
-/

namespace Era.Lib.RollingWindow

variable {Time : Type*} [LinearOrder Time] (cutoff : Time → Time)

/-- A time lies in the half-open window that ends at another. -/
def inWindow (stop time : Time) : Bool := cutoff stop < time && time ≤ stop

/-- The times that have left the window are forgotten, as far as they come first. -/
def forget (now : Time) (kept : List Time) : List Time :=
  kept.dropWhile fun time => decide (time ≤ cutoff now)

/-- What is kept of a log, of which no window holds more than a number of times. -/
structure Keeps (limit : Nat) (now : Time) (log kept : List Time) : Prop where
  suffix : ∃ dropped, log = dropped ++ kept ∧ ∀ time ∈ dropped, time ≤ cutoff now
  bounded : ∀ stop, log.countP (inWindow cutoff stop) ≤ limit

variable {cutoff} {limit : Nat} {now later : Time} {log kept : List Time}

theorem keeps_nil (limit : Nat) (now : Time) : Keeps cutoff limit now [] [] :=
  ⟨⟨[], rfl, fun _ none => by cases none⟩, fun _ => Nat.zero_le limit⟩

theorem Keeps.mono (keeps : Keeps cutoff limit now log kept) (monotone : Monotone cutoff)
    (ordered : now ≤ later) : Keeps cutoff limit later log kept := by
  obtain ⟨dropped, split, left⟩ := keeps.suffix
  exact ⟨⟨dropped, split, fun time member => (left time member).trans (monotone ordered)⟩,
    keeps.bounded⟩

theorem Keeps.forget (keeps : Keeps cutoff limit now log kept) :
    Keeps cutoff limit now log (forget cutoff now kept) := by
  obtain ⟨dropped, split, left⟩ := keeps.suffix
  refine ⟨⟨dropped ++ kept.takeWhile fun time => decide (time ≤ cutoff now), ?_, ?_⟩,
    keeps.bounded⟩
  · rw [split, List.append_assoc, RollingWindow.forget, List.takeWhile_append_dropWhile]
  · intro time member
    obtain early | forgotten := List.mem_append.mp member
    · exact left time early
    · have expired := List.mem_takeWhile_imp forgotten
      exact of_decide_eq_true expired

/-- What is logged now fits if it fits beside what is kept: a window that ends earlier does not
see it, and a later one does not see what has been forgotten. -/
theorem Keeps.append (keeps : Keeps cutoff limit now log kept) (monotone : Monotone cutoff)
    {count : Nat} (room : kept.length + count ≤ limit) :
    Keeps cutoff limit now (log ++ List.replicate count now)
      (kept ++ List.replicate count now) := by
  obtain ⟨dropped, split, left⟩ := keeps.suffix
  refine ⟨⟨dropped, by rw [split, List.append_assoc], left⟩, fun stop => ?_⟩
  by_cases past : stop < now
  · have unseen : (List.replicate count now).countP (inWindow cutoff stop) = 0 := by
      rw [List.countP_eq_zero]
      intro time member
      rw [List.eq_of_mem_replicate member]
      simp [inWindow, past]
    rw [List.countP_append, unseen]
    exact keeps.bounded stop
  · have forgotten : dropped.countP (inWindow cutoff stop) = 0 := by
      rw [List.countP_eq_zero]
      intro time member
      have outside : ¬cutoff stop < time :=
        not_lt.mpr ((left time member).trans (monotone (not_lt.mp past)))
      simp [inWindow, outside]
    calc (log ++ List.replicate count now).countP (inWindow cutoff stop)
        = (kept ++ List.replicate count now).countP (inWindow cutoff stop) := by
          rw [split, List.append_assoc, List.countP_append, forgotten, Nat.zero_add]
      _ ≤ (kept ++ List.replicate count now).length := List.countP_le_length
      _ ≤ limit := by simpa using room

end Era.Lib.RollingWindow
