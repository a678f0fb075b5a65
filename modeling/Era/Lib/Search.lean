import Mathlib.Order.Defs.LinearOrder
import Mathlib.Order.Lattice

/-!
# A search that jumps

A search moves forward through an order until it stands on a point that fits.  A jump may
skip points, but none that fits; so the point found is the first one, whatever the jumps are.
The search gives up at a limit, or after so many jumps.
-/

namespace Era.Lib.Search

variable {Point : Type} [LinearOrder Point]

/-- Jumps that move forward and skip nothing that fits; `none` stays on a point that does. -/
structure Skips (jump : Point → Option Point) (Fits : Point → Prop) : Prop where
  stays : ∀ point, jump point = none ↔ Fits point
  later : ∀ point next, jump point = some next → point < next
  skipped : ∀ point next, jump point = some next →
    ∀ between, point ≤ between → between < next → ¬Fits between

/-- How a search ends. -/
inductive Outcome (Point : Type) where
  | found (point : Point)
  | pastLimit
  | exhausted

/-- Search from a point, with so many jumps left. -/
def run (jump : Point → Option Point) (limit : Point) : Nat → Point → Outcome Point
  | 0, _ => .exhausted
  | jumps + 1, point =>
      match jump point with
      | none => .found point
      | some next => if next < limit then run jump limit jumps next else .pastLimit

variable {jump : Point → Option Point} {Fits : Point → Prop} {limit : Point}

/-- A jump does not go past a point that fits. -/
theorem Skips.le_of_fits (skips : Skips jump Fits) {point next target : Point}
    (jumped : jump point = some next) (after : point ≤ target) (fits : Fits target) :
    next ≤ target := by
  by_contra passed
  exact skips.skipped point next jumped target after (lt_of_not_ge passed) fits

/-- What is found fits, and nothing before it does. -/
theorem Skips.run_found (skips : Skips jump Fits) {jumps : Nat} {start point : Point}
    (inLimit : start < limit) (found : run jump limit jumps start = .found point) :
    start ≤ point ∧ point < limit ∧ Fits point ∧
      ∀ between, start ≤ between → between < point → ¬Fits between := by
  induction jumps generalizing start with
  | zero => simp [run] at found
  | succ jumps ih =>
      rw [run] at found
      split at found
      next stayed =>
        obtain rfl := Outcome.found.inj found
        exact ⟨le_refl _, inLimit, (skips.stays _).mp stayed,
          fun between after before => absurd after (not_le_of_gt before)⟩
      next next jumped =>
        split at found
        next nextInLimit =>
          obtain ⟨after, pointInLimit, fits, least⟩ := ih nextInLimit found
          have moved := skips.later _ _ jumped
          refine ⟨le_trans (le_of_lt moved) after, pointInLimit, fits, ?_⟩
          intro between startsAfter before
          by_cases jumpedOver : between < next
          · exact skips.skipped _ _ jumped between startsAfter jumpedOver
          · exact least between (le_of_not_gt jumpedOver) before
        next => simp at found

/-- A search that passes its limit has missed nothing before it. -/
theorem Skips.run_pastLimit (skips : Skips jump Fits) {jumps : Nat} {start : Point}
    (past : run jump limit jumps start = .pastLimit) :
    ∀ between, start ≤ between → between < limit → ¬Fits between := by
  induction jumps generalizing start with
  | zero => simp [run] at past
  | succ jumps ih =>
      rw [run] at past
      split at past
      next => simp at past
      next next jumped =>
        intro between after inLimit
        by_cases jumpedOver : between < next
        · exact skips.skipped _ _ jumped between after jumpedOver
        · have nextInLimit : next < limit := lt_of_le_of_lt (le_of_not_gt jumpedOver) inLimit
          rw [if_pos nextInLimit] at past
          exact ih past between (le_of_not_gt jumpedOver) inLimit

/-- A search does not run out of jumps when they make a measure smaller, on points that the
search stays among. -/
theorem run_ne_exhausted (Among : Point → Prop) (measure : Point → Nat)
    (smaller : ∀ point next, Among point → jump point = some next → next < limit →
      Among next ∧ measure next < measure point)
    {jumps : Nat} {start : Point} (among : Among start) (enough : measure start < jumps) :
    run jump limit jumps start ≠ .exhausted := by
  induction jumps generalizing start with
  | zero => omega
  | succ jumps ih =>
      rw [run]
      split
      next => simp
      next next jumped =>
        split
        next inLimit =>
          obtain ⟨nextAmong, less⟩ := smaller start next among jumped inLimit
          exact ih nextAmong (by omega)
        next => simp

end Era.Lib.Search
