import Mathlib.Algebra.Order.Ring.Nat
import Mathlib.Tactic.Ring

/-!
# Decimal fields of fixed width

A number printed with a fixed number of digits can be read back, and fields
placed one after another compare, as character sequences, like the numbers in
them compare lexicographically.
-/

namespace Era.Lib

/-- The last `width` decimal digits of a number, leading zeros included. -/
def fixedDigits : (width number : Nat) → List Char
  | 0, _ => []
  | width + 1, number =>
      Nat.digitChar (number / 10 ^ width % 10) :: fixedDigits width number

/-- Read `width` decimal digits behind those already read. -/
def readDigits : (width soFar : Nat) → List Char → Option (Nat × List Char)
  | 0, soFar, text => some (soFar, text)
  | _ + 1, _, [] => none
  | width + 1, soFar, char :: rest =>
      if char.isDigit then readDigits width (10 * soFar + (char.toNat - 48)) rest else none

/-- Read a field of `width` decimal digits. -/
def readFixed (width : Nat) (text : List Char) : Option (Nat × List Char) :=
  readDigits width 0 text

/-- Read one expected character. -/
def readChar (expected : Char) : List Char → Option (List Char)
  | [] => none
  | char :: rest => if char = expected then some rest else none

@[simp] theorem readChar_cons (expected : Char) (rest : List Char) :
    readChar expected (expected :: rest) = some rest := by
  simp [readChar]

theorem digitChar_value : ∀ digit < 10, (Nat.digitChar digit).isDigit = true ∧
    (Nat.digitChar digit).toNat - 48 = digit := by
  decide

theorem digitChar_lt_iff : ∀ left < 10, ∀ right < 10,
    (Nat.digitChar left < Nat.digitChar right ↔ left < right) := by
  decide

theorem digitChar_eq_iff : ∀ left < 10, ∀ right < 10,
    (Nat.digitChar left = Nat.digitChar right ↔ left = right) := by
  decide

theorem readDigits_fixedDigits (width soFar number : Nat) (rest : List Char) :
    readDigits width soFar (fixedDigits width number ++ rest) =
      some (soFar * 10 ^ width + number % 10 ^ width, rest) := by
  induction width generalizing soFar with
  | zero => simp [readDigits, fixedDigits, Nat.mod_one]
  | succ width ih =>
      obtain ⟨isDigit, value⟩ :=
        digitChar_value (number / 10 ^ width % 10) (Nat.mod_lt _ (by decide))
      simp only [fixedDigits, List.cons_append, readDigits, isDigit, if_true, value, ih,
        Nat.mod_pow_succ]
      congr 2
      ring

/-- A printed field is read back. -/
@[simp] theorem readFixed_fixedDigits {width number : Nat} (bound : number < 10 ^ width)
    (rest : List Char) :
    readFixed width (fixedDigits width number ++ rest) = some (number, rest) := by
  simp [readFixed, readDigits_fixedDigits, Nat.mod_eq_of_lt bound]

/-- The leading field decides unless it is the same. -/
theorem fixedDigits_append_lt_mod (width left right : Nat) (leftRest rightRest : List Char) :
    fixedDigits width left ++ leftRest < fixedDigits width right ++ rightRest ↔
      left % 10 ^ width < right % 10 ^ width ∨
        left % 10 ^ width = right % 10 ^ width ∧ leftRest < rightRest := by
  induction width with
  | zero => simp [fixedDigits, Nat.mod_one]
  | succ width ih =>
      have leftDigit : left / 10 ^ width % 10 < 10 := Nat.mod_lt _ (by decide)
      have rightDigit : right / 10 ^ width % 10 < 10 := Nat.mod_lt _ (by decide)
      have leftLow : left % 10 ^ width < 10 ^ width := Nat.mod_lt _ (Nat.pow_pos (by decide))
      have rightLow : right % 10 ^ width < 10 ^ width := Nat.mod_lt _ (Nat.pow_pos (by decide))
      simp only [fixedDigits, List.cons_append, List.cons_lt_cons_iff, ih,
        digitChar_lt_iff _ leftDigit _ rightDigit, digitChar_eq_iff _ leftDigit _ rightDigit,
        Nat.mod_pow_succ]
      generalize left / 10 ^ width % 10 = leftHead at *
      generalize right / 10 ^ width % 10 = rightHead at *
      generalize left % 10 ^ width = leftTail at *
      generalize right % 10 ^ width = rightTail at *
      generalize 10 ^ width = scale at *
      constructor
      · rintro (heads | ⟨rfl, tails | ⟨rfl, rests⟩⟩)
        · have := Nat.mul_le_mul_left scale (Nat.succ_le_of_lt heads)
          rw [Nat.mul_succ] at this
          omega
        · omega
        · exact .inr ⟨rfl, rests⟩
      · intro ordered
        obtain heads | rfl | heads := Nat.lt_trichotomy leftHead rightHead
        · exact .inl heads
        · refine .inr ⟨rfl, ?_⟩
          cases ordered with
          | inl smaller => exact .inl (by omega)
          | inr equal => exact .inr ⟨by omega, equal.2⟩
        · have := Nat.mul_le_mul_left scale (Nat.succ_le_of_lt heads)
          rw [Nat.mul_succ] at this
          omega

theorem fixedDigits_append_lt_iff {width left right : Nat} (leftBound : left < 10 ^ width)
    (rightBound : right < 10 ^ width) (leftRest rightRest : List Char) :
    fixedDigits width left ++ leftRest < fixedDigits width right ++ rightRest ↔
      left < right ∨ left = right ∧ leftRest < rightRest := by
  rw [fixedDigits_append_lt_mod, Nat.mod_eq_of_lt leftBound, Nat.mod_eq_of_lt rightBound]

/-! ## Mixed radix -/

/-- A quotient and its remainder compare lexicographically like the number they
come from. -/
theorem div_mod_lt_iff (scale left right : Nat) :
    left / scale < right / scale ∨
        left / scale = right / scale ∧ left % scale < right % scale ↔
      left < right := by
  have leftSplit := Nat.div_add_mod left scale
  have rightSplit := Nat.div_add_mod right scale
  constructor
  · rintro (quotients | ⟨quotients, remainders⟩)
    · exact Nat.lt_of_div_lt_div quotients
    · rw [quotients] at leftSplit
      omega
  · intro ordered
    have quotients : left / scale ≤ right / scale := Nat.div_le_div_right ordered.le
    obtain smaller | equal := Nat.lt_or_eq_of_le quotients
    · exact .inl smaller
    · rw [equal] at leftSplit
      exact .inr ⟨equal, by omega⟩

/-- The same in front of a further comparison. -/
theorem div_mod_lt_or_eq_and_iff (scale left right : Nat) (next : Prop) :
    left / scale < right / scale ∨ left / scale = right / scale ∧
        (left % scale < right % scale ∨ left % scale = right % scale ∧ next) ↔
      left < right ∨ left = right ∧ next := by
  have equal_iff : left / scale = right / scale ∧ left % scale = right % scale ↔
      left = right := by
    constructor
    · rintro ⟨quotients, remainders⟩
      rw [← Nat.div_add_mod left scale, quotients, remainders, Nat.div_add_mod]
    · rintro rfl
      exact ⟨rfl, rfl⟩
  rw [← div_mod_lt_iff scale left right, ← equal_iff, and_or_left, ← and_assoc, or_assoc]

end Era.Lib
