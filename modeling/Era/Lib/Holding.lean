import Mathlib.Data.Set.Card

/-!
# Holders of slots

Holders claim slots and release them, and a holder has at most one slot at a time.  Claims
and releases change the number of the holders of a kind by one.
-/

namespace Era.Lib.Holding

variable {Holder Slot : Type*}

/-- The holders of a kind. -/
def holders (held : Holder → Option Slot) (kind : Holder → Slot → Prop) : Set Holder :=
  {holder | ∃ slot, held holder = some slot ∧ kind holder slot}

variable {held : Holder → Option Slot} {kind : Holder → Slot → Prop}

theorem holders_none : holders (fun _ => none) kind = ∅ := by
  ext holder
  constructor
  · rintro ⟨slot, none_held, _⟩
    cases none_held
  · rintro ⟨⟩

theorem holders_subset : holders held kind ⊆ holders held fun _ _ => True := by
  rintro holder ⟨slot, holds, _⟩
  exact ⟨slot, holds, True.intro⟩

variable [DecidableEq Holder] {holder : Holder} {slot : Slot}

theorem holders_claim (free : held holder = none) :
    holders (Function.update held holder (some slot)) kind =
      {other | other = holder ∧ kind holder slot} ∪ holders held kind := by
  ext other
  by_cases same : other = holder
  · subst same
    simp [holders, free]
  · simp [holders, same]

theorem holders_release (holds : held holder = some slot) :
    holders held kind = {other | other = holder ∧ kind holder slot} ∪
      holders (Function.update held holder none) kind := by
  rw [← holders_claim (by simp), Function.update_idem, ← holds, Function.update_eq_self]

/-- A claim adds one holder to the kinds that it is of. -/
theorem ncard_claim [Decidable (kind holder slot)] (free : held holder = none)
    (finite : (holders held kind).Finite) :
    (holders (Function.update held holder (some slot)) kind).ncard =
      (holders held kind).ncard + if kind holder slot then 1 else 0 := by
  rw [holders_claim free]
  split
  next fits =>
    have one_more : {other | other = holder ∧ kind holder slot} ∪ holders held kind =
        insert holder (holders held kind) := by
      ext other
      simp [fits]
    have absent : holder ∉ holders held kind := by
      rintro ⟨slot, holds, _⟩
      rw [free] at holds
      cases holds
    rw [one_more, Set.ncard_insert_of_notMem absent finite]
  next misfits =>
    congr 1
    ext other
    simp [misfits]

/-- A release takes one holder from the kinds that it is of. -/
theorem ncard_release [Decidable (kind holder slot)] (holds : held holder = some slot)
    (finite : (holders held kind).Finite) :
    (holders held kind).ncard =
      (holders (Function.update held holder none) kind).ncard +
        if kind holder slot then 1 else 0 := by
  have fewer : (holders (Function.update held holder none) kind).Finite := by
    apply finite.subset
    rw [holders_release holds]
    exact Set.subset_union_right
  rw [← ncard_claim (by simp) fewer, Function.update_idem, ← holds, Function.update_eq_self]

theorem finite_claim (free : held holder = none) (finite : (holders held kind).Finite) :
    (holders (Function.update held holder (some slot)) kind).Finite := by
  rw [holders_claim free]
  exact ((Set.finite_singleton holder).subset fun _ member => member.1).union finite

theorem finite_release (holds : held holder = some slot) (finite : (holders held kind).Finite) :
    (holders (Function.update held holder none) kind).Finite := by
  apply finite.subset
  rw [holders_release holds]
  exact Set.subset_union_right

end Era.Lib.Holding
