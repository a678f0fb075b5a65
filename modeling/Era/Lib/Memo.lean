import Mathlib.Data.List.Induction

/-!
# Memoised calls

A table keeps, under each slot, the result of the first call of that slot that had one.
Later calls of the slot find that result and compute nothing.
-/

namespace Era.Lib.Memo

variable {Call Slot Result : Type*} [BEq Slot]
variable (slot : Call → Slot) (compute : Call → Option Result)

/-- One call leaves a found entry alone and keeps a result of its own. -/
def step (table : List (Slot × Result)) (call : Call) : List (Slot × Result) :=
  match table.lookup (slot call) with
  | some _ => table
  | none =>
      match compute call with
      | some result => (slot call, result) :: table
      | none => table

/-- The table after some calls. -/
def after (calls : List Call) : List (Slot × Result) :=
  calls.foldl (step slot compute) []

/-- A call that has a result to keep under a slot. -/
def Fills (wanted : Slot) (call : Call) : Prop :=
  slot call = wanted ∧ (compute call).isSome

instance [DecidableEq Slot] (wanted : Slot) (call : Call) :
    Decidable (Fills slot compute wanted call) :=
  inferInstanceAs (Decidable (_ ∧ _))

/-- The first of the calls `earlier ++ source :: between` that fills a slot is `source`. -/
structure FirstFill (wanted : Slot) (earlier : List Call) (source : Call) : Prop where
  fills : Fills slot compute wanted source
  unfilled : ∀ call ∈ earlier, ¬Fills slot compute wanted call

variable {slot compute}

@[simp] theorem after_nil : after slot compute [] = [] := rfl

theorem after_concat (calls : List Call) (call : Call) :
    after slot compute (calls ++ [call]) = step slot compute (after slot compute calls) call := by
  simp [after]

variable [LawfulBEq Slot] [DecidableEq Slot]

theorem lookup_step (table : List (Slot × Result)) (call : Call) (wanted : Slot) :
    (step slot compute table call).lookup wanted =
      (table.lookup wanted).or (if slot call = wanted then compute call else none) := by
  unfold step
  by_cases same : slot call = wanted
  · subst same
    cases found : table.lookup (slot call) with
    | some result => simp [found]
    | none =>
        cases kept : compute call with
        | some result => simp
        | none => simp [found]
  · have other : (wanted == slot call) = false := by simpa using fun eq => same eq.symm
    cases table.lookup (slot call) with
    | some result => simp [same]
    | none =>
        cases compute call with
        | some result => simp [List.lookup_cons, other, same]
        | none => simp [same]

/-- The table holds, under each slot, what the first call that fills it computes. -/
theorem lookup_after (calls : List Call) (wanted : Slot) :
    (after slot compute calls).lookup wanted =
      (calls.find? fun call => Fills slot compute wanted call).bind compute := by
  induction calls using List.reverseRecOn with
  | nil => simp
  | append_singleton calls call ih =>
      rw [after_concat, lookup_step, ih, List.find?_append]
      cases found : calls.find? fun call => Fills slot compute wanted call with
      | some source =>
          obtain ⟨_, kept⟩ : Fills slot compute wanted source := by
            simpa using List.find?_some found
          obtain ⟨result, computed⟩ := Option.isSome_iff_exists.mp kept
          simp [computed]
      | none =>
          by_cases same : slot call = wanted
          · cases computed : compute call with
            | some result => simp [Fills, same, computed]
            | none => simp [Fills, computed]
          · simp [Fills, same]

/-- A slot is empty as long as no call fills it. -/
theorem lookup_after_eq_none {calls : List Call} {wanted : Slot} :
    (after slot compute calls).lookup wanted = none ↔
      ∀ call ∈ calls, ¬Fills slot compute wanted call := by
  rw [lookup_after]
  constructor
  · intro empty call member fills
    cases found : calls.find? fun call => Fills slot compute wanted call with
    | none => simpa [fills] using List.find?_eq_none.mp found call member
    | some source =>
        obtain ⟨_, kept⟩ : Fills slot compute wanted source := by
          simpa using List.find?_some found
        rw [found, Option.bind_some] at empty
        simp [empty] at kept
  · intro unfilled
    have absent : calls.find? (fun call => Fills slot compute wanted call) = none :=
      List.find?_eq_none.mpr fun call member => by simpa using unfilled call member
    rw [absent, Option.bind_none]

/-- A found result belongs to the first call that fills the slot. -/
theorem exists_firstFill {calls : List Call} {wanted : Slot} {result : Result}
    (found : (after slot compute calls).lookup wanted = some result) :
    ∃ earlier source between, calls = earlier ++ source :: between ∧
      FirstFill slot compute wanted earlier source ∧ compute source = some result := by
  rw [lookup_after] at found
  obtain ⟨source, first, computed⟩ := Option.bind_eq_some_iff.mp found
  obtain ⟨fills, earlier, between, split, unfilled⟩ := List.find?_eq_some_iff_append.mp first
  exact ⟨earlier, source, between, split,
    ⟨by simpa using fills, fun call member => by simpa using unfilled call member⟩, computed⟩

theorem FirstFill.lookup {earlier between : List Call} {source : Call} {wanted : Slot}
    (first : FirstFill slot compute wanted earlier source) :
    (after slot compute (earlier ++ source :: between)).lookup wanted = compute source := by
  have found : (earlier ++ source :: between).find?
      (fun call => Fills slot compute wanted call) = some source :=
    List.find?_eq_some_iff_append.mpr ⟨by simpa using first.fills, earlier, between, rfl,
      fun call member => by simpa using first.unfilled call member⟩
  rw [lookup_after, found, Option.bind_some]

omit [BEq Slot] [LawfulBEq Slot] in
/-- There is one first call that fills a slot. -/
theorem FirstFill.unique {earlier between earlier' between' : List Call} {source source' : Call}
    {wanted : Slot} (first : FirstFill slot compute wanted earlier source)
    (first' : FirstFill slot compute wanted earlier' source')
    (same : earlier ++ source :: between = earlier' ++ source' :: between') :
    earlier = earlier' ∧ source = source' ∧ between = between' := by
  have taken : ∀ {calls : List Call} {call : Call} (rest : List Call),
      FirstFill slot compute wanted calls call →
        (calls ++ call :: rest).takeWhile
          (fun call => !decide (Fills slot compute wanted call)) = calls := by
    intro calls call rest fill
    rw [List.takeWhile_append_of_pos fun other member => by simpa using fill.unfilled other member,
      List.takeWhile_cons_of_neg (by simpa using fill.fills), List.append_nil]
  obtain rfl : earlier = earlier' := by
    rw [← taken between first, same, taken between' first']
  simpa using same

end Era.Lib.Memo
