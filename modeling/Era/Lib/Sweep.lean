import Mathlib.Data.List.TakeWhile
import Era.Lib.Table

/-!
# Loops over the rows of a table

A loop turns to some rows of a table, in order.  A turn writes the row anew, leaves it alone or
ends the loop.  A row is written exactly if the loop gets to it.
-/

namespace Era.Lib

/-- What a loop does with a row. -/
inductive Turn (Answer : Type*) where
  | writes (answer : Answer)
  | skips
  | stops

/-- A turn does not end the loop. -/
def Turn.goesOn {Answer : Type*} : Turn Answer → Bool
  | .writes _ | .skips => true
  | .stops => false

/-- What a turn that writes its row has been answered. -/
def Turn.answer? {Answer : Type*} : Turn Answer → Option Answer
  | .writes answer => some answer
  | .skips | .stops => none

namespace Table

variable {Row Key Answer : Type*} [DecidableEq Key] (key : Row → Key)

/-- The row of a key is read anew and changed; a row that is gone is left alone. -/
def rewrite (change : Row → Row) (table : List Row) (wanted : Key) : List Row :=
  match find key table wanted with
  | none => table
  | some current => store key table (change current)

variable (turn : Row → Turn Answer) (change : Row → Row → Answer → Row)

/-- The table after a loop over some of its rows, and the rows that it has written. -/
def sweep : List Row → List Row → List Row × List (Row × Answer)
  | table, [] => (table, [])
  | table, row :: rest =>
      match turn row with
      | .writes answer =>
          let after := sweep
            (rewrite key (fun current => change current row answer) table (key row)) rest
          (after.1, (row, answer) :: after.2)
      | .skips => sweep table rest
      | .stops => (table, [])

variable {key} {turn} {change} {table : List Row} {rows : List Row} {row : Row} {answer : Answer}

theorem sweep_writes (writes : turn row = .writes answer) :
    sweep key turn change table (row :: rows) =
      ((sweep key turn change
          (rewrite key (fun current => change current row answer) table (key row)) rows).1,
        (row, answer) :: (sweep key turn change
          (rewrite key (fun current => change current row answer) table (key row)) rows).2) := by
  rw [sweep, writes]

theorem sweep_skips (skips : turn row = .skips) :
    sweep key turn change table (row :: rows) = sweep key turn change table rows := by
  rw [sweep, skips]

theorem sweep_stops (stops : turn row = .stops) :
    sweep key turn change table (row :: rows) = (table, []) := by
  rw [sweep, stops]

theorem find_rewrite_self {change : Row → Row} {wanted : Key} {current : Row}
    (keeps : key (change current) = key current)
    (found : find key table wanted = some current) :
    find key (rewrite key change table wanted) wanted = some (change current) := by
  have named : key (change current) = wanted := keeps.trans (find_eq_some found).2
  unfold rewrite
  rw [found]
  dsimp only
  rw [← named]
  exact find_store_self (by rw [named]; exact found)

theorem find_rewrite_ne {change : Row → Row} {wanted other : Key}
    (keeps : ∀ row, key (change row) = key row) (different : other ≠ wanted) :
    find key (rewrite key change table wanted) other = find key table other := by
  unfold rewrite
  split
  · rfl
  next current found =>
    apply find_store_ne
    rwa [keeps, (find_eq_some found).2]

/-- A loop writes what it gets to. -/
theorem mem_sweep : (row, answer) ∈ (sweep key turn change table rows).2 ↔
    row ∈ rows.takeWhile (fun row => (turn row).goesOn) ∧ turn row = .writes answer := by
  induction rows generalizing table with
  | nil => simp [sweep]
  | cons first rest ih =>
      cases turned : turn first with
      | writes given =>
          rw [sweep_writes turned, List.takeWhile_cons_of_pos (by rw [turned]; rfl), List.mem_cons,
            List.mem_cons, ih]
          constructor
          · rintro (same | ⟨later, writes⟩)
            · obtain ⟨rfl, rfl⟩ := Prod.mk.inj same
              exact ⟨.inl rfl, turned⟩
            · exact ⟨.inr later, writes⟩
          · rintro ⟨rfl | later, writes⟩
            · rw [turned] at writes
              obtain rfl := Turn.writes.inj writes
              exact .inl rfl
            · exact .inr ⟨later, writes⟩
      | skips =>
          rw [sweep_skips turned, List.takeWhile_cons_of_pos (by rw [turned]; rfl), List.mem_cons,
            ih]
          constructor
          · rintro ⟨later, writes⟩
            exact ⟨.inr later, writes⟩
          · rintro ⟨rfl | later, writes⟩
            · rw [turned] at writes
              cases writes
            · exact ⟨later, writes⟩
      | stops =>
          rw [sweep_stops turned,
            List.takeWhile_cons_of_neg (by rw [turned]; exact Bool.false_ne_true)]
          simp

/-- A loop leaves the rows alone that it does not turn to. -/
theorem find_sweep_ne (keeps : ∀ current row answer, key (change current row answer) = key current)
    {wanted : Key} (apart : ∀ row ∈ rows, key row ≠ wanted) :
    find key (sweep key turn change table rows).1 wanted = find key table wanted := by
  induction rows generalizing table with
  | nil => rfl
  | cons first rest ih =>
      have apart_rest := fun row member => apart row (List.mem_cons_of_mem first member)
      cases turned : turn first with
      | writes given =>
          rw [sweep_writes turned, ih apart_rest]
          exact find_rewrite_ne (fun current => keeps current first given)
            (apart first List.mem_cons_self).symm
      | skips =>
          rw [sweep_skips turned]
          exact ih apart_rest
      | stops => rw [sweep_stops turned]

/-- A row that a loop writes is found as it has been written. -/
theorem find_sweep (keeps : ∀ current row answer, key (change current row answer) = key current)
    (distinct : (rows.map key).Nodup)
    (written : (row, answer) ∈ (sweep key turn change table rows).2) {current : Row}
    (found : find key table (key row) = some current) :
    find key (sweep key turn change table rows).1 (key row) =
      some (change current row answer) := by
  induction rows generalizing table with
  | nil => cases written
  | cons first rest ih =>
      obtain ⟨fresh, distinct_rest⟩ := List.nodup_cons.mp distinct
      have apart : ∀ other ∈ rest, key other ≠ key first :=
        fun other member same => fresh (List.mem_map.mpr ⟨other, member, same⟩)
      cases turned : turn first with
      | writes given =>
          rw [sweep_writes turned] at written ⊢
          obtain same | later := List.mem_cons.mp written
          · obtain ⟨rfl, rfl⟩ := Prod.mk.inj same
            rw [find_sweep_ne keeps apart]
            exact find_rewrite_self (keeps current row answer) found
          · refine ih distinct_rest later ?_
            have in_rest := (List.takeWhile_subset _) (mem_sweep.mp later).1
            rw [find_rewrite_ne (fun current => keeps current first given) (apart row in_rest)]
            exact found
      | skips =>
          rw [sweep_skips turned] at written ⊢
          exact ih distinct_rest written found
      | stops =>
          rw [sweep_stops turned] at written
          cases written

/-- The rows that a loop gets to among the first of a list. -/
theorem mem_takeWhile_take_iff {condition : Row → Bool} {limit : Nat} :
    row ∈ (rows.take limit).takeWhile condition ↔ ∃ before after,
      rows = before ++ row :: after ∧ before.length < limit ∧ condition row = true ∧
        ∀ other ∈ before, condition other = true := by
  induction rows generalizing limit with
  | nil => simp
  | cons first rest ih =>
      cases limit with
      | zero => simp
      | succ limit =>
          rw [List.take_succ_cons]
          by_cases holds : condition first = true
          · rw [List.takeWhile_cons_of_pos holds, List.mem_cons, ih]
            constructor
            · rintro (rfl | ⟨before, after, rfl, short, own, earlier⟩)
              · exact ⟨[], rest, rfl, Nat.succ_pos limit, holds, fun _ none => by cases none⟩
              · refine ⟨first :: before, after, rfl, Nat.succ_lt_succ short, own, ?_⟩
                exact List.forall_mem_cons.mpr ⟨holds, earlier⟩
            · rintro ⟨before, after, split, short, own, earlier⟩
              cases before with
              | nil => exact .inl (List.cons.inj split).1.symm
              | cons head before =>
                  obtain ⟨rfl, rfl⟩ := List.cons.inj split
                  exact .inr ⟨before, after, rfl, Nat.lt_of_succ_lt_succ short, own,
                    (List.forall_mem_cons.mp earlier).2⟩
          · rw [List.takeWhile_cons_of_neg holds]
            constructor
            · intro none
              cases none
            · rintro ⟨before, after, split, short, own, earlier⟩
              cases before with
              | nil =>
                  obtain ⟨rfl, rfl⟩ := List.cons.inj split
                  exact absurd own holds
              | cons head before =>
                  obtain ⟨rfl, rfl⟩ := List.cons.inj split
                  exact absurd (earlier first List.mem_cons_self) holds

end Table

end Era.Lib
