import Era.Workflows.Balance

/-!
# The counters as a map

The table of counters stands for a map from a kind and a scope to an integer that starts at
zero.  It behaves like this map as long as every first use of a counter is within its cap and
shares its cut-off primary key with no other counter, and as long as the numbers are integers
of the database.
-/

namespace Era.Workflows

open Era.Core Era.Lib Era.Services

/-! ## One bump of the table -/

/-- The arguments of `bump`. -/
structure Bump where
  kind : String
  scope : String
  delta : Int := 1
  cap : Option Int := none

namespace Bump

variable (op : Bump)

/-- The row of a first use. -/
def row : GovernanceCounter := { kind := op.kind, scope := op.scope, count := op.delta }

def pair : String × String := op.row.key

def id : String := op.row.id

/-- `cap if cap is not None else 2**31 - 1`. -/
def limit : Int := op.cap.getD noCap

end Bump

/-- What the counters of each kind and scope stand at. -/
abbrev CounterValues := String × String → Int

/-- The map that a table stands for. -/
def valuesOf (counters : List GovernanceCounter) : CounterValues :=
  fun pair => countOf counters pair.1 pair.2

/-- What a bump comes to. -/
inductive BumpAnswer where
  | answered (count : Int) (accepted : Bool)
  | raised (typeName message : String)
  /-- The sum is below the integers of the database, which stores a float. -/
  | storesReal
  deriving DecidableEq

/-- The smallest integer of the database. -/
def minInteger : Int := -2 ^ 63

/-- A number that can be bound to a parameter of a statement. -/
def Binds (number : Int) : Prop := minInteger ≤ number ∧ number < 2 ^ 63

instance (number : Int) : Decidable (Binds number) := inferInstanceAs (Decidable (_ ∧ _))

/-- `bump` with the integers of the database.  A sum above them exceeds every cap; one below
them leaves the integers, and the table is not followed any further. -/
def boundBump (counters : List GovernanceCounter) (op : Bump) :
    List GovernanceCounter × BumpAnswer :=
  if ¬(Binds op.delta ∧ Binds op.limit) then
    (counters, .raised "OverflowError" "Python int too large to convert to SQLite INTEGER")
  else if valuesOf counters op.pair + op.delta < minInteger then (counters, .storesReal)
  else
    match bump counters op.kind op.scope op.delta op.limit with
    | .error failure => (counters, .raised "IntegrityError" failure.message)
    | .ok (after, count, accepted) => (after, .answered count accepted)

def governanceCounters : Machine (List GovernanceCounter) Bump BumpAnswer := { step := boundBump }

/-! ## The map -/

/-- A value changes if that keeps it within the cap, and no other value does. -/
def mapBump (values : CounterValues) (op : Bump) : CounterValues × BumpAnswer :=
  let changed := values op.pair + op.delta
  if changed ≤ op.limit then (Function.update values op.pair changed, .answered changed true)
  else (values, .answered (values op.pair) false)

def counterMap : Machine CounterValues Bump BumpAnswer := { step := mapBump }

/-- From a table on, bumps are answered as by a map, and leave the values that they leave
there. -/
structure FollowsMap (counters : List GovernanceCounter) (values : CounterValues)
    (ops : List Bump) : Prop where
  answers : governanceCounters.outputs counters ops = counterMap.outputs values ops
  values : ∀ before after, ops = before ++ after →
    valuesOf (governanceCounters.stateAfter counters before) = counterMap.stateAfter values before

/-- The empty table and bumps of it behave as a map of zeros. -/
def BehavesAsMap (ops : List Bump) : Prop := FollowsMap [] (fun _ => 0) ops

/-- A bump that the table takes as the map does: its numbers are integers of the database, and
if it is the first of its counter, it is within the cap and no counter has its primary key. -/
structure FitsAfter (before : List Bump) (op : Bump) : Prop where
  delta : Binds op.delta
  limit : Binds op.limit
  sum : minInteger ≤ counterMap.stateAfter (fun _ => 0) before op.pair + op.delta
  first : (∃ earlier ∈ before, earlier.pair = op.pair) ∨
    op.delta ≤ op.limit ∧ ∀ earlier ∈ before, earlier.id ≠ op.id

/-! ## One bump follows the map -/

section Step

variable {counters : List GovernanceCounter} {before : List Bump} {op : Bump}

/-- A table after bumps that it has taken as the map does. -/
structure Tabulates (counters : List GovernanceCounter) (before : List Bump) : Prop where
  values : valuesOf counters = counterMap.stateAfter (fun _ => 0) before
  used : ∀ pair, pair ∈ counters.map GovernanceCounter.key ↔ pair ∈ before.map Bump.pair

theorem counterId_congr {row other : GovernanceCounter} (same : row.key = other.key) :
    row.id = other.id := by
  obtain ⟨kinds, scopes⟩ := Prod.mk.inj same
  unfold GovernanceCounter.id
  rw [kinds, scopes]

theorem Tabulates.find_eq_none (tabulates : Tabulates counters before) :
    Table.find GovernanceCounter.key counters op.pair = none ↔
      ¬∃ earlier ∈ before, earlier.pair = op.pair := by
  rw [← List.mem_map, ← tabulates.used, List.mem_map]
  constructor
  · rintro absent ⟨row, in_table, named⟩
    exact Table.ne_of_find_eq_none absent in_table named
  · intro unused
    by_contra stored
    obtain ⟨row, found⟩ := Option.ne_none_iff_exists'.mp stored
    exact unused ⟨row, Table.find_eq_some found⟩

theorem Tabulates.collides (tabulates : Tabulates counters before) :
    (counters.any fun row => row.id == op.id) = true ↔ ∃ earlier ∈ before, earlier.id = op.id := by
  rw [List.any_eq_true]
  constructor
  · rintro ⟨row, in_table, same⟩
    have used := (tabulates.used _).mp (List.mem_map.mpr ⟨row, in_table, rfl⟩)
    obtain ⟨earlier, member, named⟩ := List.mem_map.mp used
    exact ⟨earlier, member, (counterId_congr named).trans (beq_iff_eq.mp same)⟩
  · rintro ⟨earlier, member, same⟩
    have used := (tabulates.used _).mpr (List.mem_map.mpr ⟨earlier, member, rfl⟩)
    obtain ⟨row, in_table, named⟩ := List.mem_map.mp used
    exact ⟨row, in_table, beq_iff_eq.mpr ((counterId_congr named).trans same)⟩

/-- A bump of a counter that has a row. -/
theorem bump_row {row : GovernanceCounter}
    (found : Table.find GovernanceCounter.key counters op.pair = some row) :
    bump counters op.kind op.scope op.delta op.limit =
      if row.count + op.delta ≤ op.limit then
        .ok (Table.store GovernanceCounter.key counters { row with count := row.count + op.delta },
          row.count + op.delta, true)
      else .ok (counters, row.count, false) := by
  unfold bump
  rw [show (op.kind, op.scope) = op.pair from rfl, found]

/-- A bump of a counter that has none. -/
theorem bump_absent (absent : Table.find GovernanceCounter.key counters op.pair = none) :
    bump counters op.kind op.scope op.delta op.limit =
      if counters.any fun row => row.id == op.id then
        .error
          { code := none
            message := "UNIQUE constraint failed: workflow_governance_counter.id" }
      else .ok (counters ++ [op.row], op.delta, true) := by
  unfold bump
  rw [show (op.kind, op.scope) = op.pair from rfl, absent]
  rfl

theorem valuesOf_row {row : GovernanceCounter}
    (found : Table.find GovernanceCounter.key counters op.pair = some row) :
    valuesOf counters op.pair = row.count := by
  unfold valuesOf countOf
  rw [show (op.pair.1, op.pair.2) = op.pair from rfl, found]
  rfl

theorem valuesOf_absent (absent : Table.find GovernanceCounter.key counters op.pair = none) :
    valuesOf counters op.pair = 0 := by
  unfold valuesOf countOf
  rw [show (op.pair.1, op.pair.2) = op.pair from rfl, absent]
  rfl

/-- An accepted bump changes the value of its own pair, and no other. -/
theorem valuesOf_bumped {after : List GovernanceCounter} {count : Int}
    (bumped : bump counters op.kind op.scope op.delta op.limit = .ok (after, count, true)) :
    valuesOf after = Function.update (valuesOf counters) op.pair
      (valuesOf counters op.pair + op.delta) := by
  have changed := bump_case bumped
  funext pair
  by_cases own : pair = op.pair
  · subst own
    rw [Function.update_self]
    exact (changed.counted rfl).1
  · rw [Function.update_of_ne own]
    exact changed.others pair.1 pair.2 own

/-- A bump whose numbers are integers of the database. -/
theorem boundBump_of_binds (delta : Binds op.delta) (limit : Binds op.limit)
    (sum : minInteger ≤ valuesOf counters op.pair + op.delta) :
    boundBump counters op =
      match bump counters op.kind op.scope op.delta op.limit with
      | .error failure => (counters, .raised "IntegrityError" failure.message)
      | .ok (after, count, accepted) => (after, .answered count accepted) := by
  unfold boundBump
  rw [if_neg (not_not.mpr ⟨delta, limit⟩), if_neg (Int.not_lt.mpr sum)]

/-- A counter that has a row is bumped as in the map. -/
theorem boundBump_row {row : GovernanceCounter} (delta : Binds op.delta) (limit : Binds op.limit)
    (sum : minInteger ≤ valuesOf counters op.pair + op.delta)
    (found : Table.find GovernanceCounter.key counters op.pair = some row) :
    (boundBump counters op).2 = (mapBump (valuesOf counters) op).2 := by
  rw [boundBump_of_binds delta limit sum, bump_row found]
  unfold mapBump
  dsimp only
  rw [valuesOf_row found]
  by_cases within : row.count + op.delta ≤ op.limit
  · rw [if_pos within, if_pos within]
  · rw [if_neg within, if_neg within]

/-- The first use of a counter is answered as by the map if and only if it is within the cap
and no counter has its primary key. -/
theorem boundBump_absent (delta : Binds op.delta) (limit : Binds op.limit)
    (sum : minInteger ≤ valuesOf counters op.pair + op.delta)
    (absent : Table.find GovernanceCounter.key counters op.pair = none) :
    (boundBump counters op).2 = (mapBump (valuesOf counters) op).2 ↔
      op.delta ≤ op.limit ∧ ¬(counters.any fun row => row.id == op.id) = true := by
  rw [boundBump_of_binds delta limit sum, bump_absent absent]
  unfold mapBump
  dsimp only
  rw [valuesOf_absent absent, zero_add]
  by_cases collides : (counters.any fun row => row.id == op.id) = true
  · rw [if_pos collides]
    refine ⟨fun same => ?_, fun fits => absurd collides fits.2⟩
    dsimp only at same
    by_cases within : op.delta ≤ op.limit
    · rw [if_pos within] at same
      cases same
    · rw [if_neg within] at same
      cases same
  · rw [if_neg collides]
    by_cases within : op.delta ≤ op.limit
    · rw [if_pos within]
      exact ⟨fun _ => ⟨within, collides⟩, fun _ => rfl⟩
    · rw [if_neg within]
      refine ⟨fun same => ?_, fun fits => absurd fits.1 within⟩
      cases (BumpAnswer.answered.inj same).2

/-- A bump is answered as by the map if and only if it fits. -/
theorem Tabulates.answer_iff (tabulates : Tabulates counters before) :
    (boundBump counters op).2 = (mapBump (valuesOf counters) op).2 ↔ FitsAfter before op := by
  constructor
  · intro same
    have answered : ∃ count accepted, (boundBump counters op).2 = .answered count accepted := by
      rw [same]
      unfold mapBump
      dsimp only
      split <;> exact ⟨_, _, rfl⟩
    obtain ⟨count, accepted, answer⟩ := answered
    have binds : Binds op.delta ∧ Binds op.limit := by
      by_contra unbound
      rw [boundBump, if_pos unbound] at answer
      cases answer
    have sum : minInteger ≤ valuesOf counters op.pair + op.delta := by
      by_contra below
      rw [boundBump, if_neg (not_not.mpr binds), if_pos (Int.not_le.mp below)] at answer
      cases answer
    refine ⟨binds.1, binds.2, tabulates.values ▸ sum, ?_⟩
    by_cases used : ∃ earlier ∈ before, earlier.pair = op.pair
    · exact .inl used
    · have first := (boundBump_absent binds.1 binds.2 sum (tabulates.find_eq_none.mpr used)).mp same
      rw [tabulates.collides] at first
      exact .inr ⟨first.1, fun earlier member shared => first.2 ⟨earlier, member, shared⟩⟩
  · rintro ⟨delta, limit, sum, first⟩
    rw [← tabulates.values] at sum
    cases found : Table.find GovernanceCounter.key counters op.pair with
    | some row => exact boundBump_row delta limit sum found
    | none =>
        obtain ⟨within, free⟩ := first.resolve_left (tabulates.find_eq_none.mp found)
        refine (boundBump_absent delta limit sum found).mpr ⟨within, ?_⟩
        rw [tabulates.collides]
        exact fun ⟨earlier, member, shared⟩ => free earlier member shared

/-- An answer is that of the bump of the table. -/
theorem bump_of_answered {count : Int} {accepted : Bool}
    (answer : (boundBump counters op).2 = .answered count accepted) :
    bump counters op.kind op.scope op.delta op.limit =
      .ok ((boundBump counters op).1, count, accepted) := by
  generalize bound_eq : boundBump counters op = bound at answer
  unfold boundBump at bound_eq
  split at bound_eq
  next =>
    subst bound_eq
    cases answer
  next =>
    split at bound_eq
    next =>
      subst bound_eq
      cases answer
    next =>
      split at bound_eq
      next =>
        subst bound_eq
        cases answer
      next bumped =>
        subst bound_eq
        cases answer
        exact bumped

/-- A bump that is answered as by the map leaves the values of the map. -/
theorem valuesOf_boundBump (same : (boundBump counters op).2 = (mapBump (valuesOf counters) op).2) :
    valuesOf (boundBump counters op).1 = (mapBump (valuesOf counters) op).1 := by
  unfold mapBump at same ⊢
  dsimp only at same ⊢
  by_cases within : valuesOf counters op.pair + op.delta ≤ op.limit
  · rw [if_pos within] at same ⊢
    exact valuesOf_bumped (bump_of_answered same)
  · rw [if_neg within] at same ⊢
    rw [(bump_case (bump_of_answered same)).refused rfl]

theorem bump_keys {after : List GovernanceCounter} {count : Int} {accepted : Bool}
    (bumped : bump counters op.kind op.scope op.delta op.limit = .ok (after, count, accepted))
    (pair : String × String) :
    pair ∈ after.map GovernanceCounter.key ↔
      pair ∈ counters.map GovernanceCounter.key ∨ pair = op.pair := by
  cases found : Table.find GovernanceCounter.key counters op.pair with
  | some row =>
      have stored : op.pair ∈ counters.map GovernanceCounter.key := by
        obtain ⟨in_table, named⟩ := Table.find_eq_some found
        exact List.mem_map.mpr ⟨row, in_table, named⟩
      have keys_eq : after.map GovernanceCounter.key = counters.map GovernanceCounter.key := by
        rw [bump_row found] at bumped
        split at bumped
        next =>
          cases bumped
          exact Table.map_key_store _
        next =>
          cases bumped
          rfl
      rw [keys_eq]
      exact ⟨.inl, fun used => used.elim id fun own => own ▸ stored⟩
  | none =>
      rw [bump_absent found] at bumped
      split at bumped
      next => cases bumped
      next =>
        cases bumped
        rw [List.map_append, List.mem_append, List.map_singleton, List.mem_singleton]
        rfl

theorem mapBump_answered (values : CounterValues) (op : Bump) :
    ∃ count accepted, (mapBump values op).2 = .answered count accepted := by
  unfold mapBump
  dsimp only
  split <;> exact ⟨_, _, rfl⟩

/-- A bump that is answered as by the map leaves a table that goes on so. -/
theorem Tabulates.next (tabulates : Tabulates counters before)
    (same : (boundBump counters op).2 = (mapBump (valuesOf counters) op).2) :
    Tabulates (boundBump counters op).1 (before ++ [op]) := by
  obtain ⟨count, accepted, answer⟩ := mapBump_answered (valuesOf counters) op
  have bumped := bump_of_answered (same.trans answer)
  refine ⟨?_, fun pair => ?_⟩
  · rw [valuesOf_boundBump same, tabulates.values, Machine.stateAfter_append]
    rfl
  · rw [bump_keys bumped, tabulates.used, List.map_append, List.mem_append, List.map_singleton,
      List.mem_singleton]

end Step

/-! ## Sequences of bumps -/

theorem followsMap_cons {counters : List GovernanceCounter} {values : CounterValues} {op : Bump}
    {rest : List Bump} :
    FollowsMap counters values (op :: rest) ↔
      valuesOf counters = values ∧ (boundBump counters op).2 = (mapBump values op).2 ∧
        FollowsMap (boundBump counters op).1 (mapBump values op).1 rest := by
  constructor
  · rintro ⟨answers, same⟩
    obtain ⟨answer, later⟩ := List.cons.inj answers
    refine ⟨same [] (op :: rest) rfl, answer, later, fun before after split => ?_⟩
    exact same (op :: before) after (congrArg (op :: ·) split)
  · rintro ⟨same, answer, follows⟩
    refine ⟨List.cons_eq_cons.mpr ⟨answer, follows.answers⟩, fun before after split => ?_⟩
    cases before with
    | nil => exact same
    | cons first before =>
        obtain ⟨rfl, rest_eq⟩ := List.cons.inj split
        exact follows.values before after rest_eq

/-- By induction on the bumps: a table follows the map as long as each of them fits. -/
theorem Tabulates.followsMap_iff {counters : List GovernanceCounter} {before : List Bump}
    (tabulates : Tabulates counters before) (ops : List Bump) :
    FollowsMap counters (valuesOf counters) ops ↔
      ∀ earlier op later, ops = earlier ++ op :: later → FitsAfter (before ++ earlier) op := by
  induction ops generalizing counters before with
  | nil =>
      refine ⟨fun _ earlier op later split => by simp at split, fun _ => ⟨rfl, ?_⟩⟩
      intro earlier after split
      obtain ⟨rfl, rfl⟩ := List.append_eq_nil_iff.mp split.symm
      rfl
  | cons op rest ih =>
      rw [followsMap_cons, eq_self, true_and, tabulates.answer_iff]
      constructor
      · rintro ⟨fits, follows⟩ earlier chosen later split
        have same := tabulates.answer_iff.mpr fits
        rw [← valuesOf_boundBump same, ih (tabulates.next same)] at follows
        cases earlier with
        | nil =>
            obtain ⟨rfl, rfl⟩ := List.cons.inj split
            rwa [List.append_nil]
        | cons first earlier =>
            obtain ⟨rfl, rest_eq⟩ := List.cons.inj split
            have fits_later := follows earlier chosen later rest_eq
            rwa [List.append_assoc] at fits_later
      · intro all
        have fits : FitsAfter before op := by simpa using all [] op rest rfl
        have same := tabulates.answer_iff.mpr fits
        refine ⟨fits, ?_⟩
        rw [← valuesOf_boundBump same, ih (tabulates.next same)]
        intro earlier chosen later split
        have fits_later := all (op :: earlier) chosen later (congrArg (op :: ·) split)
        rwa [List.append_assoc]

/-- The counters behave as a map if and only if every bump fits. -/
theorem behavesAsMap_iff (ops : List Bump) :
    BehavesAsMap ops ↔ ∀ before op after, ops = before ++ op :: after → FitsAfter before op := by
  have tabulates : Tabulates [] [] := ⟨rfl, fun _ => Iff.rfl⟩
  exact tabulates.followsMap_iff ops

namespace Demo

/-- A workflow name of 59 letters. -/
def longName : String := String.ofList (List.replicate 59 'w')

/-- Starts of a workflow that are counted in two windows of time. -/
def windows : List Bump :=
  [{ kind := "rate", scope := longName ++ ":0", cap := some 10 },
    { kind := "rate", scope := longName ++ ":3600", cap := some 10 }]

end Demo

/-- The counter of a second window has the primary key of the first, and cannot be inserted. -/
theorem not_behavesAsMap : ¬BehavesAsMap Demo.windows := by
  intro behaves
  have answers := behaves.answers
  have raised : governanceCounters.outputs [] Demo.windows =
      [.answered 1 true, .raised "IntegrityError"
        "UNIQUE constraint failed: workflow_governance_counter.id"] := by
    decide +kernel
  have counted : counterMap.outputs (fun _ => 0) Demo.windows =
      [.answered 1 true, .answered 1 true] := by
    decide +kernel
  rw [raised, counted] at answers
  cases answers

end Era.Workflows
