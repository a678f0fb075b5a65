import Era.Lib.Holding
import Era.Workflows.Slots

/-!
# The balance of admission

As long as the calls on a run follow one another, no call dies and no budget is refused, the
counters of admitted runs agree with the runs that have not ended.
-/

namespace Era.Workflows

open Era.Core Era.Lib Era.Services

/-! ## Counters -/

section Counters

variable {counters after : List GovernanceCounter} {kind scope : String}

theorem countOf_store {row changed : GovernanceCounter}
    (found : Table.find GovernanceCounter.key counters (kind, scope) = some row)
    (same : changed.key = (kind, scope)) :
    countOf (Table.store GovernanceCounter.key counters changed) kind scope = changed.count := by
  unfold countOf
  rw [← same] at found ⊢
  rw [Table.find_store_self found]
  rfl

theorem countOf_store_ne {changed : GovernanceCounter} (different : (kind, scope) ≠ changed.key) :
    countOf (Table.store GovernanceCounter.key counters changed) kind scope =
      countOf counters kind scope := by
  unfold countOf
  rw [Table.find_store_ne different]

/-- What a bump does to its own counter and to all others. -/
structure BumpCase (counters : List GovernanceCounter) (kind scope : String) (delta cap : Int)
    (bumped : List GovernanceCounter × Int × Bool) : Prop where
  counted : bumped.2.2 = true → countOf bumped.1 kind scope = countOf counters kind scope + delta ∧
    (countOf bumped.1 kind scope ≤ cap ∨ countOf bumped.1 kind scope = delta)
  refused : bumped.2.2 = false → bumped.1 = counters
  others : ∀ otherKind otherScope, (otherKind, otherScope) ≠ (kind, scope) →
    countOf bumped.1 otherKind otherScope = countOf counters otherKind otherScope

theorem bump_case {delta cap : Int} {bumped : List GovernanceCounter × Int × Bool}
    (changed : bump counters kind scope delta cap = .ok bumped) :
    BumpCase counters kind scope delta cap bumped := by
  unfold bump at changed
  dsimp only at changed
  split at changed
  next row found =>
    have named : row.key = (kind, scope) := (Table.find_eq_some found).2
    have count_eq : countOf counters kind scope = row.count := by
      unfold countOf
      rw [found]
      rfl
    split at changed
    next under =>
      cases changed
      refine ⟨fun _ => ?_, by rintro ⟨⟩, fun _ _ different => ?_⟩
      · have stored := @countOf_store counters kind scope row
          { row with count := row.count + delta } found named
        rw [stored, count_eq]
        exact ⟨rfl, .inl under⟩
      · exact countOf_store_ne (named ▸ different)
    next =>
      cases changed
      exact ⟨by rintro ⟨⟩, fun _ => rfl, fun _ _ _ => rfl⟩
  next absent =>
    split at changed
    next => cases changed
    next =>
      cases changed
      refine ⟨fun _ => ?_, by rintro ⟨⟩, fun otherKind otherScope different => ?_⟩
      · have inserted : countOf (counters ++ [{ kind, scope, count := delta }]) kind scope =
            delta := by
          have found := @Table.find_append_self _ _ _ GovernanceCounter.key counters
            { kind, scope, count := delta } absent
          unfold countOf
          exact congrArg (fun row => (row.map GovernanceCounter.count).getD 0) found
        have none_before : countOf counters kind scope = 0 := by
          unfold countOf
          rw [absent]
          rfl
        rw [inserted, none_before, zero_add]
        exact ⟨rfl, .inr rfl⟩
      · have found := @Table.find_append_ne _ _ _ GovernanceCounter.key counters
          (otherKind, otherScope) { kind, scope, count := delta } different
        unfold countOf
        dsimp only
        rw [found]

/-- A claim counts one more, under the cap if the cap allows any. -/
theorem claimOne_ok {cap : Int} {refused : GovernanceFailure}
    (claimed : claimOne counters kind scope cap refused = .ok after) :
    countOf after kind scope = countOf counters kind scope + 1 ∧
      (1 ≤ cap → countOf after kind scope ≤ cap) ∧
      ∀ otherKind otherScope, (otherKind, otherScope) ≠ (kind, scope) →
        countOf after otherKind otherScope = countOf counters otherKind otherScope := by
  unfold claimOne at claimed
  simp only [bind, Except.bind, pure, Except.pure, throw, throwThe, MonadExceptOf.throw] at claimed
  split at claimed
  next => cases claimed
  next bumped changed =>
    split at claimed
    next counted =>
      cases claimed
      have found := bump_case changed
      obtain ⟨count_eq, bounded⟩ := found.counted counted
      refine ⟨count_eq, fun positive => ?_, found.others⟩
      obtain under | one := bounded
      · exact under
      · omega
    next => cases claimed

/-- An admitted run is counted for its actor and for its workflow. -/
theorem claimStart_ok {settings : GovernanceSettings} {actorId workflowName : String}
    {windowStart : Int}
    (claimed : claimStart settings counters actorId workflowName windowStart = .ok after) :
    (∀ actor, countOf after actorKind actor =
        countOf counters actorKind actor + if actorId = actor then 1 else 0) ∧
      (∀ workflow, countOf after workflowKind workflow =
        countOf counters workflowKind workflow + if workflowName = workflow then 1 else 0) ∧
      (1 ≤ settings.maxConcurrentPerActor →
        countOf after actorKind actorId ≤ settings.maxConcurrentPerActor) ∧
      (1 ≤ settings.maxConcurrentPerWorkflow →
        countOf after workflowKind workflowName ≤ settings.maxConcurrentPerWorkflow) := by
  unfold claimStart at claimed
  simp only [bind, Except.bind] at claimed
  split at claimed
  next => cases claimed
  next afterActor actor_claimed =>
    split at claimed
    next => cases claimed
    next afterWorkflow workflow_claimed =>
      obtain ⟨actor_eq, actor_cap, actor_others⟩ := claimOne_ok actor_claimed
      obtain ⟨workflow_eq, workflow_cap, workflow_others⟩ := claimOne_ok workflow_claimed
      obtain ⟨_, _, rate_others⟩ := claimOne_ok claimed
      have actor_kept (actor : String) : countOf after actorKind actor =
          countOf afterActor actorKind actor := by
        rw [rate_others _ _ (by simp [actorKind]), workflow_others _ _ (by
          simp [actorKind, workflowKind])]
      have workflow_kept (workflow : String) : countOf after workflowKind workflow =
          countOf afterWorkflow workflowKind workflow :=
        rate_others _ _ (by simp [workflowKind])
      refine ⟨fun actor => ?_, fun workflow => ?_, fun positive => ?_, fun positive => ?_⟩
      · rw [actor_kept]
        split
        next same =>
          subst same
          exact actor_eq
        next different =>
          rw [add_zero]
          exact actor_others _ _ (by simpa using Ne.symm different)
      · rw [workflow_kept]
        have before := actor_others workflowKind workflow (by simp [actorKind, workflowKind])
        split
        next same =>
          subst same
          rw [workflow_eq, before]
        next different =>
          rw [add_zero, workflow_others _ _ (by simpa using Ne.symm different), before]
      · rw [actor_kept]
        exact actor_cap positive
      · rw [workflow_kept]
        exact workflow_cap positive

/-- A counter that is there goes down by one. -/
theorem bump_down (counted : 1 ≤ countOf counters kind scope)
    (bounded : countOf counters kind scope ≤ 2 ^ 31) :
    ∃ bumped, bump counters kind scope (-1) noCap = .ok bumped ∧
      countOf bumped.1 kind scope = countOf counters kind scope - 1 ∧
      ∀ otherKind otherScope, (otherKind, otherScope) ≠ (kind, scope) →
        countOf bumped.1 otherKind otherScope = countOf counters otherKind otherScope := by
  cases found : Table.find GovernanceCounter.key counters (kind, scope) with
  | none =>
      rw [countOf, found] at counted
      cases counted
  | some row =>
      have count_eq : countOf counters kind scope = row.count := by
        rw [countOf, found]
        rfl
      have under : row.count + -1 ≤ noCap := by
        rw [count_eq] at bounded
        unfold noCap
        omega
      have changed : bump counters kind scope (-1) noCap =
          .ok (Table.store GovernanceCounter.key counters { row with count := row.count + -1 },
            row.count + -1, true) := by
        unfold bump
        rw [found]
        dsimp only
        rw [if_pos under]
      have spent := bump_case changed
      exact ⟨_, changed, by rw [(spent.counted rfl).1]; rfl, spent.others⟩

/-- A run that is released is no longer counted for its actor and its workflow. -/
theorem releaseStart_counts {actorId workflowName : String}
    (actor_counted : 1 ≤ countOf counters actorKind actorId)
    (actor_bounded : countOf counters actorKind actorId ≤ 2 ^ 31)
    (workflow_counted : 1 ≤ countOf counters workflowKind workflowName)
    (workflow_bounded : countOf counters workflowKind workflowName ≤ 2 ^ 31) :
    (∀ actor, countOf (releaseStart counters actorId workflowName) actorKind actor =
        countOf counters actorKind actor - if actorId = actor then 1 else 0) ∧
      ∀ workflow, countOf (releaseStart counters actorId workflowName) workflowKind workflow =
        countOf counters workflowKind workflow - if workflowName = workflow then 1 else 0 := by
  obtain ⟨afterActor, actor_bumped, actor_eq, actor_others⟩ :=
    bump_down actor_counted actor_bounded
  have before (workflow : String) : countOf afterActor.1 workflowKind workflow =
      countOf counters workflowKind workflow :=
    actor_others _ _ (by simp [actorKind, workflowKind])
  obtain ⟨afterWorkflow, workflow_bumped, workflow_eq, workflow_others⟩ :=
    bump_down (before workflowName ▸ workflow_counted) (before workflowName ▸ workflow_bounded)
  have released : releaseStart counters actorId workflowName = afterWorkflow.1 := by
    unfold releaseStart
    simp only [bind, Except.bind, actor_bumped, workflow_bumped]
    rfl
  rw [released]
  refine ⟨fun actor => ?_, fun workflow => ?_⟩
  · rw [workflow_others _ _ (by simp [actorKind, workflowKind])]
    split
    next same =>
      subst same
      exact actor_eq
    next different =>
      rw [sub_zero]
      exact actor_others _ _ (by simpa using Ne.symm different)
  · split
    next same =>
      subst same
      rw [workflow_eq, before]
    next different =>
      rw [sub_zero, workflow_others _ _ (by simpa using Ne.symm different), before]

/-- A counter of admitted runs. -/
def isAdmission (kind : String) : Prop := kind = actorKind ∨ kind = workflowKind

/-- The budget of steps is counted elsewhere. -/
theorem claimStepBudget_counts {settings : GovernanceSettings} {runId : String}
    (claimed : claimStepBudget settings counters runId = .ok after)
    (admission : isAdmission kind) : countOf after kind scope = countOf counters kind scope := by
  have not_steps : (kind, scope) ≠ ("steps", "run:" ++ runId) := by
    obtain rfl | rfl := admission <;> simp [actorKind, workflowKind]
  have not_cost : (kind, scope) ≠ ("cost", "run:" ++ runId) := by
    obtain rfl | rfl := admission <;> simp [actorKind, workflowKind]
  unfold claimStepBudget at claimed
  simp only [bind, Except.bind] at claimed
  split at claimed
  next => cases claimed
  next spent changed =>
    split at claimed
    next => cases claimed
    next =>
      rw [(claimOne_ok claimed).2.2 _ _ not_cost, (bump_case changed).others _ _ not_steps]

theorem claimBatch_counts (settings : GovernanceSettings) (runId : String) (members : Nat)
    (counters : List GovernanceCounter) (admission : isAdmission kind) :
    countOf (claimBatch settings runId members counters).1 kind scope =
      countOf counters kind scope := by
  induction members generalizing counters with
  | zero => rfl
  | succ members ih =>
      rw [claimBatch]
      split
      next => rfl
      next after claimed => rw [ih, claimStepBudget_counts claimed admission]

end Counters

/-! ## Slots and counters -/

/-- The caps are positive, and the counters have room for them. -/
structure GovernanceSettings.Fits (settings : GovernanceSettings) : Prop where
  actor : 1 ≤ settings.maxConcurrentPerActor ∧ settings.maxConcurrentPerActor ≤ 2 ^ 31
  workflow : 1 ≤ settings.maxConcurrentPerWorkflow ∧ settings.maxConcurrentPerWorkflow ≤ 2 ^ 31

/-- The runs of an actor. -/
def ofActor (actor : String) (key : RunKey) (_ : String) : Prop := key.1 = actor

/-- The runs in the slots of a workflow. -/
def ofWorkflow (workflow : String) (_ : RunKey) (slot : String) : Prop := slot = workflow

instance (actor : String) (key : RunKey) (slot : String) : Decidable (ofActor actor key slot) :=
  inferInstanceAs (Decidable (key.1 = actor))

instance (workflow : String) (key : RunKey) (slot : String) :
    Decidable (ofWorkflow workflow key slot) :=
  inferInstanceAs (Decidable (slot = workflow))

/-- The counters agree with the slots that are held, and keep to the caps. -/
structure Counted (settings : GovernanceSettings) (counters : List GovernanceCounter)
    (held : RunKey → Option String) : Prop where
  finite : (Holding.holders held fun _ _ => True).Finite
  actor : ∀ actor, countOf counters actorKind actor = (Holding.holders held (ofActor actor)).ncard
  workflow : ∀ workflow,
    countOf counters workflowKind workflow = (Holding.holders held (ofWorkflow workflow)).ncard
  actor_cap : ∀ actor, countOf counters actorKind actor ≤ settings.maxConcurrentPerActor
  workflow_cap : ∀ workflow,
    countOf counters workflowKind workflow ≤ settings.maxConcurrentPerWorkflow

section Counted

variable {settings : GovernanceSettings} {counters after : List GovernanceCounter}
variable {held : RunKey → Option String} {key : RunKey} {workflow : String}

theorem Counted.finite_kind (counted : Counted settings counters held)
    (kind : RunKey → String → Prop) : (Holding.holders held kind).Finite :=
  counted.finite.subset Holding.holders_subset

theorem counted_initial (fits : settings.Fits) : Counted settings [] fun _ => none := by
  refine ⟨?_, ?_, ?_, ?_, ?_⟩
  · rw [Holding.holders_none]
    exact Set.finite_empty
  · intro actor
    rw [Holding.holders_none, Set.ncard_empty]
    rfl
  · intro workflow
    rw [Holding.holders_none, Set.ncard_empty]
    rfl
  · intro actor
    exact le_trans zero_le_one fits.actor.1
  · intro workflow
    exact le_trans zero_le_one fits.workflow.1

/-- Other counters do not matter. -/
theorem Counted.of_counts (counted : Counted settings counters held)
    (same : ∀ kind scope, isAdmission kind →
      countOf after kind scope = countOf counters kind scope) :
    Counted settings after held := by
  have actor_eq (actor : String) := same actorKind actor (.inl rfl)
  have workflow_eq (workflow : String) := same workflowKind workflow (.inr rfl)
  refine ⟨counted.finite, ?_, ?_, ?_, ?_⟩
  · exact fun actor => (actor_eq actor).trans (counted.actor actor)
  · exact fun workflow => (workflow_eq workflow).trans (counted.workflow workflow)
  · exact fun actor => (actor_eq actor).trans_le (counted.actor_cap actor)
  · exact fun workflow => (workflow_eq workflow).trans_le (counted.workflow_cap workflow)

/-- An admitted run is counted. -/
theorem Counted.claim (counted : Counted settings counters held) (fits : settings.Fits)
    (free : held key = none) {windowStart : Int}
    (claimed : claimStart settings counters key.1 workflow windowStart = .ok after) :
    Counted settings after (Function.update held key (some workflow)) := by
  obtain ⟨actor_eq, workflow_eq, actor_cap, workflow_cap⟩ := claimStart_ok claimed
  refine ⟨Holding.finite_claim free counted.finite, ?_, ?_, ?_, ?_⟩
  · intro actor
    rw [actor_eq, counted.actor, Holding.ncard_claim free (counted.finite_kind _), Nat.cast_add,
      Nat.cast_ite]
    rfl
  · intro other
    rw [workflow_eq, counted.workflow, Holding.ncard_claim free (counted.finite_kind _),
      Nat.cast_add, Nat.cast_ite]
    rfl
  · intro actor
    by_cases same : key.1 = actor
    · rw [← same]
      exact actor_cap fits.actor.1
    · rw [actor_eq, if_neg same, add_zero]
      exact counted.actor_cap actor
  · intro other
    by_cases same : workflow = other
    · rw [← same]
      exact workflow_cap fits.workflow.1
    · rw [workflow_eq, if_neg same, add_zero]
      exact counted.workflow_cap other

/-- A released run is no longer counted. -/
theorem Counted.release (counted : Counted settings counters held) (fits : settings.Fits)
    (holds : held key = some workflow) :
    Counted settings (releaseStart counters key.1 workflow) (Function.update held key none) := by
  have actor_before (actor : String) : countOf counters actorKind actor =
      (Holding.holders (Function.update held key none) (ofActor actor)).ncard +
        if key.1 = actor then 1 else 0 := by
    rw [counted.actor, Holding.ncard_release holds (counted.finite_kind _), Nat.cast_add,
      Nat.cast_ite]
    rfl
  have workflow_before (other : String) : countOf counters workflowKind other =
      (Holding.holders (Function.update held key none) (ofWorkflow other)).ncard +
        if workflow = other then 1 else 0 := by
    rw [counted.workflow, Holding.ncard_release holds (counted.finite_kind _), Nat.cast_add,
      Nat.cast_ite]
    rfl
  have actor_counted : 1 ≤ countOf counters actorKind key.1 := by
    rw [actor_before, if_pos rfl]
    omega
  have workflow_counted : 1 ≤ countOf counters workflowKind workflow := by
    rw [workflow_before, if_pos rfl]
    omega
  obtain ⟨actor_eq, workflow_eq⟩ := releaseStart_counts actor_counted
    ((counted.actor_cap key.1).trans fits.actor.2) workflow_counted
    ((counted.workflow_cap workflow).trans fits.workflow.2)
  refine ⟨Holding.finite_release holds counted.finite, ?_, ?_, ?_, ?_⟩
  · intro actor
    rw [actor_eq, actor_before, add_sub_cancel_right]
  · intro other
    rw [workflow_eq, workflow_before, add_sub_cancel_right]
  · intro actor
    refine le_trans ?_ (counted.actor_cap actor)
    rw [actor_eq]
    split <;> omega
  · intro other
    refine le_trans ?_ (counted.workflow_cap other)
    rw [workflow_eq]
    split <;> omega

end Counted

/-! ## Histories -/

/-- What has become of the slot of a run. -/
def usesOf (key : RunKey) (seen : List (RunKey × SlotUse)) : List SlotUse :=
  (seen.filter fun use => use.1 == key).map Prod.snd

theorem usesOf_append (key : RunKey) (seen new : List (RunKey × SlotUse)) :
    usesOf key (seen ++ new) = usesOf key seen ++ usesOf key new := by
  unfold usesOf
  rw [List.filter_append, List.map_append]

section Histories

variable (operations : WorkflowOperations) (settings : GovernanceSettings)

/-- The calls on one run follow one another, and no call dies. -/
def CallsInTurn (state : GovernedState) (given : GovernedInput) : Prop :=
  (∀ key, given.input.begun? operations state.operations = some key → ∀ caller,
    ((state.operations.runs key).engine.drivers caller).stage = .off) ∧
  ∀ key caller, given.input ≠ .run key (.crash caller)

/-- No budget of steps is refused. -/
def BudgetGranted (state : GovernedState) (given : GovernedInput) : Prop :=
  ∀ key runId members, state.call? operations given = some (key, .claimSteps runId members) →
    (state.governance operations settings given).2 = none

instance (state : GovernedState) (given : GovernedInput) :
    Decidable (BudgetGranted operations settings state given) :=
  decidable_of_iff ((match state.call? operations given with
    | some (_, .claimSteps _ _) => (state.governance operations settings given).2.isNone
    | _ => true) = true) (by
      unfold BudgetGranted
      split
      next asks =>
        rw [asks, Option.isNone_iff_eq_none]
        exact ⟨fun granted _ _ _ _ => granted, fun granted => granted _ _ _ rfl⟩
      next other => exact ⟨fun _ key runId members asks => absurd asks (other key runId members),
        fun _ => rfl⟩)

/-- The calls follow one another, and no budget of steps is refused. -/
def Undisputed (state : GovernedState) (given : GovernedInput) : Prop :=
  CallsInTurn operations state given ∧ BudgetGranted operations settings state given

/-- A run, the slot that it holds, and what has become of the slot so far. -/
structure Held (key : RunKey) (tracked : TrackedRun) (held : Option String)
    (uses : List SlotUse) : Prop where
  call : ∃ caller, OneCall key.1 tracked caller ∧ tracked.slotOf caller = held
  uses : uses = [] ∧ held = none ∨ uses = [.claimed] ∧ held.isSome = true ∨
    uses = [.claimed, .released] ∧ held = none ∧ tracked.engine.store.run.isSome = true

/-- The slots of all runs, and the counters. -/
structure Admitted (seen : List (RunKey × SlotUse)) (state : GovernedState)
    (held : RunKey → Option String) : Prop where
  counted : Counted settings state.counters held
  runs : ∀ key, Held key (state.operations.runs key) (held key) (usesOf key seen)

variable {operations settings} {state : GovernedState} {given : GovernedInput}
variable {seen : List (RunKey × SlotUse)} {held : RunKey → Option String}

theorem held_initial (key : RunKey) : Held key {} none [] := by
  refine ⟨⟨0, oneCall_initial key.1, ?_⟩, .inl ⟨rfl, rfl⟩⟩
  rfl

/-- An input that is not for a run may begin a call. -/
theorem Held.begun {key : RunKey} {input : OperationsInput} {after : TrackedRun}
    {held : Option String} {uses : List SlotUse}
    (holds : Held key (state.operations.runs key) held uses)
    (change : RunChange operations state.operations input key after)
    (in_turn : ∀ key, input.begun? operations state.operations = some key → ∀ caller,
      ((state.operations.runs key).engine.drivers caller).stage = .off)
    (not_run : ∀ engineInput, input ≠ .run key engineInput) : Held key after held uses := by
  cases change with
  | kept => exact holds
  | @begins caller ctx allowed source origin free resolved scheduled begun owner =>
      obtain ⟨active, one, slot_eq⟩ := holds.call
      have launched := @after_launch operations (state.operations.runs key) caller free
        origin.definition ctx allowed (.start origin.request)
      constructor
      · refine ⟨caller, ?_⟩
        rw [← slot_eq]
        exact one.launch (in_turn key begun) caller ctx allowed (.start origin.request)
          (fun _ _ => owner) launched
      · dsimp only
        rw [launched, after_store]
        exact holds.uses
  | steps engineInput input_eq => exact absurd input_eq (not_run engineInput)

/-- A move of the slot of a run. -/
theorem Held.step {key : RunKey} {input : Input} {refused : Option GovernanceFailure}
    {held : Option String} {uses : List SlotUse} (governed : operations.governed = true)
    (holds : Held key (state.operations.runs key) held uses)
    (granted : (∀ actorId workflowName, (state.operations.runs key).governanceCall input ≠
      some (.claimStart actorId workflowName)) → refused = none)
    (in_turn : InTurn (state.operations.runs key) input) :
    ∃ after, SlotMove key.1 (state.operations.runs key) input refused held after ∧
      Held key ((state.operations.runs key).step operations state.operations
          (input.answered refused)) after
        (uses ++ (((state.operations.runs key).governanceCall input).map
          (GovernanceCall.uses refused)).getD []) := by
  obtain ⟨caller, one, slot_eq⟩ := holds.call
  obtain ⟨later, still, moved⟩ := @OneCall.step operations state.operations key.1
    (state.operations.runs key) caller governed one input refused granted in_turn
  rw [slot_eq] at moved
  refine ⟨_, moved, ⟨later, still, rfl⟩, ?_⟩
  have persists (stored : (state.operations.runs key).engine.store.run.isSome = true) :
      ((state.operations.runs key).step operations state.operations
        (input.answered refused)).engine.store.run.isSome = true := by
    obtain ⟨run, found⟩ := Option.isSome_iff_exists.mp stored
    obtain ⟨after, stored_after, _⟩ :=
      (TrackedRun.step_later (input.answered refused)).kept run found
    rw [stored_after]
    rfl
  generalize TrackedRun.slotOf _ later = after at moved
  cases moved with
  | kept quiet =>
      have silent : (((state.operations.runs key).governanceCall input).map
          (GovernanceCall.uses refused)).getD [] = [] := by
        cases asks : (state.operations.runs key).governanceCall input with
        | none => rfl
        | some call =>
            cases call with
            | claimStart actorId workflowName => exact absurd asks (quiet actorId workflowName).1
            | claimSteps => rfl
            | releaseStart actorId workflowName => exact absurd asks (quiet actorId workflowName).2
      rw [silent, List.append_nil]
      obtain none_used | claimed | ⟨both, none_held, stored⟩ := holds.uses
      · exact .inl none_used
      · exact .inr (.inl claimed)
      · exact .inr (.inr ⟨both, none_held, persists stored⟩)
  | claims asks absent =>
      rw [asks, Option.map_some, Option.getD_some, GovernanceCall.uses]
      obtain ⟨none_used, _⟩ | ⟨_, some_held⟩ | ⟨_, _, stored⟩ := holds.uses
      · rw [none_used, List.nil_append]
        split
        next => exact .inr (.inl ⟨rfl, rfl⟩)
        next => exact .inl ⟨rfl, rfl⟩
      · cases some_held
      · rw [absent] at stored
        cases stored
  | releases asks stored =>
      rw [asks, Option.map_some, Option.getD_some, GovernanceCall.uses]
      obtain ⟨_, none_held⟩ | ⟨claimed, _⟩ | ⟨_, none_held, _⟩ := holds.uses
      · cases none_held
      · rw [claimed]
        exact .inr (.inr ⟨rfl, rfl, persists stored⟩)
      · cases none_held

/-- What an input of a run does to its counters. -/
theorem Counted.moved {counters : List GovernanceCounter} {key : RunKey} {tracked : TrackedRun}
    {input : Input} {windowStart : Int} {after : Option String}
    (counted : Counted settings counters held) (fits : settings.Fits)
    (moved : SlotMove key.1 tracked input
      (((tracked.governanceCall input).map
        (GovernanceCall.answer settings counters windowStart)).getD (counters, none)).2
      (held key) after) :
    Counted settings (((tracked.governanceCall input).map
        (GovernanceCall.answer settings counters windowStart)).getD (counters, none)).1
      (Function.update held key after) := by
  generalize before_eq : held key = before at moved
  cases moved with
  | kept quiet =>
      rw [← before_eq, Function.update_eq_self]
      cases asks : tracked.governanceCall input with
      | none => exact counted
      | some call =>
          cases call with
          | claimStart actorId workflowName => exact absurd asks (quiet actorId workflowName).1
          | claimSteps runId members =>
              exact counted.of_counts fun kind scope admission =>
                claimBatch_counts settings runId members counters admission
          | releaseStart actorId workflowName => exact absurd asks (quiet actorId workflowName).2
  | @claims workflow asks absent =>
      rw [asks, Option.map_some, Option.getD_some, GovernanceCall.answer]
      split
      next after claimed => exact counted.claim fits before_eq claimed
      next => exact before_eq ▸ (Function.update_eq_self key held).symm ▸ counted
  | @releases workflow asks stored =>
      rw [asks, Option.map_some, Option.getD_some, GovernanceCall.answer]
      exact counted.release fits before_eq

theorem usesOf_map_self (key : RunKey) (uses : List SlotUse) :
    usesOf key (uses.map fun use => (key, use)) = uses := by
  unfold usesOf
  rw [List.filter_eq_self.mpr (by simp), List.map_map]
  exact List.map_id uses

theorem usesOf_map_ne {key other : RunKey} (different : other ≠ key) (uses : List SlotUse) :
    usesOf other (uses.map fun use => (key, use)) = [] := by
  simp [usesOf, different.symm]

/-- What a governed input of a run meets. -/
theorem governance_run (governed : operations.governed = true) (key : RunKey) (input : Input)
    (windowStart : Int) :
    state.governance operations settings { input := .run key input, windowStart } =
      (((state.operations.runs key).governanceCall input).map
        (GovernanceCall.answer settings state.counters windowStart)).getD
          (state.counters, none) := by
  unfold GovernedState.governance GovernedState.call?
  dsimp only
  rw [if_pos governed]
  cases (state.operations.runs key).governanceCall input <;> rfl

theorem slots_run (governed : operations.governed = true) (key : RunKey) (input : Input)
    (windowStart : Int) :
    (governedStep operations settings state { input := .run key input, windowStart }).2.slots =
      ((((state.operations.runs key).governanceCall input).map (GovernanceCall.uses
        (state.governance operations settings { input := .run key input, windowStart }).2)).getD
          []).map fun use => (key, use) := by
  unfold governedStep GovernedState.call?
  dsimp only
  rw [if_pos governed]
  cases (state.operations.runs key).governanceCall input <;> rfl

/-- An input that is not for a run makes no call. -/
theorem governedStep_other (not_run : ∀ key input, given.input ≠ .run key input) :
    (governedStep operations settings state given).1.counters = state.counters ∧
      (governedStep operations settings state given).1.operations =
        (operationsStep operations state.operations given.input).1 ∧
      (governedStep operations settings state given).2.slots = [] := by
  have no_call : state.call? operations given = none := by
    unfold GovernedState.call?
    split
    next key input run => exact absurd run (not_run key input)
    next => rfl
  have nothing : state.governance operations settings given = (state.counters, none) := by
    unfold GovernedState.governance
    rw [no_call]
  unfold governedStep
  dsimp only
  rw [no_call, nothing]
  refine ⟨rfl, ?_, rfl⟩
  split
  next key input run => exact absurd run (not_run key input)
  next => rfl

/-- The governance service refuses admissions only. -/
theorem granted_run (governed : operations.governed = true) {key : RunKey} {input : Input}
    {windowStart : Int}
    (granted : BudgetGranted operations settings state { input := .run key input, windowStart })
    (not_claim : ∀ actorId workflowName, (state.operations.runs key).governanceCall input ≠
      some (.claimStart actorId workflowName)) :
    (state.governance operations settings { input := .run key input, windowStart }).2 = none := by
  cases asks : (state.operations.runs key).governanceCall input with
  | none =>
      rw [governance_run governed, asks]
      rfl
  | some call =>
      cases call with
      | claimStart actorId workflowName => exact absurd asks (not_claim actorId workflowName)
      | claimSteps runId members =>
          apply granted key runId members
          unfold GovernedState.call?
          dsimp only
          rw [if_pos governed, asks]
          rfl
      | releaseStart actorId workflowName =>
          rw [governance_run governed, asks]
          rfl

/-- The slots stay in agreement with the counters. -/
theorem Admitted.step_run (governed : operations.governed = true) (fits : settings.Fits)
    (admitted : Admitted settings seen state held) {key : RunKey} {input : Input}
    {windowStart : Int}
    (undisputed : Undisputed operations settings state { input := .run key input, windowStart }) :
    ∃ after, Admitted settings
      (seen ++ (governedStep operations settings state { input := .run key input, windowStart
        }).2.slots)
      (governedStep operations settings state { input := .run key input, windowStart }).1
      after := by
  obtain ⟨⟨in_turn, survives⟩, granted⟩ := undisputed
  have in_turn_here : InTurn (state.operations.runs key) input := by
    cases input with
    | launch launched ctx allowed call => exact in_turn key rfl
    | crash crashed => exact absurd rfl (survives key crashed)
    | drive | work | decide => exact True.intro
  obtain ⟨after, moved, holds⟩ := (admitted.runs key).step governed
    (granted_run governed granted) in_turn_here
  refine ⟨Function.update held key after, ?_, fun other => ?_⟩
  · rw [governance_run governed] at moved
    have counted := admitted.counted.moved fits moved
    rw [← governance_run governed] at counted
    exact counted
  · rw [usesOf_append, slots_run governed]
    unfold governedStep operationsStep OperationsState.putRun
    dsimp only
    by_cases same : other = key
    · subst same
      rw [usesOf_map_self, Function.update_self, Function.update_self]
      exact holds
    · rw [usesOf_map_ne same, List.append_nil, Function.update_of_ne same,
        Function.update_of_ne same]
      exact admitted.runs other

theorem Admitted.step (governed : operations.governed = true) (fits : settings.Fits)
    (admitted : Admitted settings seen state held)
    (undisputed : Undisputed operations settings state given) :
    ∃ after, Admitted settings (seen ++ (governedStep operations settings state given).2.slots)
      (governedStep operations settings state given).1 after := by
  by_cases is_run : ∃ key input, given.input = .run key input
  · obtain ⟨key, input, run⟩ := is_run
    obtain ⟨_, windowStart⟩ := given
    cases run
    exact admitted.step_run governed fits undisputed
  · have not_run (key : RunKey) (input : Input) : given.input ≠ .run key input :=
      fun run => is_run ⟨key, input, run⟩
    obtain ⟨counters_eq, operations_eq, slots_eq⟩ :=
      @governedStep_other operations settings state given not_run
    refine ⟨held, ?_, fun key => ?_⟩
    · rw [counters_eq]
      exact admitted.counted
    · rw [operations_eq, slots_eq, List.append_nil]
      exact (admitted.runs key).begun
        ((operationsStep_change operations state.operations given.input).runs key) undisputed.1.1
        (not_run key)

end Histories

/-! ## The balance -/

/-- The runs of an actor that hold a slot. -/
def GovernedState.admittedOf (state : GovernedState) (actor : String) : Set RunKey :=
  {key | key.1 = actor ∧ ∃ workflow, (state.operations.runs key).HoldsSlot workflow}

/-- The runs that hold a slot of a workflow. -/
def GovernedState.admittedTo (state : GovernedState) (workflow : String) : Set RunKey :=
  {key | (state.operations.runs key).HoldsSlot workflow}

/-- The counters are the numbers of the runs that hold slots, and keep to their caps. -/
structure Balanced (settings : GovernanceSettings) (state : GovernedState) : Prop where
  actor : ∀ actor, (state.admittedOf actor).Finite ∧
    countOf state.counters actorKind actor = (state.admittedOf actor).ncard
  workflow : ∀ workflow, (state.admittedTo workflow).Finite ∧
    countOf state.counters workflowKind workflow = (state.admittedTo workflow).ncard
  actor_bounds : ∀ actor, 0 ≤ countOf state.counters actorKind actor ∧
    countOf state.counters actorKind actor ≤ settings.maxConcurrentPerActor
  workflow_bounds : ∀ workflow, 0 ≤ countOf state.counters workflowKind workflow ∧
    countOf state.counters workflowKind workflow ≤ settings.maxConcurrentPerWorkflow

/-- A run claims its slot once at most, holds it until it releases it, and releases it once; if
no call is on its way, it holds the slot of its workflow as long as it is not finished. -/
structure ReleasedOnce (key : RunKey) (tracked : TrackedRun) (uses : List SlotUse) : Prop where
  once : uses = [] ∨ uses = [.claimed] ∨ uses = [.claimed, .released]
  holds : (∃ workflow, tracked.HoldsSlot workflow) ↔ uses = [.claimed]
  quiet : (∀ caller, (tracked.engine.drivers caller).stage = .off) → ∀ workflow,
    tracked.HoldsSlot workflow ↔ ∃ run, tracked.engine.store.run = some run ∧
      run.actorId = key.1 ∧ run.workflowName = workflow ∧ run.status.terminal = false

theorem Held.holdsSlot_iff {key : RunKey} {tracked : TrackedRun} {held : Option String}
    {uses : List SlotUse} (holds : Held key tracked held uses) (workflow : String) :
    tracked.HoldsSlot workflow ↔ held = some workflow := by
  obtain ⟨caller, one, slot_eq⟩ := holds.call
  rw [one.holdsSlot_iff, slot_eq]

theorem Held.releasedOnce {key : RunKey} {tracked : TrackedRun} {held : Option String}
    {uses : List SlotUse} (holds : Held key tracked held uses) : ReleasedOnce key tracked uses := by
  constructor
  · obtain ⟨none_used, _⟩ | ⟨claimed, _⟩ | ⟨both, _⟩ := holds.uses
    · exact .inl none_used
    · exact .inr (.inl claimed)
    · exact .inr (.inr both)
  · simp only [holds.holdsSlot_iff]
    rw [← Option.isSome_iff_exists]
    obtain ⟨none_used, none_held⟩ | ⟨claimed, some_held⟩ | ⟨both, none_held, _⟩ := holds.uses
    · rw [none_used, none_held]
      exact ⟨nofun, nofun⟩
    · rw [claimed]
      exact ⟨fun _ => rfl, fun _ => some_held⟩
    · rw [both, none_held]
      exact ⟨nofun, nofun⟩
  · intro all_off workflow
    obtain ⟨caller, one, _⟩ := holds.call
    rw [one.holdsSlot_iff, TrackedRun.slotOf, slotAt_off (all_off caller), Store.slot?]
    simp only [Option.map_eq_some_iff, Option.filter_eq_some_iff, Bool.not_eq_true']
    constructor
    · rintro ⟨run, ⟨stored, unfinished⟩, named⟩
      exact ⟨run, stored, one.accounted.owned run stored, named, unfinished⟩
    · rintro ⟨run, stored, _, named, unfinished⟩
      exact ⟨run, ⟨stored, unfinished⟩, named⟩

theorem Admitted.balanced {settings : GovernanceSettings} {state : GovernedState}
    {seen : List (RunKey × SlotUse)} {held : RunKey → Option String}
    (admitted : Admitted settings seen state held) : Balanced settings state := by
  have counted := admitted.counted
  have holds (key : RunKey) (workflow : String) := (admitted.runs key).holdsSlot_iff workflow
  have of_actor (actor : String) :
      state.admittedOf actor = Holding.holders held (ofActor actor) := by
    ext key
    simp only [GovernedState.admittedOf, Holding.holders, ofActor, Set.mem_ofPred_eq, holds]
    constructor
    · rintro ⟨same, workflow, slot⟩
      exact ⟨workflow, slot, same⟩
    · rintro ⟨workflow, slot, same⟩
      exact ⟨same, workflow, slot⟩
  have to_workflow (workflow : String) :
      state.admittedTo workflow = Holding.holders held (ofWorkflow workflow) := by
    ext key
    simp [GovernedState.admittedTo, Holding.holders, ofWorkflow, holds]
  constructor
  · intro actor
    rw [of_actor]
    exact ⟨counted.finite_kind _, counted.actor actor⟩
  · intro workflow
    rw [to_workflow]
    exact ⟨counted.finite_kind _, counted.workflow workflow⟩
  · intro actor
    exact ⟨by rw [counted.actor]; exact Int.natCast_nonneg _, counted.actor_cap actor⟩
  · intro workflow
    exact ⟨by rw [counted.workflow]; exact Int.natCast_nonneg _, counted.workflow_cap workflow⟩

/-- If the calls on each run follow one another, none dies and no budget of steps is refused,
the counters are always the numbers of the admitted runs that have not been released, and each
of them is released once. -/
theorem governance_balances {operations : WorkflowOperations} {settings : GovernanceSettings}
    (governed : operations.governed = true) (fits : settings.Fits) {inputs : List GovernedInput}
    (undisputed : (governedWorkflows operations settings).Admits (Undisputed operations settings) {}
      inputs) :
    Balanced settings ((governedWorkflows operations settings).stateAfter {} inputs) ∧
      ∀ key, ReleasedOnce key
        (((governedWorkflows operations settings).stateAfter {} inputs).operations.runs key)
        (usesOf key
          ((governedWorkflows operations settings).trace GovernedOutput.slots {} inputs)) := by
  have initially : ∃ held, Admitted settings [] {} held :=
    ⟨fun _ => none, counted_initial fits, held_initial⟩
  obtain ⟨held, admitted⟩ := Machine.trace_invariant_of_admits GovernedOutput.slots
    (motive := fun seen state => ∃ held, Admitted settings seen state held) initially
    (fun _ _ _ ⟨_, admitted⟩ undisputed => admitted.step governed fits undisputed) undisputed
  exact ⟨admitted.balanced, fun key => (admitted.runs key).releasedOnce⟩

namespace Demo

def governed : WorkflowOperations := { operations with governed := true }

/-- Runs of one step. -/
def oneStep : GovernanceSettings :=
  { maxConcurrentPerActor := 2
    maxConcurrentPerWorkflow := 2
    maxRunsPerWindow := 10
    maxStepsPerRun := 1
    maxCostUnits := 1000 }

/-- Alice calls `start`. -/
def firstCall : GovernedInput :=
  { input := startRun 0 "token" (.given pair) { runId := "run", params := [] } }

/-- Her run is admitted and created. -/
def created : List GovernedInput := (onRun "token" (moves 0 3)).map fun input => { input }

/-- The first of its steps is executed. -/
def firstStep : List GovernedInput :=
  (onRun "token" (moves 0 5 ++ works 0 0 4 ++ moves 0 7)).map fun input => { input }

/-- The budget of the second step is refused. -/
def secondStep : List GovernedInput :=
  (onRun "token" (works 0 1 5 ++ moves 0 3)).map fun input => { input }

end Demo

/-- A call or a worker moves. -/
def OperationsInput.isMove : OperationsInput → Bool
  | .run _ (.drive ..) | .run _ (.work ..) => true
  | _ => false

theorem callsInTurn_of_isMove {operations : WorkflowOperations} {state : GovernedState}
    {given : GovernedInput} (moves : given.input.isMove = true) :
    CallsInTurn operations state given := by
  unfold OperationsInput.isMove at moves
  unfold CallsInTurn
  split at moves
  next key caller reading moved =>
    rw [moved]
    exact ⟨fun _ begun => (by cases begun), fun _ _ crash => by cases crash⟩
  next key caller index reading moved =>
    rw [moved]
    exact ⟨fun _ begun => (by cases begun), fun _ _ crash => by cases crash⟩
  next => cases moves

/-- There is one call only. -/
theorem callsInTurn_start {operations : WorkflowOperations} {settings : GovernanceSettings}
    {caller : Nat} {ctx : ExecutionContext} {allowed : String → Bool} {token : String}
    {source : Source} {request : StartRequest} {windowStart : Int} {rest : List GovernedInput}
    (moves : rest.all (fun given => given.input.isMove) = true) :
    (governedWorkflows operations settings).Admits (CallsInTurn operations) {}
      ({ input := .start caller ctx allowed token source request, windowStart } :: rest) := by
  rw [Machine.admits_cons]
  refine ⟨⟨fun _ _ _ => rfl, fun _ _ crash => by cases crash⟩, ?_⟩
  intro before given after split
  apply callsInTurn_of_isMove
  exact List.all_eq_true.mp moves given (by simp [split])

theorem Demo.oneStep_fits : Demo.oneStep.Fits := ⟨by decide, by decide⟩

/-- Alice's run holds the only slot once it is created. -/
theorem governance_balances_demo :
    Balanced Demo.oneStep ((governedWorkflows Demo.governed Demo.oneStep).stateAfter {}
        (Demo.firstCall :: Demo.created)) ∧
      usesOf ("alice", "token") ((governedWorkflows Demo.governed Demo.oneStep).trace
        GovernedOutput.slots {} (Demo.firstCall :: Demo.created)) = [.claimed] := by
  have balances := @governance_balances Demo.governed Demo.oneStep rfl Demo.oneStep_fits
    (Demo.firstCall :: Demo.created) ((callsInTurn_start (by decide)).and (by decide +kernel))
  exact ⟨balances.1, by decide +kernel⟩

/-- The budget of the second step is refused: its slot is released when the budget is found
spent, and once more when the outcome of the step is classified. -/
theorem not_governance_balances :
    Demo.governed.governed = true ∧ Demo.oneStep.Fits ∧
      ¬∀ inputs, (governedWorkflows Demo.governed Demo.oneStep).Admits
          (CallsInTurn Demo.governed) {} inputs →
        Balanced Demo.oneStep
          ((governedWorkflows Demo.governed Demo.oneStep).stateAfter {} inputs) := by
  refine ⟨rfl, Demo.oneStep_fits, fun balances => ?_⟩
  have balanced :=
    balances (Demo.firstCall :: Demo.created ++ Demo.firstStep ++ Demo.secondStep)
      (callsInTurn_start (by decide))
  have negative : countOf ((governedWorkflows Demo.governed Demo.oneStep).stateAfter {}
      (Demo.firstCall :: Demo.created ++ Demo.firstStep ++ Demo.secondStep)).counters
      actorKind "alice" = -1 := by
    decide +kernel
  have not_negative := (balanced.actor_bounds "alice").1
  rw [negative] at not_negative
  exact absurd not_negative (by decide)

end Era.Workflows
