import Mathlib.Algebra.BigOperators.Group.Finset.Basic
import Mathlib.Data.Finset.Card
import Era.Core.Result
import Era.Lib.Kahn
import Era.Lib.Table
import Era.Workflows.Validation

/-!
# What the graph validation accepts

The dependencies of the steps are sorted topologically, but those of parallel blocks are not
among them, and the number of dependents counts every mention.  Otherwise the validation accepts
exactly the graphs that it should.
-/

namespace Era.Workflows

open Era.Core Era.Services Era.Lib

section Graph

variable (platform : Platform) (definition : WorkflowDefinition)

/-- The graph checks at the end of `validate_workflow_definition`. -/
def validateGraph : Except WorkflowError Unit := do
  validateDag platform definition
  validateParallel platform definition

/-! ## The rule -/

def WorkflowDefinition.ids : List String := definition.steps.map WorkflowStep.id

/-- A step names another one in its `depends_on`. -/
def StepDepends (id dep : String) : Prop :=
  ∃ step ∈ definition.steps, step.id = id ∧ dep ∈ step.dependsOn

/-- A step depends on another one by itself or through its block. -/
def Depends (id dep : String) : Prop :=
  StepDepends definition id dep ∨
    ∃ block ∈ definition.parallel, id ∈ block.steps ∧ dep ∈ block.dependsOn

/-- The steps that depend on a step. -/
def dependentSteps (id : String) : List WorkflowStep :=
  definition.steps.filter fun step => step.dependsOn.contains id

/-- The graphs that should be accepted. -/
structure WellFormedGraph : Prop where
  distinct : definition.ids.Nodup
  known : ∀ step ∈ definition.steps, ∀ dep ∈ step.dependsOn, dep ∈ definition.ids
  blocksKnown : ∀ block ∈ definition.parallel, ∀ dep ∈ block.dependsOn, dep ∈ definition.ids
  fanOut : ∀ id ∈ definition.ids, (dependentSteps definition id).length ≤ 8
  acyclic : Kahn.Acyclic (Depends definition) definition.ids

/-- A member of a block depends on none of its siblings, by itself, through the block or by a
condition. -/
def ApartIn (block : WorkflowParallelBlock) (step : WorkflowStep) : Prop :=
  (∀ dep ∈ step.dependsOn ++ block.dependsOn, dep ∉ block.steps) ∧
    ∀ condition id, step.condition = some condition → condition.stepId = some id →
      id ∉ block.steps

/-- Disjoint blocks of steps that do not depend on siblings. -/
structure BlocksApart : Prop where
  disjoint : (definition.parallel.flatMap WorkflowParallelBlock.steps).Nodup
  members : ∀ block ∈ definition.parallel, ∀ id ∈ block.steps, id ∈ definition.ids
  apart : ∀ block ∈ definition.parallel, ∀ step ∈ definition.steps, step.id ∈ block.steps →
    ApartIn block step

/-- Only well-formed graphs are accepted, and all of them whose blocks are apart. -/
structure ExactCheck : Prop where
  sound : validateGraph platform definition = .ok () → WellFormedGraph definition
  complete : WellFormedGraph definition → BlocksApart definition →
    validateGraph platform definition = .ok ()

/-- No step is mentioned more than eight times. -/
def MentionsBounded : Prop := ∀ id ∈ definition.ids, (dependents definition id).length ≤ 8

/-- All references are known and the blocks are apart. -/
structure References : Prop where
  distinct : definition.ids.Nodup
  known : ∀ step ∈ definition.steps, ∀ dep ∈ step.dependsOn, dep ∈ definition.ids
  blocksKnown : ∀ block ∈ definition.parallel, ∀ dep ∈ block.dependsOn, dep ∈ definition.ids
  apart : BlocksApart definition

/-- Neither the dependencies of blocks nor repeated mentions make a difference: the blocks close
no cycle in a graph that is accepted without them, and no step of a well-formed graph has more
than eight mentions. -/
structure EdgesCounted : Prop where
  blocks : MentionsBounded definition →
    Kahn.Acyclic (StepDepends definition) definition.ids →
      Kahn.Acyclic (Depends definition) definition.ids
  mentions : (∀ id ∈ definition.ids, (dependentSteps definition id).length ≤ 8) →
    Kahn.Acyclic (Depends definition) definition.ids → MentionsBounded definition

end Graph

/-! ## The dependency graph -/

section Dag

variable {platform : Platform} {definition : WorkflowDefinition}

theorem mem_dependents {id dep : String} :
    id ∈ dependents definition dep ↔ StepDepends definition id dep := by
  unfold dependents StepDepends
  rw [List.mem_flatMap]
  refine exists_congr fun step => and_congr_right fun _ => ?_
  simp only [List.mem_map, List.mem_filter, beq_iff_eq]
  constructor
  · rintro ⟨_, ⟨mentioned, rfl⟩, rfl⟩
    exact ⟨rfl, mentioned⟩
  · rintro ⟨rfl, mentioned⟩
    exact ⟨dep, ⟨mentioned, rfl⟩, rfl⟩

/-- The loop of the model is the algorithm of the library. -/
theorem topologicalCount_eq (rounds : Nat) (frontier : (String → Nat) × List String) :
    topologicalCount definition rounds frontier =
      Kahn.count (dependents definition) rounds frontier := by
  induction rounds generalizing frontier with
  | zero => rfl
  | succ rounds ih =>
      obtain ⟨degrees, queue⟩ := frontier
      cases queue with
      | nil => rfl
      | cons id queue => exact congrArg (1 + ·) (ih _)

/-- A step that is mentioned is mentioned at least once. -/
theorem length_dependentSteps_le (id : String) :
    (dependentSteps definition id).length ≤ (dependents definition id).length := by
  unfold dependentSteps dependents
  induction definition.steps with
  | nil => exact Nat.le_refl 0
  | cons step rest ih =>
      rw [List.flatMap_cons, List.length_append, List.length_map]
      by_cases mentioned : id ∈ step.dependsOn
      · rw [List.filter_cons_of_pos (by simpa using mentioned), List.length_cons]
        have once : 0 < (step.dependsOn.filter (· == id)).length :=
          List.length_pos_of_mem (List.mem_filter.mpr ⟨mentioned, beq_self_eq_true id⟩)
        omega
      · rw [List.filter_cons_of_neg (by simpa using mentioned)]
        omega

/-- With distinct identifiers a step is found by its own. -/
theorem find_step (distinct : definition.ids.Nodup) {step : WorkflowStep}
    (member : step ∈ definition.steps) :
    definition.steps.find? (fun other => other.id == step.id) = some step :=
  Table.find_of_mem distinct member

/-- How often a step is among the dependents of another one: as often as it mentions it. -/
theorem count_dependents (distinct : definition.ids.Nodup) {step : WorkflowStep}
    (member : step ∈ definition.steps) (dep : String) :
    (dependents definition dep).count step.id = step.dependsOn.count dep := by
  unfold dependents
  unfold WorkflowDefinition.ids at distinct
  generalize definition.steps = steps at distinct member
  induction steps with
  | nil => cases member
  | cons first rest ih =>
      obtain ⟨fresh, distinct_rest⟩ := List.nodup_cons.mp distinct
      rw [List.flatMap_cons, List.count_append]
      obtain rfl | later := List.mem_cons.mp member
      · have none_later : (rest.flatMap fun other =>
            (other.dependsOn.filter (· == dep)).map fun _ => other.id).count step.id = 0 := by
          refine List.count_eq_zero.mpr fun mentioned => fresh ?_
          obtain ⟨other, in_rest, named⟩ := List.mem_flatMap.mp mentioned
          obtain ⟨_, _, same⟩ := List.mem_map.mp named
          exact List.mem_map.mpr ⟨other, in_rest, same⟩
        rw [none_later, Nat.add_zero, List.map_const', List.count_replicate_self,
          List.count_eq_length_filter]
      · have different : first.id ≠ step.id :=
          fun same => fresh (List.mem_map.mpr ⟨step, later, same.symm⟩)
        have none_now : ((first.dependsOn.filter (· == dep)).map fun _ => first.id).count step.id =
            0 := by
          refine List.count_eq_zero.mpr fun named => ?_
          obtain ⟨_, _, same⟩ := List.mem_map.mp named
          exact different same
        rw [none_now, Nat.zero_add]
        exact ih distinct_rest later

/-- Summed up over distinct keys, the mentions in a list are its length. -/
theorem sum_count {keys items : List String} (distinct : keys.Nodup) (within : items ⊆ keys) :
    (keys.map fun key => items.count key).sum = items.length := by
  have total := @Multiset.sum_count_eq_card String _ keys.toFinset items
    fun item member => List.mem_toFinset.mpr (within (Multiset.mem_coe.mp member))
  rw [List.sum_toFinset _ distinct] at total
  simpa only [Multiset.coe_count, Multiset.coe_card] using total

/-- The open dependencies of a step at the beginning are the edges into it. -/
theorem indegree_eq (distinct : definition.ids.Nodup)
    (known : ∀ step ∈ definition.steps, ∀ dep ∈ step.dependsOn, dep ∈ definition.ids)
    (id : String) (member : id ∈ definition.ids) :
    indegree definition id = (definition.ids.flatMap (dependents definition)).count id := by
  obtain ⟨step, in_steps, rfl⟩ := List.mem_map.mp member
  rw [indegree, find_step distinct in_steps, Option.elim_some, List.count_flatMap]
  have mentions : (List.count step.id ∘ dependents definition) =
      fun dep => step.dependsOn.count dep :=
    funext fun dep => count_dependents distinct in_steps dep
  rw [mentions, sum_count distinct (known step in_steps)]

/-- The checks of `_validate_dag`. -/
theorem validateDag_ok_iff :
    validateDag platform definition = .ok () ↔
      definition.ids.Nodup ∧
        (∀ step ∈ definition.steps, ∀ dep ∈ step.dependsOn, dep ∈ definition.ids) ∧
        MentionsBounded definition ∧ Kahn.Acyclic (StepDepends definition) definition.ids := by
  have ids_eq : definition.steps.map WorkflowStep.id = definition.ids := rfl
  unfold validateDag
  simp only [bind, then_eq_ok_iff, require_eq_ok_iff, forM_eq_ok_iff, decide_eq_true_eq, ids_eq,
    List.contains_eq_mem, beq_iff_eq]
  refine and_congr_right fun distinct => and_congr_right fun known => and_congr_right fun _ => ?_
  have closed : Kahn.Closed (dependents definition) definition.ids := by
    intro dep id mentioned
    obtain ⟨step, member, rfl, mention⟩ := mem_dependents.mp mentioned
    exact ⟨known step member dep mention, List.mem_map.mpr ⟨step, member, rfl⟩⟩
  rw [topologicalCount_eq, Kahn.count_eq_length_iff distinct closed (indegree_eq distinct known)]
  simp only [mem_dependents]

end Dag

/-! ## Parallel blocks -/

section Blocks

variable {platform : Platform} {definition : WorkflowDefinition}

theorem registerMembers_ok_iff {seen members : List String} :
    registerMembers platform seen members = .ok () ↔
      members.Nodup ∧ ∀ id ∈ members, id ∉ seen := by
  induction members generalizing seen with
  | nil => simp [registerMembers]
  | cons id rest ih =>
      simp only [registerMembers, bind, then_eq_ok_iff, require_eq_ok_iff, ih]
      simp only [List.contains_eq_mem, Bool.not_eq_true', decide_eq_false_iff_not]
      rw [List.nodup_cons, List.forall_mem_cons]
      constructor
      · rintro ⟨fresh, distinct, unseen⟩
        exact ⟨⟨fun member => unseen id member List.mem_cons_self, distinct⟩, fresh,
          fun other member in_seen => unseen other member (List.mem_cons_of_mem _ in_seen)⟩
      · rintro ⟨⟨fresh, distinct⟩, unseen, others⟩
        refine ⟨unseen, distinct, fun other member in_cons => ?_⟩
        obtain rfl | in_seen := List.mem_cons.mp in_cons
        · exact fresh member
        · exact others other member in_seen

theorem registerBlocks_ok_iff {ids seen : List String} {blocks : List WorkflowParallelBlock} :
    registerBlocks platform ids seen blocks = .ok () ↔
      (blocks.flatMap WorkflowParallelBlock.steps).Nodup ∧
        (∀ id ∈ blocks.flatMap WorkflowParallelBlock.steps, id ∉ seen) ∧
        ∀ block ∈ blocks, ∀ dep ∈ block.dependsOn, dep ∈ ids := by
  induction blocks generalizing seen with
  | nil => simp [registerBlocks]
  | cons block rest ih =>
      simp only [registerBlocks, bind, then_eq_ok_iff, require_eq_ok_iff, forM_eq_ok_iff,
        registerMembers_ok_iff, ih]
      simp only [List.contains_eq_mem, decide_eq_true_eq]
      rw [List.flatMap_cons, List.nodup_append, List.forall_mem_append, List.forall_mem_cons]
      constructor
      · rintro ⟨⟨distinct, unseen⟩, known, rest_distinct, rest_unseen, rest_known⟩
        refine ⟨⟨distinct, rest_distinct, ?_⟩, ⟨unseen, ?_⟩, known, rest_known⟩
        · rintro id member other later rfl
          exact rest_unseen id later (List.mem_append_right seen member)
        · exact fun id later in_seen => rest_unseen id later (List.mem_append_left _ in_seen)
      · rintro ⟨⟨distinct, rest_distinct, apart⟩, ⟨unseen, rest_unseen⟩, known, rest_known⟩
        refine ⟨⟨distinct, unseen⟩, known, rest_distinct, fun id later in_both => ?_, rest_known⟩
        obtain in_seen | member := List.mem_append.mp in_both
        · exact rest_unseen id later in_seen
        · exact apart id member id later rfl

/-- The checks of one member of a block. -/
theorem validateMember_ok_iff (distinct : definition.ids.Nodup) {block : WorkflowParallelBlock}
    {id : String} :
    validateMember platform definition block id = .ok () ↔
      id ∈ definition.ids ∧ ∀ step ∈ definition.steps, step.id = id → ApartIn block step := by
  unfold validateMember
  split
  next absent =>
    refine ⟨nofun, fun ⟨member, _⟩ => ?_⟩
    obtain ⟨step, in_steps, rfl⟩ := List.mem_map.mp member
    rw [find_step distinct in_steps] at absent
    cases absent
  next step found =>
    have in_steps := List.mem_of_find?_eq_some found
    obtain rfl : step.id = id := by simpa using List.find?_some found
    have only (other : WorkflowStep) (member : other ∈ definition.steps)
        (same : other.id = step.id) : other = step := by
      have other_found := find_step distinct member
      rw [same, found] at other_found
      exact (Option.some.inj other_found).symm
    have checked : (do
        (step.dependsOn ++ block.dependsOn).forM fun dep =>
          require (!block.steps.contains dep)
            ("step " ++ platform.reprString step.id ++
              " depends on a parallel sibling's conditional outcome inside the same block")
        require (!(step.condition.bind WorkflowCondition.stepId).any block.steps.contains)
          ("parallel step " ++ platform.reprString step.id ++
            " condition cannot reference a sibling")) = .ok () ↔ ApartIn block step := by
      simp only [bind, then_eq_ok_iff, require_eq_ok_iff, forM_eq_ok_iff]
      simp only [List.contains_eq_mem, Bool.not_eq_true', decide_eq_false_iff_not]
      refine and_congr_right fun _ => ?_
      cases step.condition with
      | none => simp
      | some condition =>
          rw [Option.bind_some]
          constructor
          · intro sibling other id same named
            obtain rfl := Option.some.inj same
            rw [named] at sibling
            simpa using sibling
          · intro apart
            cases named : condition.stepId with
            | none => rfl
            | some id => simpa using apart condition id rfl named
    rw [checked]
    refine ⟨fun apart => ⟨List.mem_map.mpr ⟨step, in_steps, rfl⟩, fun other member same => ?_⟩,
      fun ⟨_, apart⟩ => apart step in_steps rfl⟩
    rwa [only other member same]

/-- The checks of `_validate_parallel`. -/
theorem validateParallel_ok_iff (distinct : definition.ids.Nodup) :
    validateParallel platform definition = .ok () ↔
      BlocksApart definition ∧
        ∀ block ∈ definition.parallel, ∀ dep ∈ block.dependsOn, dep ∈ definition.ids := by
  have ids_eq : definition.steps.map WorkflowStep.id = definition.ids := rfl
  unfold validateParallel
  simp only [bind, then_eq_ok_iff, forM_eq_ok_iff, registerBlocks_ok_iff, ids_eq,
    validateMember_ok_iff distinct]
  constructor
  · rintro ⟨⟨disjoint, _, known⟩, members⟩
    refine ⟨⟨disjoint, fun block member id inside => (members block member id inside).1,
      fun block member step in_steps inside => ?_⟩, known⟩
    exact (members block member step.id inside).2 step in_steps rfl
  · rintro ⟨⟨disjoint, members, apart⟩, known⟩
    refine ⟨⟨disjoint, fun _ _ => List.not_mem_nil, known⟩, fun block member id inside => ?_⟩
    refine ⟨members block member id inside, ?_⟩
    rintro step in_steps rfl
    exact apart block member step in_steps inside

end Blocks

/-! ## The exact condition -/

/-- The graph validation accepts what has known references, bounded mentions and acyclic step
dependencies. -/
theorem validateGraph_ok_iff (platform : Platform) (definition : WorkflowDefinition) :
    validateGraph platform definition = .ok () ↔
      References definition ∧ MentionsBounded definition ∧
        Kahn.Acyclic (StepDepends definition) definition.ids := by
  unfold validateGraph
  simp only [bind, then_eq_ok_iff, validateDag_ok_iff]
  constructor
  · rintro ⟨⟨distinct, known, mentions, acyclic⟩, parallel⟩
    obtain ⟨apart, blocks_known⟩ := (validateParallel_ok_iff distinct).mp parallel
    exact ⟨⟨distinct, known, blocks_known, apart⟩, mentions, acyclic⟩
  · rintro ⟨references, mentions, acyclic⟩
    exact ⟨⟨references.distinct, references.known, mentions, acyclic⟩,
      (validateParallel_ok_iff references.distinct).mpr ⟨references.apart, references.blocksKnown⟩⟩

/-- The graph validation is exact if and only if, where all references are known and the blocks
are apart, the edges are counted. -/
theorem exactCheck_iff (platform : Platform) (definition : WorkflowDefinition) :
    ExactCheck platform definition ↔ (References definition → EdgesCounted definition) := by
  have accepted := validateGraph_ok_iff platform definition
  constructor
  · rintro ⟨sound, complete⟩ references
    refine ⟨fun mentions acyclic => ?_, fun fan_out acyclic => ?_⟩
    · exact (sound (accepted.mpr ⟨references, mentions, acyclic⟩)).acyclic
    · refine (accepted.mp (complete ?_ references.apart)).2.1
      exact ⟨references.distinct, references.known, references.blocksKnown, fan_out, acyclic⟩
  · intro counted
    constructor
    · intro ok
      obtain ⟨references, mentions, acyclic⟩ := accepted.mp ok
      refine ⟨references.distinct, references.known, references.blocksKnown, fun id member => ?_,
        (counted references).blocks mentions acyclic⟩
      exact (length_dependentSteps_le id).trans (mentions id member)
    · intro formed apart
      have references : References definition :=
        ⟨formed.distinct, formed.known, formed.blocksKnown, apart⟩
      refine accepted.mpr ⟨references,
        (counted references).mentions formed.fanOut formed.acyclic, ?_⟩
      exact formed.acyclic.mono fun _ _ => .inl

namespace Demo

/-- The block of the first two steps depends on the third, which depends on the first. -/
def throughBlock : WorkflowDefinition :=
  { name := "cycle"
    steps := [
      { id := "first", action := "browser.inspect" },
      { id := "second", action := "browser.inspect" },
      { id := "third", action := "browser.inspect", dependsOn := ["first"] }]
    parallel := [{ steps := ["first", "second"], dependsOn := ["third"], maxConcurrency := 2 }] }

end Demo

/-- A cycle through a block is accepted. -/
theorem not_exactCheck : ¬ExactCheck Platform.plain Demo.throughBlock := by
  intro exact_check
  have accepted : validateGraph Platform.plain Demo.throughBlock = .ok () := by decide +kernel
  obtain ⟨order, topological⟩ := (exact_check.sound accepted).acyclic
  have through_block : Depends Demo.throughBlock "first" "third" :=
    .inr ⟨_, List.mem_cons_self, List.mem_cons_self, List.mem_cons_self⟩
  have by_itself : Depends Demo.throughBlock "third" "first" :=
    .inl ⟨_, List.mem_cons_of_mem _ (List.mem_cons_of_mem _ List.mem_cons_self), rfl,
      List.mem_cons_self⟩
  have empty : ["first", "third"] = [] := by
    refine topological.eq_nil_of_stuck (by decide) fun id member => ?_
    obtain rfl | rfl : id = "first" ∨ id = "third" := by simpa using member
    · exact ⟨"third", by decide, through_block⟩
    · exact ⟨"first", by decide, by_itself⟩
  cases empty

end Era.Workflows
