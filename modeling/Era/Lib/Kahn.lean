import Mathlib.Data.List.Perm.Basic
import Mathlib.Data.Prod.Basic
import Mathlib.Data.List.Nodup
import Mathlib.Logic.Function.Basic
import Mathlib.Tactic.TypeStar

/-!
# Topological orders by counting

Kahn's algorithm takes nodes from a queue and counts down the open edges into their successors;
a node without any joins the queue.  It takes every node if and only if the nodes have a
topological order.
-/

namespace Era.Lib.Kahn

variable {Node : Type*}

/-- An order of the nodes in which everything that a node depends on comes before it. -/
structure TopologicalOrder (depends : Node → Node → Prop) (nodes order : List Node) : Prop where
  perm : order.Perm nodes
  before : ∀ earlier node later, order = earlier ++ node :: later →
    ∀ source, depends node source → source ∈ earlier

/-- Whether the nodes have a topological order. -/
def Acyclic (depends : Node → Node → Prop) (nodes : List Node) : Prop :=
  ∃ order, TopologicalOrder depends nodes order

/-- Fewer dependencies leave a topological order one. -/
theorem Acyclic.mono {depends others : Node → Node → Prop} {nodes : List Node}
    (acyclic : Acyclic depends nodes) (fewer : ∀ node source, others node source →
      depends node source) : Acyclic others nodes := by
  obtain ⟨order, topological⟩ := acyclic
  exact ⟨order, topological.perm, fun earlier node later split source dependency =>
    topological.before earlier node later split source (fewer node source dependency)⟩

/-- Nothing is stuck in nodes with a topological order: by induction on how far a node stands in
the order. -/
theorem TopologicalOrder.eq_nil_of_stuck {depends : Node → Node → Prop}
    {nodes order left : List Node}
    (topological : TopologicalOrder depends nodes order) (within : left ⊆ nodes)
    (stuck : ∀ node ∈ left, ∃ source ∈ left, depends node source) : left = [] := by
  have never (position : Nat) : ∀ earlier node later, earlier.length = position →
      order = earlier ++ node :: later → node ∉ left := by
    induction position using Nat.strongRecOn with
    | ind position ih =>
        rintro earlier node later rfl split in_left
        obtain ⟨source, source_left, dependency⟩ := stuck node in_left
        obtain ⟨front, back, rfl⟩ :=
          List.append_of_mem (topological.before earlier node later split source dependency)
        exact ih front.length (by simp) front source (back ++ node :: later) rfl
          (by rw [split]; simp) source_left
  rw [List.eq_nil_iff_forall_not_mem]
  intro node in_left
  obtain ⟨earlier, later, split⟩ :=
    List.append_of_mem (topological.perm.mem_iff.mpr (within in_left))
  exact never earlier.length earlier node later rfl split in_left

/-! ## The algorithm -/

variable [DecidableEq Node]

/-- An edge into a node is closed; a node without open edges joins the queue. -/
def relax (frontier : (Node → Nat) × List Node) (node : Node) : (Node → Nat) × List Node :=
  let left := frontier.1 node - 1
  (Function.update frontier.1 node left, if left = 0 then frontier.2 ++ [node] else frontier.2)

/-- How many nodes leave the queue. -/
def count (next : Node → List Node) : Nat → (Node → Nat) × List Node → Nat
  | 0, _ | _, (_, []) => 0
  | rounds + 1, (degrees, node :: queue) =>
      1 + count next rounds ((next node).foldl relax (degrees, queue))

variable {next : Node → List Node} {nodes : List Node}

/-- Where the algorithm stands while the edges of the nodes in `left` and the edges into
`pending` are open. -/
structure Frontier (nodes seen pending : List Node) (degrees : Node → Nat)
    (queue opened : List Node) : Prop where
  distinct : (seen ++ queue).Nodup
  queued : ∀ node ∈ queue, node ∈ nodes
  counted : ∀ node ∈ nodes, degrees node = pending.count node + opened.count node
  ready : ∀ node ∈ nodes, degrees node = 0 ↔ node ∈ seen ++ queue

/-- One edge less. -/
theorem Frontier.relax {seen pending queue opened : List Node} {degrees : Node → Nat} {node : Node}
    (frontier : Frontier nodes seen (node :: pending) degrees queue opened)
    (known : node ∈ nodes) :
    Frontier nodes seen pending (relax (degrees, queue) node).1 (relax (degrees, queue) node).2
      opened := by
  have degree := frontier.counted node known
  rw [List.count_cons_self] at degree
  have fresh : node ∉ seen ++ queue := fun taken => by
    have zero := (frontier.ready node known).mpr taken
    omega
  have counted (other : Node) (member : other ∈ nodes) :
      Function.update degrees node (degrees node - 1) other =
        pending.count other + opened.count other := by
    by_cases same : other = node
    · rw [same, Function.update_self]
      omega
    · rw [Function.update_of_ne same, frontier.counted other member,
        List.count_cons_of_ne (Ne.symm same)]
  unfold Kahn.relax
  dsimp only
  by_cases last : degrees node - 1 = 0
  · rw [if_pos last]
    refine ⟨?_, ?_, counted, fun other member => ?_⟩
    · rw [← List.append_assoc, List.nodup_append_comm]
      exact List.nodup_cons.mpr ⟨fresh, frontier.distinct⟩
    · intro other member
      obtain old | new := List.mem_append.mp member
      · exact frontier.queued other old
      · exact List.mem_singleton.mp new ▸ known
    · by_cases same : other = node
      · subst same
        simp [last]
      · rw [Function.update_of_ne same, frontier.ready other member]
        simp [same]
  · rw [if_neg last]
    refine ⟨frontier.distinct, frontier.queued, counted, fun other member => ?_⟩
    by_cases same : other = node
    · subst same
      rw [Function.update_self]
      exact ⟨fun zero => absurd zero last, fun taken => absurd taken fresh⟩
    · rw [Function.update_of_ne same]
      exact frontier.ready other member

/-- All edges of a node. -/
theorem Frontier.foldl {seen pending queue opened : List Node} {degrees : Node → Nat}
    (frontier : Frontier nodes seen pending degrees queue opened)
    (known : ∀ node ∈ pending, node ∈ nodes) :
    Frontier nodes seen [] (pending.foldl Kahn.relax (degrees, queue)).1
      (pending.foldl Kahn.relax (degrees, queue)).2 opened := by
  induction pending generalizing degrees queue with
  | nil => exact frontier
  | cons node pending ih =>
      exact ih (frontier.relax (known node List.mem_cons_self))
        fun other member => known other (List.mem_cons_of_mem _ member)

/-- All edges stay between the nodes. -/
def Closed (next : Node → List Node) (nodes : List Node) : Prop :=
  ∀ source node, node ∈ next source → source ∈ nodes ∧ node ∈ nodes

/-- Where the algorithm stands between two nodes: `seen` are finished, `left` are not. -/
structure Progress (next : Node → List Node) (nodes seen left queue : List Node)
    (degrees : Node → Nat) : Prop where
  frontier : Frontier nodes seen [] degrees queue (left.flatMap next)
  split : (seen ++ left).Perm nodes
  ordered : ∀ earlier node later, seen = earlier ++ node :: later →
    ∀ source, node ∈ next source → source ∈ earlier

section Run

variable {seen left queue : List Node} {degrees : Node → Nat} {node : Node}

/-- A queued node is not finished. -/
theorem Progress.mem_left (progress : Progress next nodes seen left (node :: queue) degrees) :
    node ∈ left := by
  have known := progress.frontier.queued node List.mem_cons_self
  refine (List.mem_append.mp (progress.split.mem_iff.mpr known)).resolve_left fun finished => ?_
  have disjoint := (List.nodup_append.mp progress.frontier.distinct).2.2
  exact disjoint node finished node List.mem_cons_self rfl

/-- Everything that a queued node depends on is finished. -/
theorem Progress.sources_seen (closed : Closed next nodes)
    (progress : Progress next nodes seen left (node :: queue) degrees) :
    ∀ source, node ∈ next source → source ∈ seen := by
  intro source edge
  have known := closed source node edge
  refine (List.mem_append.mp
    (progress.split.mem_iff.mpr known.1)).resolve_right fun unfinished => ?_
  have counted := progress.frontier.counted node known.2
  rw [(progress.frontier.ready node known.2).mpr (by simp), List.count_nil, Nat.zero_add] at counted
  have none_open := List.count_eq_zero.mp counted.symm
  exact none_open (List.mem_flatMap.mpr ⟨source, unfinished, edge⟩)

/-- A node is taken from the queue and its edges are closed. -/
theorem Progress.take (closed : Closed next nodes)
    (progress : Progress next nodes seen left (node :: queue) degrees) :
    Progress next nodes (seen ++ [node]) (left.erase node)
      ((next node).foldl relax (degrees, queue)).2
      ((next node).foldl relax (degrees, queue)).1 := by
  have in_left := progress.mem_left
  have parts := List.perm_cons_erase in_left
  refine ⟨?_, ?_, ?_⟩
  · have started : Frontier nodes (seen ++ [node]) (next node) degrees queue
        ((left.erase node).flatMap next) := by
      refine ⟨?_, ?_, ?_, ?_⟩
      · rw [List.append_assoc]
        exact progress.frontier.distinct
      · exact fun other member => progress.frontier.queued other (List.mem_cons_of_mem _ member)
      · intro other member
        rw [progress.frontier.counted other member, (parts.flatMap_right next).count_eq,
          List.flatMap_cons, List.count_append, List.count_nil, Nat.zero_add]
      · intro other member
        rw [progress.frontier.ready other member, List.append_assoc]
        rfl
    exact started.foldl fun other edge => (closed node other edge).2
  · rw [List.append_assoc]
    exact (List.Perm.append_left seen parts.symm).trans progress.split
  · intro earlier other later split source edge
    obtain rfl | ⟨rest, last, rfl⟩ := List.eq_nil_or_concat later
    · obtain ⟨rfl, same⟩ := List.append_inj' split rfl
      obtain rfl := (List.cons.inj same).1
      exact progress.sources_seen closed source edge
    · rw [List.concat_eq_append, ← List.cons_append, ← List.append_assoc] at split
      obtain ⟨seen_eq, _⟩ := List.append_inj' split rfl
      exact progress.ordered earlier other rest seen_eq source edge

/-- With an empty queue, whatever is left depends on something that is left. -/
theorem Progress.stuck (distinct : nodes.Nodup)
    (progress : Progress next nodes seen left [] degrees) :
    ∀ node ∈ left, ∃ source ∈ left, node ∈ next source := by
  intro node in_left
  have known := progress.split.mem_iff.mp (List.mem_append_right seen in_left)
  have unseen : node ∉ seen ++ [] := by
    rw [List.append_nil]
    intro finished
    have apart := (List.nodup_append.mp (progress.split.nodup_iff.mpr distinct)).2.2
    exact apart node finished node in_left rfl
  have counted := progress.frontier.counted node known
  rw [List.count_nil, Nat.zero_add] at counted
  have positive : 0 < (left.flatMap next).count node := by
    rw [← counted]
    exact Nat.pos_of_ne_zero (mt (progress.frontier.ready node known).mp unseen)
  exact List.mem_flatMap.mp (List.count_pos_iff.mp positive)

/-- By induction on the rounds: the algorithm ends where nothing is queued any more. -/
theorem Progress.run (closed : Closed next nodes)
    (progress : Progress next nodes seen left queue degrees) {rounds : Nat}
    (enough : left.length ≤ rounds) :
    ∃ finished rest last, Progress next nodes finished rest [] last ∧
      finished.length = seen.length + count next rounds (degrees, queue) := by
  induction rounds generalizing seen left queue degrees with
  | zero =>
      cases queue with
      | nil => exact ⟨seen, left, degrees, progress, rfl⟩
      | cons node queue =>
          have in_left := progress.mem_left
          rw [List.eq_nil_of_length_eq_zero (Nat.le_zero.mp enough)] at in_left
          cases in_left
  | succ rounds ih =>
      cases queue with
      | nil => exact ⟨seen, left, degrees, progress, rfl⟩
      | cons node queue =>
          have shorter : (left.erase node).length ≤ rounds := by
            rw [List.length_erase_of_mem progress.mem_left]
            omega
          obtain ⟨finished, rest, last, ends, length_eq⟩ := ih (progress.take closed) shorter
          refine ⟨finished, rest, last, ends, ?_⟩
          rw [length_eq, List.length_append, List.length_singleton, count, Prod.mk.eta]
          omega

end Run

/-! ## Every node is taken -/

/-- Kahn's algorithm, begun with the nodes that nothing points to, takes all nodes if and only
if they have a topological order. -/
theorem count_eq_length_iff (distinct : nodes.Nodup) (closed : Closed next nodes)
    {degrees : Node → Nat}
    (degree : ∀ node ∈ nodes, degrees node = (nodes.flatMap next).count node) :
    count next nodes.length (degrees, nodes.filter fun node => degrees node == 0) = nodes.length ↔
      Acyclic (fun node source => node ∈ next source) nodes := by
  have begins : Progress next nodes [] nodes (nodes.filter fun node => degrees node == 0)
      degrees := by
    refine ⟨⟨distinct.filter _, fun node member => (List.mem_filter.mp member).1, ?_, ?_⟩,
      .refl _, ?_⟩
    · intro node member
      rw [degree node member, List.count_nil, Nat.zero_add]
    · intro node member
      rw [List.nil_append, List.mem_filter, beq_iff_eq]
      exact (and_iff_right member).symm
    · intro earlier node later split
      cases earlier <;> cases split
  obtain ⟨finished, left, last, ends, length_eq⟩ := begins.run closed (Nat.le_refl _)
  have total := ends.split.length_eq
  rw [List.length_append] at total
  rw [List.length_nil, Nat.zero_add] at length_eq
  have stuck := ends.stuck distinct
  constructor
  · intro all
    obtain rfl : left = [] := List.eq_nil_of_length_eq_zero (by omega)
    have perm := ends.split
    rw [List.append_nil] at perm
    exact ⟨finished, perm, ends.ordered⟩
  · rintro ⟨order, topological⟩
    have within : left ⊆ nodes :=
      fun node member => ends.split.subset (List.mem_append_right finished member)
    rw [topological.eq_nil_of_stuck within stuck, List.length_nil] at total
    omega

end Era.Lib.Kahn
