import Mathlib.Data.List.Nodup
import Mathlib.Data.List.Pairwise
import Era.Core.Result

/-!
# Deliveries and their repetition

One call of `execute` may hand several messages to a server.  A call sees what
it has sent; which of that the server has accepted is a fact about the server.
-/

namespace Era.Providers

open Era.Core

/-- One recipient's message, or one of its media payloads. -/
structure MessageUnit where
  recipient : String
  part : Nat
  deriving DecidableEq, Repr

/-- One call of `execute`: its answer, what it has sent and what the server has
accepted, in order. -/
structure Delivery where
  answer : Except Raised ProviderReturn
  sent : List MessageUnit
  accepted : List MessageUnit

/-- A call that ends before it sends anything. -/
def Delivery.unsent (failure : Raised) : Delivery :=
  { answer := .error failure, sent := [], accepted := [] }

/-- Nothing is accepted twice, and nothing accepted is sent again. -/
structure DeliversOnce (deliveries : List Delivery) : Prop where
  acceptedOnce : (deliveries.flatMap Delivery.accepted).Nodup
  notResent : deliveries.Pairwise fun earlier later =>
    ∀ message ∈ earlier.accepted, message ∉ later.sent

/-- A call after which something has been accepted is the last one that sends. -/
def StopsAfterAcceptance (deliveries : List Delivery) : Prop :=
  deliveries.Pairwise fun earlier later => earlier.accepted = [] ∨ later.sent = []

/-- Calls that deliver the same messages: each accepts only what it has sent, once,
and two calls that both get to sending overlap. -/
structure SameMessages (deliveries : List Delivery) : Prop where
  nodup : ∀ delivery ∈ deliveries, delivery.accepted.Nodup
  accepted_subset : ∀ delivery ∈ deliveries, delivery.accepted ⊆ delivery.sent
  overlap : ∀ earlier ∈ deliveries, ∀ later ∈ deliveries,
    earlier.accepted ≠ [] → later.sent ≠ [] → ∃ message ∈ earlier.accepted, message ∈ later.sent

theorem deliversOnce_iff {deliveries : List Delivery} (same : SameMessages deliveries) :
    DeliversOnce deliveries ↔ StopsAfterAcceptance deliveries := by
  constructor
  · rintro ⟨_, notResent⟩
    refine notResent.imp_of_mem fun {earlier later} earlierMem laterMem separate => ?_
    by_contra both
    obtain ⟨accepted, sent⟩ := not_or.mp both
    obtain ⟨message, inAccepted, inSent⟩ :=
      same.overlap earlier earlierMem later laterMem accepted sent
    exact separate message inAccepted inSent
  · intro stops
    have notResent : deliveries.Pairwise fun earlier later =>
        ∀ message ∈ earlier.accepted, message ∉ later.sent := by
      refine stops.imp fun {earlier later} stopped message accepted sent => ?_
      cases stopped with
      | inl nothing => simp [nothing] at accepted
      | inr unsent => simp [unsent] at sent
    refine ⟨List.nodup_flatMap.mpr ⟨same.nodup, ?_⟩, notResent⟩
    refine notResent.imp_of_mem fun {earlier later} _ laterMem separate => ?_
    exact fun message accepted again =>
      separate message accepted (same.accepted_subset later laterMem again)

/-- A call that works through a plan: it sends a first part of it, in order, and
if anything is accepted, the first message is. -/
structure FollowsPlan (plan : List MessageUnit) (delivery : Delivery) : Prop where
  sentFirst : delivery.sent <+: plan
  accepted_sublist : delivery.accepted.Sublist delivery.sent
  first_accepted : delivery.accepted ≠ [] →
    ∃ first ∈ plan.head?, first ∈ delivery.accepted

theorem followsPlan_unsent (plan : List MessageUnit) (failure : Raised) :
    FollowsPlan plan (.unsent failure) :=
  ⟨List.nil_prefix, List.Sublist.refl [], fun accepted => absurd rfl accepted⟩

theorem sameMessages_of_followsPlan {plan : List MessageUnit} {deliveries : List Delivery}
    (distinct : plan.Nodup) (follows : ∀ delivery ∈ deliveries, FollowsPlan plan delivery) :
    SameMessages deliveries := by
  refine ⟨?_, ?_, ?_⟩
  · intro delivery member
    have sublist := (follows delivery member).accepted_sublist.trans
      (follows delivery member).sentFirst.sublist
    exact distinct.sublist sublist
  · intro delivery member
    exact (follows delivery member).accepted_sublist.subset
  · intro earlier earlierMem later laterMem accepted sent
    obtain ⟨first, isFirst, inAccepted⟩ := (follows earlier earlierMem).first_accepted accepted
    obtain ⟨unsent, plan_eq⟩ := (follows later laterMem).sentFirst
    refine ⟨first, inAccepted, ?_⟩
    cases split : later.sent with
    | nil => exact absurd split sent
    | cons head rest =>
        rw [← plan_eq, split] at isFirst
        obtain rfl : head = first := by simpa using isFirst
        exact List.mem_cons_self

/-- A call that sends its whole plan at once, or nothing. -/
structure AllOrNothing (plan : List MessageUnit) (delivery : Delivery) : Prop where
  sent_eq : delivery.sent = plan ∨ delivery.sent = []
  accepted_sublist : delivery.accepted.Sublist delivery.sent

theorem allOrNothing_unsent (plan : List MessageUnit) (failure : Raised) :
    AllOrNothing plan (.unsent failure) :=
  ⟨.inr rfl, List.Sublist.refl []⟩

theorem sameMessages_of_allOrNothing {plan : List MessageUnit} {deliveries : List Delivery}
    (distinct : plan.Nodup) (follows : ∀ delivery ∈ deliveries, AllOrNothing plan delivery) :
    SameMessages deliveries := by
  have sublist : ∀ delivery ∈ deliveries, delivery.accepted.Sublist plan := by
    intro delivery member
    have accepted := (follows delivery member).accepted_sublist
    cases (follows delivery member).sent_eq with
    | inl all => rwa [all] at accepted
    | inr nothing => exact (nothing ▸ accepted).trans (List.nil_sublist _)
  refine ⟨fun delivery member => distinct.sublist (sublist delivery member),
    fun delivery member => (follows delivery member).accepted_sublist.subset, ?_⟩
  intro earlier earlierMem later laterMem accepted sent
  obtain ⟨message, inAccepted⟩ := List.exists_mem_of_ne_nil _ accepted
  refine ⟨message, inAccepted, ?_⟩
  rw [(follows later laterMem).sent_eq.resolve_right sent]
  exact (sublist earlier earlierMem).subset inAccepted

end Era.Providers
