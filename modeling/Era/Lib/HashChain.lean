import Mathlib.Data.List.Forall2
import Mathlib.Data.List.Induction
import Mathlib.Tactic.TypeStar

/-!
# Chains of hashes

Every entry of a chain is linked to the hash of the entry before it, and the first
one to a root.  When the hash of an entry pins the entry and its link, the last hash
of a chain pins the whole chain.
-/

namespace Era.Lib.HashChain

variable {Entry Hash : Type*} (Links : Hash → Entry → Prop) (hash : Entry → Hash)

/-- A chain that starts behind a given hash. -/
def Chained : Hash → List Entry → Prop
  | _, [] => True
  | prev, entry :: rest => Links prev entry ∧ Chained (hash entry) rest

/-- The hash that the next entry has to be linked to. -/
def tip (root : Hash) (entries : List Entry) : Hash := (entries.getLast?.map hash).getD root

@[simp] theorem tip_nil (root : Hash) : tip hash root [] = root := rfl

@[simp] theorem tip_append_singleton (root : Hash) (entries : List Entry) (entry : Entry) :
    tip hash root (entries ++ [entry]) = hash entry := by
  simp [tip]

theorem tip_cons (root : Hash) (entry : Entry) (entries : List Entry) :
    tip hash root (entry :: entries) = tip hash (hash entry) entries := by
  cases entries with
  | nil => rfl
  | cons next rest => simp [tip, List.getLast?_cons]

variable {Links hash}

theorem chained_append_singleton {root : Hash} {entries : List Entry} {entry : Entry} :
    Chained Links hash root (entries ++ [entry]) ↔
      Chained Links hash root entries ∧ Links (tip hash root entries) entry := by
  induction entries generalizing root with
  | nil => simp [Chained]
  | cons head entries ih => simp [Chained, ih, tip_cons, and_assoc]

theorem Chained.mono {Links' : Hash → Entry → Prop}
    (weaker : ∀ {prev entry}, Links prev entry → Links' prev entry) {root : Hash}
    {entries : List Entry} (chained : Chained Links hash root entries) :
    Chained Links' hash root entries := by
  induction entries generalizing root with
  | nil => trivial
  | cons entry entries ih => exact ⟨weaker chained.1, ih chained.2⟩

/-- Every prefix of a chain is a chain. -/
theorem Chained.left {root : Hash} {before after : List Entry}
    (chained : Chained Links hash root (before ++ after)) : Chained Links hash root before := by
  induction before generalizing root with
  | nil => trivial
  | cons entry before ih => exact ⟨chained.1, ih chained.2⟩

/-- When the hash of a linked entry determines the entry and what it is linked to, and
is never the root, two chains with one tip agree entry by entry.  By induction on both
chains from their ends. -/
theorem forall₂_of_tip_eq {Same : Entry → Entry → Prop} {root : Hash}
    {left right : List Entry} (leftChained : Chained Links hash root left)
    (rightChained : Chained Links hash root right)
    (sameTip : tip hash root left = tip hash root right)
    (inj : ∀ leftPrev rightPrev left right, Links leftPrev left → Links rightPrev right →
      hash left = hash right → leftPrev = rightPrev ∧ Same left right)
    (free : ∀ prev entry, Links prev entry → hash entry ≠ root) :
    List.Forall₂ Same left right := by
  induction left using List.reverseRecOn generalizing right with
  | nil =>
      cases right using List.reverseRecOn with
      | nil => exact .nil
      | append_singleton right last =>
          rw [tip_nil, tip_append_singleton] at sameTip
          exact absurd sameTip.symm (free _ _ (chained_append_singleton.mp rightChained).2)
  | append_singleton left leftLast ih =>
      cases right using List.reverseRecOn with
      | nil =>
          rw [tip_nil, tip_append_singleton] at sameTip
          exact absurd sameTip (free _ _ (chained_append_singleton.mp leftChained).2)
      | append_singleton right rightLast =>
          obtain ⟨leftChained, leftLinks⟩ := chained_append_singleton.mp leftChained
          obtain ⟨rightChained, rightLinks⟩ := chained_append_singleton.mp rightChained
          rw [tip_append_singleton, tip_append_singleton] at sameTip
          obtain ⟨sameBefore, lastSame⟩ := inj _ _ _ _ leftLinks rightLinks sameTip
          exact List.rel_append (ih leftChained rightChained sameBefore) (.cons lastSame .nil)

end Era.Lib.HashChain
