import HouseStyle.Proofs.Syntax.Addresses
import Mathlib.Data.List.Lex

/-!
# The order of the walk

The walk of a tree takes nodes from the front of a queue and puts their children at its end. The nodes
that it lists can be told from their addresses alone: a node of smaller depth comes before one of greater
depth, and of two nodes of one depth the one comes first that is reached by turning left where the ways
part.

The queue holds nodes of at most two depths, those that are deeper being children of nodes that the walk
has left behind. What a step has to know of it is only that every node in the queue comes before every
child of a node in the queue (`Occurrence.InOrder`).

Main definitions:
* `WalksBefore`: the order of the walk on addresses.

Main results:
* `Occurrence.pairwise_walkQueue`: a queue in order is walked in order.
* `Node.pairwise_occurrences`: the walk of a tree is in order.
-/

namespace HouseStyle.Syntax

/-- The node at `a` is less deep than the node at `b`, or as deep and further to the left. The steps of
    an address are compared from the root on, that is, from its end. -/
def WalksBefore (a b : List Nat) : Prop :=
  a.length < b.length ∨ (a.length = b.length ∧ a.reverse < b.reverse)

namespace WalksBefore

variable {a b c : List Nat}

/-- Lists of one length are compared before what follows them is. -/
theorem append_lt_append (hlen : a.length = b.length) (h : a < b) (s t : List Nat) :
    a ++ s < b ++ t := by
  induction a generalizing b with
  | nil =>
    rw [List.length_eq_zero_iff.mp hlen.symm] at h
    exact absurd h (lt_irrefl _)
  | cons i a ih =>
    obtain ⟨j, b, rfl⟩ := List.exists_cons_of_length_eq_add_one hlen.symm
    rw [List.cons_append, List.cons_append, List.cons_lt_cons_iff]
    rcases List.cons_lt_cons_iff.mp h with hij | ⟨rfl, hrest⟩
    · exact .inl hij
    · exact .inr ⟨rfl, ih (Nat.succ.inj hlen) hrest⟩

theorem of_length_lt (h : a.length < b.length) : WalksBefore a b := .inl h

theorem length_le (h : WalksBefore a b) : a.length ≤ b.length := by
  rcases h with h | ⟨h, -⟩ <;> omega

theorem trans (hab : WalksBefore a b) (hbc : WalksBefore b c) : WalksBefore a c := by
  rcases hab with hab | ⟨hab, hlt⟩
  · exact .inl (lt_of_lt_of_le hab hbc.length_le)
  · rcases hbc with hbc | ⟨hbc, hlt'⟩
    · exact .inl (by omega)
    · exact .inr ⟨by omega, lt_trans hlt hlt'⟩

/-- Children come in the order of their parents. -/
theorem cons (h : WalksBefore a b) (i j : Nat) : WalksBefore (i :: a) (j :: b) := by
  rcases h with h | ⟨hlen, hlt⟩
  · exact .inl (Nat.succ_lt_succ h)
  · refine .inr ⟨congrArg (· + 1) hlen, ?_⟩
    rw [List.reverse_cons, List.reverse_cons]
    exact append_lt_append (by simp [hlen]) hlt _ _

/-- The children of one node come in the order of their indices. -/
theorem of_index_lt {i j : Nat} (h : i < j) (a : List Nat) : WalksBefore (i :: a) (j :: a) := by
  refine .inr ⟨rfl, ?_⟩
  rw [List.reverse_cons, List.reverse_cons]
  exact List.append_left_lt (List.cons_lt_cons_iff.mpr (.inl h))

end WalksBefore

namespace Occurrence

/-- The walk lists `o` before `p`. -/
def Before (o p : Occurrence) : Prop := WalksBefore o.address p.address

/-- A node comes before its children. -/
theorem before_of_mem_next {o p : Occurrence} (h : p ∈ o.next) : o.Before p := by
  obtain ⟨i, n, -, rfl⟩ := mem_next.mp h
  exact .of_length_lt (Nat.lt_succ_self _)

/-- Children come in the order of their parents. -/
theorem Before.next {o o' p p' : Occurrence} (h : o.Before o') (hp : p ∈ o.next)
    (hp' : p' ∈ o'.next) : p.Before p' := by
  obtain ⟨i, n, -, rfl⟩ := mem_next.mp hp
  obtain ⟨j, m, -, rfl⟩ := mem_next.mp hp'
  exact WalksBefore.cons h i j

theorem pairwise_next (o : Occurrence) : o.next.Pairwise Before := by
  rw [next, List.pairwise_map, List.pairwise_iff_getElem]
  intro i j hi hj hij
  simp only [List.getElem_zipIdx]
  exact .of_index_lt (by omega) o.address

/-! ## Queues -/

/-- The occurrences come one before the other, and each before all the children. -/
structure InOrder (queue : List Occurrence) : Prop where
  pairwise : queue.Pairwise Before
  children : ∀ o ∈ queue, ∀ p ∈ queue, ∀ q ∈ p.next, o.Before q

/-- The queue stays in order when its first occurrence makes way for its children. -/
theorem InOrder.step {o : Occurrence} {queue : List Occurrence} (h : InOrder (o :: queue)) :
    InOrder (queue ++ o.next) := by
  obtain ⟨hfirst, hqueue⟩ := List.pairwise_cons.mp h.pairwise
  have hchildren : ∀ p ∈ queue, ∀ q ∈ o.next, p.Before q := fun p hp q hq =>
    h.children p (List.mem_cons_of_mem o hp) o List.mem_cons_self q hq
  constructor
  · exact List.pairwise_append.mpr ⟨hqueue, o.pairwise_next, hchildren⟩
  · intro p hp q hq r hr
    rcases List.mem_append.mp hq with hq | hq
    · rcases List.mem_append.mp hp with hp | hp
      · exact h.children p (List.mem_cons_of_mem o hp) q (List.mem_cons_of_mem o hq) r hr
      · exact (hfirst q hq).next hp hr
    · rcases List.mem_append.mp hp with hp | hp
      · exact (hchildren p hp q hq).trans (before_of_mem_next hr)
      · -- `p` and `q` are siblings, so the child `r` of `q` is deeper than `p`.
        obtain ⟨i, n, -, rfl⟩ := mem_next.mp hp
        obtain ⟨j, m, -, rfl⟩ := mem_next.mp hq
        obtain ⟨k, l, -, rfl⟩ := mem_next.mp hr
        exact .of_length_lt (Nat.lt_succ_self _)

/-- What comes before a queue comes before all that is walked from it. -/
theorem before_of_mem_walkQueue {fuel : Nat} {queue : List Occurrence} {o p : Occurrence}
    (h : ∀ q ∈ queue, o.Before q) (hp : p ∈ walkQueue fuel queue) : o.Before p := by
  induction fuel generalizing queue with
  | zero => cases hp
  | succ fuel ih =>
    cases queue with
    | nil => cases hp
    | cons q queue =>
      obtain ⟨hq, hqueue⟩ := List.forall_mem_cons.mp h
      rcases List.mem_cons.mp hp with rfl | hp
      · exact hq
      · refine ih (List.forall_mem_append.mpr ⟨hqueue, fun r hr => ?_⟩) hp
        exact hq.trans (before_of_mem_next hr)

/-- A queue in order is walked in order. -/
theorem InOrder.pairwise_walkQueue {queue : List Occurrence} (h : InOrder queue) (fuel : Nat) :
    (walkQueue fuel queue).Pairwise Before := by
  induction fuel generalizing queue with
  | zero => exact .nil
  | succ fuel ih =>
    cases queue with
    | nil => exact .nil
    | cons o queue =>
      refine List.pairwise_cons.mpr ⟨fun p hp => before_of_mem_walkQueue ?_ hp, ih h.step⟩
      obtain ⟨hfirst, -⟩ := List.pairwise_cons.mp h.pairwise
      exact List.forall_mem_append.mpr ⟨hfirst, fun q hq => before_of_mem_next hq⟩

end Occurrence

/-- The walk of a tree is in order. -/
theorem Node.pairwise_occurrences (tree : Node) : tree.occurrences.Pairwise Occurrence.Before := by
  apply Occurrence.InOrder.pairwise_walkQueue
  constructor
  · exact List.pairwise_singleton _ _
  · intro o ho p hp q hq
    rw [List.mem_singleton.mp ho, ← List.mem_singleton.mp hp]
    exact Occurrence.before_of_mem_next hq

end HouseStyle.Syntax
