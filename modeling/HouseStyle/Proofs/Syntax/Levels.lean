import HouseStyle.Complexity
import HouseStyle.Declaration
import HouseStyle.Proofs.Syntax.Tree
import HouseStyle.Proofs.Syntax.WalkOrder

/-!
# The levels of a tree

The walk of a tree is a loop over a queue of nodes. What bounds its rounds is not the length of the queue,
which may grow, but the number of nodes in the trees that the queue holds: each round takes one of them
away. A queue that starts with some nodes is walked by listing these nodes and going on with what follows
them and, behind that, all their children; so a queue that holds one level of a tree is followed by the
next level, and the walk lists the levels one after the other.

Main definitions:
* `Node.Walks`: the loop without a bound on its rounds.
* `Node.level`: the nodes of a depth, from left to right.

Main results:
* `Node.walks_iff`: from every queue the loop comes to an end, with the same nodes.
* `Node.walk_eq_flatMap_level`: the walk lists the levels.
* `Node.walk_breadthFirst`: every node is listed once, in this order.
-/

namespace HouseStyle.Syntax.Node

/-! ## The loop -/

/-- The loop of the walk: it takes the first node of the queue and puts its children at the end, until the
    queue is empty. `Walks queue visited` holds if the loop, started with `queue`, comes to an end, and
    `visited` are the nodes that it took. -/
inductive Walks : List Node → List Node → Prop where
  | stop : Walks [] []
  | visit {n : Node} {queue visited : List Node} (h : Walks (queue ++ n.children) visited) :
      Walks (n :: queue) (n :: visited)

/-- A round of the loop takes one node out of the trees in the queue. -/
theorem sizeAll_append_children (n : Node) (queue : List Node) :
    sizeAll (queue ++ n.children) + 1 = sizeAll (n :: queue) := by
  rw [sizeAll_append, sizeAll, size_eq]
  omega

theorem walks_walkQueue {fuel : Nat} {queue : List Node} (h : sizeAll queue ≤ fuel) :
    Walks queue (walkQueue fuel queue) := by
  induction fuel generalizing queue with
  | zero =>
    cases queue with
    | nil => exact .stop
    | cons n queue =>
      have := sizeAll_append_children n queue
      omega
  | succ fuel ih =>
    cases queue with
    | nil => exact .stop
    | cons n queue =>
      have := sizeAll_append_children n queue
      exact .visit (ih (by omega))

theorem Walks.unique {queue visited visited' : List Node} (h : Walks queue visited)
    (h' : Walks queue visited') : visited = visited' := by
  induction h generalizing visited' with
  | stop => cases h'; rfl
  | visit _ ih =>
    cases h' with
    | visit h' => rw [ih h']

/-- From every queue the loop comes to an end, and always with the same nodes. -/
theorem walks_iff {queue visited : List Node} :
    Walks queue visited ↔ visited = walkQueue (sizeAll queue) queue := by
  constructor
  · exact fun h => h.unique (walks_walkQueue le_rfl)
  · rintro rfl
    exact walks_walkQueue le_rfl

/-! ## Levels -/

/-- The nodes of a depth, from left to right. -/
def level : Nat → Node → List Node
  | 0, n => [n]
  | d + 1, n => n.children.flatMap (level d)

theorem flatMap_level_succ (d : Nat) (ns : List Node) :
    ns.flatMap (level (d + 1)) = (ns.flatMap children).flatMap (level d) := by
  rw [List.flatMap_assoc]
  rfl

theorem sizeAll_eq_length_add (ns : List Node) :
    sizeAll ns = ns.length + sizeAll (ns.flatMap children) := by
  induction ns with
  | nil => rfl
  | cons n ns ih =>
    rw [sizeAll, size_eq, List.flatMap_cons, sizeAll_append, List.length_cons]
    omega

/-- The nodes at the front of a queue are listed, and then the rest of the queue with all their children
    behind it. -/
theorem Walks.append {ms visited : List Node} (ns : List Node)
    (h : Walks (ms ++ ns.flatMap children) visited) : Walks (ns ++ ms) (ns ++ visited) := by
  induction ns generalizing ms with
  | nil => simpa using h
  | cons n ns ih =>
    rw [List.cons_append, List.cons_append]
    apply Walks.visit
    rw [List.append_assoc]
    apply ih
    rwa [List.append_assoc, ← List.flatMap_cons]

/-- A queue is walked level by level; depths beyond the trees add nothing. -/
theorem walks_flatMap_level {k : Nat} {ns : List Node} (h : sizeAll ns ≤ k) :
    Walks ns ((List.range k).flatMap fun d => ns.flatMap (level d)) := by
  induction k generalizing ns with
  | zero =>
    cases ns with
    | nil => exact .stop
    | cons n ns =>
      have := sizeAll_append_children n ns
      omega
  | succ k ih =>
    have hnext : sizeAll (ns.flatMap children) ≤ k := by
      have hsize := sizeAll_eq_length_add ns
      cases ns with
      | nil => exact Nat.zero_le k
      | cons n ns =>
        rw [List.length_cons] at hsize
        omega
    have hfirst : ns.flatMap (level 0) = ns := List.flatMap_singleton' ns
    rw [List.range_succ_eq_map, List.flatMap_cons, List.flatMap_map, hfirst]
    simp only [Nat.succ_eq_add_one, flatMap_level_succ]
    nth_rewrite 1 [← List.append_nil ns]
    exact Walks.append ns (ih hnext)

theorem walks_singleton_iff {tree : Node} {visited : List Node} :
    Walks [tree] visited ↔ visited = tree.walk := by
  rw [walks_iff, walk, sizeAll, sizeAll, Nat.add_zero]

theorem walk_eq_flatMap_level (tree : Node) :
    tree.walk = (List.range tree.size).flatMap fun d => tree.level d := by
  have h : Walks [tree] ((List.range tree.size).flatMap fun d => [tree].flatMap (level d)) :=
    walks_flatMap_level (by simp [sizeAll])
  simp only [List.flatMap_singleton] at h
  exact (walks_singleton_iff.mp h).symm

/-- **The walk visits everything once.** From the root of a tree the loop over the queue comes to an end,
    and the nodes that it takes are those of the walk, which is a rearrangement of the preorder: the nodes
    of depth 0, then those of depth 1 and so on, and those of one depth from left to right. In terms of
    addresses, which tell apart equal nodes at different places, every address of the tree is visited
    once, and shallow before deep, left before right. Functions, lambdas and class declarations are taken
    from the walk in this order. -/
theorem walk_breadthFirst (tree : Node) :
    (∀ visited, Walks [tree] visited ↔ visited = tree.walk) ∧
    tree.walk.Perm tree.preorder ∧
    tree.walk = ((List.range tree.size).flatMap fun d => tree.level d) ∧
    (∃ places : List Occurrence, places.map (·.node) = tree.walk ∧
      (∀ o, o ∈ places ↔ tree.at? o.address = some o.node) ∧ (places.map (·.address)).Nodup ∧
      places.Pairwise fun o p => WalksBefore o.address p.address) ∧
    (tree.units = (List.range tree.size).flatMap fun d => (tree.level d).filterMap FlowUnit.ofNode?) ∧
    ∀ tokens, tree.declarations tokens =
      (List.range tree.size).flatMap fun d => (tree.level d).filterMap (declaration? tokens) := by
  have hlevels := tree.walk_eq_flatMap_level
  refine ⟨fun visited => walks_singleton_iff, tree.walk_perm_preorder, hlevels, ?_, ?_, ?_⟩
  · exact ⟨tree.occurrences, tree.map_node_occurrences, fun o => mem_occurrences,
      tree.nodup_address_occurrences, tree.pairwise_occurrences⟩
  · rw [units, hlevels, List.filterMap_flatMap]
  · intro tokens
    rw [declarations, hlevels, List.filterMap_flatMap]

end HouseStyle.Syntax.Node
