import HouseStyle.Proofs.Complexity.Sites

/-!
# Addresses in a tree

Equal nodes can stand at several places of a tree. An address names one of them: the index of the child
that is chosen at every step, with the last step in front.

Main definitions:
* `Node.at?`: the node at an address.
* `Occurrence`, `Node.occurrences`: nodes with their addresses, and all those of a tree in the order of
  its walk.

Main results:
* `Node.map_node_occurrences`: the nodes of the occurrences are the walk of the tree.
* `Node.mem_occurrences`: the occurrences are the nodes at the addresses of the tree.
* `Node.nodup_address_occurrences`: every address occurs once.
-/

namespace HouseStyle.Syntax

theorem Node.size_lt_of_mem_children {n m : Node} (h : m ∈ n.children) : m.size < n.size := by
  have := size_le_sizeAll h
  rw [size_eq n]
  omega

/-- The node at an address. -/
def Node.at? (n : Node) : List Nat → Option Node
  | [] => some n
  | i :: a => (n.at? a).bind fun m => m.children[i]?

theorem Node.at?_cons_eq_some {n m : Node} {i : Nat} {a : List Nat} :
    n.at? (i :: a) = some m ↔ ∃ k, n.at? a = some k ∧ k.children[i]? = some m :=
  Option.bind_eq_some_iff

/-- The steps at the end of an address are taken first. -/
theorem Node.at?_append (n : Node) (a b : List Nat) :
    n.at? (a ++ b) = (n.at? b).bind (·.at? a) := by
  induction a with
  | nil => cases h : n.at? b <;> simp [h, at?]
  | cons i a ih => rw [List.cons_append, at?, ih, Option.bind_assoc]; rfl

/-- A node with its address. -/
structure Occurrence where
  address : List Nat
  node : Node

namespace Occurrence

/-! ## Going down the tree -/

/-- The children, with their addresses. -/
def next (o : Occurrence) : List Occurrence :=
  o.node.children.zipIdx.map fun x => ⟨x.2 :: o.address, x.1⟩

theorem map_node_next (o : Occurrence) : o.next.map node = o.node.children := by
  rw [next, List.map_map]
  exact List.zipIdx_map_fst 0 _

theorem mem_next {o p : Occurrence} : p ∈ o.next ↔
    ∃ i n, o.node.children[i]? = some n ∧ p = ⟨i :: o.address, n⟩ := by
  simp only [next, List.mem_map, List.mem_zipIdx_iff_getElem?]
  constructor
  · rintro ⟨⟨n, i⟩, hget, rfl⟩
    exact ⟨i, n, hget, rfl⟩
  · rintro ⟨i, n, hget, rfl⟩
    exact ⟨(n, i), hget, rfl⟩

theorem size_lt_of_mem_next {o p : Occurrence} (h : p ∈ o.next) : p.node.size < o.node.size := by
  obtain ⟨i, n, hget, rfl⟩ := mem_next.mp h
  exact Node.size_lt_of_mem_children (List.mem_of_getElem? hget)

/-- The occurrence and all those below it, each before those below it. -/
def below (o : Occurrence) : List Occurrence := o :: o.next.attach.flatMap fun p => below p.1
termination_by o.node.size
decreasing_by exact size_lt_of_mem_next p.2

theorem below_eq (o : Occurrence) : o.below = o :: o.next.flatMap below := by
  rw [below]
  simp only [List.flatMap_subtype, List.unattach_attach]

/-- What holds of an occurrence if it holds of its children holds of every occurrence. -/
theorem induction {P : Occurrence → Prop} (h : ∀ o, (∀ p ∈ o.next, P p) → P o) (o : Occurrence) :
    P o :=
  h o fun p hp =>
    have := size_lt_of_mem_next hp
    induction h p
termination_by o.node.size

theorem mem_below_iff {o p : Occurrence} : p ∈ o.below ↔ p = o ∨ ∃ q ∈ o.next, p ∈ q.below := by
  rw [below_eq, List.mem_cons, List.mem_flatMap]

theorem mem_below_of_mem_next {o p q : Occurrence} (hp : p ∈ o.below) (hq : q ∈ p.next) :
    q ∈ o.below := by
  induction o using induction with
  | h o ih =>
    rcases mem_below_iff.mp hp with rfl | ⟨r, hr, hp⟩
    · exact mem_below_iff.mpr (.inr ⟨q, hq, mem_below_iff.mpr (.inl rfl)⟩)
    · exact mem_below_iff.mpr (.inr ⟨r, hr, ih r hr hp⟩)

/-- Below an occurrence are the nodes at the addresses of its node. -/
theorem mem_below {o p : Occurrence} :
    p ∈ o.below ↔ ∃ a, p.address = a ++ o.address ∧ o.node.at? a = some p.node := by
  constructor
  · intro h
    induction o using induction with
    | h o ih =>
      rcases mem_below_iff.mp h with rfl | ⟨q, hq, hp⟩
      · exact ⟨[], rfl, rfl⟩
      · obtain ⟨a, haddress, hat⟩ := ih q hq hp
        obtain ⟨i, n, hget, rfl⟩ := mem_next.mp hq
        refine ⟨a ++ [i], by simp [haddress], ?_⟩
        rw [Node.at?_append, Node.at?, Node.at?, Option.bind_some, hget]
        exact hat
  · rintro ⟨a, haddress, hat⟩
    obtain ⟨address, n⟩ := p
    cases haddress
    induction a generalizing n with
    | nil =>
      cases hat
      exact mem_below_iff.mpr (.inl rfl)
    | cons i a ih =>
      obtain ⟨m, hm, hget⟩ := Node.at?_cons_eq_some.mp hat
      exact mem_below_of_mem_next (ih m hm) (mem_next.mpr ⟨i, n, hget, rfl⟩)

theorem address_suffix {o p : Occurrence} (h : p ∈ o.below) : o.address <:+ p.address := by
  obtain ⟨a, ha, -⟩ := mem_below.mp h
  exact ⟨a, ha.symm⟩

/-- Two children of a node have different addresses, and so has what is below them. -/
theorem nodup_address_below (o : Occurrence) : (o.below.map address).Nodup := by
  induction o using induction with
  | h o ih =>
    rw [below_eq, List.map_cons, List.map_flatMap, List.nodup_cons, List.nodup_flatMap]
    refine ⟨?_, ih, ?_⟩
    · intro h
      obtain ⟨q, hq, hmem⟩ := List.mem_flatMap.mp h
      obtain ⟨p, hp, haddress⟩ := List.mem_map.mp hmem
      obtain ⟨i, n, -, rfl⟩ := mem_next.mp hq
      have hlong := (address_suffix hp).length_le
      rw [haddress, List.length_cons] at hlong
      omega
    · rw [next, List.pairwise_map]
      refine (Site.pairwise_zipIdx o.node.children).imp ?_
      rintro ⟨n, i⟩ ⟨m, j⟩ hne a hi hj
      obtain ⟨p, hp, rfl⟩ := List.mem_map.mp hi
      obtain ⟨q, hq, heq⟩ := List.mem_map.mp hj
      have hpi := address_suffix hp
      have hqj := address_suffix hq
      rw [heq] at hqj
      have hsame := (List.suffix_of_suffix_length_le hpi hqj (Nat.le_refl _)).eq_of_length rfl
      exact hne (List.cons.inj hsame).1

/-! ## The walk -/

/-- Takes occurrences from the front of a queue and puts their children at its end. -/
def walkQueue : Nat → List Occurrence → List Occurrence
  | 0, _ => []
  | _ + 1, [] => []
  | fuel + 1, o :: queue => o :: walkQueue fuel (queue ++ o.next)

theorem map_node_walkQueue (fuel : Nat) (queue : List Occurrence) :
    (walkQueue fuel queue).map node = Node.walkQueue fuel (queue.map node) := by
  induction fuel generalizing queue with
  | zero => rfl
  | succ fuel ih =>
    cases queue with
    | nil => rfl
    | cons o queue =>
      rw [walkQueue, List.map_cons, ih, List.map_append, map_node_next]
      rfl

theorem walkQueue_perm {fuel : Nat} {queue : List Occurrence}
    (h : Node.sizeAll (queue.map node) ≤ fuel) :
    (walkQueue fuel queue).Perm (queue.flatMap below) := by
  induction fuel generalizing queue with
  | zero =>
    cases queue with
    | nil => exact .rfl
    | cons o queue =>
      rw [List.map_cons, Node.sizeAll, Node.size_eq] at h
      omega
  | succ fuel ih =>
    cases queue with
    | nil => exact .rfl
    | cons o queue =>
      rw [List.map_cons, Node.sizeAll, Node.size_eq] at h
      have hrest : (walkQueue fuel (queue ++ o.next)).Perm ((queue ++ o.next).flatMap below) :=
        ih (by rw [List.map_append, map_node_next, Node.sizeAll_append]; omega)
      rw [walkQueue, List.flatMap_cons, below_eq o, List.cons_append]
      refine .cons o (hrest.trans ?_)
      rw [List.flatMap_append]
      exact List.perm_append_comm

end Occurrence

namespace Node

/-- All nodes of a tree with their addresses, breadth first. -/
def occurrences (tree : Node) : List Occurrence := Occurrence.walkQueue tree.size [⟨[], tree⟩]

theorem map_node_occurrences (tree : Node) : tree.occurrences.map (·.node) = tree.walk :=
  Occurrence.map_node_walkQueue _ _

theorem occurrences_perm (tree : Node) : tree.occurrences.Perm (Occurrence.below ⟨[], tree⟩) := by
  have h : tree.occurrences.Perm ([⟨[], tree⟩].flatMap Occurrence.below) :=
    Occurrence.walkQueue_perm (by simp [sizeAll])
  rwa [List.flatMap_singleton] at h

/-- The occurrences are the nodes at the addresses of the tree. -/
theorem mem_occurrences {tree : Node} {o : Occurrence} :
    o ∈ tree.occurrences ↔ tree.at? o.address = some o.node := by
  rw [tree.occurrences_perm.mem_iff, Occurrence.mem_below]
  simp

theorem nodup_address_occurrences (tree : Node) : (tree.occurrences.map (·.address)).Nodup :=
  (tree.occurrences_perm.map _).nodup_iff.mpr (Occurrence.nodup_address_below _)

end Node

end HouseStyle.Syntax
