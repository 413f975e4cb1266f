import HouseStyle.Proofs.Complexity.ClosedForm
import HouseStyle.Proofs.Syntax.Addresses
import Mathlib.Data.List.Perm.Subperm

/-!
# No break in the flow is charged twice

The units of a tree nest: a lambda can stand in the default of a function that stands in a class inside
another function. The walk that collects the units goes everywhere, and the cost of a unit stops where
another unit begins. Since a construct of the tree is named by its address, this says that two units
are never charged for the same construct.

Main definitions:
* `Construct`, `Node.constructs`: what can be charged, and all of it in a tree.
* `Node.unitsAt`: the units of a tree with their addresses.
* `FlowUnit.chargesAt`: the constructs that a unit is charged for, with the amounts.

Main results:
* `FlowUnit.Reaches.at?_addressIn`: a unit is charged for what stands in the tree.
* `FlowUnit.Reaches.exists_no_unit`: between a unit and what it reaches there is no other unit.
* `Node.pairwise_disjoint_charges`: the charges of different units are disjoint.
-/

namespace HouseStyle.Syntax

/-! ## Constructs -/

/-- What a construct is charged for. -/
inductive Break where
  /-- An `if`, `elif`, loop, `except`, `match` or conditional expression. -/
  | flow
  /-- The `else` block of an `if` or a loop. -/
  | elseBlock
  /-- A run of equal Boolean operators. -/
  | run
deriving Repr, DecidableEq

/-- A construct of a tree that can be charged. The address is that of the structure, of the `if` or loop
    that has the block, or of the junction that opens the run. -/
structure Construct where
  kind : Break
  address : List Nat
deriving Repr, DecidableEq

namespace Construct

/-- The constructs of a node at an address, where `around` is the operator of its parent. -/
def ofNode (address : List Nat) (around : Option BoolOp) (n : Node) : List Construct :=
  (if n.breaksFlow then [⟨.flow, address⟩] else []) ++
    (if n.hasElse then [⟨.elseBlock, address⟩] else []) ++
    if n.operator?.isSome && around ≠ n.operator? then [⟨.run, address⟩] else []

/-- What a construct is charged at a depth of nesting. -/
def amount (depth : Nat) (k : Construct) : Nat :=
  match k.kind with
  | .flow => 1 + depth
  | .elseBlock => 1
  | .run => 1

variable {address : List Nat} {around : Option BoolOp} {n : Node} {k : Construct}

theorem address_of_mem_ofNode (h : k ∈ ofNode address around n) : k.address = address := by
  simp only [ofNode, List.mem_append, List.mem_ite_nil_right, List.mem_singleton] at h
  rcases h with (⟨-, rfl⟩ | ⟨-, rfl⟩) | ⟨-, rfl⟩ <;> rfl

theorem nodup_ofNode : (ofNode address around n).Nodup := by
  unfold ofNode
  split_ifs <;> simp

/-- Nodes at different addresses have different constructs. -/
theorem nodup_flatMap_ofNode {α : Type} {xs : List α} {address : α → List Nat}
    {around : α → Option BoolOp} {node : α → Node} (h : (xs.map address).Nodup) :
    (xs.flatMap fun x => ofNode (address x) (around x) (node x)).Nodup := by
  rw [List.nodup_flatMap]
  refine ⟨fun x _ => nodup_ofNode, (List.pairwise_map.mp h).imp ?_⟩
  intro x y hne k hx hy
  exact hne ((address_of_mem_ofNode hx).symm.trans (address_of_mem_ofNode hy))

end Construct

namespace Node

/-- The operator of the parent of the node at an address. -/
def operatorAround? (tree : Node) : List Nat → Option BoolOp
  | [] => none
  | _ :: a => (tree.at? a).bind operator?

/-- The constructs of a tree. -/
def constructs (tree : Node) : List Construct :=
  tree.occurrences.flatMap fun o =>
    Construct.ofNode o.address (tree.operatorAround? o.address) o.node

theorem nodup_constructs (tree : Node) : tree.constructs.Nodup :=
  Construct.nodup_flatMap_ofNode tree.nodup_address_occurrences

theorem mem_constructs_of_mem_ofNode {tree n : Node} {a : List Nat} {k : Construct}
    (hat : tree.at? a = some n) (h : k ∈ Construct.ofNode a (tree.operatorAround? a) n) :
    k ∈ tree.constructs :=
  List.mem_flatMap.mpr ⟨⟨a, n⟩, mem_occurrences.mpr hat, h⟩

/-! ## Units of a tree -/

/-- The unit stands at the address. -/
def HasUnit (tree : Node) (a : List Nat) (u : FlowUnit) : Prop :=
  ∃ n, tree.at? a = some n ∧ FlowUnit.ofNode? n = some u

/-- The units of a tree with their addresses, breadth first. -/
def unitsAt (tree : Node) : List (List Nat × FlowUnit) :=
  tree.occurrences.filterMap fun o => (FlowUnit.ofNode? o.node).map fun u => (o.address, u)

theorem map_snd_unitsAt (tree : Node) : tree.unitsAt.map Prod.snd = tree.units := by
  rw [unitsAt, units, ← map_node_occurrences, List.map_filterMap, List.filterMap_map]
  congr 1
  funext o
  simp [Function.comp_def]

theorem mem_unitsAt {tree : Node} {p : List Nat × FlowUnit} :
    p ∈ tree.unitsAt ↔ tree.HasUnit p.1 p.2 := by
  obtain ⟨a, u⟩ := p
  simp only [unitsAt, List.mem_filterMap, Option.map_eq_some_iff, mem_occurrences, HasUnit]
  constructor
  · rintro ⟨⟨b, n⟩, hat, v, hv, heq⟩
    cases heq
    exact ⟨n, hat, hv⟩
  · rintro ⟨n, hat, hu⟩
    exact ⟨⟨a, n⟩, hat, u, hu, rfl⟩

theorem pairwise_unitsAt (tree : Node) : tree.unitsAt.Pairwise fun p q => p.1 ≠ q.1 := by
  rw [unitsAt, List.pairwise_filterMap]
  refine (List.pairwise_map.mp tree.nodup_address_occurrences).imp ?_
  intro o o' hne p hp q hq
  obtain ⟨_, -, rfl⟩ := Option.map_eq_some_iff.mp hp
  obtain ⟨_, -, rfl⟩ := Option.map_eq_some_iff.mp hq
  exact hne

end Node

namespace FlowUnit

/-! ## Addresses in the tree -/

/-- The address in the tree of what has an address in the unit at `a`: the nodes of a body come after
    the arguments. -/
def addressIn (a : List Nat) : List Nat → List Nat
  | [] => a
  | [i] => (i + 1) :: a
  | i :: j :: b => i :: addressIn a (j :: b)

theorem addressIn_cons {a b : List Nat} (h : b ≠ []) (i : Nat) :
    addressIn a (i :: b) = i :: addressIn a b := by
  cases b with
  | nil => exact absurd rfl h
  | cons j b => rfl

theorem suffix_addressIn (a b : List Nat) : a <:+ addressIn a b := by
  fun_induction addressIn a b with
  | case1 => exact List.suffix_rfl
  | case2 i => exact List.suffix_cons _ _
  | case3 i j b ih => exact ih.trans (List.suffix_cons _ _)

theorem length_addressIn (a b : List Nat) : (addressIn a b).length = b.length + a.length := by
  fun_induction addressIn a b with
  | case1 => simp
  | case2 i => simp; omega
  | case3 i j b ih => simp only [List.length_cons] at ih ⊢; omega

theorem addressIn_injective (a : List Nat) : Function.Injective (addressIn a) := by
  intro b c h
  have hlen : b.length = c.length := by
    have := congrArg List.length h
    rw [length_addressIn, length_addressIn] at this
    omega
  induction b generalizing c with
  | nil => exact (List.length_eq_zero_iff.mp hlen.symm).symm
  | cons i b ih =>
    obtain ⟨j, c, rfl⟩ := List.exists_cons_of_length_eq_add_one hlen.symm
    have htails : b.length = c.length := Nat.succ.inj hlen
    by_cases hb : b = []
    · subst hb
      obtain rfl := List.length_eq_zero_iff.mp htails.symm
      exact congrArg (· :: []) (Nat.succ.inj (List.cons.inj h).1)
    · have hc : c ≠ [] := fun hc => hb (List.length_eq_zero_iff.mp (by rw [htails, hc]; rfl))
      rw [addressIn_cons hb, addressIn_cons hc] at h
      obtain ⟨rfl, hrest⟩ := List.cons.inj h
      rw [ih hrest htails]

variable {tree n : Node} {a b : List Nat} {u v : FlowUnit} {s t : Site}

theorem Reaches.address_ne_nil (h : u.Reaches s) : s.address ≠ [] := by
  cases h <;> simp

theorem Reaches.ne_addressIn (h : u.Reaches s) : addressIn a s.address ≠ a := by
  intro heq
  have hlen := length_addressIn a s.address
  rw [heq] at hlen
  exact h.address_ne_nil (List.length_eq_zero_iff.mp (by omega))

/-- The body of a function or lambda follows its arguments. -/
theorem children_of_ofNode? (hu : ofNode? n = some u) {i : Nat} {m : Node}
    (h : u.body[i]? = some m) : n.children[i + 1]? = some m := by
  unfold ofNode? at hu
  split at hu
  · cases hu
    obtain ⟨hi, -⟩ := List.getElem?_eq_some_iff.mp h
    rw [Node.children, List.getElem?_cons_succ, List.append_assoc, List.getElem?_append_left hi]
    exact h
  · cases hu
    exact h
  · cases hu

theorem operator?_of_ofNode? (hu : ofNode? n = some u) : n.operator? = none := by
  cases n <;> first | rfl | cases hu

/-- A unit reaches what stands in the tree. -/
theorem Reaches.at?_addressIn (hu : tree.HasUnit a u) (hs : u.Reaches s) :
    tree.at? (addressIn a s.address) = some s.node := by
  induction hs with
  | @body i m hget =>
    obtain ⟨n, hat, hn⟩ := hu
    exact Node.at?_cons_eq_some.mpr ⟨n, hat, children_of_ofNode? hn hget⟩
  | @child s i entry m hs hget ih =>
    rw [addressIn_cons hs.address_ne_nil]
    refine Node.at?_cons_eq_some.mpr ⟨s.node, ih, ?_⟩
    rw [← Node.map_snd_parts, List.getElem?_map, hget]
    rfl

theorem Reaches.outer_eq (hu : tree.HasUnit a u) (hs : u.Reaches s) :
    s.outer = tree.operatorAround? (addressIn a s.address) := by
  induction hs with
  | @body i m hget =>
    obtain ⟨n, hat, hn⟩ := hu
    rw [addressIn, Node.operatorAround?, hat, Option.bind_some, operator?_of_ofNode? hn]
    rfl
  | @child s i entry m hs hget ih =>
    rw [addressIn_cons hs.address_ne_nil, Node.operatorAround?, hs.at?_addressIn hu,
      Option.bind_some]
    exact Site.outer_of_mem_next (Site.mem_next.mpr ⟨i, entry, m, hget, rfl⟩)

/-! ## Units do not overlap -/

/-- There is no way into the parts of a unit. -/
theorem ofNode?_eq_none {n m : Node} {i : Nat} {entry : Entry}
    (h : n.parts[i]? = some (some entry, m)) : ofNode? n = none := by
  have hmem := List.mem_of_getElem? h
  cases n <;> first | rfl | simp [Node.parts] at hmem

/-- Between a unit and what it reaches there is no other unit: the nodes above a site of the unit, as far
    as they are below the unit, are gone into. -/
theorem Reaches.exists_no_unit (hu : tree.HasUnit a u) (hs : u.Reaches s) (hab : a <:+ b)
    (hne : b ≠ a) (hbs : b <:+ addressIn a s.address) (hne' : b ≠ addressIn a s.address) :
    ∃ m, tree.at? b = some m ∧ ofNode? m = none := by
  induction hs with
  | body hget =>
    rcases List.suffix_cons_iff.mp hbs with h | h
    · exact absurd h hne'
    · exact absurd (h.eq_of_length_le hab.length_le) hne
  | @child s i entry m hs hget ih =>
    rw [addressIn_cons hs.address_ne_nil] at hbs hne'
    have hbs := (List.suffix_cons_iff.mp hbs).resolve_left hne'
    by_cases heq : b = addressIn a s.address
    · exact ⟨s.node, heq ▸ hs.at?_addressIn hu, ofNode?_eq_none hget⟩
    · exact ih hbs heq

/-- A unit does not reach what a unit below it reaches. -/
theorem Reaches.address_ne_of_suffix (hu : tree.HasUnit a u) (hv : tree.HasUnit b v) (hab : a <:+ b)
    (hne : a ≠ b) (hs : u.Reaches s) (ht : v.Reaches t) :
    addressIn a s.address ≠ addressIn b t.address := by
  intro heq
  obtain ⟨m, hm, hnone⟩ := hs.exists_no_unit hu hab hne.symm (heq ▸ suffix_addressIn b _)
    (heq ▸ ht.ne_addressIn.symm)
  obtain ⟨n, hn, hv⟩ := hv
  rw [hn, Option.some.injEq] at hm
  rw [hm, hnone] at hv
  cases hv

/-- Different units reach different places of the tree. -/
theorem Reaches.address_ne (hu : tree.HasUnit a u) (hv : tree.HasUnit b v) (hne : a ≠ b)
    (hs : u.Reaches s) (ht : v.Reaches t) : addressIn a s.address ≠ addressIn b t.address := by
  intro heq
  rcases List.suffix_or_suffix_of_suffix (suffix_addressIn a s.address)
    (heq ▸ suffix_addressIn b t.address) with hab | hba
  · exact hs.address_ne_of_suffix hu hv hab hne ht heq
  · exact ht.address_ne_of_suffix hv hu hba hne.symm hs heq.symm

end FlowUnit

/-! ## Charges -/

/-- The charges of a site that has an address in the tree. -/
def Site.charges (a : List Nat) (s : Site) : List (Construct × Nat) :=
  (Construct.ofNode a s.outer s.node).map fun k => (k, k.amount s.depth)

/-- The charges make up what the site is charged. -/
theorem Site.sum_charges (a : List Nat) (s : Site) : ((s.charges a).map Prod.snd).sum = s.charge := by
  unfold charges Construct.ofNode charge opensRun
  split_ifs <;> simp_all [Construct.amount]

namespace FlowUnit

/-- The charges of a unit that stands at an address. -/
def chargesAt (a : List Nat) (u : FlowUnit) : List (Construct × Nat) :=
  u.sites.flatMap fun s => s.charges (addressIn a s.address)

/-- The constructs that a unit is charged for. -/
def chargedAt (a : List Nat) (u : FlowUnit) : List Construct := (u.chargesAt a).map Prod.fst

/-- The charges make up the complexity. -/
theorem complexity_eq_sum_chargesAt (a : List Nat) (u : FlowUnit) :
    u.complexity = ((u.chargesAt a).map Prod.snd).sum := by
  rw [complexity_eq_sum_charge, chargesAt]
  induction u.sites with
  | nil => rfl
  | cons s sites ih => simp [ih, Site.sum_charges]

theorem chargedAt_eq (a : List Nat) (u : FlowUnit) :
    u.chargedAt a =
      u.sites.flatMap fun s => Construct.ofNode (addressIn a s.address) s.outer s.node := by
  simp [chargedAt, chargesAt, Site.charges, List.map_flatMap, Function.comp_def]

theorem mem_chargedAt {a : List Nat} {u : FlowUnit} {k : Construct} : k ∈ u.chargedAt a ↔
    ∃ s, u.Reaches s ∧ k ∈ Construct.ofNode (addressIn a s.address) s.outer s.node := by
  simp only [chargedAt_eq, List.mem_flatMap, mem_sites]

theorem pos_of_mem_chargesAt {a : List Nat} {u : FlowUnit} {c : Construct × Nat}
    (h : c ∈ u.chargesAt a) : 0 < c.2 := by
  obtain ⟨s, -, hc⟩ := List.mem_flatMap.mp h
  obtain ⟨⟨kind, address⟩, -, rfl⟩ := List.mem_map.mp hc
  cases kind <;> simp only [Construct.amount] <;> omega

theorem nodup_chargedAt (a : List Nat) (u : FlowUnit) : (u.chargedAt a).Nodup := by
  rw [chargedAt_eq]
  apply Construct.nodup_flatMap_ofNode
  rw [← Function.comp_def, ← List.map_map]
  exact List.Nodup.map (addressIn_injective a) (List.pairwise_map.mpr u.pairwise_sites)

variable {tree : Node} {a b : List Nat} {u v : FlowUnit}

/-- A unit is charged for constructs of its tree. -/
theorem chargedAt_subset (hu : tree.HasUnit a u) : u.chargedAt a ⊆ tree.constructs := by
  intro k hk
  obtain ⟨s, hs, hk⟩ := mem_chargedAt.mp hk
  rw [hs.outer_eq hu] at hk
  exact Node.mem_constructs_of_mem_ofNode (hs.at?_addressIn hu) hk

/-- Different units are charged for different constructs. -/
theorem disjoint_chargedAt (hu : tree.HasUnit a u) (hv : tree.HasUnit b v) (hne : a ≠ b) :
    (u.chargedAt a).Disjoint (v.chargedAt b) := by
  intro k hk hk'
  obtain ⟨s, hs, hks⟩ := mem_chargedAt.mp hk
  obtain ⟨t, ht, hkt⟩ := mem_chargedAt.mp hk'
  have hsame := (Construct.address_of_mem_ofNode hks).symm.trans (Construct.address_of_mem_ofNode hkt)
  exact hs.address_ne hu hv hne ht hsame

end FlowUnit

namespace Node

theorem pairwise_disjoint_chargedAt (tree : Node) :
    tree.unitsAt.Pairwise fun p q => (p.2.chargedAt p.1).Disjoint (q.2.chargedAt q.1) :=
  tree.pairwise_unitsAt.imp_of_mem fun hp hq hne =>
    FlowUnit.disjoint_chargedAt (mem_unitsAt.mp hp) (mem_unitsAt.mp hq) hne

/-- There are no more charges in a tree than constructs. -/
theorem sum_length_chargesAt_le (tree : Node) :
    (tree.unitsAt.map fun p => (p.2.chargesAt p.1).length).sum ≤ tree.constructs.length := by
  have hnodup : (tree.unitsAt.flatMap fun p => p.2.chargedAt p.1).Nodup :=
    List.nodup_flatMap.mpr
      ⟨fun p _ => p.2.nodup_chargedAt p.1, tree.pairwise_disjoint_chargedAt⟩
  have hsubset : (tree.unitsAt.flatMap fun p => p.2.chargedAt p.1) ⊆ tree.constructs := by
    intro k hk
    obtain ⟨p, hp, hk⟩ := List.mem_flatMap.mp hk
    exact FlowUnit.chargedAt_subset (mem_unitsAt.mp hp) hk
  have hlen := (List.Nodup.subperm hnodup hsubset).length_le
  rw [List.length_flatMap] at hlen
  simpa only [FlowUnit.chargedAt, List.length_map] using hlen

/-- **No break in the flow is charged twice.** Take the units of a tree with their addresses. The
    complexity of each is the sum of its charges, which are for different constructs of the tree. The
    constructs that two of them are charged for are disjoint, so that there are no more charges in the
    whole tree than constructs. -/
theorem pairwise_disjoint_charges (tree : Node) :
    tree.unitsAt.map Prod.snd = tree.units ∧
    (∀ a u, (a, u) ∈ tree.unitsAt →
      (tree.at? a).bind FlowUnit.ofNode? = some u ∧
      u.complexity = ((u.chargesAt a).map Prod.snd).sum ∧ (∀ c ∈ u.chargesAt a, 0 < c.2) ∧
      (u.chargedAt a).Nodup ∧ u.chargedAt a ⊆ tree.constructs) ∧
    (tree.unitsAt.Pairwise fun p q =>
      p.1 ≠ q.1 ∧ (p.2.chargedAt p.1).Disjoint (q.2.chargedAt q.1)) ∧
    tree.constructs.Nodup ∧
    (tree.unitsAt.map fun p => (p.2.chargesAt p.1).length).sum ≤ tree.constructs.length := by
  refine ⟨tree.map_snd_unitsAt, ?_, tree.pairwise_unitsAt.and tree.pairwise_disjoint_chargedAt,
    tree.nodup_constructs, tree.sum_length_chargesAt_le⟩
  intro a u h
  have hu := mem_unitsAt.mp h
  exact ⟨Option.bind_eq_some_iff.mpr hu, u.complexity_eq_sum_chargesAt a,
    fun c hc => FlowUnit.pos_of_mem_chargesAt hc, u.nodup_chargedAt a, FlowUnit.chargedAt_subset hu⟩

end Node

end HouseStyle.Syntax
