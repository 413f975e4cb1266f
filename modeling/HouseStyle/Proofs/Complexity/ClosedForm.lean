import HouseStyle.Proofs.Complexity.Sites
import Mathlib.Algebra.Ring.Nat

/-!
# The complexity as a sum over the nodes of a unit

`Node.cost` carries the depth of nesting and the operator around a node down the tree. The closed form
forgets how the tree is gone through: every site of a unit is charged on its own, for what it is and how
many nested regions are around it, and the complexity is the sum of the charges.

Main definitions:
* `Site.charge`: what a single site is charged.
* `Site.Extends`: a junction goes on with the run of the junction of which it is an operand.

Main results:
* `Site.cost_eq_charge_add`: a node costs its own charge and the costs of what is gone into.
* `FlowUnit.existsUnique_opensRun`: every junction belongs to one run, which one junction opens.
* `FlowUnit.complexity_eq_sum`: the closed form.
-/

namespace HouseStyle.Syntax

/-! ## Charges -/

namespace Node

/-- The node is a structure that breaks the linear flow. -/
def breaksFlow : Node → Bool
  | .branch .. | .loop .. | .handler .. | .matching .. | .conditional .. => true
  | _ => false

/-- The node is an `if` or a loop with an `else` block, which is no `elif`. -/
def hasElse : Node → Bool
  | .branch pos _ _ orelse => !orelse.isEmpty && !isElif pos.col orelse
  | .loop _ _ _ orelse => !orelse.isEmpty
  | _ => false

/-- The operator of a junction. -/
def operator? : Node → Option BoolOp
  | .junction op _ => some op
  | _ => none

theorem hasElse_eq_false {n : Node} (h : n.breaksFlow = false) : n.hasElse = false := by
  cases n <;> first | rfl | cases h

end Node

namespace Site

/-- The site is a junction, and no operand of one with the same operator: the first one of its run. -/
def opensRun (s : Site) : Bool := s.node.operator?.isSome && s.outer ≠ s.node.operator?

/-- What a site is charged: one and its depth for a break in the flow, one for an `else` block, and one
    for a run of equal operators. -/
def charge (s : Site) : Nat :=
  (if s.node.breaksFlow then 1 + s.depth else 0) + (if s.node.hasElse then 1 else 0)
    + if s.opensRun then 1 else 0

/-- What the node of a site adds, with everything below it. -/
def cost (s : Site) : Nat := s.node.cost s.depth s.outer

end Site

theorem Site.charge_eq_zero_iff {s : Site} :
    s.charge = 0 ↔ s.node.breaksFlow = false ∧ s.opensRun = false := by
  unfold charge
  cases hflow : s.node.breaksFlow with
  | true => simp
  | false => simp [Node.hasElse_eq_false hflow]

/-! ## One step -/

namespace Node

theorem costAll_append (depth : Nat) (outer : Option BoolOp) (ns ms : List Node) :
    costAll depth outer (ns ++ ms) = costAll depth outer ns + costAll depth outer ms := by
  induction ns with
  | nil => simp [costAll]
  | cons n ns ih => simp only [List.cons_append, costAll, ih]; omega

/-- An `elif` stays on the level of its `if`, and any other `else` block costs one and is nested. -/
theorem elseCost_eq (depth col : Nat) (orelse : List Node) :
    elseCost depth col orelse =
      (if !orelse.isEmpty && !isElif col orelse then 1 else 0)
        + costAll (if isElif col orelse then depth else depth + 1) none orelse := by
  match orelse with
  | [] => simp [elseCost, costAll]
  | [n] =>
    by_cases h : n.continues col <;> simp [elseCost, isElif, costAll, h]
  | n :: m :: ns => simp [elseCost, isElif, costAll]; omega

end Node

namespace Site

/-- What a part of the node of a site adds. -/
def partCost (s : Site) (part : Option Entry × Node) : Nat :=
  match part.1 with
  | none => 0
  | some entry => cost ⟨[], entry :: s.way, part.2⟩

theorem sum_cost_next (s : Site) : (s.next.map cost).sum = (s.node.parts.map s.partCost).sum := by
  have hparts : ∀ (parts : List (Option Entry × Node)) (k : Nat),
      (((parts.zipIdx k).filterMap fun x => x.1.1.map fun entry =>
        (⟨x.2 :: s.address, entry :: s.way, x.1.2⟩ : Site)).map cost).sum =
      (parts.map s.partCost).sum := by
    intro parts
    induction parts with
    | nil => intro k; rfl
    | cons part parts ih =>
      intro k
      obtain ⟨entry, n⟩ := part
      rw [List.zipIdx_cons]
      cases entry with
      | none => simpa [partCost] using ih (k + 1)
      | some entry => simpa [partCost, cost, depth, outer] using ih (k + 1)
  exact hparts s.node.parts 0

@[simp] theorem sum_partCost_none (s : Site) (ns : List Node) :
    ((Node.field none ns).map s.partCost).sum = 0 := by
  induction ns with
  | nil => rfl
  | cons n ns ih => simpa [Node.field, partCost] using ih

/-- The nodes of a field add what their way in makes of the depth and of the operator around. -/
theorem sum_partCost_some (s : Site) (entry : Entry) (ns : List Node) :
    ((Node.field (some entry) ns).map s.partCost).sum =
      Node.costAll (s.depth + if entry = .region then 1 else 0) entry.operator? ns := by
  induction ns with
  | nil => simp [Node.field, Node.costAll]
  | cons n ns ih =>
    have hfirst : s.partCost (some entry, n) =
        n.cost (s.depth + if entry = .region then 1 else 0) entry.operator? := by
      simp [partCost, cost, depth, outer, List.count_cons]
    rw [Node.costAll, ← ih, ← hfirst]
    rfl

@[simp] theorem sum_partCost_level (s : Site) (ns : List Node) :
    ((Node.field (some .level) ns).map s.partCost).sum = Node.costAll s.depth none ns :=
  sum_partCost_some s .level ns

@[simp] theorem sum_partCost_region (s : Site) (ns : List Node) :
    ((Node.field (some .region) ns).map s.partCost).sum = Node.costAll (s.depth + 1) none ns :=
  sum_partCost_some s .region ns

@[simp] theorem sum_partCost_operand (s : Site) (op : BoolOp) (ns : List Node) :
    ((Node.field (some (.operand op)) ns).map s.partCost).sum =
      Node.costAll s.depth (some op) ns :=
  sum_partCost_some s (.operand op) ns

/-- A node costs its own charge and the costs of the children that are gone into. -/
theorem cost_eq_charge_add (s : Site) : s.cost = s.charge + (s.next.map cost).sum := by
  rw [sum_cost_next]
  unfold cost charge opensRun
  cases hnode : s.node with
  | branch pos test body orelse =>
    -- the way into the `else` part depends on its being an `elif`
    have helse : ((Node.field (some (if Node.isElif pos.col orelse then .level else .region))
        orelse).map s.partCost).sum =
          Node.costAll (if Node.isElif pos.col orelse then s.depth else s.depth + 1) none orelse := by
      split_ifs <;> simp
    simp [Node.cost, Node.elseCost_eq, Node.parts, Node.breaksFlow, Node.hasElse, Node.operator?,
      Node.costAll, helse]
    omega
  | loop kind header body orelse =>
    cases orelse with
    | nil =>
      simp [Node.cost, Node.parts, Node.breaksFlow, Node.hasElse, Node.operator?, Node.costAll]
      omega
    | cons n ns =>
      simp [Node.cost, Node.parts, Node.breaksFlow, Node.hasElse, Node.operator?]
      omega
  | handler type body =>
    simp [Node.cost, Node.parts, Node.breaksFlow, Node.hasElse, Node.operator?]
    omega
  | matching subject cases =>
    simp [Node.cost, Node.parts, Node.breaksFlow, Node.hasElse, Node.operator?, Node.costAll]
    omega
  | case pattern guard body =>
    simp [Node.cost, Node.parts, Node.breaksFlow, Node.hasElse, Node.operator?,
      Node.costAll_append]
  | conditional test body orelse =>
    simp [Node.cost, Node.parts, Node.breaksFlow, Node.hasElse, Node.operator?, Node.costAll]
    omega
  | junction op values =>
    by_cases hop : s.outer = some op <;>
      simp [Node.cost, Node.parts, Node.breaksFlow, Node.hasElse, Node.operator?, hop]
  | _ =>
    simp [Node.cost, Node.parts, Node.breaksFlow, Node.hasElse, Node.operator?, Node.costAll]

theorem sum_charge_flatMap_below (sites : List Site) :
    ((sites.flatMap below).map charge).sum = (sites.map fun s => (s.below.map charge).sum).sum := by
  induction sites with
  | nil => rfl
  | cons s sites ih => simp [ih]

/-- A node costs what all sites below it are charged. -/
theorem cost_eq_sum (s : Site) : s.cost = (s.below.map charge).sum := by
  induction s using induction with
  | h s ih =>
    have hnext : s.next.map cost = s.next.map fun t => (t.below.map charge).sum :=
      List.map_congr_left ih
    rw [cost_eq_charge_add, hnext, below_eq, List.map_cons, List.sum_cons,
      sum_charge_flatMap_below]

end Site

/-! ## Runs of equal operators -/

namespace Site

/-- The second site is an operand of the first one and a junction with the same operator, so that it
    goes on with the same run. -/
def Extends (s t : Site) : Prop :=
  t ∈ s.next ∧ s.node.operator?.isSome ∧ t.node.operator? = s.node.operator?

/-- Only junctions have operands, and these are operands of their operator. -/
theorem outer_of_mem_next {s t : Site} (h : t ∈ s.next) : t.outer = s.node.operator? := by
  obtain ⟨i, entry, n, hget, rfl⟩ := mem_next.mp h
  have hmem := List.mem_of_getElem? hget
  show entry.operator? = s.node.operator?
  cases hnode : s.node <;> rw [hnode] at hmem <;>
    simp only [Node.parts, List.mem_append, Node.mem_field, Option.some.injEq] at hmem <;>
    grind [Entry.operator?, Node.operator?]

theorem opensRun_eq_false_iff {s : Site} (h : s.node.operator?.isSome) :
    s.opensRun = false ↔ s.outer = s.node.operator? := by
  simp [opensRun, h]

/-- No other junction of a run leads to the one that opens it. -/
theorem eq_of_opensRun {s t : Site} (h : Relation.ReflTransGen Extends s t) (ht : t.opensRun) :
    s = t := by
  rcases h.cases_tail with heq | ⟨r, -, hnext, hop, hsame⟩
  · exact heq.symm
  · rw [← hsame] at hop
    have hclosed := (opensRun_eq_false_iff hop).mpr (by rw [outer_of_mem_next hnext, hsame])
    rw [hclosed] at ht
    cases ht

end Site

namespace FlowUnit

theorem Reaches.of_extends {u : FlowUnit} {s t : Site} (hs : u.Reaches s)
    (h : Relation.ReflTransGen Site.Extends s t) : u.Reaches t := by
  induction h with
  | refl => exact hs
  | tail _ hext ih => exact ih.of_mem_next hext.1

theorem existsUnique_of_opensRun {u : FlowUnit} {t : Site} (ht : u.Reaches t) (h : t.opensRun) :
    ∃! s, u.Reaches s ∧ s.opensRun ∧ Relation.ReflTransGen Site.Extends s t := by
  refine ⟨t, ⟨ht, h, .refl⟩, ?_⟩
  rintro s ⟨-, -, hst⟩
  exact Site.eq_of_opensRun hst h

/-- Every junction of a unit belongs to exactly one run, if a run is named by the junction that opens
    it. -/
theorem existsUnique_opensRun {u : FlowUnit} {t : Site} (ht : u.Reaches t)
    (hop : t.node.operator?.isSome) :
    ∃! s, u.Reaches s ∧ s.opensRun ∧ Relation.ReflTransGen Site.Extends s t := by
  induction ht with
  | @body i n hget =>
    -- a node of the body is no operand
    obtain ⟨op, hop⟩ := Option.isSome_iff_exists.mp hop
    have hopen : Site.opensRun ⟨[i], [], n⟩ := by simp [Site.opensRun, Site.outer, hop]
    exact existsUnique_of_opensRun (.body hget) hopen
  | @child s i entry n hs hget ih =>
    have hnext := Site.mem_next.mpr ⟨i, entry, n, hget, rfl⟩
    cases hopen : Site.opensRun ⟨i :: s.address, entry :: s.way, n⟩ with
    | true => exact existsUnique_of_opensRun (hs.child hget) hopen
    | false =>
      -- the run comes from the junction above
      have hsame := (Site.opensRun_eq_false_iff hop).mp hopen
      rw [Site.outer_of_mem_next hnext] at hsame
      have hext : Site.Extends s ⟨i :: s.address, entry :: s.way, n⟩ :=
        ⟨hnext, hsame ▸ hop, hsame.symm⟩
      obtain ⟨q, ⟨hq, hqopen, hqs⟩, huniq⟩ := ih hext.2.1
      refine ⟨q, ⟨hq, hqopen, hqs.tail hext⟩, ?_⟩
      rintro r ⟨hr, hropen, hrt⟩
      apply huniq
      refine ⟨hr, hropen, ?_⟩
      rcases hrt.cases_tail with heq | ⟨p, hrp, hpt⟩
      · rw [← heq, hopen] at hropen
        cases hropen
      · rwa [(hr.of_extends hrp).eq_of_mem_next hs hpt.1 hnext] at hrp

/-! ## The closed form -/

theorem complexity_eq_sum_charge (u : FlowUnit) :
    u.complexity = (u.sites.map Site.charge).sum := by
  have hroots : ∀ (ns : List Node) (k : Nat), Node.costAll 0 none ns =
      ((ns.zipIdx k).map fun x => Site.cost ⟨[x.2], [], x.1⟩).sum := by
    intro ns
    induction ns with
    | nil => intro k; rfl
    | cons n ns ih =>
      intro k
      rw [Node.costAll, ih (k + 1)]
      rfl
  rw [sites, Site.sum_charge_flatMap_below, complexity, hroots u.body 0, roots, List.map_map]
  congr 2
  funext x
  exact Site.cost_eq_sum _

theorem sum_charge_eq (sites : List Site) : (sites.map Site.charge).sum =
    ((sites.filter (·.node.breaksFlow)).map fun s => 1 + s.depth).sum
      + sites.countP (·.node.hasElse) + sites.countP (·.opensRun) := by
  induction sites with
  | nil => rfl
  | cons s sites ih =>
    rw [List.map_cons, List.sum_cons, ih, List.filter_cons, List.countP_cons, List.countP_cons,
      Site.charge]
    split_ifs <;> simp <;> omega

theorem complexity_eq_zero_iff (u : FlowUnit) : u.complexity = 0 ↔
    ∀ s, u.Reaches s → s.node.breaksFlow = false ∧ s.node.operator? = none := by
  have hzero : u.complexity = 0 ↔ ∀ s, u.Reaches s → s.charge = 0 := by
    rw [complexity_eq_sum_charge, List.sum_eq_zero_iff_forall_eq_nat, List.forall_mem_map]
    simp only [mem_sites]
  rw [hzero]
  constructor
  · intro h s hs
    refine ⟨(Site.charge_eq_zero_iff.mp (h s hs)).1, ?_⟩
    -- a junction somewhere means a junction that opens its run
    by_contra hop
    obtain ⟨q, ⟨hq, hopen, -⟩, -⟩ := existsUnique_opensRun hs (Option.isSome_iff_ne_none.mpr hop)
    rw [(Site.charge_eq_zero_iff.mp (h q hq)).2] at hopen
    cases hopen
  · intro h s hs
    obtain ⟨hflow, hop⟩ := h s hs
    exact Site.charge_eq_zero_iff.mpr ⟨hflow, by simp [Site.opensRun, hop]⟩

/-- **The complexity in closed form.** The complexity of a unit is a sum over the sites that it
    reaches, each taken once: one and the depth for every break in the flow, one for every `else` block
    and one for every junction that opens a run, of which every junction has exactly one. It is zero
    exactly if the unit reaches neither a break in the flow nor a junction. -/
theorem complexity_eq_sum (u : FlowUnit) :
    (∀ s, s ∈ u.sites ↔ u.Reaches s) ∧ (u.sites.Pairwise fun s t => s.address ≠ t.address) ∧
    (∀ t, u.Reaches t → t.node.operator?.isSome →
      ∃! s, u.Reaches s ∧ s.opensRun ∧ Relation.ReflTransGen Site.Extends s t) ∧
    u.complexity = ((u.sites.filter (·.node.breaksFlow)).map fun s => 1 + s.depth).sum
      + u.sites.countP (·.node.hasElse) + u.sites.countP (·.opensRun) ∧
    (u.complexity = 0 ↔
      ∀ s, u.Reaches s → s.node.breaksFlow = false ∧ s.node.operator? = none) := by
  refine ⟨fun s => mem_sites, u.pairwise_sites, fun t => existsUnique_opensRun, ?_,
    u.complexity_eq_zero_iff⟩
  rw [complexity_eq_sum_charge, sum_charge_eq]

end FlowUnit

end HouseStyle.Syntax
