import HouseStyle.Proofs.Complexity.Invariance

/-!
# Runs of Boolean operators

An operand of a junction can be a junction again, with the same operator or with the other one. A tree of
junctions costs one for every junction at which the operator changes, the first one included, and what
its operands cost that are no junctions. So parentheses around operands of the same operator do not
matter.

Main definitions:
* `Joint`, `Node.joints`: the junctions of a tree of junctions, each with the operator above it.
* `Node.operands`: the operands of a tree of junctions that are no junctions.
* `Node.Regroups`: parentheses around operands of the same operator are set or left out.

Main results:
* `Node.cost_eq_joints_add`: the cost of a tree of junctions.
* `FlowUnit.complexity_eq_of_regrouped`: the cost in closed form, and grouping and order do not matter.
-/

namespace HouseStyle.Syntax

/-- A junction that is reached through operands only: the operator of the junction of which it is an
    operand, if there is one, and its own operator. -/
structure Joint where
  above : Option BoolOp
  op : BoolOp
deriving Repr, DecidableEq

/-- The junction is the first one, or has another operator than the junction above it. -/
def Joint.opensRun (j : Joint) : Bool := j.above ≠ some j.op

namespace Node

mutual

/-- The junctions that are reached from a node through operands only. -/
def joints (above : Option BoolOp) : Node → List Joint
  | .junction op values => ⟨above, op⟩ :: jointsAll (some op) values
  | _ => []

/-- The junctions that are reached from several nodes through operands only. -/
def jointsAll (above : Option BoolOp) : List Node → List Joint
  | [] => []
  | n :: ns => joints above n ++ jointsAll above ns

end

mutual

/-- The nodes that are reached from a node through operands only and are no junctions. -/
def operands : Node → List Node
  | .junction _ values => operandsAll values
  | n => [n]

/-- The nodes that are reached from several nodes through operands only and are no junctions. -/
def operandsAll : List Node → List Node
  | [] => []
  | n :: ns => operands n ++ operandsAll ns

end

/-! ## The cost of a tree of junctions -/

/-- What the operands cost at a depth of nesting. -/
def operandCost (depth : Nat) (ns : List Node) : Nat := (ns.map (cost depth none)).sum

theorem operandCost_append (depth : Nat) (ns ms : List Node) :
    operandCost depth (ns ++ ms) = operandCost depth ns + operandCost depth ms := by
  rw [operandCost, List.map_append, List.sum_append]
  rfl

/-- Only junctions see the operator around them. -/
theorem cost_of_operator?_eq_none {n : Node} (h : n.operator? = none) (depth : Nat)
    (outer : Option BoolOp) :
    n.cost depth outer = (n.joints outer).countP Joint.opensRun + operandCost depth n.operands := by
  cases n with
  | junction => cases h
  | _ => simp [cost, joints, operands, operandCost]

mutual

/-- A node costs one for every junction that opens a run, and what its operands cost. -/
theorem cost_eq_joints_add (depth : Nat) (outer : Option BoolOp) : ∀ n : Node,
    n.cost depth outer = (n.joints outer).countP Joint.opensRun + operandCost depth n.operands
  | .junction op values => by
    have hvalues := costAll_eq_joints_add depth (some op) values
    by_cases hsame : outer = some op
    · simp [cost, joints, operands, Joint.opensRun, hsame, hvalues]
    · simp [cost, joints, operands, Joint.opensRun, hsame, hvalues]
      omega
  | .function .. | .lambda .. | .classDef .. | .branch .. | .loop .. | .handler .. | .matching ..
  | .case .. | .conditional .. | .name .. | .attribute .. | .subscript .. | .plain .. =>
    cost_of_operator?_eq_none rfl depth outer

theorem costAll_eq_joints_add (depth : Nat) (outer : Option BoolOp) : ∀ ns : List Node,
    costAll depth outer ns =
      (jointsAll outer ns).countP Joint.opensRun + operandCost depth (operandsAll ns)
  | [] => rfl
  | n :: ns => by
    rw [costAll, jointsAll, operandsAll, cost_eq_joints_add depth outer n,
      costAll_eq_joints_add depth outer ns, List.countP_append, operandCost_append]
    omega

end

/-! ## Grouping -/

/-- An operand that is a junction with the same operator is replaced by its operands, or operands that
    stand side by side become such an operand. -/
inductive Regroups : Node → Node → Prop
  | flatten (op : BoolOp) (front inner back : List Node) :
      Regroups (.junction op (front ++ .junction op inner :: back)) (.junction op (front ++ inner ++ back))
  | group (op : BoolOp) (front inner back : List Node) :
      Regroups (.junction op (front ++ inner ++ back)) (.junction op (front ++ .junction op inner :: back))

theorem cost_flatten (op : BoolOp) (front inner back : List Node) (depth : Nat)
    (outer : Option BoolOp) :
    (junction op (front ++ junction op inner :: back)).cost depth outer =
      (junction op (front ++ inner ++ back)).cost depth outer := by
  simp [cost, costAll, costAll_append]

theorem Regroups.alike {n m : Node} (h : Regroups n m) : Alike n m := by
  cases h with
  | flatten op front inner back => exact ⟨cost_flatten op front inner back, fun _ => rfl⟩
  | group op front inner back =>
    exact ⟨fun depth outer => (cost_flatten op front inner back depth outer).symm, fun _ => rfl⟩

end Node

open Node in
/-- **Runs of Boolean operators.** A junction, which is no operand of one with the same operator, costs one
    for every junction that is reached through operands only and opens a run, and what the operands cost
    that are no junctions, at the same depth. Grouping operands of the same operator in another way, and
    putting operands in another order, anywhere in a unit, keeps its complexity. -/
theorem FlowUnit.complexity_eq_of_regrouped :
    (∀ (op : BoolOp) (values : List Node) (depth : Nat) (outer : Option BoolOp), outer ≠ some op →
      (junction op values).cost depth outer =
        ((junction op values).joints none).countP Joint.opensRun
          + ((junction op values).operands.map (cost depth none)).sum) ∧
    ∀ u v : FlowUnit, RewritesAll Regroups u.body v.body → u.complexity = v.complexity := by
  refine ⟨fun op values depth outer houter => ?_, fun u v h =>
    complexity_eq_of_rewrites (fun _ _ => Regroups.alike) h⟩
  have hopens : ∀ above, above ≠ some op →
      ((junction op values).joints above).countP Joint.opensRun =
        (jointsAll (some op) values).countP Joint.opensRun + 1 := by
    intro above habove
    simp [joints, Joint.opensRun, habove]
  rw [cost_eq_joints_add, hopens outer houter, hopens none (by simp)]
  rfl

open Node in
/-- `a and (b and (c or d)) or e`, and the same without the outer parentheses and with `e` in front. -/
theorem FlowUnit.complexity_eq_of_regrouped_mixed :
    let id (c : Char) : Node := .name [c]
    let choice : Node := .junction .or [id 'c', id 'd']
    let first : Node := .junction .or
      [.junction .and [id 'a', .junction .and [id 'b', choice]], .conditional (id 'e') (id 'a') (id 'b')]
    let second : Node := .junction .or
      [.conditional (id 'e') (id 'a') (id 'b'), .junction .and [id 'a', id 'b', choice]]
    first.cost 2 none = (first.joints none).countP Joint.opensRun
        + (first.operands.map (cost 2 none)).sum ∧
      (first.joints none).countP Joint.opensRun = 3 ∧ (first.operands.map (cost 2 none)).sum = 3 ∧
      RewritesAll Regroups [first] [second] ∧
      FlowUnit.complexity ⟨none, ⟨1, 0⟩, [first]⟩ = FlowUnit.complexity ⟨none, ⟨1, 0⟩, [second]⟩ := by
  intro id choice first second
  have hinner : Rewrites Regroups (.junction .and [id 'a', .junction .and [id 'b', choice]])
      (.junction .and [id 'a', id 'b', choice]) := .step (.flatten .and [id 'a'] [id 'b', choice] [])
  have hfirst : RewritesAll Regroups [first] [second] := by
    refine .cons (.junction (.trans (.perm (.swap ..)) ?_)) .nil
    exact .cons (.refl _) (.cons hinner .nil)
  have hcost := complexity_eq_of_regrouped.1 .or
    [.junction .and [id 'a', .junction .and [id 'b', choice]], .conditional (id 'e') (id 'a') (id 'b')]
    2 none (by simp)
  exact ⟨hcost, by decide, by decide, hfirst, complexity_eq_of_regrouped.2 _ _ hfirst⟩

end HouseStyle.Syntax
