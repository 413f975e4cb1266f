import HouseStyle.Syntax.Node

/-!
# Cognitive complexity

The complexity of a function or lambda counts the breaks in the linear flow of its body: one for every
`if`, `elif`, loop, `except`, `match` and conditional expression and one more for each structure that it
is nested in, one for every `else`, and one for every run of equal Boolean operators. Nested functions,
lambdas and classes are units of their own and add nothing.

Main definitions:
* `Node.cost`: what a node adds at a depth of nesting.
* `FlowUnit`, `FlowUnit.ofNode?`, `Node.units`: functions and lambdas with their places, breadth first.
* `FlowUnit.complexity`: the complexity of a unit.
-/

namespace HouseStyle.Syntax

namespace Node

/-- The node is an `if` in the given column: as the only statement of an `else` part it continues
    the `if` of that column. -/
def continues (col : Nat) : Node → Bool
  | .branch pos .. => pos.col = col
  | _ => false

mutual

/-- What a node adds at the given depth of nesting. `outer` is the Boolean operator of which the
    node is a direct operand: an equal operator goes on with the same run. -/
def cost (depth : Nat) (outer : Option BoolOp) : Node → Nat
  | .function .. => 0
  | .lambda .. => 0
  | .classDef .. => 0
  | .branch pos test body orelse =>
    1 + depth + cost depth none test + costAll (depth + 1) none body
      + elseCost depth pos.col orelse
  | .loop _ header body orelse =>
    1 + depth + costAll depth none header + costAll (depth + 1) none body
      + if orelse.isEmpty then 0 else 1 + costAll (depth + 1) none orelse
  | .handler type body => 1 + depth + costAll depth none type + costAll (depth + 1) none body
  | .matching subject cases => 1 + depth + cost depth none subject + costAll (depth + 1) none cases
  | .case _ condition body => costAll depth none condition + costAll depth none body
  | .conditional test body orelse =>
    1 + depth + cost (depth + 1) none test + cost (depth + 1) none body
      + cost (depth + 1) none orelse
  | .junction op values => (if outer = some op then 0 else 1) + costAll depth (some op) values
  | .name _ => 0
  | .attribute value _ => cost depth none value
  | .subscript value index => cost depth none value + cost depth none index
  | .plain _ children => costAll depth none children

/-- What several nodes add. -/
def costAll (depth : Nat) (outer : Option BoolOp) : List Node → Nat
  | [] => 0
  | n :: ns => cost depth outer n + costAll depth outer ns

/-- What the `else` part of an `if` in the given column adds. -/
def elseCost (depth col : Nat) : List Node → Nat
  | [] => 0
  | n :: ns =>
    if ns.isEmpty && n.continues col then cost depth none n
    else 1 + cost (depth + 1) none n + costAll (depth + 1) none ns

end

end Node

/-- A function or lambda: its name if it has one, its place and its body. -/
structure FlowUnit where
  name : Option Text
  pos : Position
  body : List Node

namespace FlowUnit

/-- The unit that a node is. -/
def ofNode? : Node → Option FlowUnit
  | .function _ name pos _ body _ _ => some ⟨some name, pos, body⟩
  | .lambda pos _ body => some ⟨none, pos, [body]⟩
  | _ => none

/-- The name of a unit in messages. -/
def title (u : FlowUnit) : Text :=
  match u.name with
  | some n => n ++ "()"
  | none => "lambda"

/-- The cognitive complexity of a unit. -/
def complexity (u : FlowUnit) : Nat := Node.costAll 0 none u.body

/-- Units are reported in order of their place. -/
def le (a b : FlowUnit) : Bool :=
  a.pos.line < b.pos.line || (a.pos.line = b.pos.line && a.pos.col ≤ b.pos.col)

end FlowUnit

/-- The units of a tree, breadth first. -/
def Node.units (tree : Node) : List FlowUnit := tree.walk.filterMap FlowUnit.ofNode?

/-- A node that is asked for the name of a unit and is none. -/
structure NotAUnit where
  kind : Text
deriving Repr, DecidableEq

/-- The wording of the complaint. -/
def NotAUnit.message (e : NotAUnit) : Text := "Unsupported function-like node: " ++ e.kind

/-- The name of the unit that a node is. -/
def Node.unitTitle (n : Node) : Except NotAUnit Text :=
  match FlowUnit.ofNode? n with
  | some u => .ok u.title
  | none => .error ⟨n.title⟩

end HouseStyle.Syntax
