import HouseStyle.Proofs.Complexity.ClosedForm

/-!
# What the complexity does not depend on

The complexity does not see in which order siblings stand, nor what is inside of nested functions,
lambdas and classes. Both are shown by one argument. `Node.Rewrites R` relates trees that differ in the
order of siblings and in nodes that `R` relates, at any number of places and at any depth. What the nodes
above can see of a node is what it costs, at every depth and below every operator, and whether it goes
on with an `if` as its `elif`. If `R` keeps this for single nodes, it is kept everywhere.

Main definitions:
* `Node.Rewrites`, `Node.RewritesAll`: trees and lists of siblings that agree up to order and up to `R`.
* `Node.Alike`, `Node.AlikeAll`: what the nodes above can see is the same.
* `Node.ReorderedAll`: siblings that agree up to order.
* `Node.Replaces`: nested functions, lambdas and classes replaced by others.

Main results:
* `Node.Rewrites.alike`, `Node.RewritesAll.alike`: it is enough to look at single nodes.
* `FlowUnit.complexity_eq_of_reordered`: the order of siblings does not matter.
* `FlowUnit.complexity_eq_of_replaced`: what is inside of nested units does not matter.
-/

namespace HouseStyle.Syntax

namespace Node

/-! ## Rewriting at any depth -/

mutual

/-- The second tree arises from the first one if, any number of times and at any depth, siblings are put
    in another order and nodes are rewritten as `R` says. -/
inductive Rewrites (R : Node → Node → Prop) : Node → Node → Prop
  | step {n m : Node} (h : R n m) : Rewrites R n m
  | refl (n : Node) : Rewrites R n n
  | trans {n m k : Node} (h : Rewrites R n m) (h' : Rewrites R m k) : Rewrites R n k
  | function {isAsync : Bool} {name : Text} {pos : Position} {args args' : Node}
      {body body' decorators decorators' returns returns' : List Node}
      (hargs : Rewrites R args args') (hbody : RewritesAll R body body')
      (hdecorators : RewritesAll R decorators decorators') (hreturns : RewritesAll R returns returns') :
      Rewrites R (.function isAsync name pos args body decorators returns)
        (.function isAsync name pos args' body' decorators' returns')
  | lambda {pos : Position} {args args' body body' : Node} (hargs : Rewrites R args args')
      (hbody : Rewrites R body body') : Rewrites R (.lambda pos args body) (.lambda pos args' body')
  | classDef {name : Text} {pos : Position}
      {bases bases' keywords keywords' body body' decorators decorators' : List Node}
      (hbases : RewritesAll R bases bases') (hkeywords : RewritesAll R keywords keywords')
      (hbody : RewritesAll R body body') (hdecorators : RewritesAll R decorators decorators') :
      Rewrites R (.classDef name pos bases keywords body decorators)
        (.classDef name pos bases' keywords' body' decorators')
  | branch {pos : Position} {test test' : Node} {body body' orelse orelse' : List Node}
      (htest : Rewrites R test test') (hbody : RewritesAll R body body')
      (horelse : RewritesAll R orelse orelse') :
      Rewrites R (.branch pos test body orelse) (.branch pos test' body' orelse')
  | loop {kind : LoopKind} {header header' body body' orelse orelse' : List Node}
      (hheader : RewritesAll R header header') (hbody : RewritesAll R body body')
      (horelse : RewritesAll R orelse orelse') :
      Rewrites R (.loop kind header body orelse) (.loop kind header' body' orelse')
  | handler {type type' body body' : List Node} (htype : RewritesAll R type type')
      (hbody : RewritesAll R body body') : Rewrites R (.handler type body) (.handler type' body')
  | matching {subject subject' : Node} {cases cases' : List Node}
      (hsubject : Rewrites R subject subject') (hcases : RewritesAll R cases cases') :
      Rewrites R (.matching subject cases) (.matching subject' cases')
  | case {pattern pattern' : Node} {condition condition' body body' : List Node}
      (hpattern : Rewrites R pattern pattern') (hcondition : RewritesAll R condition condition')
      (hbody : RewritesAll R body body') :
      Rewrites R (.case pattern condition body) (.case pattern' condition' body')
  | conditional {test test' body body' orelse orelse' : Node} (htest : Rewrites R test test')
      (hbody : Rewrites R body body') (horelse : Rewrites R orelse orelse') :
      Rewrites R (.conditional test body orelse) (.conditional test' body' orelse')
  | junction {op : BoolOp} {values values' : List Node} (hvalues : RewritesAll R values values') :
      Rewrites R (.junction op values) (.junction op values')
  | member {attr : Text} {value value' : Node} (hvalue : Rewrites R value value') :
      Rewrites R (.attribute value attr) (.attribute value' attr)
  | subscript {value value' index index' : Node} (hvalue : Rewrites R value value')
      (hindex : Rewrites R index index') : Rewrites R (.subscript value index) (.subscript value' index')
  | plain {kind : Kind} {children children' : List Node} (h : RewritesAll R children children') :
      Rewrites R (.plain kind children) (.plain kind children')

/-- The same for a list of siblings, which may be put in another order themselves. -/
inductive RewritesAll (R : Node → Node → Prop) : List Node → List Node → Prop
  | nil : RewritesAll R [] []
  | cons {n m : Node} {ns ms : List Node} (h : Rewrites R n m) (hs : RewritesAll R ns ms) :
      RewritesAll R (n :: ns) (m :: ms)
  | perm {ns ms : List Node} (h : ns.Perm ms) : RewritesAll R ns ms
  | trans {ns ms ks : List Node} (h : RewritesAll R ns ms) (h' : RewritesAll R ms ks) :
      RewritesAll R ns ks

end

/-! ## What the nodes above can see -/

/-- The nodes above cannot tell one node from the other. -/
structure Alike (n m : Node) : Prop where
  cost : ∀ depth outer, n.cost depth outer = m.cost depth outer
  continues : ∀ col, n.continues col = m.continues col

/-- The nodes above cannot tell one list of siblings from the other. -/
structure AlikeAll (ns ms : List Node) : Prop where
  cost : ∀ depth outer, costAll depth outer ns = costAll depth outer ms
  length : ns.length = ms.length
  isElif : ∀ col, isElif col ns = isElif col ms

theorem Alike.refl (n : Node) : Alike n n := ⟨fun _ _ => rfl, fun _ => rfl⟩

theorem Alike.trans {n m k : Node} (h : Alike n m) (h' : Alike m k) : Alike n k where
  cost depth outer := (h.cost depth outer).trans (h'.cost depth outer)
  continues col := (h.continues col).trans (h'.continues col)

theorem AlikeAll.cons {n m : Node} {ns ms : List Node} (h : Alike n m) (hs : AlikeAll ns ms) :
    AlikeAll (n :: ns) (m :: ms) where
  cost depth outer := by rw [costAll, costAll, h.cost, hs.cost]
  length := by rw [List.length_cons, List.length_cons, hs.length]
  isElif col := by
    cases ns with
    | nil =>
      rw [List.length_eq_zero_iff.mp hs.length.symm]
      exact h.continues col
    | cons _ _ =>
      obtain ⟨_, _, rfl⟩ := List.exists_cons_of_length_eq_add_one hs.length.symm
      rfl

theorem AlikeAll.trans {ns ms ks : List Node} (h : AlikeAll ns ms) (h' : AlikeAll ms ks) :
    AlikeAll ns ks where
  cost depth outer := (h.cost depth outer).trans (h'.cost depth outer)
  length := h.length.trans h'.length
  isElif col := (h.isElif col).trans (h'.isElif col)

theorem AlikeAll.of_perm {ns ms : List Node} (h : ns.Perm ms) : AlikeAll ns ms := by
  induction h with
  | nil => exact ⟨fun _ _ => rfl, rfl, fun _ => rfl⟩
  | cons n _ ih => exact .cons (.refl n) ih
  | swap n m ns =>
    refine ⟨fun depth outer => ?_, rfl, fun _ => rfl⟩
    simp only [costAll]
    omega
  | trans _ _ ih ih' => exact ih.trans ih'

theorem AlikeAll.isEmpty_eq {ns ms : List Node} (h : AlikeAll ns ms) : ns.isEmpty = ms.isEmpty := by
  rw [Bool.eq_iff_iff, List.isEmpty_iff_length_eq_zero, List.isEmpty_iff_length_eq_zero, h.length]

/-- The `else` part of an `if` is seen by its length, its cost and whether it is an `elif`. -/
theorem AlikeAll.elseCost_eq {ns ms : List Node} (h : AlikeAll ns ms) (depth col : Nat) :
    elseCost depth col ns = elseCost depth col ms := by
  rw [Node.elseCost_eq, Node.elseCost_eq, h.isEmpty_eq, h.isElif, h.cost]

/-! ## It is enough to look at single nodes -/

variable {R : Node → Node → Prop}

mutual

theorem Rewrites.alike (hR : ∀ n m, R n m → Alike n m) :
    ∀ {n m : Node}, Rewrites R n m → Alike n m
  | _, _, .step h => hR _ _ h
  | _, _, .refl n => .refl n
  | _, _, .trans h h' => (h.alike hR).trans (h'.alike hR)
  -- what is inside of a unit or a class is not seen from above
  | _, _, .function .. => ⟨fun _ _ => rfl, fun _ => rfl⟩
  | _, _, .lambda .. => ⟨fun _ _ => rfl, fun _ => rfl⟩
  | _, _, .classDef .. => ⟨fun _ _ => rfl, fun _ => rfl⟩
  | _, _, .branch htest hbody horelse => by
    refine ⟨fun depth outer => ?_, fun _ => rfl⟩
    rw [cost, cost, (htest.alike hR).cost, (hbody.alike hR).cost, (horelse.alike hR).elseCost_eq]
  | _, _, .loop hheader hbody horelse => by
    refine ⟨fun depth outer => ?_, fun _ => rfl⟩
    rw [cost, cost, (hheader.alike hR).cost, (hbody.alike hR).cost, (horelse.alike hR).isEmpty_eq,
      (horelse.alike hR).cost]
  | _, _, .handler htype hbody => by
    refine ⟨fun depth outer => ?_, fun _ => rfl⟩
    rw [cost, cost, (htype.alike hR).cost, (hbody.alike hR).cost]
  | _, _, .matching hsubject hcases => by
    refine ⟨fun depth outer => ?_, fun _ => rfl⟩
    rw [cost, cost, (hsubject.alike hR).cost, (hcases.alike hR).cost]
  | _, _, .case _ hcondition hbody => by
    refine ⟨fun depth outer => ?_, fun _ => rfl⟩
    rw [cost, cost, (hcondition.alike hR).cost, (hbody.alike hR).cost]
  | _, _, .conditional htest hbody horelse => by
    refine ⟨fun depth outer => ?_, fun _ => rfl⟩
    rw [cost, cost, (htest.alike hR).cost, (hbody.alike hR).cost, (horelse.alike hR).cost]
  | _, _, .junction hvalues => by
    refine ⟨fun depth outer => ?_, fun _ => rfl⟩
    rw [cost, cost, (hvalues.alike hR).cost]
  | _, _, .member hvalue => by
    refine ⟨fun depth outer => ?_, fun _ => rfl⟩
    rw [cost, cost, (hvalue.alike hR).cost]
  | _, _, .subscript hvalue hindex => by
    refine ⟨fun depth outer => ?_, fun _ => rfl⟩
    rw [cost, cost, (hvalue.alike hR).cost, (hindex.alike hR).cost]
  | _, _, .plain h => by
    refine ⟨fun depth outer => ?_, fun _ => rfl⟩
    rw [cost, cost, (h.alike hR).cost]

theorem RewritesAll.alike (hR : ∀ n m, R n m → Alike n m) :
    ∀ {ns ms : List Node}, RewritesAll R ns ms → AlikeAll ns ms
  | _, _, .nil => ⟨fun _ _ => rfl, rfl, fun _ => rfl⟩
  | _, _, .cons h hs => .cons (h.alike hR) (hs.alike hR)
  | _, _, .perm h => .of_perm h
  | _, _, .trans h h' => (h.alike hR).trans (h'.alike hR)

end

end Node

/-- Units whose bodies agree up to `R` have the same complexity, if the nodes above cannot tell nodes
    that `R` relates from each other. -/
theorem FlowUnit.complexity_eq_of_rewrites {R : Node → Node → Prop}
    (hR : ∀ n m, R n m → Node.Alike n m) {u v : FlowUnit} (h : Node.RewritesAll R u.body v.body) :
    u.complexity = v.complexity := (h.alike hR).cost 0 none

/-! ## The order of siblings -/

/-- The siblings, and those below them at any depth, are the same in another order. -/
def Node.ReorderedAll : List Node → List Node → Prop := RewritesAll fun _ _ => False

/-- **The order of siblings does not matter.** If the statements of any blocks of a unit, its `except`
    clauses, the cases of a `match` and the operands of junctions are put in another order, with their
    places kept, the complexity stays the same. -/
theorem FlowUnit.complexity_eq_of_reordered {u v : FlowUnit}
    (h : Node.ReorderedAll u.body v.body) : u.complexity = v.complexity :=
  complexity_eq_of_rewrites (fun _ _ => False.elim) h

/-- The statements of a body, of a block of an `if` that has an `elif`, the clauses of a `try` and the
    operands of a junction in another order. -/
theorem FlowUnit.complexity_eq_of_reordered_nested :
    let a : Node := .name ['a']
    let b : Node := .name ['b']
    let clause (n : Node) : Node := .handler [n] [.plain .pass []]
    let first : List Node :=
      [.branch ⟨2, 4⟩ (.junction .or [a, .conditional a b b]) [.plain .try [a, clause a, clause b], b]
        [.branch ⟨9, 4⟩ b [a] []], .plain .return [a]]
    let second : List Node :=
      [.plain .return [a], .branch ⟨2, 4⟩ (.junction .or [.conditional a b b, a])
        [b, .plain .try [a, clause b, clause a]] [.branch ⟨9, 4⟩ b [a] []]]
    Node.ReorderedAll first second ∧
      FlowUnit.complexity ⟨none, ⟨1, 0⟩, first⟩ = FlowUnit.complexity ⟨none, ⟨1, 0⟩, second⟩ ∧
      FlowUnit.complexity ⟨none, ⟨1, 0⟩, first⟩ = 8 := by
  intro a b clause first second
  have hclauses : Node.ReorderedAll [a, clause a, clause b] [a, clause b, clause a] :=
    .cons (.refl a) (.perm (.swap ..))
  have hbody : Node.ReorderedAll [.plain .try [a, clause a, clause b], b]
      [b, .plain .try [a, clause b, clause a]] :=
    .trans (.perm (.swap ..)) (.cons (.refl b) (.cons (.plain hclauses) .nil))
  have hfirst : Node.ReorderedAll first second := by
    refine .trans (.perm (.swap ..)) (.cons (.refl _) (.cons ?_ .nil))
    exact .branch (.junction (.perm (.swap ..))) hbody (.cons (.refl _) .nil)
  exact ⟨hfirst, complexity_eq_of_reordered hfirst, by decide⟩

/-! ## Nested functions, lambdas and classes -/

namespace Node

/-- A function or a class. -/
def isDefinition : Node → Bool
  | .function .. | .classDef .. => true
  | _ => false

/-- A nested function or class is replaced by any other one or by `pass`, and a lambda by any other one
    or by a name. -/
inductive Replaces : Node → Node → Prop
  | definition {n m : Node} (hn : n.isDefinition) (hm : m.isDefinition) : Replaces n m
  | pass {n : Node} (hn : n.isDefinition) : Replaces n (.plain .pass [])
  | lambda (pos pos' : Position) (args args' body body' : Node) :
      Replaces (.lambda pos args body) (.lambda pos' args' body')
  | name (pos : Position) (args body : Node) (id : Text) : Replaces (.lambda pos args body) (.name id)

theorem cost_of_isDefinition {n : Node} (h : n.isDefinition) (depth : Nat) (outer : Option BoolOp) :
    n.cost depth outer = 0 := by
  cases n <;> first | rfl | cases h

theorem continues_of_isDefinition {n : Node} (h : n.isDefinition) (col : Nat) :
    n.continues col = false := by
  cases n <;> first | rfl | cases h

theorem Replaces.alike {n m : Node} (h : Replaces n m) : Alike n m := by
  cases h with
  | definition hn hm =>
    refine ⟨fun depth outer => ?_, fun col => ?_⟩
    · rw [cost_of_isDefinition hn, cost_of_isDefinition hm]
    · rw [continues_of_isDefinition hn, continues_of_isDefinition hm]
  | pass hn => exact ⟨cost_of_isDefinition hn, continues_of_isDefinition hn⟩
  | lambda => exact ⟨fun _ _ => rfl, fun _ => rfl⟩
  | name => exact ⟨fun _ _ => rfl, fun _ => rfl⟩

end Node

/-- **Nested units are opaque.** If the bodies of two units agree up to nested functions, classes and
    lambdas, which are replaced by arbitrary other ones or by `pass` and names at any number of places
    and at any depth, their complexity is the same. -/
theorem FlowUnit.complexity_eq_of_replaced {u v : FlowUnit}
    (h : Node.RewritesAll Node.Replaces u.body v.body) : u.complexity = v.complexity :=
  complexity_eq_of_rewrites (fun _ _ => Node.Replaces.alike) h

/-- A lambda in the test of an `if`, a function in its body and a class as the only statement of its
    `else` block are replaced. -/
theorem FlowUnit.complexity_eq_of_replaced_everywhere :
    let a : Node := .name ['a']
    let args : Node := .plain .arguments []
    let inner : Node := .branch ⟨4, 12⟩ a [a] [a]
    let first : List Node :=
      [.branch ⟨2, 4⟩ (.junction .and [.lambda ⟨2, 8⟩ args (.conditional a a a), a])
        [.function false ['f'] ⟨3, 8⟩ args [inner] [a] []]
        [.classDef ['C'] ⟨8, 8⟩ [] [] [inner] []]]
    let second : List Node :=
      [.branch ⟨2, 4⟩ (.junction .and [a, a]) [.plain .pass []]
        [.function true ['g'] ⟨2, 4⟩ args [] [] [a]]]
    Node.RewritesAll Node.Replaces first second ∧
      FlowUnit.complexity ⟨none, ⟨1, 0⟩, first⟩ = FlowUnit.complexity ⟨none, ⟨1, 0⟩, second⟩ ∧
      FlowUnit.complexity ⟨none, ⟨1, 0⟩, first⟩ = 3 := by
  intro a args inner first second
  have hfirst : Node.RewritesAll Node.Replaces first second := by
    refine .cons (.branch (.junction (.cons (.step (.name ..)) (.cons (.refl a) .nil))) ?_ ?_) .nil
    · exact .cons (.step (.pass rfl)) .nil
    · exact .cons (.step (.definition rfl rfl)) .nil
  exact ⟨hfirst, complexity_eq_of_replaced hfirst, by decide⟩

end HouseStyle.Syntax
