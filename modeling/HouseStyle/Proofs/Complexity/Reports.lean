import HouseStyle.Proofs.Complexity.Disjoint
import HouseStyle.Proofs.Sorting
import HouseStyle.Proofs.Syntax.Lexing
import HouseStyle.Proofs.Syntax.WalkOrder
import HouseStyle.Proofs.Text.Numerals
import HouseStyle.Rule
import Mathlib.Data.List.DropRight

/-!
# The units over the maximum

The rule for cognitive complexity walks the tree, sorts the units that it finds by their places, and
reports those over the maximum. Units are told apart by their addresses, so a report can be said to be
about one unit: there is one for every unit over the maximum, wherever it stands in the tree, and no
other. Raising the maximum, which is a natural number in every configuration, drops reports and does not
touch the others, but for the maximum that their messages end with.

Main definitions:
* `Node.IsUnit`: the units, that is, functions and lambdas.
* `ReportedBefore`: the order of reports, by place and then as the walk has it.
* `Violation.Reports`: what a report says about a unit.
* `Violation.withoutNumeral`: a report whose message is cut before the numeral at its end.

Main results:
* `Node.mem_unitsOver`, `Node.pairwise_unitsOver`: the units over a maximum, each once and in order.
* `Rule.checkComplexity_exact`: what the rule reports.
-/

namespace HouseStyle

namespace Syntax

/-! ## Units in order of their places -/

/-- The node is a function or a lambda, and the unit has its name, its place and its body. -/
inductive Node.IsUnit : Node → FlowUnit → Prop
  | function (isAsync : Bool) (name : Text) (pos : Position) (args : Node)
      (body decorators returns : List Node) :
      IsUnit (.function isAsync name pos args body decorators returns) ⟨some name, pos, body⟩
  | lambda (pos : Position) (args body : Node) : IsUnit (.lambda pos args body) ⟨none, pos, [body]⟩

theorem FlowUnit.ofNode?_eq_some_iff {n : Node} {u : FlowUnit} : ofNode? n = some u ↔ n.IsUnit u := by
  constructor
  · intro h
    cases n with
    | function => cases h; constructor
    | lambda => cases h; constructor
    | _ => cases h
  · rintro (_ | _) <;> rfl

theorem FlowUnit.le_iff {u v : FlowUnit} : u.le v = true ↔ u.pos.Before v.pos ∨ u.pos = v.pos := by
  obtain ⟨_, ⟨line, col⟩, _⟩ := u
  obtain ⟨_, ⟨line', col'⟩, _⟩ := v
  simp only [le, Position.Before, Bool.or_eq_true, Bool.and_eq_true, decide_eq_true_eq,
    Position.mk.injEq]
  omega

theorem FlowUnit.le_total (u v : FlowUnit) : u.le v = true ∨ v.le u = true := by
  simp only [le, Bool.or_eq_true, Bool.and_eq_true, decide_eq_true_eq]
  omega

theorem FlowUnit.le_trans (u v w : FlowUnit) (huv : u.le v = true) (hvw : v.le w = true) :
    u.le w = true := by
  simp only [le, Bool.or_eq_true, Bool.and_eq_true, decide_eq_true_eq] at *
  omega

/-- The unit of `p` is reported before the one of `q`: it stands before it, or at the same place and the
    walk comes to it first. -/
def ReportedBefore (p q : List Nat × FlowUnit) : Prop :=
  p.2.pos.Before q.2.pos ∨ (p.2.pos = q.2.pos ∧ WalksBefore p.1 q.1)

namespace Node

theorem pairwise_walksBefore_unitsAt (tree : Node) :
    tree.unitsAt.Pairwise fun p q => WalksBefore p.1 q.1 := by
  rw [unitsAt, List.pairwise_filterMap]
  refine tree.pairwise_occurrences.imp ?_
  intro o o' hbefore p hp q hq
  obtain ⟨_, -, rfl⟩ := Option.map_eq_some_iff.mp hp
  obtain ⟨_, -, rfl⟩ := Option.map_eq_some_iff.mp hq
  exact hbefore

/-- The units of a tree with their addresses, sorted by their places. -/
def sortedUnitsAt (tree : Node) : List (List Nat × FlowUnit) :=
  stableSort (fun p q => p.2.le q.2) tree.unitsAt

theorem map_snd_sortedUnitsAt (tree : Node) :
    tree.sortedUnitsAt.map Prod.snd = stableSort FlowUnit.le tree.units := by
  rw [← tree.map_snd_unitsAt, stableSort_map]
  rfl

theorem pairwise_sortedUnitsAt (tree : Node) : tree.sortedUnitsAt.Pairwise ReportedBefore := by
  have hstable := stableSort_pairwise_stable (fun p q => p.2.le q.2)
    (fun p q => FlowUnit.le_total p.2 q.2) (fun p q r => FlowUnit.le_trans p.2 q.2 r.2)
    tree.pairwise_walksBefore_unitsAt
  refine hstable.imp fun {p q} h => ?_
  rcases FlowUnit.le_iff.mp h.1 with hbefore | hsame
  · exact .inl hbefore
  · exact .inr ⟨hsame, h.2 (FlowUnit.le_iff.mpr (.inr hsame.symm))⟩

/-- The units over a maximum, with their addresses, in the order of their reports. -/
def unitsOver (tree : Node) (maximum : Nat) : List (List Nat × FlowUnit) :=
  tree.sortedUnitsAt.filter (maximum < ·.2.complexity)

theorem mem_unitsOver {tree : Node} {maximum : Nat} {a : List Nat} {u : FlowUnit} :
    (a, u) ∈ tree.unitsOver maximum ↔
      (∃ n, tree.at? a = some n ∧ n.IsUnit u) ∧ maximum < u.complexity := by
  rw [unitsOver, List.mem_filter, sortedUnitsAt, mem_stableSort, mem_unitsAt, decide_eq_true_eq, HasUnit]
  simp only [FlowUnit.ofNode?_eq_some_iff]

theorem pairwise_unitsOver (tree : Node) (maximum : Nat) :
    (tree.unitsOver maximum).Pairwise ReportedBefore :=
  tree.pairwise_sortedUnitsAt.filter _

/-- A greater maximum is over fewer units. -/
theorem unitsOver_sublist (tree : Node) {maximum greater : Nat} (h : maximum ≤ greater) :
    (tree.unitsOver greater).Sublist (tree.unitsOver maximum) := by
  apply List.monotone_filter_right
  intro p hp
  rw [decide_eq_true_eq] at hp ⊢
  exact lt_of_le_of_lt h hp

end Node

end Syntax

open Syntax

/-! ## Reports -/

namespace Violation

/-- The violation is about the unit: it has its name, its complexity and its place. -/
structure Reports (path : Path) (maximum : Nat) (u : FlowUnit) (v : Violation) : Prop where
  ruleId : v.ruleId = RuleId.complexity
  message : v.message = "Cognitive complexity for \"" ++ u.name.elim "lambda".toList (· ++ "()")
    ++ "\" is " ++ Text.decimal u.complexity ++ ", keep it under " ++ Text.decimal maximum
  location : v.location = some
    { path := some path, startLine := some u.pos.line, startCol := some (u.pos.col + 1) }

/-- The violation whose message is cut before the numeral at its end. -/
def withoutNumeral (v : Violation) : Violation :=
  { v with message := v.message.rdropWhile Text.isAsciiDigit }

end Violation

namespace Rule

/-- But for the numeral at the end of its message, a report does not depend on the maximum. -/
theorem withoutNumeral_complexityViolation (maximum other : Nat) (path : Path) (u : FlowUnit) :
    (complexityViolation maximum path u).withoutNumeral =
      (complexityViolation other path u).withoutNumeral := by
  have hcut : ∀ (t : Text) (n : Nat), (t ++ Text.decimal n).rdropWhile Text.isAsciiDigit =
      t.rdropWhile Text.isAsciiDigit := by
    intro t n
    rw [List.rdropWhile, List.reverse_append, List.dropWhile_append_of_pos]
    · rfl
    · intro c hc
      exact Text.isAsciiDigit_of_mem_decimal (List.mem_reverse.mp hc)
  unfold complexityViolation Violation.withoutNumeral
  simp only [hcut]
  rfl

theorem reports_complexityViolation (maximum : Nat) (path : Path) (u : FlowUnit) :
    (complexityViolation maximum path u).Reports path maximum u := by
  obtain ⟨name, pos, body⟩ := u
  cases name with
  | none => exact ⟨rfl, rfl, rfl⟩
  | some name => exact ⟨rfl, rfl, rfl⟩

theorem checkComplexity_eq_map {f : SourceFile} {tree : Node} (htree : f.tree = some tree)
    (maximum : Nat) : checkComplexity maximum f =
      (tree.unitsOver maximum).map fun p => complexityViolation maximum f.path p.2 := by
  rw [checkComplexity, htree]
  simp only
  rw [← tree.map_snd_sortedUnitsAt, List.filter_map, List.map_map]
  rfl

/-- **Exactly the units over the maximum are reported.** Take the units of a tree, at any address, whose
    complexity is over the maximum, sorted by their places and at one place as the walk has them. The
    rule gives one violation for each of them, in this order, with the name, the complexity and the place
    of the unit, and no other. For a greater maximum it gives a sublist of these violations, apart from
    the maximum at the end of their messages. -/
theorem checkComplexity_exact (f : SourceFile) (tree : Node) (htree : f.tree = some tree)
    (maximum : Nat) :
    (∃ units : List (List Nat × FlowUnit),
      (∀ a u, (a, u) ∈ units ↔ (∃ n, tree.at? a = some n ∧ n.IsUnit u) ∧ maximum < u.complexity) ∧
      units.Pairwise ReportedBefore ∧
      List.Forall₂ (fun p v => v.Reports f.path maximum p.2) units
        ((Rule.complexity maximum).check f)) ∧
    ∀ greater, maximum ≤ greater →
      (((Rule.complexity greater).check f).map Violation.withoutNumeral).Sublist
        (((Rule.complexity maximum).check f).map Violation.withoutNumeral) := by
  have hcheck : ∀ m, (Rule.complexity m).check f =
      (tree.unitsOver m).map fun p => complexityViolation m f.path p.2 :=
    checkComplexity_eq_map htree
  constructor
  · refine ⟨tree.unitsOver maximum, fun a u => Node.mem_unitsOver, tree.pairwise_unitsOver maximum, ?_⟩
    rw [hcheck, List.forall₂_map_right_iff]
    exact List.forall₂_same.mpr fun p _ => reports_complexityViolation maximum f.path p.2
  · intro greater hle
    rw [hcheck, hcheck, List.map_map, List.map_map]
    have hsame : Violation.withoutNumeral ∘ (fun p => complexityViolation greater f.path p.2) =
        Violation.withoutNumeral ∘ fun p : List Nat × FlowUnit =>
          complexityViolation maximum f.path p.2 := by
      funext p
      exact withoutNumeral_complexityViolation greater maximum f.path p.2
    rw [hsame]
    exact (tree.unitsOver_sublist hle).map _

/-- The lambda of a decorator is a unit as well. The walk comes to the function first, which is reported
    second, and it is the only one over 1. -/
theorem checkComplexity_exact_decorated :
    let text : Text := "@(lambda: a or b)\ndef f(): p and q if x else y\n"
    let f : SourceFile := SourceFile.ofText ⟨[], []⟩ [] text
    f.tree.isSome ∧ 0 ≤ 1 ∧
    (((Rule.complexity 0).check f).map (·.message) =
        ["Cognitive complexity for \"lambda\" is 1, keep it under 0".toList,
          "Cognitive complexity for \"f()\" is 2, keep it under 0".toList] ∧
      ((Rule.complexity 1).check f).map (·.message) =
        ["Cognitive complexity for \"f()\" is 2, keep it under 1".toList]) ∧
    (((Rule.complexity 1).check f).map Violation.withoutNumeral).Sublist
      (((Rule.complexity 0).check f).map Violation.withoutNumeral) := by
  intro text f
  have hsome : f.tree.isSome := by decide +kernel
  obtain ⟨tree, htree⟩ := Option.isSome_iff_exists.mp hsome
  exact ⟨hsome, by decide, by decide +kernel, (checkComplexity_exact f tree htree 0).2 1 (by decide)⟩

end Rule

end HouseStyle
