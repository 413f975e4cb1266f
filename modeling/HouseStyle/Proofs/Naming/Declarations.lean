import HouseStyle.Proofs.Naming.Renaming
import HouseStyle.Proofs.Syntax.Tree
import HouseStyle.Proofs.Syntax.WalkOrder

/-!
# Declarations of classes

Every class of a tree has one declaration, and the declarations stand in the order of the walk. The types
of a declaration are read off the bases of the class alone: a base that is built from a name by attribute
access and subscripting gives its dotted name, any other is passed over. Its name and place are read off
the tokens alone: they are those of the name that follows the `class` at the place of the class, and the
last one if there are several. No relation between tree and tokens is asked for.

Main definitions:
* `Token.IsLastClassName`: the name behind the last `class` at a place.
* `Node.IsTypeName`, `Node.AreTypeNames`: the dotted names of bases.
* `Declaration.Describes`: what a declaration says about a class.

Main results:
* `Token.nameAfterClass?_eq_some_iff`: the search finds the name behind the last `class`.
* `Node.typeName?_eq_some_iff`, `Node.areTypeNames_filterMap`: the dotted names are found.
* `Node.declarations_exact`: the declarations of a tree.
-/

namespace HouseStyle

namespace Token

/-! ## The name behind the last `class` -/

variable {tokens : List Token} {pos : Syntax.Position} {i j l : Nat} {s t : Token}

/-- The token is the name behind a `class` at the place, and no later `class` there has a name. -/
def IsLastClassName (tokens : List Token) (pos : Syntax.Position) (t : Token) : Prop :=
  ∃ i j, IsClassName tokens pos i j t ∧ ∀ k l r, IsClassName tokens pos k l r → k ≤ i

/-- A `class` has at most one name behind it. -/
theorem IsClassName.name_unique (hs : IsClassName tokens pos i j s)
    (ht : IsClassName tokens pos i l t) : s = t := by
  have h1 := hs.not_between ht.name.1 ht.name.2
  have h2 := ht.not_between hs.name.1 hs.name.2
  have h3 := hs.lt
  have h4 := ht.lt
  obtain rfl : j = l := by omega
  exact Option.some.inj (hs.name.1.symm.trans ht.name.1)

theorem nameAfterClass?_eq_some_iff :
    nameAfterClass? pos.line pos.col tokens = some t ↔ IsLastClassName tokens pos t := by
  refine ⟨nameAfterClass?_eq_some, ?_⟩
  rintro ⟨i, j, hij, hlast⟩
  cases hfound : nameAfterClass? pos.line pos.col tokens with
  | none => exact absurd hij (not_isClassName hfound)
  | some s =>
    obtain ⟨k, l, hkl, hlast'⟩ := nameAfterClass?_eq_some hfound
    obtain rfl : i = k := Nat.le_antisymm (hlast' i j t hij) (hlast k l s hkl)
    rw [hkl.name_unique hij]

/-- The last `class` does not count if no name follows it. -/
example : nameAfterClass? 1 0
    [⟨.name, "class", 1, 0⟩, ⟨.name, "A", 1, 6⟩, ⟨.name, "class", 1, 0⟩, ⟨.comment, "#", 1, 6⟩,
      ⟨.name, "B", 2, 0⟩, ⟨.name, "class", 1, 0⟩, ⟨.op, "(", 1, 6⟩] = some ⟨.name, "B", 2, 0⟩ := by
  decide

end Token

namespace Syntax.Node

/-! ## Dotted names -/

/-- The node is built from a name by attribute access and subscripting, and has this dotted name;
    subscripts leave no trace in it. -/
inductive IsTypeName : Node → Text → Prop
  | name (id : Text) : IsTypeName (.name id) id
  | member {value : Node} {t : Text} (h : IsTypeName value t) (attr : Text) :
      IsTypeName (.attribute value attr) (t ++ "." ++ attr)
  | subscript {value : Node} {t : Text} (h : IsTypeName value t) (index : Node) :
      IsTypeName (.subscript value index) t

theorem typeName?_eq_some_iff {n : Node} {t : Text} : n.typeName? = some t ↔ IsTypeName n t := by
  constructor
  · intro h
    fun_induction typeName? n generalizing t with
    | case1 id =>
      cases h
      exact .name id
    | case2 value attr ih =>
      obtain ⟨u, hu, rfl⟩ := Option.map_eq_some_iff.mp h
      exact .member (ih hu) attr
    | case3 value index ih => exact .subscript (ih h) index
    | case4 => cases h
  · intro h
    induction h with
    | name id => rfl
    | member h attr ih => rw [typeName?, ih]; rfl
    | subscript h index ih => rw [typeName?, ih]

/-- The dotted names of those nodes that have one, in order; the others are passed over. -/
inductive AreTypeNames : List Node → List Text → Prop
  | nil : AreTypeNames [] []
  | named {n : Node} {ns : List Node} {t : Text} {ts : List Text} :
      IsTypeName n t → AreTypeNames ns ts → AreTypeNames (n :: ns) (t :: ts)
  | other {n : Node} {ns : List Node} {ts : List Text} :
      (∀ t, ¬IsTypeName n t) → AreTypeNames ns ts → AreTypeNames (n :: ns) ts

theorem areTypeNames_filterMap (ns : List Node) : AreTypeNames ns (ns.filterMap typeName?) := by
  induction ns with
  | nil => exact .nil
  | cons n ns ih =>
    rw [List.filterMap_cons]
    cases h : n.typeName? with
    | none =>
      refine .other (fun t ht => ?_) ih
      rw [typeName?_eq_some_iff.mpr ht] at h
      cases h
    | some t => exact .named (typeName?_eq_some_iff.mp h) ih

end Syntax.Node

open Syntax

/-! ## What a declaration says -/

/-- The tokens show the class `id` at a place under the name `n` at line `l` and column `c`, counted from
    one: the name behind the last `class` there is `n`, stands there, and is the name of the class. -/
def Token.Shows (tokens : List Token) (id : Text) (pos : Position) (n : Text) (l c : Int) : Prop :=
  ∃ t, IsLastClassName tokens pos t ∧ t.text = n ∧ n = id ∧ t.line = l ∧ t.col = c - 1

/-- The declaration is what tree and tokens tell about the class `id` at a place: the parent and the
    interfaces are the dotted names of the bases, and name, line and column are those that the tokens show.
    If they show none, it has none of the three. -/
structure Declaration.Describes (tokens : List Token) (id : Text) (pos : Position) (bases : List Node)
    (d : Declaration) : Prop where
  types : ∃ types, Node.AreTypeNames bases types ∧ d.parent = types.head? ∧ d.interfaces = types.tail
  shown : ∀ n l c, (d.name = some n ∧ d.line = some l ∧ d.col = some c) ↔ Token.Shows tokens id pos n l c
  hidden : (¬∃ n l c, Token.Shows tokens id pos n l c) → d.name = none ∧ d.line = none ∧ d.col = none

/-- Elements for which there is a result, paired with their results. -/
theorem forall₂_filterMap {α β : Type} (f : α → Option β) (xs : List α) :
    List.Forall₂ (fun x y => f x = some y) (xs.filter fun x => (f x).isSome) (xs.filterMap f) := by
  induction xs with
  | nil => exact .nil
  | cons x xs ih =>
    cases h : f x with
    | none => rwa [List.filterMap_cons_none h, List.filter_cons_of_neg (by simp [h])]
    | some y =>
      rw [List.filterMap_cons_some h, List.filter_cons_of_pos (by simp [h])]
      exact .cons h ih

namespace Syntax.Node

theorem describes_declaration (tokens : List Token) (id : Text) (pos : Position) (bases : List Node) :
    (declaration tokens id pos bases).Describes tokens id pos bases := by
  have hfound : ∀ t, (Token.nameAfterClass? pos.line pos.col tokens).filter (·.text = id) = some t ↔
      Token.IsLastClassName tokens pos t ∧ t.text = id := by
    intro t
    rw [Option.filter_eq_some_iff, Token.nameAfterClass?_eq_some_iff, decide_eq_true_eq]
  refine ⟨⟨_, areTypeNames_filterMap bases, rfl, rfl⟩, ?_, ?_⟩
  · intro n l c
    simp only [declaration, Option.map_eq_some_iff]
    constructor
    · rintro ⟨⟨t, ht, rfl⟩, ⟨t', ht', rfl⟩, ⟨t'', ht'', rfl⟩⟩
      rw [ht] at ht' ht''
      cases ht'
      cases ht''
      obtain ⟨hlast, hid⟩ := (hfound t).mp ht
      exact ⟨t, hlast, rfl, hid, rfl, by omega⟩
    · rintro ⟨t, hlast, rfl, hid, rfl, hcol⟩
      have ht := (hfound t).mpr ⟨hlast, hid⟩
      exact ⟨⟨t, ht, rfl⟩, ⟨t, ht, rfl⟩, ⟨t, ht, by omega⟩⟩
  · intro hnone
    have hfilter : (Token.nameAfterClass? pos.line pos.col tokens).filter (·.text = id) = none := by
      rw [Option.eq_none_iff_forall_ne_some]
      intro t ht
      obtain ⟨hlast, hid⟩ := (hfound t).mp ht
      exact hnone ⟨t.text, t.line, t.col + 1, t, hlast, rfl, hid, rfl, by omega⟩
    simp only [declaration, hfilter, Option.map_none, and_self]

theorem isSome_declaration? (tokens : List Token) (n : Node) :
    (n.declaration? tokens).isSome = n.isClass := by
  cases n <;> rfl

/-- The classes of a tree with their addresses, in the order of the walk. -/
def classesAt (tree : Node) : List Occurrence := tree.occurrences.filter (·.node.isClass)

theorem mem_classesAt {tree : Node} {o : Occurrence} :
    o ∈ tree.classesAt ↔ tree.at? o.address = some o.node ∧ o.node.isClass = true := by
  rw [classesAt, List.mem_filter, mem_occurrences]

theorem forall₂_declarations (tree : Node) (tokens : List Token) :
    List.Forall₂ (fun o d => o.node.declaration? tokens = some d) tree.classesAt
      (tree.declarations tokens) := by
  have h := forall₂_filterMap (fun o : Occurrence => o.node.declaration? tokens) tree.occurrences
  simp only [isSome_declaration?] at h
  rwa [declarations, ← tree.map_node_occurrences, List.filterMap_map]

/-- **Declarations are complete and sound.** Take the classes of a tree, at any address, in the order of
    the walk, and any tokens or none. There is one declaration for each class, in this order, and it says
    what the bases of the class and the tokens say. -/
theorem declarations_exact (tree : Node) (tokens : Option (List Token)) :
    ∃ classes : List Occurrence,
      (∀ o, o ∈ classes ↔ tree.at? o.address = some o.node ∧ o.node.isClass = true) ∧
      classes.Pairwise (fun o p => WalksBefore o.address p.address) ∧
      List.Forall₂ (fun o d => ∃ id pos bases keywords body decorators,
          o.node = .classDef id pos bases keywords body decorators ∧
            d.Describes (tokens.getD []) id pos bases)
        classes (tree.declarations (tokens.getD [])) := by
  refine ⟨tree.classesAt, fun o => mem_classesAt, tree.pairwise_occurrences.filter _, ?_⟩
  refine (tree.forall₂_declarations (tokens.getD [])).imp ?_
  rintro ⟨address, n⟩ d hd
  cases n with
  | classDef id pos bases keywords body decorators =>
    cases hd
    exact ⟨id, pos, bases, keywords, body, decorators, rfl, describes_declaration _ id pos bases⟩
  | _ => cases hd

end Syntax.Node

end HouseStyle
