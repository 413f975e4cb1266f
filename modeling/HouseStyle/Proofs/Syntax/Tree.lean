import HouseStyle.Proofs.Syntax.Addresses

/-!
# The nodes of a tree

`Node.preorder` lists a node before everything below it. The walk of a tree, which takes nodes from a
queue, lists the same nodes in another order. Two things are read off the preorder: the classes of a
tree, and whether it is plain, that is, without statements that have blocks.

Main definitions:
* `Node.preorder`: the nodes of a tree, each before those below it.
* `Node.classes`: the classes of a tree.
* `Node.IsPlain`: no node of the tree has a block of statements.

Main results:
* `Node.walk_perm_preorder`: the walk of a tree is a permutation of its preorder.
* `Node.IsPlain.classes_eq_nil`: a plain tree has no classes.
-/

namespace HouseStyle.Syntax.Node

/-! ## Preorder -/

/-- The nodes of a tree, each before those below it. -/
def preorder (n : Node) : List Node := n :: n.children.attach.flatMap fun m => m.1.preorder
termination_by n.size
decreasing_by exact size_lt_of_mem_children m.2

theorem preorder_eq (n : Node) : n.preorder = n :: n.children.flatMap preorder := by
  rw [preorder, List.flatMap_subtype (g := preorder) (by simp), List.unattach_attach]

theorem map_node_below (o : Occurrence) : o.below.map (·.node) = o.node.preorder := by
  induction o using Occurrence.induction with
  | h o ih =>
    rw [Occurrence.below_eq, List.map_cons, List.map_flatMap, List.flatMap_congr ih, preorder_eq,
      ← o.map_node_next, List.flatMap_map]

/-- The walk of a tree is a permutation of its preorder. -/
theorem walk_perm_preorder (n : Node) : n.walk.Perm n.preorder := by
  rw [← n.map_node_occurrences, ← map_node_below ⟨[], n⟩]
  exact n.occurrences_perm.map _

/-! ## Classes -/

/-- A class. -/
def isClass : Node → Bool
  | .classDef .. => true
  | _ => false

/-- The classes of a tree. -/
def classes (n : Node) : List Node := n.preorder.filter isClass

/-- The classes of several trees. -/
def classesOf (ns : List Node) : List Node := ns.flatMap classes

theorem classes_eq (n : Node) :
    n.classes = (if n.isClass then [n] else []) ++ classesOf n.children := by
  rw [classes, preorder_eq, List.filter_cons, List.filter_flatMap]
  split_ifs <;> rfl

@[simp] theorem classesOf_nil : classesOf [] = [] := rfl

@[simp] theorem classesOf_cons (n : Node) (ns : List Node) :
    classesOf (n :: ns) = n.classes ++ classesOf ns := rfl

@[simp] theorem classesOf_append (ns ms : List Node) :
    classesOf (ns ++ ms) = classesOf ns ++ classesOf ms := List.flatMap_append

section

variable {n : Node} {pos : Position} {ns body orelse decorators returns : List Node}

@[simp] theorem classes_function {isAsync : Bool} {id : Text} :
    (function isAsync id pos n body decorators returns).classes =
      n.classes ++ (classesOf body ++ classesOf decorators ++ classesOf returns) := by
  rw [classes_eq]
  show [] ++ classesOf (n :: (body ++ decorators ++ returns)) = _
  simp

@[simp] theorem classes_classDef {id : Text} {bases keywords : List Node} :
    (classDef id pos bases keywords body decorators).classes =
      classDef id pos bases keywords body decorators ::
        (classesOf bases ++ classesOf keywords ++ classesOf body ++ classesOf decorators) := by
  rw [classes_eq]
  show [_] ++ classesOf (bases ++ keywords ++ body ++ decorators) = _
  simp

@[simp] theorem classes_branch :
    (branch pos n body orelse).classes = n.classes ++ (classesOf body ++ classesOf orelse) := by
  rw [classes_eq]
  show [] ++ classesOf (n :: (body ++ orelse)) = _
  simp

@[simp] theorem classes_loop {kind : LoopKind} :
    (loop kind ns body orelse).classes = classesOf ns ++ classesOf body ++ classesOf orelse := by
  rw [classes_eq]
  show [] ++ classesOf (ns ++ body ++ orelse) = _
  simp

@[simp] theorem classes_handler : (handler ns body).classes = classesOf ns ++ classesOf body := by
  rw [classes_eq]
  show [] ++ classesOf (ns ++ body) = _
  simp

@[simp] theorem classes_matching : (matching n ns).classes = n.classes ++ classesOf ns := by
  rw [classes_eq]
  show [] ++ classesOf (n :: ns) = _
  simp

@[simp] theorem classes_case :
    (case n ns body).classes = n.classes ++ (classesOf ns ++ classesOf body) := by
  rw [classes_eq]
  show [] ++ classesOf (n :: (ns ++ body)) = _
  simp

@[simp] theorem classes_plain {kind : Kind} : (plain kind ns).classes = classesOf ns := by
  rw [classes_eq]
  show [] ++ classesOf ns = _
  simp

end

/-! ## Plain trees -/

/-- A node that has a block of statements, or is part of such a node only. -/
def hasBlock : Node → Bool
  | .function .. => true
  | .classDef .. => true
  | .branch .. => true
  | .loop .. => true
  | .handler .. => true
  | .matching .. => true
  | .case .. => true
  | _ => false

/-- No node of the tree has a block of statements. -/
def IsPlain (n : Node) : Prop := ∀ m ∈ n.preorder, m.hasBlock = false

/-- All trees are plain. -/
def ArePlain (ns : List Node) : Prop := ∀ n ∈ ns, n.IsPlain

theorem isPlain_iff (n : Node) : n.IsPlain ↔ n.hasBlock = false ∧ ArePlain n.children := by
  unfold ArePlain IsPlain
  rw [preorder_eq n, List.forall_mem_cons, List.forall_mem_flatMap]

theorem isPlain_iff_children {n : Node} (h : n.hasBlock = false) : n.IsPlain ↔ ArePlain n.children := by
  rw [isPlain_iff, and_iff_right h]

@[simp] theorem arePlain_nil : ArePlain [] := fun _ h => nomatch h

@[simp] theorem arePlain_cons {n : Node} {ns : List Node} :
    ArePlain (n :: ns) ↔ n.IsPlain ∧ ArePlain ns := List.forall_mem_cons

@[simp] theorem arePlain_append {ns ms : List Node} :
    ArePlain (ns ++ ms) ↔ ArePlain ns ∧ ArePlain ms := List.forall_mem_append

theorem arePlain_flatten {nss : List (List Node)} : ArePlain nss.flatten ↔ ∀ ns ∈ nss, ArePlain ns :=
  List.forall_mem_flatten

theorem IsPlain.classes_eq_nil {n : Node} (h : n.IsPlain) : n.classes = [] := by
  rw [classes, List.filter_eq_nil_iff]
  intro m hm hclass
  have hblock := h m hm
  cases m <;> simp_all [isClass, hasBlock]

theorem ArePlain.classesOf_eq_nil {ns : List Node} (h : ArePlain ns) : classesOf ns = [] := by
  rw [classesOf, List.flatMap_eq_nil_iff]
  exact fun n hn => (h n hn).classes_eq_nil

section

variable {n m l : Node} {ns : List Node}

@[simp] theorem isPlain_plain {kind : Kind} : (plain kind ns).IsPlain ↔ ArePlain ns := by
  rw [isPlain_iff_children rfl]
  rfl

@[simp] theorem isPlain_name {id : Text} : (name id).IsPlain :=
  (isPlain_iff_children rfl).mpr arePlain_nil

@[simp] theorem isPlain_attribute {id : Text} : (Node.attribute n id).IsPlain ↔ n.IsPlain := by
  rw [isPlain_iff_children rfl]
  show ArePlain [n] ↔ _
  simp

@[simp] theorem isPlain_subscript : (subscript n m).IsPlain ↔ n.IsPlain ∧ m.IsPlain := by
  rw [isPlain_iff_children rfl]
  show ArePlain [n, m] ↔ _
  simp

@[simp] theorem isPlain_lambda {pos : Position} : (lambda pos n m).IsPlain ↔ n.IsPlain ∧ m.IsPlain := by
  rw [isPlain_iff_children rfl]
  show ArePlain [n, m] ↔ _
  simp

@[simp] theorem isPlain_conditional :
    (conditional n m l).IsPlain ↔ n.IsPlain ∧ m.IsPlain ∧ l.IsPlain := by
  rw [isPlain_iff_children rfl]
  show ArePlain [n, m, l] ↔ _
  simp

@[simp] theorem isPlain_junction {o : BoolOp} : (junction o ns).IsPlain ↔ ArePlain ns := by
  rw [isPlain_iff_children rfl]
  rfl

end

end HouseStyle.Syntax.Node
