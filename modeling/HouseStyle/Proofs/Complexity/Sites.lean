import HouseStyle.Complexity
import Mathlib.Data.List.Nodup
import Mathlib.Logic.Relation

/-!
# The nodes that a unit owns

A function or lambda owns the nodes that are reached from its body without going into nested
functions, lambdas and classes or into patterns. `Node.parts` says for every child of a node whether it
is gone into, and what that does to the nesting. Equal nodes can stand at several places, so a node is
taken together with the way to it: a `Site`.

Main definitions:
* `Entry`, `Node.parts`: the ways into the children of a node.
* `Site`, `FlowUnit.Reaches`: nodes with the way to them, and those that a unit reaches.
* `Site.next`, `Site.below`, `FlowUnit.sites`: the enumeration of all sites of a unit.

Main results:
* `Site.induction`: induction from the leaves to the root.
* `FlowUnit.mem_sites`, `FlowUnit.pairwise_sites`: every site that is reached is enumerated once.
-/

namespace HouseStyle.Syntax

/-! ## Ways into the children -/

/-- How a child of a node is gone into. -/
inductive Entry where
  /-- On the level of nesting of the node. -/
  | level
  /-- Into a region that is nested one level deeper. -/
  | region
  /-- On the same level, as an operand of the operator. -/
  | operand (op : BoolOp)
deriving Repr, DecidableEq

/-- The operator of which the child is an operand. -/
def Entry.operator? : Entry → Option BoolOp
  | .operand op => some op
  | _ => none

namespace Node

/-- The `else` part of an `if` in the given column is an `elif`: its only statement is an `if` in that
    column. -/
def isElif (col : Nat) : List Node → Bool
  | [n] => n.continues col
  | _ => false

/-- The nodes of a field, all gone into in the same way. -/
def field (entry : Option Entry) (nodes : List Node) : List (Option Entry × Node) :=
  nodes.map fun n => (entry, n)

/-- The children of a node in the order of its fields, each with the way into it; there is no way into
    nested functions, lambdas, classes and patterns. -/
def parts : Node → List (Option Entry × Node)
  | .function _ _ _ args body decorators returns =>
    field none (args :: (body ++ decorators ++ returns))
  | .lambda _ args body => field none [args, body]
  | .classDef _ _ bases keywords body decorators =>
    field none (bases ++ keywords ++ body ++ decorators)
  | .branch pos test body orelse =>
    field (some .level) [test] ++ field (some .region) body
      ++ field (some (if isElif pos.col orelse then .level else .region)) orelse
  | .loop _ header body orelse =>
    field (some .level) header ++ field (some .region) body ++ field (some .region) orelse
  | .handler type body => field (some .level) type ++ field (some .region) body
  | .matching subject cases => field (some .level) [subject] ++ field (some .region) cases
  | .case pattern guard body => field none [pattern] ++ field (some .level) (guard ++ body)
  | .conditional test body orelse => field (some .region) [test, body, orelse]
  | .junction op values => field (some (.operand op)) values
  | .name _ => []
  | .attribute value _ => field (some .level) [value]
  | .subscript value index => field (some .level) [value, index]
  | .plain _ children => field (some .level) children

@[simp] theorem mem_field {entry e : Option Entry} {nodes : List Node} {n : Node} :
    (e, n) ∈ field entry nodes ↔ e = entry ∧ n ∈ nodes := by
  simp only [field, List.mem_map, Prod.mk.injEq]
  constructor
  · rintro ⟨m, hm, rfl, rfl⟩
    exact ⟨rfl, hm⟩
  · rintro ⟨rfl, hn⟩
    exact ⟨n, hn, rfl, rfl⟩

@[simp] theorem map_snd_field (entry : Option Entry) (nodes : List Node) :
    (field entry nodes).map Prod.snd = nodes := by
  simp [field, Function.comp_def]

/-- The parts are the children. -/
theorem map_snd_parts (n : Node) : n.parts.map Prod.snd = n.children := by
  cases n <;> simp [parts, children]

/-! ## Sizes -/

theorem sizeAll_append (ns ms : List Node) : sizeAll (ns ++ ms) = sizeAll ns + sizeAll ms := by
  induction ns with
  | nil => simp [sizeAll]
  | cons n ns ih => simp only [List.cons_append, sizeAll, ih]; omega

theorem size_le_sizeAll {n : Node} {ns : List Node} (h : n ∈ ns) : n.size ≤ sizeAll ns := by
  induction ns with
  | nil => cases h
  | cons m ns ih =>
    rw [sizeAll]
    rcases List.mem_cons.mp h with rfl | h
    · omega
    · have := ih h
      omega

theorem size_eq (n : Node) : n.size = 1 + sizeAll n.children := by
  cases n <;> simp only [size, children, sizeAll, sizeAll_append] <;> omega

theorem size_lt_of_mem_parts {n c : Node} {entry : Option Entry} (h : (entry, c) ∈ n.parts) :
    c.size < n.size := by
  have hmem : c ∈ n.children := by
    rw [← map_snd_parts]
    exact List.mem_map_of_mem h
  have := size_le_sizeAll hmem
  rw [size_eq n]
  omega

end Node

/-! ## Sites -/

/-- A node with the way to it. The address has the index of the child that is chosen at every step, and
    the way how it is gone into; both have the last step in front. -/
structure Site where
  address : List Nat
  way : List Entry
  node : Node

namespace Site

/-- The number of nested regions around the site. -/
def depth (s : Site) : Nat := s.way.count .region

/-- The operator of which the site is a direct operand. -/
def outer (s : Site) : Option BoolOp := s.way.head?.bind Entry.operator?

/-- The sites of the children that are gone into. -/
def next (s : Site) : List Site :=
  s.node.parts.zipIdx.filterMap fun x =>
    x.1.1.map fun entry => ⟨x.2 :: s.address, entry :: s.way, x.1.2⟩

theorem mem_next {s t : Site} : t ∈ s.next ↔ ∃ i entry n,
    s.node.parts[i]? = some (some entry, n) ∧ t = ⟨i :: s.address, entry :: s.way, n⟩ := by
  simp only [next, List.mem_filterMap, List.mem_zipIdx_iff_getElem?, Option.map_eq_some_iff]
  constructor
  · rintro ⟨⟨⟨e, n⟩, i⟩, hget, entry, rfl, rfl⟩
    exact ⟨i, entry, n, hget, rfl⟩
  · rintro ⟨i, entry, n, hget, rfl⟩
    exact ⟨((some entry, n), i), hget, entry, rfl, rfl⟩

theorem size_lt_of_mem_next {s t : Site} (h : t ∈ s.next) : t.node.size < s.node.size := by
  obtain ⟨i, entry, n, hget, rfl⟩ := mem_next.mp h
  exact Node.size_lt_of_mem_parts (List.mem_of_getElem? hget)

/-- What holds of a site if it holds of its next sites holds of every site. -/
theorem induction {P : Site → Prop} (h : ∀ s, (∀ t ∈ s.next, P t) → P s) (s : Site) : P s := by
  have hsize : ∀ k (s : Site), s.node.size < k → P s := by
    intro k
    induction k with
    | zero => intro s hk; omega
    | succ k ih =>
      intro s hk
      apply h
      intro t ht
      have := size_lt_of_mem_next ht
      exact ih t (by omega)
  exact hsize _ s (Nat.lt_succ_self _)

/-- The site and all sites that are reached from it. -/
def below (s : Site) : List Site := s :: s.next.attach.flatMap fun t => below t.1
termination_by s.node.size
decreasing_by exact size_lt_of_mem_next t.2

theorem below_eq (s : Site) : s.below = s :: s.next.flatMap below := by
  rw [below]
  simp only [List.flatMap_subtype, List.unattach_attach]

theorem mem_below_iff {s t : Site} : t ∈ s.below ↔ t = s ∨ ∃ r ∈ s.next, t ∈ r.below := by
  rw [below_eq, List.mem_cons, List.mem_flatMap]

theorem self_mem_below (s : Site) : s ∈ s.below := mem_below_iff.mpr (Or.inl rfl)

theorem mem_below_of_mem_next {s r t : Site} (hr : r ∈ s.below) (ht : t ∈ r.next) :
    t ∈ s.below := by
  induction s using induction with
  | h s ih =>
    rcases mem_below_iff.mp hr with rfl | ⟨q, hq, hr⟩
    · exact mem_below_iff.mpr (Or.inr ⟨t, ht, self_mem_below t⟩)
    · exact mem_below_iff.mpr (Or.inr ⟨q, hq, ih q hq hr⟩)

/-! ## Addresses -/

theorem address_suffix {s t : Site} (h : t ∈ s.below) : s.address <:+ t.address := by
  induction s using induction with
  | h s ih =>
    rcases mem_below_iff.mp h with rfl | ⟨r, hr, ht⟩
    · exact List.suffix_rfl
    · have hsuffix := ih r hr ht
      obtain ⟨i, entry, n, -, rfl⟩ := mem_next.mp hr
      exact (List.suffix_cons i s.address).trans hsuffix

/-- Below two sites with different addresses of the same length, all addresses are different. -/
theorem address_ne_of_mem_below {s t a b : Site} (hlen : s.address.length = t.address.length)
    (hne : s.address ≠ t.address) (ha : a ∈ s.below) (hb : b ∈ t.below) :
    a.address ≠ b.address := by
  intro heq
  have hs := address_suffix ha
  have ht := address_suffix hb
  rw [← heq] at ht
  rcases List.suffix_or_suffix_of_suffix hs ht with h | h
  · exact hne (h.eq_of_length hlen)
  · exact hne (h.eq_of_length hlen.symm).symm

theorem pairwise_zipIdx {α : Type} (xs : List α) : xs.zipIdx.Pairwise fun x y => x.2 ≠ y.2 := by
  rw [← List.pairwise_map, List.zipIdx_map_snd]
  exact List.nodup_range'

theorem pairwise_next (s : Site) : s.next.Pairwise fun a b => a.address ≠ b.address := by
  rw [next, List.pairwise_filterMap]
  refine (pairwise_zipIdx s.node.parts).imp ?_
  intro x y hxy a ha b hb
  obtain ⟨_, -, rfl⟩ := Option.map_eq_some_iff.mp ha
  obtain ⟨_, -, rfl⟩ := Option.map_eq_some_iff.mp hb
  simpa using hxy

theorem pairwise_flatMap_below {k : Nat} {sites : List Site}
    (hlen : ∀ s ∈ sites, s.address.length = k)
    (hne : sites.Pairwise fun a b => a.address ≠ b.address)
    (hbelow : ∀ s ∈ sites, s.below.Pairwise fun a b => a.address ≠ b.address) :
    (sites.flatMap below).Pairwise fun a b => a.address ≠ b.address := by
  rw [List.pairwise_flatMap]
  refine ⟨hbelow, hne.imp_of_mem ?_⟩
  intro s t hs ht hst a ha b hb
  exact address_ne_of_mem_below (by rw [hlen s hs, hlen t ht]) hst ha hb

theorem length_address_of_mem_next {s t : Site} (h : t ∈ s.next) :
    t.address.length = s.address.length + 1 := by
  obtain ⟨i, entry, n, -, rfl⟩ := mem_next.mp h
  rfl

theorem pairwise_below (s : Site) : s.below.Pairwise fun a b => a.address ≠ b.address := by
  induction s using induction with
  | h s ih =>
    rw [below_eq, List.pairwise_cons]
    refine ⟨?_, pairwise_flatMap_below (fun t ht => length_address_of_mem_next ht)
      (pairwise_next s) ih⟩
    intro t ht heq
    obtain ⟨r, hr, ht⟩ := List.mem_flatMap.mp ht
    have hlong := (address_suffix ht).length_le
    rw [length_address_of_mem_next hr, ← heq] at hlong
    omega

end Site

/-! ## The sites of a unit -/

namespace FlowUnit

/-- The unit reaches a site: it is a node of the body, or a child of a node that the unit reaches and
    there is a way into it. -/
inductive Reaches (u : FlowUnit) : Site → Prop
  | body {i : Nat} {n : Node} (h : u.body[i]? = some n) : Reaches u ⟨[i], [], n⟩
  | child {s : Site} {i : Nat} {entry : Entry} {n : Node} (hs : Reaches u s)
      (h : s.node.parts[i]? = some (some entry, n)) : Reaches u ⟨i :: s.address, entry :: s.way, n⟩

/-- The nodes of the body. -/
def roots (u : FlowUnit) : List Site := u.body.zipIdx.map fun x => ⟨[x.2], [], x.1⟩

/-- All sites of a unit. -/
def sites (u : FlowUnit) : List Site := u.roots.flatMap Site.below

variable {u : FlowUnit} {s t : Site}

theorem mem_roots : s ∈ u.roots ↔ ∃ i n, u.body[i]? = some n ∧ s = ⟨[i], [], n⟩ := by
  simp only [roots, List.mem_map, List.mem_zipIdx_iff_getElem?]
  constructor
  · rintro ⟨⟨n, i⟩, hget, rfl⟩
    exact ⟨i, n, hget, rfl⟩
  · rintro ⟨i, n, hget, rfl⟩
    exact ⟨(n, i), hget, rfl⟩

theorem Reaches.of_mem_next (hs : u.Reaches s) (ht : t ∈ s.next) : u.Reaches t := by
  obtain ⟨i, entry, n, hget, rfl⟩ := Site.mem_next.mp ht
  exact hs.child hget

theorem Reaches.of_mem_below (hs : u.Reaches s) (ht : t ∈ s.below) : u.Reaches t := by
  induction s using Site.induction with
  | h s ih =>
    rcases Site.mem_below_iff.mp ht with rfl | ⟨r, hr, ht⟩
    · exact hs
    · exact ih r hr (hs.of_mem_next hr) ht

/-- The enumeration has exactly the sites that the unit reaches. -/
theorem mem_sites : s ∈ u.sites ↔ u.Reaches s := by
  rw [sites, List.mem_flatMap]
  constructor
  · rintro ⟨r, hr, hs⟩
    obtain ⟨i, n, hget, rfl⟩ := mem_roots.mp hr
    exact (Reaches.body hget).of_mem_below hs
  · intro h
    induction h with
    | body hget => exact ⟨_, mem_roots.mpr ⟨_, _, hget, rfl⟩, Site.self_mem_below _⟩
    | child _ hget ih =>
      obtain ⟨r, hr, hs⟩ := ih
      exact ⟨r, hr, Site.mem_below_of_mem_next hs (Site.mem_next.mpr ⟨_, _, _, hget, rfl⟩)⟩

/-- The enumeration has every address once. -/
theorem pairwise_sites (u : FlowUnit) :
    u.sites.Pairwise fun a b => a.address ≠ b.address := by
  have hroots : u.roots.Pairwise fun a b => a.address ≠ b.address := by
    rw [roots, List.pairwise_map]
    exact (Site.pairwise_zipIdx u.body).imp fun hxy => by simpa using hxy
  have hlen : ∀ s ∈ u.roots, s.address.length = 1 := by
    intro s hs
    obtain ⟨i, n, -, rfl⟩ := mem_roots.mp hs
    rfl
  exact Site.pairwise_flatMap_below hlen hroots fun s _ => s.pairwise_below

/-- A site that is reached is determined by its address. -/
theorem Reaches.eq_of_address (hs : u.Reaches s) (ht : u.Reaches t)
    (h : s.address = t.address) : s = t := by
  have hnodup : (u.sites.map Site.address).Nodup := List.pairwise_map.mpr u.pairwise_sites
  exact List.inj_on_of_nodup_map hnodup (mem_sites.mpr hs) (mem_sites.mpr ht) h

theorem Reaches.eq_of_mem_next {r : Site} (hs : u.Reaches s) (ht : u.Reaches t)
    (hrs : r ∈ s.next) (hrt : r ∈ t.next) : s = t := by
  obtain ⟨_, _, _, -, rfl⟩ := Site.mem_next.mp hrs
  obtain ⟨_, _, _, -, heq⟩ := Site.mem_next.mp hrt
  exact hs.eq_of_address ht (List.cons.inj (Site.mk.inj heq).1).2

end FlowUnit

end HouseStyle.Syntax
