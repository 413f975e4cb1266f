import HouseStyle.Order
import HouseStyle.Text.Basic
import Mathlib.Data.List.Sort

/-!
# Stable sorting sorts

`stableSort` is insertion sort, so it returns a rearrangement of its argument, and the result is in
order whenever the comparison is total and transitive. Texts are compared by `Text.le`, which is the
lexicographic order of the library.

Main results:
* `stableSort_perm`, `stableSort_pairwise`: a sorted rearrangement.
* `stableSort_pairwise_stable`, `filter_stableSort`: elements that are equal under the comparison keep
  their order.
* `stableSort_eq_of_perm`: the order of the argument is irrelevant where there is one way to sort.
* `Text.le_iff`: the order of texts.
* `stableSort_pairwise_lt`: sorting by different texts sorts strictly.
* `mem_distinct`, `nodup_distinct`: a list without its repetitions.
* `distinct_append`, `pairwise_idxOf_distinct`: what is left stands in the order of first occurrence.
-/

namespace HouseStyle

variable {α : Type}

section

variable (le : α → α → Bool)

theorem insertSorted_eq_orderedInsert (x : α) (ys : List α) :
    insertSorted le x ys = ys.orderedInsert (fun a b => le a b = true) x := by
  induction ys with
  | nil => rfl
  | cons y ys ih => rw [insertSorted, List.orderedInsert_cons, ih]

theorem stableSort_eq_insertionSort (xs : List α) :
    stableSort le xs = xs.insertionSort (fun a b => le a b = true) := by
  induction xs with
  | nil => rfl
  | cons x xs ih =>
    rw [stableSort, List.insertionSort_cons, ih, insertSorted_eq_orderedInsert]

theorem stableSort_perm (xs : List α) : (stableSort le xs).Perm xs := by
  rw [stableSort_eq_insertionSort]
  exact List.perm_insertionSort _ xs

@[simp] theorem mem_stableSort {x : α} {xs : List α} : x ∈ stableSort le xs ↔ x ∈ xs :=
  (stableSort_perm le xs).mem_iff

/-- The result is in order, for pairs at any distance. -/
theorem stableSort_pairwise (htotal : ∀ a b, le a b = true ∨ le b a = true)
    (htrans : ∀ a b c, le a b = true → le b c = true → le a c = true) (xs : List α) :
    (stableSort le xs).Pairwise fun a b => le a b = true := by
  have : Std.Total fun a b => le a b = true := ⟨htotal⟩
  have : IsTrans α fun a b => le a b = true := ⟨htrans⟩
  rw [stableSort_eq_insertionSort]
  exact List.pairwise_insertionSort _ xs

/-- In order, and what the comparison does not tell apart stands as `R` has it. -/
def StablyBefore (R : α → α → Prop) (a b : α) : Prop := le a b = true ∧ (le b a = true → R a b)

/-- An element goes in front of what it does not exceed, so `R` is asked of these only. -/
theorem insertSorted_pairwise_stable {R : α → α → Prop} {x : α} {ys : List α}
    (htotal : ∀ a b, le a b = true ∨ le b a = true)
    (htrans : ∀ a b c, le a b = true → le b c = true → le a c = true)
    (hys : ys.Pairwise (StablyBefore le R)) (hx : ∀ y ∈ ys, R x y) :
    (insertSorted le x ys).Pairwise (StablyBefore le R) := by
  induction ys with
  | nil => exact List.pairwise_singleton _ _
  | cons y ys ih =>
    obtain ⟨hy, hrest⟩ := List.pairwise_cons.mp hys
    obtain ⟨hxy, hxs⟩ := List.forall_mem_cons.mp hx
    rw [insertSorted]
    split_ifs with hle
    · refine List.pairwise_cons.mpr ⟨fun z hz => ⟨?_, fun _ => hx z hz⟩, hys⟩
      rcases List.mem_cons.mp hz with rfl | hz
      · exact hle
      · exact htrans x y z hle (hy z hz).1
    · refine List.pairwise_cons.mpr ⟨fun z hz => ?_, ih hrest hxs⟩
      rw [insertSorted_eq_orderedInsert, List.mem_orderedInsert] at hz
      rcases hz with rfl | hz
      · exact ⟨(htotal z y).resolve_left hle, fun h => absurd h hle⟩
      · exact hy z hz

/-- Sorting keeps the order of elements that the comparison does not tell apart. -/
theorem stableSort_pairwise_stable {R : α → α → Prop} {xs : List α}
    (htotal : ∀ a b, le a b = true ∨ le b a = true)
    (htrans : ∀ a b c, le a b = true → le b c = true → le a c = true) (h : xs.Pairwise R) :
    (stableSort le xs).Pairwise (StablyBefore le R) := by
  induction xs with
  | nil => exact .nil
  | cons x xs ih =>
    obtain ⟨hx, hxs⟩ := List.pairwise_cons.mp h
    exact insertSorted_pairwise_stable le htotal htrans (ih hxs)
      fun y hy => hx y ((mem_stableSort le).mp hy)

/-- Elements are sorted by what they stand for. -/
theorem stableSort_map {β : Type} (f : β → α) (xs : List β) :
    stableSort le (xs.map f) = (stableSort (fun a b => le (f a) (f b)) xs).map f := by
  rw [stableSort_eq_insertionSort, stableSort_eq_insertionSort]
  exact (List.map_insertionSort _ _ f xs fun _ _ _ _ => Iff.rfl).symm

theorem filter_insertSorted {p : α → Bool} (hp : ∀ a b, p a = true → p b = true → le a b = true)
    (x : α) (ys : List α) : (insertSorted le x ys).filter p = (x :: ys).filter p := by
  induction ys with
  | nil => rfl
  | cons y ys ih =>
    rw [insertSorted]
    split_ifs with hle
    · rfl
    · -- The element goes behind `y`, so `p` does not hold of both.
      have hnot : p x = false ∨ p y = false := by
        by_contra h
        rw [not_or, Bool.not_eq_false, Bool.not_eq_false] at h
        exact hle (hp x y h.1 h.2)
      rw [List.filter_cons, ih]
      rcases hnot with h | h <;> simp [List.filter_cons, h]

/-- Elements that are in order both ways keep their order. -/
theorem filter_stableSort {p : α → Bool} (hp : ∀ a b, p a = true → p b = true → le a b = true)
    (xs : List α) : (stableSort le xs).filter p = xs.filter p := by
  induction xs with
  | nil => rfl
  | cons x xs ih => rw [stableSort, filter_insertSorted le hp, List.filter_cons, ih, List.filter_cons]

/-- Without different elements that are in order both ways there is one way to sort. -/
theorem stableSort_eq_of_perm {xs ys : List α} (htotal : ∀ a b, le a b = true ∨ le b a = true)
    (htrans : ∀ a b c, le a b = true → le b c = true → le a c = true) (hperm : xs.Perm ys)
    (hanti : ∀ a ∈ xs, ∀ b ∈ xs, le a b = true → le b a = true → a = b) :
    stableSort le xs = stableSort le ys := by
  have hsame : (stableSort le xs).Perm (stableSort le ys) :=
    (stableSort_perm le xs).trans (hperm.trans (stableSort_perm le ys).symm)
  refine hsame.eq_of_pairwise ?_ (stableSort_pairwise le htotal htrans xs)
    (stableSort_pairwise le htotal htrans ys)
  intro a b ha hb hab hba
  rw [mem_stableSort] at ha hb
  exact hanti a ha b (hperm.mem_iff.mpr hb) hab hba

theorem stableSort_of_pairwise {xs : List α} (h : xs.Pairwise fun a b => le a b = true) :
    stableSort le xs = xs := by
  rw [stableSort_eq_insertionSort]
  exact h.insertionSort_eq

end

/-! ## Texts in order -/

namespace Text

theorem le_iff {s t : Text} : le s t = true ↔ ¬t < s := by
  induction s generalizing t with
  | nil => simp [le]
  | cons a s ih =>
    cases t with
    | nil => simp [le]
    | cons b t =>
      rw [le, List.cons_lt_cons_iff]
      by_cases hab : a = b
      · simp only [hab, if_true, ih, Char.lt_irrefl, true_and, false_or]
      · have hlt : b < a ↔ b.toNat < a.toNat := UInt32.lt_iff_toNat_lt
        have hne : a.toNat ≠ b.toNat := fun h => hab (Char.toNat_inj.mp h)
        simp only [hab, Ne.symm hab, hlt, if_false, decide_eq_true_eq, false_and, or_false]
        omega

theorem le_total (s t : Text) : le s t = true ∨ le t s = true := by
  rw [le_iff, le_iff]
  exact List.le_total s t

theorem le_trans (s t u : Text) (hst : le s t = true) (htu : le t u = true) : le s u = true := by
  rw [le_iff] at *
  exact List.le_trans hst htu

theorem lt_of_le_of_ne {s t : Text} (h : le s t = true) (hne : s ≠ t) : s < t := by
  by_contra hlt
  exact hne (List.le_antisymm (le_iff.mp h) hlt)

end Text

/-- Sorting by texts that are all different puts them in strict order. -/
theorem stableSort_pairwise_lt (key : α → Text) {xs : List α} (h : (xs.map key).Nodup) :
    ((stableSort (fun a b => Text.le (key a) (key b)) xs).map key).Pairwise (· < ·) := by
  have hsorted := stableSort_pairwise (fun a b => Text.le (key a) (key b))
    (fun a b => Text.le_total _ _) (fun a b c => Text.le_trans _ _ _) xs
  have hnodup := ((stableSort_perm (fun a b => Text.le (key a) (key b)) xs).map key).nodup_iff.mpr h
  rw [List.pairwise_map]
  exact (hsorted.and (List.pairwise_map.mp hnodup)).imp fun h => Text.lt_of_le_of_ne h.1 h.2

/-! ## Lists without repetitions -/

section

variable [BEq α] [LawfulBEq α]

theorem mem_distinct {x : α} {xs : List α} : x ∈ distinct xs ↔ x ∈ xs := by
  induction xs with
  | nil => rfl
  | cons y ys ih =>
    rw [distinct, List.mem_cons, List.mem_cons, List.mem_filter, ih]
    by_cases h : x = y
    · simp [h]
    · simp [h, Ne.symm h]

theorem nodup_distinct (xs : List α) : (distinct xs).Nodup := by
  induction xs with
  | nil => exact List.nodup_nil
  | cons y ys ih =>
    rw [distinct, List.nodup_cons]
    exact ⟨by simp, ih.filter _⟩

theorem distinct_of_nodup {xs : List α} (h : xs.Nodup) : distinct xs = xs := by
  induction xs with
  | nil => rfl
  | cons x xs ih =>
    obtain ⟨hx, hxs⟩ := List.nodup_cons.mp h
    rw [distinct, ih hxs, List.filter_eq_self.mpr]
    intro y hy
    have hne : x ≠ y := fun heq => hx (heq ▸ hy)
    simpa using hne

/-- Of a list behind another one, what the first does not have is added. -/
theorem distinct_append (xs ys : List α) :
    distinct (xs ++ ys) = distinct xs ++ (distinct ys).filter fun y => !xs.contains y := by
  induction xs with
  | nil =>
    rw [List.nil_append, distinct, List.nil_append, List.filter_eq_self.mpr]
    intro y _
    rfl
  | cons x xs ih =>
    rw [List.cons_append, distinct, ih, List.filter_append, List.filter_filter, distinct,
      List.cons_append]
    congr 2
    refine List.filter_congr fun y _ => ?_
    rw [List.contains_cons, Bool.not_or, BEq.comm]

theorem distinct_concat (xs : List α) (x : α) [Decidable (x ∈ xs)] :
    distinct (xs ++ [x]) = if x ∈ xs then distinct xs else distinct xs ++ [x] := by
  rw [distinct_append]
  split_ifs with h <;> simp [distinct, h]

/-- The elements stand in the order in which they first occur. -/
theorem pairwise_idxOf_distinct (xs : List α) :
    (distinct xs).Pairwise fun x y => xs.idxOf x < xs.idxOf y := by
  induction xs with
  | nil => exact .nil
  | cons x xs ih =>
    have hlater : ∀ y ∈ (distinct xs).filter (fun y => !(x == y)),
        (x :: xs).idxOf y = xs.idxOf y + 1 := by
      intro y hy
      have hne : x ≠ y := by simpa using (List.mem_filter.mp hy).2
      exact List.idxOf_cons_ne xs hne
    rw [distinct]
    refine List.pairwise_cons.mpr ⟨fun y hy => ?_, ?_⟩
    · rw [hlater y hy, List.idxOf_cons_self]
      omega
    · refine (ih.filter _).imp_of_mem fun hy hz h => ?_
      rw [hlater _ hy, hlater _ hz]
      omega

end

end HouseStyle
