import HouseStyle.Proofs.Sorting
import HouseStyle.Proofs.Suffix.NormalForm
import Mathlib.Data.List.Induction

/-!
# Laws of merging

Adding rules one after the other keeps the place of a pattern from its first rule and takes its suffix
from its last one. Both are said of the rules in a row: the patterns of the result are those of the row
without repetitions, and its members are the rules that no later rule of the row replaces. A list with
different patterns is given by these two, so the laws of merging are equations between rows.

Main definitions:
* `SuffixRule.IsLast`: the rules of a row that no later one replaces.
* `SuffixRule.IsNumbering`: the keys of a table that only number its entries.

Main results:
* `SuffixRule.map_pattern_putAll`, `SuffixRule.mem_putAll_iff`: patterns and members of a row.
* `SuffixRule.putAll_congr`: rows that agree in both give the same rules.
* `SuffixRule.putAll_putAll_append`, `SuffixRule.putAll_append_putAll`: part of a row may be added first.
* `SuffixRule.merge_laws`: what merging gives, and its laws.
-/

namespace HouseStyle

namespace SuffixRule

variable {pattern suffix : Text} {q r : SuffixRule} {a b rs rs' : List SuffixRule}

/-! ## Rules in a row -/

/-- The rule is in the row, and no later one has its pattern. -/
def IsLast (r : SuffixRule) (rs : List SuffixRule) : Prop :=
  ∃ earlier later, rs = earlier ++ r :: later ∧ r.pattern ∉ later.map (·.pattern)

theorem isLast_append :
    IsLast r (a ++ b) ↔ IsLast r b ∨ IsLast r a ∧ r.pattern ∉ b.map (·.pattern) := by
  constructor
  · rintro ⟨earlier, later, heq, hnew⟩
    rcases List.append_eq_append_iff.mp heq with ⟨mid, rfl, rfl⟩ | ⟨mid, rfl, hmid⟩
    · exact Or.inl ⟨mid, later, rfl, hnew⟩
    · cases mid with
      | nil => exact Or.inl ⟨[], later, hmid.symm, hnew⟩
      | cons x mid =>
        obtain ⟨rfl, hlater⟩ := List.cons.inj hmid
        rw [show later = mid ++ b from hlater, List.map_append, List.mem_append, not_or] at hnew
        exact Or.inr ⟨⟨earlier, mid, rfl, hnew.1⟩, hnew.2⟩
  · rintro (⟨earlier, later, rfl, hnew⟩ | ⟨⟨earlier, later, rfl, hnew⟩, hb⟩)
    · exact ⟨a ++ earlier, later, (List.append_assoc _ _ _).symm, hnew⟩
    · refine ⟨earlier, later ++ b, by rw [List.append_assoc, List.cons_append], ?_⟩
      rw [List.map_append, List.mem_append, not_or]
      exact ⟨hnew, hb⟩

theorem isLast_singleton : IsLast r [q] ↔ r = q := by
  constructor
  · rintro ⟨earlier, later, heq, -⟩
    have hmem : r ∈ [q] := heq ▸ List.mem_append_right earlier List.mem_cons_self
    exact List.mem_singleton.mp hmem
  · rintro rfl
    exact ⟨[], [], rfl, List.not_mem_nil⟩

theorem mem_put_iff (h : (rs.map (·.pattern)).Nodup) :
    r ∈ put pattern suffix rs ↔ r = ⟨pattern, suffix⟩ ∨ r ∈ rs ∧ r.pattern ≠ pattern := by
  induction rs with
  | nil => simp [put]
  | cons q rs ih =>
    obtain ⟨hq, hrs⟩ := List.nodup_cons.mp h
    rw [put]
    split_ifs with heq
    · have hother : r ∈ rs → r.pattern ≠ pattern := by
        intro hr hpattern
        exact hq (List.mem_map.mpr ⟨r, hr, hpattern.trans heq.symm⟩)
      have hself : r = q → r.pattern = pattern := fun hrq => hrq ▸ heq
      rw [List.mem_cons, List.mem_cons]
      tauto
    · have hself : r = q → r.pattern ≠ pattern := fun hrq => hrq ▸ heq
      rw [List.mem_cons, List.mem_cons, ih hrs]
      tauto

theorem nodup_map_pattern_putAll (rs : List SuffixRule) : ((putAll [] rs).map (·.pattern)).Nodup :=
  nodup_putAll .nil

theorem putAll_concat (rs : List SuffixRule) (q : SuffixRule) :
    putAll [] (rs ++ [q]) = put q.pattern q.suffix (putAll [] rs) := List.foldl_concat ..

/-- The patterns stand in the order of their first rules. -/
theorem map_pattern_putAll (rs : List SuffixRule) :
    (putAll [] rs).map (·.pattern) = distinct (rs.map (·.pattern)) := by
  -- From the end of the row: the rule that is added last decides whether there is a new place.
  induction rs using List.reverseRecOn with
  | nil => rfl
  | append_singleton rs q ih =>
    rw [putAll_concat, map_pattern_put, ih, List.map_append, List.map_singleton, distinct_concat]
    simp only [mem_distinct]

/-- The rules are those that no later one replaces. -/
theorem mem_putAll_iff : r ∈ putAll [] rs ↔ IsLast r rs := by
  induction rs using List.reverseRecOn with
  | nil => simp [putAll, IsLast]
  | append_singleton rs q ih =>
    rw [putAll_concat, mem_put_iff (nodup_map_pattern_putAll _), ih, isLast_append, isLast_singleton]
    simp

/-- Lists with the same different patterns and the same members are equal. -/
theorem eq_of_map_pattern (hpatterns : a.map (·.pattern) = b.map (·.pattern))
    (hnodup : (b.map (·.pattern)).Nodup) (hmem : ∀ r ∈ a, r ∈ b) : a = b := by
  have hlen : a.length = b.length := by simpa using congrArg List.length hpatterns
  refine List.ext_getElem hlen fun i ha hb => ?_
  have hpattern : a[i].pattern = b[i].pattern := by
    have := List.getElem_of_eq hpatterns (by simpa using ha)
    simpa using this
  exact List.inj_on_of_nodup_map hnodup (hmem _ (List.getElem_mem ha)) (List.getElem_mem hb) hpattern

/-- Rows with the same patterns and the same last rules give the same rules. -/
theorem putAll_congr (hpatterns : distinct (rs.map (·.pattern)) = distinct (rs'.map (·.pattern)))
    (hlast : ∀ r, IsLast r rs ↔ IsLast r rs') : putAll [] rs = putAll [] rs' := by
  refine eq_of_map_pattern ?_ (nodup_map_pattern_putAll _) fun r hr => ?_
  · rw [map_pattern_putAll, map_pattern_putAll, hpatterns]
  · exact mem_putAll_iff.mpr ((hlast r).mp (mem_putAll_iff.mp hr))

theorem mem_map_pattern_putAll :
    pattern ∈ (putAll [] rs).map (·.pattern) ↔ pattern ∈ rs.map (·.pattern) := by
  rw [map_pattern_putAll, mem_distinct]

/-! ## Laws -/

theorem merge_eq (a b : List SuffixRule) : merge a b = putAll [] (a ++ b) := List.foldl_append.symm

theorem putAll_putAll_append (a b : List SuffixRule) :
    putAll [] (putAll [] a ++ b) = putAll [] (a ++ b) := by
  -- Rules that are merged already are added as they are.
  rw [← merge_eq, ← merge_eq, merge, merge, putAll_nil (nodup_map_pattern_putAll _)]

theorem putAll_append_putAll (a b : List SuffixRule) :
    putAll [] (a ++ putAll [] b) = putAll [] (a ++ b) := by
  -- Here the places come from `a` and the suffixes from `b`, so the two rows are compared in both.
  apply putAll_congr
  · rw [List.map_append, List.map_append, distinct_append, distinct_append, map_pattern_putAll,
      distinct_of_nodup (nodup_distinct _)]
  · intro r
    rw [isLast_append, isLast_append, ← mem_putAll_iff, ← mem_putAll_iff,
      putAll_nil (nodup_map_pattern_putAll _), mem_map_pattern_putAll, mem_putAll_iff]

theorem putAll_append_self (a b : List SuffixRule) :
    putAll [] (a ++ b ++ b) = putAll [] (a ++ b) := by
  apply putAll_congr
  · rw [List.map_append, distinct_append, List.filter_eq_nil_iff.mpr, List.append_nil]
    intro pattern hpattern
    rw [mem_distinct] at hpattern
    simp [hpattern]
  · intro r
    rw [isLast_append, isLast_append]
    tauto

/-! ## Numbered tables -/

/-- The keys only number the entries of a table: they are different integers, or different texts of
    digits. -/
def IsNumbering (keys : List Value) : Prop :=
  (∃ ns : List Int, ns.Nodup ∧ keys = ns.map .int) ∨
    ∃ ts : List Text, ts.Nodup ∧ (∀ t ∈ ts, t.isNumeral = true) ∧ keys = ts.map .text

theorem IsNumbering.isUnnamed {keys : List Value} (h : IsNumbering keys) :
    ∀ k ∈ keys, isUnnamed k = true := by
  rcases h with ⟨ns, -, rfl⟩ | ⟨ts, -, hdigits, rfl⟩
  · intro k hk
    obtain ⟨n, -, rfl⟩ := List.mem_map.mp hk
    rfl
  · intro k hk
    obtain ⟨t, ht, rfl⟩ := List.mem_map.mp hk
    rw [SuffixRule.isUnnamed, Text.strip_of_isNumeral (hdigits t ht)]
    exact hdigits t ht

theorem IsNumbering.pairwise {keys : List Value} (h : IsNumbering keys) :
    keys.Pairwise fun k l => Value.sameKey k l = false := by
  rcases h with ⟨ns, hnodup, rfl⟩ | ⟨ts, hnodup, -, rfl⟩
  · rw [List.pairwise_map]
    refine hnodup.imp fun hne => ?_
    simpa [Value.sameKey, Value.number?] using hne
  · rw [List.pairwise_map]
    refine hnodup.imp fun hne => ?_
    simpa [Value.sameKey] using hne

/-- A table under keys that stand for no pattern is the list of its entries. -/
theorem ofTable_of_isUnnamed {entries : List (Value × Text)} (h : ∀ e ∈ entries, isUnnamed e.1 = true) :
    ofTable entries = ofPatterns (entries.map (·.2)) := by
  have hrules : entries.map (fun e => ofEntry e.1 e.2) = (entries.map (·.2)).map ofPattern := by
    rw [List.map_map]
    refine List.map_congr_left fun e he => ?_
    rw [ofEntry, if_pos (h e he), Function.comp_apply]
  rw [ofTable, ofPatterns, hrules]

/-! ## Merging -/

/-- **What merging gives, and its laws.** The patterns of the merged list are different, and they are those
    of both lists in the order of their first rules; its rules are the last ones of their patterns. Merging
    is associative, the empty list changes nothing about a list with different patterns, and merging the same
    list again changes nothing. A table whose keys only number its entries has all of them, and it stands
    for the list of its patterns. -/
theorem merge_laws (a b c : List SuffixRule) :
    ((merge a b).map (·.pattern)).Nodup ∧
    (∀ p, p ∈ (merge a b).map (·.pattern) ↔ p ∈ a.map (·.pattern) ∨ p ∈ b.map (·.pattern)) ∧
    ((merge a b).map (·.pattern)).Pairwise (fun p q =>
      ((a ++ b).map (·.pattern)).idxOf p < ((a ++ b).map (·.pattern)).idxOf q) ∧
    (∀ r, r ∈ merge a b ↔ IsLast r (a ++ b)) ∧
    merge (merge a b) c = merge a (merge b c) ∧
    ((a.map (·.pattern)).Nodup → merge a [] = a ∧ merge [] a = a) ∧
    merge (merge a b) b = merge a b ∧
    ∀ entries : List (Value × Text), IsNumbering (entries.map (·.1)) →
      Value.ofPairs (entries.map fun e => (e.1, .text e.2)) =
        .table (entries.map fun e => (e.1, .text e.2)) ∧
      ofTable entries = ofPatterns (entries.map (·.2)) := by
  refine ⟨nodup_merge, ?_, ?_, ?_, ?_, ?_, ?_, ?_⟩
  · intro p
    rw [merge_eq, mem_map_pattern_putAll, List.map_append, List.mem_append]
  · rw [merge_eq, map_pattern_putAll]
    exact pairwise_idxOf_distinct _
  · intro r
    rw [merge_eq, mem_putAll_iff]
  · rw [merge_eq, merge_eq, merge_eq, merge_eq, putAll_putAll_append, putAll_append_putAll,
      List.append_assoc]
  · intro h
    rw [merge_eq, merge_eq, List.append_nil, List.nil_append, putAll_nil h]
    exact ⟨rfl, rfl⟩
  · rw [merge_eq, merge_eq, putAll_putAll_append, putAll_append_self]
  · intro entries h
    refine ⟨Value.ofPairs_of_pairwise ?_, ofTable_of_isUnnamed ?_⟩
    · rw [List.pairwise_map]
      exact List.pairwise_map.mp h.pairwise
    · intro e he
      exact h.isUnnamed _ (List.mem_map_of_mem he)

/-- A pattern of the first list comes twice in the second one; tables numbered by integers and by texts. -/
theorem merge_laws_repeated :
    let a : List SuffixRule := [⟨"*Bar", "Bar"⟩, ⟨"*Foo", "Foo"⟩]
    let b : List SuffixRule := [⟨"*Foo", "X"⟩, ⟨"*Baz", "Baz"⟩, ⟨"*Foo", "Y"⟩]
    merge a [] = a ∧ merge (merge a b) b = [⟨"*Bar", "Bar"⟩, ⟨"*Foo", "Y"⟩, ⟨"*Baz", "Baz"⟩] ∧
      ofTable [(.int 7, "*Foo"), (.int (-1), "*BarInterface")] =
        ofPatterns ["*Foo".toList, "*BarInterface"] ∧
      ofTable [(.text "10", "*Foo"), (.text "2", "*Foo")] = ofPatterns ["*Foo".toList, "*Foo"] := by
  intro a b
  obtain ⟨-, -, -, -, -, hempty, hagain, htable⟩ := merge_laws a b []
  refine ⟨(hempty (by decide)).1, ?_, ?_, ?_⟩
  · rw [hagain]
    decide
  · exact (htable _ (Or.inl ⟨[7, -1], by decide, rfl⟩)).2
  · exact (htable _ (Or.inr ⟨["10", "2"], by decide, by decide, rfl⟩)).2

end SuffixRule

end HouseStyle
