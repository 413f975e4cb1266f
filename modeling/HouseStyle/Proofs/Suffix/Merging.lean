import HouseStyle.Suffix
import Mathlib.Data.List.Nodup

/-!
# Lists of suffix rules

`SuffixRule.put` gives a pattern its suffix in place, or adds a rule at the end, so that every pattern
keeps its place and occurs once.

Main results:
* `SuffixRule.map_pattern_put`: what becomes of the patterns.
* `SuffixRule.nodup_putAll`: adding rules keeps the patterns different.
* `SuffixRule.mem_putAll`: adding rules makes up no rule.
-/

namespace HouseStyle

/-- A key that is added at the end unless it is there leaves the keys different. -/
theorem nodup_addKey {α : Type} {k : α} {ks : List α} [Decidable (k ∈ ks)] (h : ks.Nodup) :
    (if k ∈ ks then ks else ks ++ [k]).Nodup := by
  split_ifs with hk
  · exact h
  · rw [← List.concat_eq_append]
    exact h.concat hk

namespace SuffixRule

variable {pattern suffix : Text} {r : SuffixRule} {rs base extra : List SuffixRule}

theorem mem_put (h : r ∈ put pattern suffix rs) : r = ⟨pattern, suffix⟩ ∨ r ∈ rs := by
  induction rs with
  | nil => exact .inl (List.mem_singleton.mp h)
  | cons q rs ih =>
    rw [put] at h
    split_ifs at h
    · rcases List.mem_cons.mp h with h | h
      · exact .inl h
      · exact .inr (List.mem_cons_of_mem q h)
    · rcases List.mem_cons.mp h with h | h
      · exact .inr (h ▸ List.mem_cons_self)
      · exact (ih h).imp_right (List.mem_cons_of_mem q)

/-- A pattern that has a rule stays in its place, and a new one goes to the end. -/
theorem map_pattern_put (pattern suffix : Text) (rs : List SuffixRule) :
    (put pattern suffix rs).map (·.pattern) =
      if pattern ∈ rs.map (·.pattern) then rs.map (·.pattern)
      else rs.map (·.pattern) ++ [pattern] := by
  induction rs with
  | nil => rfl
  | cons q rs ih =>
    rw [put, List.map_cons]
    by_cases h : q.pattern = pattern
    · rw [if_pos h, if_pos (h ▸ List.mem_cons_self), List.map_cons, h]
    · rw [if_neg h, List.map_cons, ih]
      simp only [List.mem_cons, Ne.symm h, false_or]
      split_ifs <;> rfl

theorem nodup_put (h : (rs.map (·.pattern)).Nodup) :
    ((put pattern suffix rs).map (·.pattern)).Nodup := by
  rw [map_pattern_put]
  exact nodup_addKey h

/-- Adding rules keeps the patterns different. -/
theorem nodup_putAll (h : (base.map (·.pattern)).Nodup) :
    ((putAll base extra).map (·.pattern)).Nodup := by
  induction extra generalizing base with
  | nil => exact h
  | cons r rs ih => exact ih (nodup_put h)

/-- Adding rules makes up no rule. -/
theorem mem_putAll (h : r ∈ putAll base extra) : r ∈ base ∨ r ∈ extra := by
  induction extra generalizing base with
  | nil => exact .inl h
  | cons q rs ih =>
    rcases ih h with h | h
    · rcases mem_put h with rfl | h
      · exact .inr List.mem_cons_self
      · exact .inl h
    · exact .inr (List.mem_cons_of_mem q h)

theorem nodup_merge : ((merge base extra).map (·.pattern)).Nodup := nodup_putAll (nodup_putAll .nil)

theorem mem_merge (h : r ∈ merge base extra) : r ∈ base ∨ r ∈ extra := by
  rcases mem_putAll h with h | h
  · exact .inl ((mem_putAll h).resolve_left List.not_mem_nil)
  · exact .inr h

end SuffixRule

end HouseStyle
