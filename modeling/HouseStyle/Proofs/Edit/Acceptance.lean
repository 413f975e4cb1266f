import HouseStyle.Proofs.Edit.Conflict
import Mathlib.Data.List.Pairwise

/-!
# Edits of any shape

Fixers of plugins are free to give edits with any columns and any expected texts. For such edits the
range is what `slice` makes of the two columns: one beyond the end of the line means that end, and a
negative one counts from it.

The order in which edits are given is irrelevant as long as their ranges are not empty. Sorting leaves
edits that start at one place in the given order, but such edits intersect and are refused in any order.

An edit that is accepted finds its expected text, but not all of its range need be in the line: where
the expected text is empty or cut short by the end of the line, the comparison cannot tell. A range that
runs backwards is empty for the comparison, and what is between its columns is doubled when it is replaced.

Main definitions:
* `Edit.InLine`: the range of an edit is a range of the line.

Main results:
* `Edit.stableSort_eq_of_perm`: edits that do not intersect can be sorted in one way only.
* `Edit.applyAll_perm`: the order of edits with ranges that are not empty is irrelevant.
* `Edit.inLine_iff`: which edits that find their expected text have a range of the line.
* `Edit.applyAll_accepts`: which edits are accepted, and which of these have a range of their line.
-/

namespace HouseStyle.Edit

/-! ## The order of the edits -/

/-- Edits that do not intersect can be sorted in one way only, since any two of them start at different
    places. -/
theorem stableSort_eq_of_perm {a b : List Edit} (hperm : a.Perm b) (hw : ∀ e ∈ a, e.col < e.endCol)
    (hapart : a.Pairwise Apart) : stableSort le a = stableSort le b := by
  refine HouseStyle.stableSort_eq_of_perm le le_total le_trans hperm ?_
  intro d hd e he hde hed
  -- Edits that are sorted both ways start at one place, and ranges that are not empty share it.
  by_contra hne
  have : Std.Symm Apart := ⟨fun _ _ => Apart.symm⟩
  have hdisjoint : Apart d e := hapart.forall hd he hne
  have hdlt := hw d hd
  have helt := hw e he
  simp only [le, Bool.or_eq_true, Bool.and_eq_true, decide_eq_true_eq] at hde hed
  rcases hdisjoint (by omega) with h | h <;> omega

/-- **The order of edits is irrelevant.** Edits with ranges that are not empty, whatever their lines and
    texts are, are either refused in both of two orders, or give the same text in both. -/
theorem applyAll_perm (text : Text) {a b : List Edit} (hperm : a.Perm b)
    (hw : ∀ e ∈ a, e.col < e.endCol) :
    ((∃ c, applyAll text a = .error c) ∧ ∃ c, applyAll text b = .error c) ∨
      ∃ updated, applyAll text a = .ok updated ∧ applyAll text b = .ok updated := by
  have hw' : ∀ e ∈ b, e.col < e.endCol := fun e he => hw e (hperm.mem_iff.mpr he)
  -- What the check asks of the sorted edits does not depend on their order, though the first conflict
  -- that it finds does.
  have hcheck : check text.newlineLines none (stableSort le a) = none ↔
      check text.newlineLines none (stableSort le b) = none := by
    rw [check_stableSort_eq_none_iff hw, check_stableSort_eq_none_iff hw',
      hperm.pairwise_iff Apart.symm]
    simp only [hperm.mem_iff]
  by_cases h : check text.newlineLines none (stableSort le a) = none
  · have hsort := stableSort_eq_of_perm hperm hw ((check_stableSort_eq_none_iff hw).mp h).2
    refine Or.inr ⟨_, applyAll_eq_ok_iff.mpr ⟨h, rfl⟩, applyAll_eq_ok_iff.mpr ⟨hcheck.mp h, ?_⟩⟩
    rw [hsort]
  · obtain ⟨c, hc⟩ := Option.ne_none_iff_exists'.mp h
    obtain ⟨d, hd⟩ := Option.ne_none_iff_exists'.mp (mt hcheck.mpr h)
    exact Or.inl ⟨⟨c, applyAll_eq_error_iff.mpr hc⟩, ⟨d, applyAll_eq_error_iff.mpr hd⟩⟩

/-- Three edits in the reverse order; the range of the first is longer than the rest of its line. -/
theorem applyAll_perm_reverse :
    let text : Text := "foo bar\nbaz\n"
    let edits : List Edit :=
      [⟨"P01", 1, 5, 90, "bar\n", "BAR "⟩, ⟨"N01", 2, 1, 4, "baz", ""⟩, ⟨"P02", 1, 1, 4, "foo", "f"⟩]
    (∀ e ∈ edits, e.col < e.endCol) ∧ applyAll text edits.reverse = .ok "f BAR \n" := by
  intro text edits
  have hw : ∀ e ∈ edits, e.col < e.endCol := by simp [edits]
  have hgiven : applyAll text edits = .ok "f BAR \n" := by decide
  refine ⟨hw, ?_⟩
  rcases applyAll_perm text (List.reverse_perm edits).symm hw with ⟨⟨c, hc⟩, -⟩ | ⟨_, hok, hreverse⟩
  · rw [hgiven] at hc
    cases hc
  · rw [hreverse, ← hok, hgiven]

/-! ## Ranges of a line -/

/-- The range does not run backwards, it starts in the first column or later, and it ends at most behind
    the last character. -/
def InLine (e : Edit) (line : Text) : Prop :=
  1 ≤ e.col ∧ e.col ≤ e.endCol ∧ e.endCol ≤ line.length + 1

instance (e : Edit) (line : Text) : Decidable (e.InLine line) :=
  inferInstanceAs (Decidable (1 ≤ e.col ∧ e.col ≤ e.endCol ∧ e.endCol ≤ line.length + 1))

theorem length_slice {α : Type} (xs : List α) (i j : Int) :
    (slice xs i j).length = clampPosition xs.length j - clampPosition xs.length i := by
  unfold slice clampPosition
  rw [List.length_drop, List.length_take]
  split_ifs <;> omega

/-- Of the edits that find their expected text, those have a range of the line that start in a column of
    it and have a range as long as the text. A text that is not empty says by itself that the range starts
    in the line. -/
theorem inLine_iff {e : Edit} {line : Text}
    (hslice : slice line (e.col - 1) (e.endCol - 1) = e.oldText) :
    e.InLine line ↔ 1 ≤ e.col ∧ e.endCol = e.col + e.oldText.length ∧
      (e.oldText = [] → e.col ≤ line.length + 1) := by
  -- With positive columns only the end of the line can shorten the slice, so its length shows where the
  -- range ends.
  have hlen := length_slice line (e.col - 1) (e.endCol - 1)
  rw [hslice] at hlen
  rw [← List.length_eq_zero_iff, InLine]
  constructor
  · rintro ⟨hcol, hle, hend⟩
    rw [clampPosition_of_nonneg (by omega), clampPosition_of_nonneg (by omega)] at hlen
    exact ⟨hcol, by omega, by omega⟩
  · rintro ⟨hcol, hend, hempty⟩
    rw [clampPosition_of_nonneg (by omega), clampPosition_of_nonneg (by omega)] at hlen
    exact ⟨hcol, by omega, by omega⟩

theorem exists_applyAll_iff {text : Text} {edits : List Edit} :
    (∃ updated, applyAll text edits = .ok updated) ↔
      (∀ e ∈ edits, e.Fits text.newlineLines) ∧ List.IsChain Follows (stableSort le edits) := by
  simp only [applyAll_eq_ok_iff, exists_and_left, exists_eq', and_true]
  rw [check_eq_none_iff]
  simp only [mem_stableSort, Option.toList_none, List.nil_append]

/-- **What is accepted.** Edits with any columns and texts are accepted exactly if every edit addresses a
    line of the text and finds its expected text there, as `slice` cuts the line, and in sorted order none
    starts inside the one before it. The range of an accepted edit is a range of its line exactly if its
    column is positive, it is as long as the expected text, and, where that text is empty, it starts in the
    line or right behind it. -/
theorem applyAll_accepts (text : Text) (edits : List Edit) :
    ((∃ updated, applyAll text edits = .ok updated) ↔
      (∀ e ∈ edits, e.Fits text.newlineLines) ∧ List.IsChain Follows (stableSort le edits)) ∧
    ∀ updated, applyAll text edits = .ok updated → ∀ e ∈ edits,
      (1 ≤ e.line ∧ e.line ≤ text.newlineLines.length) ∧
      ∃ line, e.target? text.newlineLines = some line ∧
        slice line (e.col - 1) (e.endCol - 1) = e.oldText ∧
        (e.InLine line ↔ 1 ≤ e.col ∧ e.endCol = e.col + e.oldText.length ∧
          (e.oldText = [] → e.col ≤ line.length + 1)) := by
  refine ⟨exists_applyAll_iff, ?_⟩
  intro updated h e he
  have hfits : e.Fits text.newlineLines := (exists_applyAll_iff.mp ⟨updated, h⟩).1 e he
  have hline := (fits_iff.mp hfits).1
  obtain ⟨line, htarget, hslice⟩ := hfits
  exact ⟨hline, line, htarget, hslice, inLine_iff hslice⟩

/-- A range up to the end of the line, and one at that end that is empty. -/
theorem applyAll_accepts_lineEnd :
    let text : Text := "ab\ncd"
    let edits : List Edit := [⟨"P01", 2, 3, 3, "", "!"⟩, ⟨"P02", 1, 2, 4, "b\n", ""⟩]
    applyAll text edits = .ok "acd!" ∧ ∀ e ∈ edits, ∃ line,
      e.target? text.newlineLines = some line ∧ e.InLine line := by
  intro text edits
  have hok : applyAll text edits = .ok "acd!" := by decide
  refine ⟨hok, fun e he => ?_⟩
  obtain ⟨-, line, htarget, -, hin⟩ := (applyAll_accepts text edits).2 _ hok e he
  refine ⟨line, htarget, hin.mpr ?_⟩
  simp only [edits, List.mem_cons, List.not_mem_nil, or_false] at he
  rcases he with rfl | rfl
  · obtain rfl : line = "cd".toList := (Option.some.inj htarget).symm
    decide
  · obtain rfl : line = "ab\n".toList := (Option.some.inj htarget).symm
    decide

/-- A range that runs backwards is accepted, and the characters between its columns are doubled. -/
theorem applyAll_backwards_range :
    let e : Edit := ⟨"P01", 1, 3, 1, "", "-"⟩
    applyAll "abc" [e] = .ok "ab-abc" ∧ e.target? (Text.newlineLines "abc") = some "abc" ∧
      ¬ e.InLine "abc" := by
  decide

end HouseStyle.Edit
