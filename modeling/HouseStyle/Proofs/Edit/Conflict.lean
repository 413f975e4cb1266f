import HouseStyle.Proofs.Edit.Local
import HouseStyle.Proofs.Sorting

/-!
# Conflicts of edits

Edits are refused if one of them does not find what it expects, or if two of them intersect. The pass
over the edits only compares neighbours in sorted order; since ranges are not empty, that is enough.

Main results:
* `Edit.check_eq_none_iff`: what the pass accepts, for edits in the given order.
* `Edit.pairwise_before_of_isChain`: sorted edits whose neighbours do not intersect are disjoint.
* `Edit.check_stableSort_eq_none_iff`: what the pass accepts after sorting.
* `Edit.applyAll_eq_ok_iff`, `Edit.applyAll_eq_error_iff`: edits are applied if the pass finds nothing.
* `Edit.IsLocal.applyAll_eq`, `Edit.applyAll_eq_error`: applying edits without and with conflicts.
-/

namespace HouseStyle.Edit

/-- Two edits that do not intersect: on one line, one of them ends before the other starts. -/
def Apart (a b : Edit) : Prop := a.line = b.line → a.endCol ≤ b.col ∨ b.endCol ≤ a.col

/-! ## The pass over the edits -/

/-- The second edit does not start inside the first one. -/
def Follows (a b : Edit) : Prop := a.line = b.line → a.endCol ≤ b.col

theorem conflict?_none_eq_none_iff {lines : List Text} {e : Edit} :
    e.conflict? lines none = none ↔ e.Fits lines := by
  unfold Fits
  cases htarget : e.target? lines with
  | none => simp [conflict?, htarget]
  | some line => simp [conflict?, htarget]

theorem conflict?_eq_none_iff {lines : List Text} {previous : Option Edit} {e : Edit} :
    e.conflict? lines previous = none ↔ (∀ p ∈ previous, Follows p e) ∧ e.Fits lines := by
  rw [← conflict?_none_eq_none_iff]
  cases previous with
  | none => simp
  | some p =>
    by_cases h : p.line = e.line ∧ e.col < p.endCol
    · have hnot : ¬ Follows p e := fun hf => by have := hf h.1; omega
      simp [conflict?, h, hnot]
    · have hf : Follows p e := fun hl => by by_contra hc; exact h ⟨hl, by omega⟩
      simp [conflict?, h, hf]

/-- The pass over the edits finds nothing exactly if every edit fits and none starts inside the one
    before it. -/
theorem check_eq_none_iff {lines : List Text} {previous : Option Edit} {edits : List Edit} :
    check lines previous edits = none ↔
      (∀ e ∈ edits, e.Fits lines) ∧ List.IsChain Follows (previous.toList ++ edits) := by
  induction edits generalizing previous with
  | nil => cases previous <;> simp [check]
  | cons e edits ih =>
    have hstep : check lines previous (e :: edits) = none ↔
        e.conflict? lines previous = none ∧ check lines (some e) edits = none := by
      rw [check]
      cases e.conflict? lines previous <;> simp
    rw [hstep, conflict?_eq_none_iff, ih, List.forall_mem_cons]
    cases previous with
    | none => simp; tauto
    | some p => simp [List.isChain_cons_cons]; tauto

/-! ## Neighbours and pairs -/

theorem le_total (a b : Edit) : le a b = true ∨ le b a = true := by
  simp only [le, Bool.or_eq_true, Bool.and_eq_true, decide_eq_true_eq]
  omega

theorem le_trans (a b c : Edit) (hab : le a b = true) (hbc : le b c = true) : le a c = true := by
  simp only [le, Bool.or_eq_true, Bool.and_eq_true, decide_eq_true_eq] at *
  omega

theorem Before.of_follows {a b : Edit} (hle : le a b = true) (h : Follows a b) : Before a b := by
  simp only [le, Bool.or_eq_true, Bool.and_eq_true, decide_eq_true_eq] at hle
  rcases hle with hlt | ⟨heq, _⟩
  · exact Or.inl hlt
  · exact Or.inr ⟨heq, h heq⟩

theorem Before.of_apart {a b : Edit} (hb : b.col < b.endCol) (hle : le a b = true) (h : Apart a b) :
    Before a b := by
  simp only [le, Bool.or_eq_true, Bool.and_eq_true, decide_eq_true_eq] at hle
  rcases hle with hlt | ⟨heq, hcol⟩
  · exact Or.inl hlt
  · refine Or.inr ⟨heq, ?_⟩
    rcases h heq with h | h <;> omega

theorem Before.apart {a b : Edit} (h : Before a b) : Apart a b := by
  intro heq
  rcases h with hlt | ⟨_, hcol⟩
  · omega
  · exact Or.inl hcol

theorem Apart.symm {a b : Edit} (h : Apart a b) : Apart b a := fun heq => (h heq.symm).symm

/-- In sorted edits neighbours decide: ranges are not empty, so an edit that ends before its
    successor starts also ends before all later ones. -/
theorem pairwise_before_of_isChain {edits : List Edit} (hw : ∀ e ∈ edits, e.col < e.endCol)
    (hsorted : edits.Pairwise fun a b => le a b = true) (hchain : List.IsChain Follows edits) :
    edits.Pairwise Before := by
  induction edits with
  | nil => exact List.Pairwise.nil
  | cons a edits ih =>
    obtain ⟨ha, hw⟩ := List.forall_mem_cons.mp hw
    obtain ⟨hfirst, hsorted⟩ := List.pairwise_cons.mp hsorted
    have hrest := ih hw hsorted (List.isChain_of_isChain_cons hchain)
    refine List.pairwise_cons.mpr ⟨?_, hrest⟩
    intro c hc
    cases edits with
    | nil => cases hc
    | cons b edits =>
      have hab := Before.of_follows (hfirst b List.mem_cons_self) (List.isChain_cons_cons.mp hchain).1
      rcases List.mem_cons.mp hc with rfl | hc
      · exact hab
      · have hb := hw b List.mem_cons_self
        have hbc := (List.pairwise_cons.mp hrest).1 c hc
        unfold Before at *
        omega

theorem pairwise_before_of_apart {edits : List Edit} (hw : ∀ e ∈ edits, e.col < e.endCol)
    (hapart : edits.Pairwise Apart) : (stableSort le edits).Pairwise Before := by
  have hsorted := stableSort_pairwise le le_total le_trans edits
  have hapart := ((stableSort_perm le edits).pairwise_iff Apart.symm).mpr hapart
  refine (hsorted.and hapart).imp_of_mem ?_
  intro a b _ hb ⟨hle, hab⟩
  rw [mem_stableSort] at hb
  exact Before.of_apart (hw b hb) hle hab

/-- The pass over the sorted edits accepts exactly the edits that fit and do not intersect. -/
theorem check_stableSort_eq_none_iff {lines : List Text} {edits : List Edit}
    (hw : ∀ e ∈ edits, e.col < e.endCol) :
    check lines none (stableSort le edits) = none ↔
      (∀ e ∈ edits, e.Fits lines) ∧ edits.Pairwise Apart := by
  rw [check_eq_none_iff]
  simp only [mem_stableSort, Option.toList_none, List.nil_append]
  apply and_congr_right
  intro _
  constructor
  · intro hchain
    have hsorted := stableSort_pairwise le le_total le_trans edits
    have hbefore := pairwise_before_of_isChain (by simpa using hw) hsorted hchain
    exact ((stableSort_perm le edits).pairwise_iff Apart.symm).mp (hbefore.imp Before.apart)
  · intro hapart
    refine (pairwise_before_of_apart hw hapart).isChain.imp ?_
    intro a b hab heq
    rcases hab with hlt | ⟨_, hcol⟩
    · omega
    · exact hcol

theorem fits_iff {lines : List Text} {e : Edit} :
    e.Fits lines ↔ (1 ≤ e.line ∧ e.line ≤ lines.length) ∧ ∀ line, e.target? lines = some line →
      slice line (e.col - 1) (e.endCol - 1) = e.oldText := by
  constructor
  · rintro ⟨line, htarget, hslice⟩
    obtain ⟨hpos, hget⟩ := target?_eq_some_iff.mp htarget
    have hlt := (List.getElem?_eq_some_iff.mp hget).1
    refine ⟨⟨hpos, by omega⟩, ?_⟩
    intro line' htarget'
    rw [htarget] at htarget'
    cases htarget'
    exact hslice
  · rintro ⟨⟨hpos, hle⟩, hslice⟩
    have hlt : (e.line - 1).toNat < lines.length := by omega
    have htarget := target?_eq_some_iff.mpr ⟨hpos, List.getElem?_eq_getElem hlt⟩
    exact ⟨_, htarget, hslice _ htarget⟩

/-! ## Applying edits -/

/-- Without edits the lines are put together again, so the empty list is no case of its own. -/
theorem applyAll_eq (text : Text) (edits : List Edit) :
    applyAll text edits =
      match check text.newlineLines none (stableSort le edits) with
      | some c => .error c
      | none => .ok ((stableSort le edits).reverse.foldl apply text.newlineLines).flatten := by
  unfold applyAll
  cases hsort : stableSort le edits with
  | nil => simp [check]
  | cons e ordered => rfl

theorem applyAll_eq_ok_iff {text updated : Text} {edits : List Edit} :
    applyAll text edits = .ok updated ↔
      check text.newlineLines none (stableSort le edits) = none ∧
        ((stableSort le edits).reverse.foldl apply text.newlineLines).flatten = updated := by
  rw [applyAll_eq]
  cases check text.newlineLines none (stableSort le edits) <;> simp

theorem applyAll_eq_error_iff {text : Text} {edits : List Edit} {c : Conflict} :
    applyAll text edits = .error c ↔ check text.newlineLines none (stableSort le edits) = some c := by
  rw [applyAll_eq]
  cases check text.newlineLines none (stableSort le edits) <;> simp

/-! ## Edits that know what they replace -/

theorem pairwise_before_stableSort {edits : List Edit} (hw : ∀ e ∈ edits, e.WellShaped)
    (hapart : edits.Pairwise Apart) : (stableSort le edits).Pairwise Before :=
  pairwise_before_of_apart (fun e he => (hw e he).col_lt) hapart

theorem IsLocal.applyAll_eq {P : Edit → Prop} {F : List Edit → Place → Char → Text}
    (hF : IsLocal P F) {text : Text} {edits : List Edit} (hP : ∀ e ∈ edits, P e)
    (hfit : ∀ e ∈ edits, e.Fits text.newlineLines) (hapart : edits.Pairwise Apart) :
    applyAll text edits = .ok (text.rewrite (F (stableSort le edits))) := by
  have hw : ∀ e ∈ edits, e.WellShaped := fun e he => hF.wellShaped (hP e he)
  have hcheck : check text.newlineLines none (stableSort le edits) = none :=
    (check_stableSort_eq_none_iff fun e he => (hw e he).col_lt).mpr ⟨hfit, hapart⟩
  refine applyAll_eq_ok_iff.mpr ⟨hcheck, ?_⟩
  exact hF.flatten_foldl_apply (by simpa using hP) (by simpa using hfit)
    (pairwise_before_stableSort hw hapart)

theorem applyAll_eq_error {text : Text} {edits : List Edit} (hw : ∀ e ∈ edits, e.WellShaped)
    (h : ¬ ((∀ e ∈ edits, e.Fits text.newlineLines) ∧ edits.Pairwise Apart)) :
    ∃ c, applyAll text edits = .error c := by
  have hcheck : check text.newlineLines none (stableSort le edits) ≠ none :=
    mt (check_stableSort_eq_none_iff fun e he => (hw e he).col_lt).mp h
  obtain ⟨c, hc⟩ := Option.ne_none_iff_exists'.mp hcheck
  exact ⟨c, applyAll_eq_error_iff.mpr hc⟩

/-- Edits that can be applied fit and do not intersect. -/
theorem fits_of_applyAll {text updated : Text} {edits : List Edit} (hw : ∀ e ∈ edits, e.WellShaped)
    (h : applyAll text edits = .ok updated) :
    (∀ e ∈ edits, e.Fits text.newlineLines) ∧ edits.Pairwise Apart :=
  (check_stableSort_eq_none_iff fun e he => (hw e he).col_lt).mp (applyAll_eq_ok_iff.mp h).1

end HouseStyle.Edit
