import HouseStyle.Proofs.Edit.Conflict
import Mathlib.Algebra.Order.BigOperators.Group.List
import Mathlib.Algebra.Order.Group.Nat
import Mathlib.Algebra.Ring.Nat
import Mathlib.Data.Nat.Cast.Basic

/-!
# Edits that only insert

An edit whose new text extends the expected text does not take anything away: it inserts what is new
behind its range. Edits of this kind leave every character of the text in its place and order, and the
result is the text with further text woven in between.

Main definitions:
* `Text.weave`: the text with something put behind each of its characters.
* `Edit.Extending`, `Edit.added`: edits that extend what they find, and what they add.

Main results:
* `Edit.isLocal_weaveAt`: weaving is a local description of extending edits.
* `Edit.applyAll_eq_weave`: applying extending edits that fit and do not intersect is weaving.
-/

namespace HouseStyle

/-- The text with `behind p` put behind the character at every place `p`. -/
def Text.weave (behind : Place → Text) (t : Text) : Text := t.rewrite fun p c => c :: behind p

theorem Text.length_rewriteLine_weave (behind : Place → Text) (line col : Nat) (t : Text) :
    (rewriteLine (fun p c => c :: behind p) line col t).length =
      t.length + ((t.zipIdx col).map fun x => (behind ⟨line, x.2⟩).length).sum := by
  simp [rewriteLine, List.length_flatMap, List.sum_map_add, Nat.add_comm]

theorem Text.length_weave (behind : Place → Text) (t : Text) :
    (t.weave behind).length = t.length + ((t.newlineLines.zipIdx 1).map fun l =>
      ((l.1.zipIdx 1).map fun x => (behind ⟨l.2, x.2⟩).length).sum).sum := by
  have hlines : ((t.newlineLines.zipIdx 1).map fun l => l.1.length).sum = t.length := by
    conv_rhs => rw [← flatten_newlineLines t, List.length_flatten]
    rw [← List.zipIdx_map_fst 1 t.newlineLines, List.map_map, List.zipIdx_map_fst]
    rfl
  simp only [weave, rewrite, List.length_flatMap, length_rewriteLine_weave, List.sum_map_add, hlines]

/-- If weaving changes nothing, nothing is put behind any character. -/
theorem Text.behind_eq_nil_of_weave_eq {behind : Place → Text} {t : Text} (h : t.weave behind = t)
    {i j : Nat} {l : Text} (hl : t.newlineLines[i]? = some l) (hj : j < l.length) :
    behind ⟨i + 1, j + 1⟩ = [] := by
  have hlen := congrArg List.length h
  rw [length_weave, Nat.add_eq_left, List.sum_eq_zero_iff] at hlen
  have hmem : (l, i + 1) ∈ t.newlineLines.zipIdx 1 :=
    List.mem_of_getElem? (i := i) (by rw [List.getElem?_zipIdx, hl, Nat.add_comm]; rfl)
  have hline := List.sum_eq_zero_iff.mp (hlen _ (List.mem_map.mpr ⟨_, hmem, rfl⟩))
  have hmem' : (l[j], j + 1) ∈ l.zipIdx 1 := List.mem_of_getElem? (i := j)
    (by rw [List.getElem?_zipIdx, List.getElem?_eq_getElem hj, Nat.add_comm]; rfl)
  exact List.length_eq_zero_iff.mp (hline _ (List.mem_map.mpr ⟨_, hmem', rfl⟩))

namespace Edit

/-- What the edit has more in its new text than in the expected text. -/
def added (e : Edit) : Text := e.newText.drop e.oldText.length

/-- The range of the edit ends with the place. -/
def endsAt (e : Edit) (p : Place) : Bool := e.line = p.line && e.endCol = p.col + 1

/-- What edits insert behind a place. -/
def addedAt (edits : List Edit) (p : Place) : Text :=
  (edits.filter (·.endsAt p)).flatMap (·.added)

/-- What edits make of the character at a place: they keep it. -/
def weaveAt (edits : List Edit) (p : Place) (c : Char) : Text := c :: addedAt edits p

/-- The new text extends the expected text. -/
structure Extending (e : Edit) : Prop extends e.WellShaped where
  oldText_prefix : e.oldText <+: e.newText

theorem Extending.newText_eq {e : Edit} (h : e.Extending) : e.newText = e.oldText ++ e.added :=
  (List.prefix_iff_eq_append.mp h.oldText_prefix).symm

/-! ## Weaving is local -/

theorem WellShaped.endsAt_eq_false {e : Edit} (h : e.WellShaped) {p : Place}
    (hp : e.covers p = false) : e.endsAt p = false := by
  have := h.col_lt
  simp only [endsAt, covers, Bool.and_eq_false_iff, decide_eq_false_iff_not] at hp ⊢
  omega

theorem addedAt_eq_nil {edits : List Edit} {p : Place} (hw : ∀ e ∈ edits, e.WellShaped)
    (hp : ∀ e ∈ edits, e.covers p = false) : addedAt edits p = [] := by
  rw [addedAt, filter_eq_nil_of_covers (fun e he => (hw e he).endsAt_eq_false) hp]
  rfl

/-- The columns of a range keep their characters, and the last one puts the added text behind its. -/
theorem rewriteLine_weaveAt_oldText {e : Edit} {edits : List Edit} {line col : Nat}
    (he : e.Extending) (hw : ∀ a ∈ edits, a.Extending) (hline : e.line = line) (hcol : e.col = col)
    (hout : ∀ a ∈ edits, ∀ j : Nat, e.col ≤ j → j < e.endCol → a.covers ⟨line, j⟩ = false) :
    Text.rewriteLine (weaveAt (e :: edits)) line col e.oldText = e.newText := by
  have hquiet : ∀ j : Nat, e.col ≤ j → j < e.endCol → addedAt edits ⟨line, j⟩ = [] := by
    intro j h1 h2
    exact addedAt_eq_nil (fun a ha => (hw a ha).toWellShaped) fun a ha => hout a ha j h1 h2
  -- from any column of the range on, what is left of it is kept
  have hrest : ∀ (t : Text) (j : Nat), t ≠ [] → e.col ≤ j → (j : Int) + t.length = e.endCol →
      Text.rewriteLine (weaveAt (e :: edits)) line j t = t ++ e.added := by
    intro t
    induction t with
    | nil => intro j hne; exact absurd rfl hne
    | cons c t ih =>
      intro j _ h1 h2
      rw [List.length_cons] at h2
      have hothers := hquiet j h1 (by omega)
      rw [addedAt] at hothers
      rw [Text.rewriteLine_cons]
      cases t with
      | nil =>
        have hend : e.endsAt ⟨line, j⟩ = true := by
          simp only [endsAt, Bool.and_eq_true, decide_eq_true_eq]
          simp at h2
          omega
        simp [weaveAt, addedAt, hend, hothers, Text.rewriteLine]
      | cons d t =>
        have hend : e.endsAt ⟨line, j⟩ = false := by
          simp only [endsAt, Bool.and_eq_false_iff, decide_eq_false_iff_not]
          rw [List.length_cons] at h2
          omega
        rw [ih (j + 1) (by simp) (by omega) (by omega)]
        simp [weaveAt, addedAt, hend, hothers]
  have hend := he.endCol_eq
  rw [hrest e.oldText col he.oldText_ne_nil (by omega) (by omega), he.newText_eq]

theorem isLocal_weaveAt : IsLocal Extending weaveAt where
  wellShaped he := he.toWellShaped
  keep hw hp c := by
    rw [weaveAt, addedAt_eq_nil (fun e he => (hw e he).toWellShaped) hp]
  skip he hp edits c := by simp [weaveAt, addedAt, he.endsAt_eq_false hp]
  range := rewriteLine_weaveAt_oldText

/-- Extending edits in order, which fit and do not intersect, only put their added text behind their
    ranges. -/
theorem applyAll_eq_weave {text : Text} {edits : List Edit} (hext : ∀ e ∈ edits, e.Extending)
    (hfit : ∀ e ∈ edits, e.Fits text.newlineLines) (hapart : edits.Pairwise Apart) :
    applyAll text edits = .ok (text.weave (addedAt (stableSort le edits))) :=
  isLocal_weaveAt.applyAll_eq hext hfit hapart

/-- Edits that add something change the text, if there are any. -/
theorem eq_self_iff_of_applyAll {text updated : Text} {edits : List Edit}
    (hext : ∀ e ∈ edits, e.Extending) (hadded : ∀ e ∈ edits, e.added ≠ [])
    (h : applyAll text edits = .ok updated) : updated = text ↔ edits = [] := by
  constructor
  · rintro rfl
    obtain ⟨hfit, hapart⟩ := fits_of_applyAll (fun e he => (hext e he).toWellShaped) h
    rw [applyAll_eq_weave hext hfit hapart] at h
    by_contra hne
    obtain ⟨e, he⟩ := List.exists_mem_of_ne_nil edits hne
    have hw := (hext e he).toWellShaped
    obtain ⟨line, htarget, hslice⟩ := hfit e he
    obtain ⟨hpos, hget⟩ := target?_eq_some_iff.mp htarget
    obtain ⟨pre, post, rfl, hpre⟩ := hw.cut hslice
    have hend := hw.endCol_eq
    have hlen := List.length_pos_iff.mpr hw.oldText_ne_nil
    -- the last column of the range has the added text behind it
    have hnil := Text.behind_eq_nil_of_weave_eq (Except.ok.inj h) hget
      (j := pre.length + e.oldText.length - 1) (by simp only [List.length_append]; omega)
    rw [addedAt, List.flatMap_eq_nil_iff] at hnil
    refine hadded e he (hnil e (List.mem_filter.mpr ⟨(mem_stableSort ..).mpr he, ?_⟩))
    simp only [endsAt, Bool.and_eq_true, decide_eq_true_eq]
    omega
  · rintro rfl
    exact (Except.ok.inj h).symm

end Edit

end HouseStyle
