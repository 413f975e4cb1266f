import HouseStyle.Edit
import Mathlib.Data.List.Sort

/-!
# Edits as local rewriting

A text is rewritten character by character when every character is replaced by what a function gives for
it and its place in the original text (`Text.rewrite`). Edits replace ranges of lines, one range after
the other and from the last to the first, so that the columns of the earlier ones stay valid. The two
meet in `Edit.IsLocal`: whenever a function from places to texts says what edits do to single characters,
applying the edits in turn is rewriting with that function.

Main definitions:
* `Place`, `Text.rewrite`: places of characters, and a single pass over the characters of a text.
* `Edit.WellShaped`, `Edit.Fits`: edits that know what they replace, and those that find it.
* `Edit.IsLocal`: what a description of edits by single characters must satisfy.

Main results:
* `Edit.slice_eq_iff`: what stands in a range.
* `Edit.IsLocal.foldl_apply_eq`: applying sorted edits from the last to the first is rewriting.
-/

namespace HouseStyle

/-! ## Places -/

/-- A place in a text: the line and the column of a character, both counted from one. -/
structure Place where
  line : Nat
  col : Nat
deriving Repr, DecidableEq

namespace Text

/-- A piece of a line that starts at column `col`, with every character replaced by what `f` gives
    for it and its place. -/
def rewriteLine (f : Place → Char → Text) (line col : Nat) (t : Text) : Text :=
  (t.zipIdx col).flatMap fun x => f ⟨line, x.2⟩ x.1

/-- The text with every character replaced by what `f` gives for it and its place in the text. -/
def rewrite (f : Place → Char → Text) (t : Text) : Text :=
  (t.newlineLines.zipIdx 1).flatMap fun x => rewriteLine f x.2 1 x.1

@[simp] theorem flatten_newlineLines (t : Text) : t.newlineLines.flatten = t := by
  induction t with
  | nil => rfl
  | cons c t ih =>
    rw [newlineLines]
    split_ifs with hc
    · rw [List.flatten_cons, ih, hc]; rfl
    · cases hl : newlineLines t with
      | nil => rw [hl] at ih; simp [← ih]
      | cons l ls => rw [hl] at ih; simpa using ih

theorem rewriteLine_append (f : Place → Char → Text) (line col : Nat) (s t : Text) :
    rewriteLine f line col (s ++ t) =
      rewriteLine f line col s ++ rewriteLine f line (col + s.length) t := by
  simp only [rewriteLine, List.zipIdx_append, List.flatMap_append]

theorem rewriteLine_cons (f : Place → Char → Text) (line col : Nat) (c : Char) (t : Text) :
    rewriteLine f line col (c :: t) = f ⟨line, col⟩ c ++ rewriteLine f line (col + 1) t := rfl

/-- A rewriting only depends on what happens in the columns of the piece. -/
theorem rewriteLine_congr {f g : Place → Char → Text} {line col : Nat} {t : Text}
    (h : ∀ j c, col ≤ j → j < col + t.length → f ⟨line, j⟩ c = g ⟨line, j⟩ c) :
    rewriteLine f line col t = rewriteLine g line col t := by
  induction t generalizing col with
  | nil => rfl
  | cons c t ih =>
    rw [rewriteLine_cons, rewriteLine_cons, h col c le_rfl (by simp)]
    rw [ih fun j d h1 h2 => h j d (by omega) (by rw [List.length_cons]; omega)]

theorem rewriteLine_of_keep {f : Place → Char → Text} {line col : Nat} {t : Text}
    (h : ∀ j c, col ≤ j → j < col + t.length → f ⟨line, j⟩ c = [c]) :
    rewriteLine f line col t = t := by
  induction t generalizing col with
  | nil => rfl
  | cons c t ih =>
    rw [rewriteLine_cons, h col c le_rfl (by simp)]
    rw [ih fun j d h1 h2 => h j d (by omega) (by rw [List.length_cons]; omega)]
    rfl

end Text

namespace Edit

/-! ## Ranges of a line -/

theorem clampPosition_of_nonneg {n : Nat} {i : Int} (h : 0 ≤ i) :
    clampPosition n i = min i.toNat n := by
  unfold clampPosition
  rw [if_neg (by omega)]

/-- A non-empty piece is at a position exactly if the line can be cut around it there. -/
theorem slice_eq_iff {α : Type} {xs w : List α} {i : Int} (hi : 0 ≤ i) (hw : w ≠ []) :
    slice xs i (i + w.length) = w ↔ ∃ pre post, xs = pre ++ w ++ post ∧ (pre.length : Int) = i := by
  have hpos : 0 < w.length := List.length_pos_iff.mpr hw
  unfold slice
  rw [clampPosition_of_nonneg hi, clampPosition_of_nonneg (by omega)]
  constructor
  · intro h
    have hlen := congrArg List.length h
    simp only [List.length_drop, List.length_take] at hlen
    have hle : (i + w.length).toNat ≤ xs.length := by omega
    rw [Nat.min_eq_left (by omega), Nat.min_eq_left hle] at h
    refine ⟨xs.take i.toNat, xs.drop (i + w.length).toNat, ?_, by rw [List.length_take]; omega⟩
    have htake : xs.take i.toNat ++ w = xs.take (i + w.length).toNat := by
      conv_rhs => rw [← List.take_append_drop i.toNat (xs.take (i + w.length).toNat)]
      rw [h, List.take_take, Nat.min_eq_left (by omega)]
    rw [htake, List.take_append_drop]
  · rintro ⟨pre, post, rfl, rfl⟩
    have hstop : ((pre.length : Int) + w.length).toNat = (pre ++ w).length := by
      rw [List.length_append]; omega
    rw [hstop, Nat.min_eq_left (by simp), Nat.min_eq_left (by simp), List.take_left,
      Int.toNat_natCast, List.drop_left]

/-- The column is positive, and the range has the length of the expected text, which is not
    empty. -/
structure WellShaped (e : Edit) : Prop where
  col_pos : 1 ≤ e.col
  endCol_eq : e.endCol = e.col + e.oldText.length
  col_lt : e.col < e.endCol

/-- The place is in the range of the edit. -/
def covers (e : Edit) (p : Place) : Bool := e.line = p.line && e.col ≤ p.col && p.col < e.endCol

theorem WellShaped.oldText_ne_nil {e : Edit} (h : e.WellShaped) : e.oldText ≠ [] := by
  intro hnil
  have h1 := h.endCol_eq
  have h2 := h.col_lt
  rw [hnil] at h1
  simp at h1
  omega

/-- What edits can only do inside their ranges, none of them does at a place outside. -/
theorem filter_eq_nil_of_covers {q : Edit → Place → Bool} {edits : List Edit} {p : Place}
    (hq : ∀ e ∈ edits, e.covers p = false → q e p = false)
    (hp : ∀ e ∈ edits, e.covers p = false) : edits.filter (q · p) = [] := by
  rw [List.filter_eq_nil_iff]
  intro e he
  rw [hq e he (hp e he)]
  simp

/-- The edit finds its expected text on its line. -/
def Fits (lines : List Text) (e : Edit) : Prop :=
  ∃ line, e.target? lines = some line ∧ slice line (e.col - 1) (e.endCol - 1) = e.oldText

theorem WellShaped.cut {e : Edit} (h : e.WellShaped) {line : Text}
    (hslice : slice line (e.col - 1) (e.endCol - 1) = e.oldText) :
    ∃ pre post, line = pre ++ e.oldText ++ post ∧ (pre.length : Int) = e.col - 1 := by
  have hcol := h.col_pos
  rw [show e.endCol - 1 = e.col - 1 + e.oldText.length by rw [h.endCol_eq]; omega] at hslice
  exact (slice_eq_iff (by omega) h.oldText_ne_nil).mp hslice

/-- Replacing the range of an edit, whatever stands behind the range. -/
theorem WellShaped.applyLine_append {e : Edit} (h : e.WellShaped) {pre : Text}
    (hpre : (pre.length : Int) = e.col - 1) (rest : Text) :
    e.applyLine (pre ++ e.oldText ++ rest) = pre ++ e.newText ++ rest := by
  have hend := h.endCol_eq
  unfold applyLine before behind
  rw [clampPosition_of_nonneg (by omega), clampPosition_of_nonneg (by omega)]
  have h1 : min (e.col - 1).toNat (pre ++ e.oldText ++ rest).length = pre.length := by
    simp only [List.length_append]; omega
  have h2 : min (e.endCol - 1).toNat (pre ++ e.oldText ++ rest).length =
      (pre ++ e.oldText).length := by
    simp only [List.length_append]; omega
  rw [h1, h2, List.drop_left, List.append_assoc pre, List.take_left]

/-! ## Local descriptions of edits -/

/-- A description of what edits that satisfy `P` make of a character is local: characters outside all
    ranges stay, an edit only matters inside its range, and there it puts its new text. -/
structure IsLocal (P : Edit → Prop) (F : List Edit → Place → Char → Text) : Prop where
  wellShaped : ∀ {e}, P e → e.WellShaped
  keep : ∀ {edits p}, (∀ e ∈ edits, P e) → (∀ e ∈ edits, e.covers p = false) →
    ∀ c, F edits p c = [c]
  skip : ∀ {e p}, P e → e.covers p = false → ∀ edits c, F (e :: edits) p c = F edits p c
  range : ∀ {e edits} {line col : Nat}, P e → (∀ a ∈ edits, P a) → e.line = line → e.col = col →
    (∀ a ∈ edits, ∀ j : Nat, e.col ≤ j → j < e.endCol → a.covers ⟨line, j⟩ = false) →
    Text.rewriteLine (F (e :: edits)) line col e.oldText = e.newText

/-- Applying the first of several edits to a line on which the others have been applied. -/
theorem IsLocal.applyLine_rewriteLine {P : Edit → Prop} {F : List Edit → Place → Char → Text}
    (hF : IsLocal P F) {e : Edit} (he : P e) {edits : List Edit} (hP : ∀ a ∈ edits, P a)
    {line : Nat} (hline : e.line = line)
    (hafter : ∀ a ∈ edits, a.line = e.line → e.endCol ≤ a.col) {t : Text}
    (hslice : slice t (e.col - 1) (e.endCol - 1) = e.oldText) :
    e.applyLine (Text.rewriteLine (F edits) line 1 t) =
      Text.rewriteLine (F (e :: edits)) line 1 t := by
  have hshape := hF.wellShaped he
  obtain ⟨pre, post, rfl, hpre⟩ := hshape.cut hslice
  have hend := hshape.endCol_eq
  have hlt := hshape.col_lt
  have hearly : ∀ a ∈ edits, ∀ j : Nat, j < e.endCol → a.covers ⟨line, j⟩ = false := by
    intro a ha j hj
    have := hafter a ha
    simp only [covers, Bool.and_eq_false_iff, decide_eq_false_iff_not]
    omega
  have hothers : Text.rewriteLine (F edits) line 1 (pre ++ e.oldText) = pre ++ e.oldText := by
    apply Text.rewriteLine_of_keep
    intro j c _ hj
    rw [List.length_append] at hj
    exact hF.keep hP (fun a ha => hearly a ha j (by omega)) c
  have hbefore : Text.rewriteLine (F (e :: edits)) line 1 pre = pre := by
    apply Text.rewriteLine_of_keep
    intro j c _ hj
    refine hF.keep (List.forall_mem_cons.mpr ⟨he, hP⟩) (List.forall_mem_cons.mpr ⟨?_, ?_⟩) c
    · simp only [covers, Bool.and_eq_false_iff, decide_eq_false_iff_not]
      omega
    · exact fun a ha => hearly a ha j (by omega)
  have hrange : Text.rewriteLine (F (e :: edits)) line (1 + pre.length) e.oldText = e.newText :=
    hF.range he hP hline (by omega) fun a ha j _ hj => hearly a ha j hj
  have hbehind : Text.rewriteLine (F (e :: edits)) line (1 + (pre ++ e.oldText).length) post =
      Text.rewriteLine (F edits) line (1 + (pre ++ e.oldText).length) post := by
    apply Text.rewriteLine_congr
    intro j c hj _
    rw [List.length_append] at hj
    apply hF.skip he
    simp only [covers, Bool.and_eq_false_iff, decide_eq_false_iff_not]
    omega
  rw [Text.rewriteLine_append, hothers, hshape.applyLine_append hpre]
  rw [Text.rewriteLine_append, Text.rewriteLine_append, hbefore, hrange, hbehind]

/-! ## All lines, from the last edit to the first -/

/-- The first edit ends before the second one starts. -/
def Before (a b : Edit) : Prop := a.line < b.line ∨ (a.line = b.line ∧ a.endCol ≤ b.col)

theorem target?_eq_some_iff {lines : List Text} {e : Edit} {line : Text} :
    e.target? lines = some line ↔ 1 ≤ e.line ∧ lines[(e.line - 1).toNat]? = some line := by
  unfold target?
  split_ifs with h <;> simp [h]

/-- Applying edits that stand in order from the last to the first rewrites every line. -/
theorem IsLocal.foldl_apply_eq {P : Edit → Prop} {F : List Edit → Place → Char → Text}
    (hF : IsLocal P F) {lines : List Text} {edits : List Edit} (hP : ∀ e ∈ edits, P e)
    (hfit : ∀ e ∈ edits, e.Fits lines) (hord : edits.Pairwise Before) :
    edits.reverse.foldl apply lines =
      (lines.zipIdx 1).map fun x => Text.rewriteLine (F edits) x.2 1 x.1 := by
  induction edits with
  | nil =>
    have hid : ∀ x : Text × Nat, Text.rewriteLine (F []) x.2 1 x.1 = x.1 := fun x =>
      Text.rewriteLine_of_keep fun j c _ _ => hF.keep (by simp) (by simp) c
    simp only [hid, List.reverse_nil, List.foldl_nil]
    exact (List.zipIdx_map_fst 1 lines).symm
  | cons e edits ih =>
    obtain ⟨he, hP⟩ := List.forall_mem_cons.mp hP
    obtain ⟨⟨line, htarget, hslice⟩, hfit⟩ := List.forall_mem_cons.mp hfit
    obtain ⟨hfirst, hord⟩ := List.pairwise_cons.mp hord
    obtain ⟨hpos, hget⟩ := target?_eq_some_iff.mp htarget
    obtain ⟨k, hk⟩ : ∃ k : Nat, e.line = (1 + k : Nat) := ⟨(e.line - 1).toNat, by omega⟩
    have hindex : (e.line - 1).toNat = k := by omega
    rw [hindex] at hget
    have hafter : ∀ a ∈ edits, a.line = e.line → e.endCol ≤ a.col := by
      intro a ha hline
      rcases hfirst a ha with h | h
      · omega
      · exact h.2
    rw [List.reverse_cons, List.foldl_append, List.foldl_cons, List.foldl_nil, ih hP hfit hord]
    unfold apply
    rw [hindex]
    apply List.ext_getElem?
    intro i
    rw [List.getElem?_modify, List.getElem?_map, List.getElem?_map, List.getElem?_zipIdx]
    by_cases hi : k = i
    · -- the line of the first edit
      subst hi
      simp [hget, hF.applyLine_rewriteLine he hP hk hafter hslice]
    · -- any other line
      cases hl : lines[i]? with
      | none => simp
      | some l =>
        have hsame : Text.rewriteLine (F edits) (1 + i) 1 l =
            Text.rewriteLine (F (e :: edits)) (1 + i) 1 l := by
          apply Text.rewriteLine_congr
          intro j c _ _
          rw [hF.skip he]
          simp only [covers, Bool.and_eq_false_iff, decide_eq_false_iff_not]
          omega
        simp [hi, hsame]

/-- The text after edits that fit and stand in order. -/
theorem IsLocal.flatten_foldl_apply {P : Edit → Prop} {F : List Edit → Place → Char → Text}
    (hF : IsLocal P F) {text : Text} {edits : List Edit} (hP : ∀ e ∈ edits, P e)
    (hfit : ∀ e ∈ edits, e.Fits text.newlineLines) (hord : edits.Pairwise Before) :
    (edits.reverse.foldl apply text.newlineLines).flatten = text.rewrite (F edits) := by
  rw [hF.foldl_apply_eq hP hfit hord, Text.rewrite, List.flatMap_def]

end Edit

end HouseStyle
