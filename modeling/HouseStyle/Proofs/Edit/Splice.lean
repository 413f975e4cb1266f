import HouseStyle.Proofs.Edit.Conflict

/-!
# Edits are one simultaneous replacement

`Edit.applyAll` sorts the edits, compares neighbours, and rewrites the lines from the last edit to the
first. The specification is a single pass over the original text: `Edit.splice` looks at every
character with its place in the original text, writes the new text of an edit where its range starts,
drops the characters of the ranges, and keeps all others, line ends included.

The edits considered are those of fixers that know what they replace (`Edit.WellShaped`): the column
is positive, and the range is exactly as long as the expected text, which is not empty.

Main results:
* `Edit.isLocal_spliceAt`: the splice is a local description of edits.
* `Edit.splice_perm`: the order of edits that do not intersect is irrelevant for the splice.
* `Edit.applyAll_eq_splice`: `applyAll` fails exactly on conflicting edits, and else gives the splice.
-/

namespace HouseStyle.Edit

/-! ## Specification -/

/-- The range of the edit starts at the place. -/
def startsAt (e : Edit) (p : Place) : Bool := e.line = p.line && e.col = p.col

/-- What the spliced text has for the character at a place: the new text of an edit that starts
    there, and the character itself unless it is in the range of an edit. -/
def spliceAt (edits : List Edit) (p : Place) (c : Char) : Text :=
  (edits.filter (·.startsAt p)).flatMap (·.newText) ++ if edits.any (·.covers p) then [] else [c]

/-- The text with all ranges replaced at once, from left to right over the original places. -/
def splice (edits : List Edit) (t : Text) : Text := t.rewrite (spliceAt edits)

/-- The edits cannot be applied together: one addresses a line that the text does not have, or
    expects another text than its range holds, or two entries of the list intersect. -/
def Conflicting (text : Text) (edits : List Edit) : Prop :=
  (∃ e ∈ edits, ¬ (1 ≤ e.line ∧ e.line ≤ text.newlineLines.length)) ∨
  (∃ e ∈ edits, ∃ line, e.target? text.newlineLines = some line ∧
    slice line (e.col - 1) (e.endCol - 1) ≠ e.oldText) ∨
  ¬ edits.Pairwise Apart

/-! ## The splice is local -/

theorem WellShaped.startsAt_eq_false {e : Edit} (h : e.WellShaped) {p : Place}
    (hp : e.covers p = false) : e.startsAt p = false := by
  have := h.col_lt
  simp only [startsAt, covers, Bool.and_eq_false_iff, decide_eq_false_iff_not] at hp ⊢
  omega

theorem filter_startsAt_eq_nil {edits : List Edit} (hw : ∀ e ∈ edits, e.WellShaped) {p : Place}
    (hp : ∀ e ∈ edits, e.covers p = false) : edits.filter (·.startsAt p) = [] :=
  filter_eq_nil_of_covers (fun e he => (hw e he).startsAt_eq_false) hp

theorem spliceAt_keep {edits : List Edit} {p : Place} (hw : ∀ e ∈ edits, e.WellShaped)
    (hp : ∀ e ∈ edits, e.covers p = false) (c : Char) : spliceAt edits p c = [c] := by
  have hcover : edits.any (·.covers p) = false := by
    rw [List.any_eq_false]
    intro e he
    rw [hp e he]
    simp
  rw [spliceAt, filter_startsAt_eq_nil hw hp, hcover]
  rfl

theorem spliceAt_skip {e : Edit} {p : Place} (he : e.WellShaped) (hp : e.covers p = false)
    (edits : List Edit) (c : Char) : spliceAt (e :: edits) p c = spliceAt edits p c := by
  simp [spliceAt, he.startsAt_eq_false hp, hp]

/-- The first column of a range writes the new text, and the others only drop characters. -/
theorem rewriteLine_spliceAt_oldText {e : Edit} {edits : List Edit} {line col : Nat}
    (he : e.WellShaped) (hw : ∀ a ∈ edits, a.WellShaped) (hline : e.line = line) (hcol : e.col = col)
    (hout : ∀ a ∈ edits, ∀ j : Nat, e.col ≤ j → j < e.endCol → a.covers ⟨line, j⟩ = false) :
    Text.rewriteLine (spliceAt (e :: edits)) line col e.oldText = e.newText := by
  have hend := he.endCol_eq
  have hquiet : ∀ j : Nat, e.col ≤ j → j < e.endCol → edits.filter (·.startsAt ⟨line, j⟩) = [] :=
    fun j h1 h2 => filter_startsAt_eq_nil hw fun a ha => hout a ha j h1 h2
  have hcovers : ∀ j : Nat, e.col ≤ j → j < e.endCol → e.covers ⟨line, j⟩ = true := by
    intro j h1 h2
    simp [covers, hline, h1, h2]
  have hdrop : ∀ (t : Text) (j : Nat), e.col < j → (j : Int) + t.length ≤ e.endCol →
      Text.rewriteLine (spliceAt (e :: edits)) line j t = [] := by
    intro t
    induction t with
    | nil => intro j _ _; rfl
    | cons c t ih =>
      intro j h1 h2
      rw [List.length_cons] at h2
      have hstart : e.startsAt ⟨line, j⟩ = false := by
        simp only [startsAt, Bool.and_eq_false_iff, decide_eq_false_iff_not]
        omega
      rw [Text.rewriteLine_cons, ih (j + 1) (by omega) (by omega)]
      simp [spliceAt, hstart, hquiet j (by omega) (by omega), hcovers j (by omega) (by omega)]
  cases hold : e.oldText with
  | nil => exact absurd hold he.oldText_ne_nil
  | cons c t =>
    rw [hold, List.length_cons] at hend
    have hstart : e.startsAt ⟨line, col⟩ = true := by simp [startsAt, hline, hcol]
    rw [Text.rewriteLine_cons, hdrop t (col + 1) (by omega) (by omega)]
    simp [spliceAt, hstart, hquiet col (by omega) (by omega), hcovers col (by omega) (by omega)]

theorem isLocal_spliceAt : IsLocal WellShaped spliceAt where
  wellShaped := id
  keep := spliceAt_keep
  skip := spliceAt_skip
  range := rewriteLine_spliceAt_oldText

/-! ## The order of the edits -/

/-- At most one of several edits that do not intersect starts at a place, so that their order is
    irrelevant there. -/
theorem spliceAt_perm {a b : List Edit} (hperm : a.Perm b) (hw : ∀ e ∈ a, e.WellShaped)
    (hapart : a.Pairwise Apart) (p : Place) (c : Char) : spliceAt a p c = spliceAt b p c := by
  have hfilter := hperm.filter (·.startsAt p)
  have hany : a.any (·.covers p) = b.any (·.covers p) := by
    rw [Bool.eq_iff_iff, List.any_eq_true, List.any_eq_true]
    exact exists_congr fun e => and_congr_left fun _ => hperm.mem_iff
  have hstart : a.filter (·.startsAt p) = b.filter (·.startsAt p) := by
    cases hl : a.filter (·.startsAt p) with
    | nil => rw [hl] at hfilter; exact (List.nil_perm.mp hfilter).symm
    | cons e l =>
      cases l with
      | nil => rw [hl] at hfilter; exact List.singleton_perm.mp hfilter
      | cons d l =>
        have hpair := hapart.filter (·.startsAt p)
        have hmem : e ∈ a.filter (·.startsAt p) ∧ d ∈ a.filter (·.startsAt p) := by simp [hl]
        rw [List.mem_filter, List.mem_filter] at hmem
        rw [hl] at hpair
        have hed := (List.pairwise_cons.mp hpair).1 d List.mem_cons_self
        have he := (hw e hmem.1.1).col_lt
        have hd := (hw d hmem.2.1).col_lt
        simp only [startsAt, Bool.and_eq_true, decide_eq_true_eq] at hmem
        rcases hed (by omega) with h | h <;> omega
  rw [spliceAt, spliceAt, hstart, hany]

theorem splice_perm {a b : List Edit} (hperm : a.Perm b) (hw : ∀ e ∈ a, e.WellShaped)
    (hapart : a.Pairwise Apart) (t : Text) : splice a t = splice b t := by
  unfold splice
  congr 1
  funext p c
  exact spliceAt_perm hperm hw hapart p c

/-! ## Applying edits -/

theorem applyAll_of_fits {text : Text} {edits : List Edit} (hw : ∀ e ∈ edits, e.WellShaped)
    (hfit : ∀ e ∈ edits, e.Fits text.newlineLines) (hapart : edits.Pairwise Apart) :
    applyAll text edits = .ok (splice edits text) := by
  rw [isLocal_spliceAt.applyAll_eq hw hfit hapart]
  exact congrArg Except.ok (splice_perm (stableSort_perm le edits).symm hw hapart text).symm

theorem not_conflicting_iff {text : Text} {edits : List Edit} :
    ¬ Conflicting text edits ↔
      (∀ e ∈ edits, e.Fits text.newlineLines) ∧ edits.Pairwise Apart := by
  simp only [Conflicting, fits_iff]
  push Not
  constructor
  · rintro ⟨h1, h2, h3⟩
    exact ⟨fun e he => ⟨h1 e he, h2 e he⟩, h3⟩
  · rintro ⟨h, h3⟩
    exact ⟨fun e he => (h e he).1, fun e he => (h e he).2, h3⟩

/-- **Edits are one simultaneous replacement.** For edits that know what they replace, in any order:
    `applyAll` is refused exactly if the edits conflict with the text or with each other, and
    otherwise gives the splice of the text. -/
theorem applyAll_eq_splice (text : Text) (edits : List Edit) (hw : ∀ e ∈ edits, e.WellShaped) :
    ((∃ c, applyAll text edits = .error c) ↔ Conflicting text edits) ∧
    (¬ Conflicting text edits → applyAll text edits = .ok (splice edits text)) := by
  have hok : ¬ Conflicting text edits → applyAll text edits = .ok (splice edits text) := by
    intro h
    obtain ⟨hfit, hapart⟩ := not_conflicting_iff.mp h
    exact applyAll_of_fits hw hfit hapart
  refine ⟨⟨?_, ?_⟩, hok⟩
  · rintro ⟨c, hc⟩
    by_contra h
    rw [hok h] at hc
    cases hc
  · intro h
    exact applyAll_eq_error hw fun hgood => not_conflicting_iff.mpr hgood h

/-- Three edits out of order, two of them on one line: a range becomes longer and gets a line end, one
    becomes empty, and one takes a line end away. -/
theorem applyAll_eq_splice_three :
    let text : Text := "foo bar\nbaz\n"
    let edits : List Edit :=
      [⟨"N01", 1, 5, 8, "bar", "B\nAR"⟩, ⟨"N01", 2, 3, 5, "z\n", "Z"⟩, ⟨"P01", 1, 1, 4, "foo", ""⟩]
    (∀ e ∈ edits, e.WellShaped) ∧ ¬ Conflicting text edits ∧
      applyAll text edits = .ok " B\nAR\nbaZ" := by
  intro text edits
  have hw : ∀ e ∈ edits, e.WellShaped := by
    simp only [edits, List.forall_mem_cons]
    exact ⟨⟨by decide, by decide, by decide⟩, ⟨by decide, by decide, by decide⟩,
      ⟨by decide, by decide, by decide⟩, by simp⟩
  have hfree : ¬ Conflicting text edits := by
    rw [not_conflicting_iff]
    simp only [edits, List.forall_mem_cons, List.pairwise_cons]
    exact ⟨⟨⟨_, rfl, by decide⟩, ⟨_, rfl, by decide⟩, ⟨_, rfl, by decide⟩, by simp⟩,
      by simp [Apart]⟩
  refine ⟨hw, hfree, ?_⟩
  rw [(applyAll_eq_splice text edits hw).2 hfree]
  decide

end HouseStyle.Edit
