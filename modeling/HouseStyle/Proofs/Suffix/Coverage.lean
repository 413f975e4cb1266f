import HouseStyle.Suffix
import Mathlib.Data.List.Basic

/-!
# What a pattern covers

A pattern covers the names that it matches, and it covers the interfaces of those. The second is decided
by a pattern of its own, the first one with the interface ending behind it, so the ending must not change
how the pattern in front of it is read. It does not, since it has no `]` that could close a class that the
pattern leaves open, and no character of its own that stands for anything else: every item of the pattern
stays, and every character of the ending is one more item. Names are then cut where the items are.

Main definitions:
* `Glob.Matches`: what items match, as a relation.
* `Glob.IsLiteral`: texts that stand for themselves behind any pattern.
* `Glob.IsWord`: texts that stand for themselves.

Main results:
* `Glob.matches_append`: items in a row match names in a row.
* `Glob.isMatch_iff`: a pattern matches what its items match.
* `Glob.parse_append`: the items of a pattern with a literal text behind it.
* `Glob.isMatch_append_iff`: the names that such a pattern matches.
* `SuffixRule.covers_iff_isMatch`: the names that a rule covers.
-/

namespace HouseStyle

namespace Glob

/-! ## Items -/

/-- The items match the whole name. -/
inductive Matches : List Item → Text → Prop
  | nil : Matches [] []
  | many (run : Text) {items : List Item} {name : Text} (h : Matches items name) :
      Matches (.many :: items) (run ++ name)
  | one {i : Item} {c : Char} {items : List Item} {name : Text} (hc : i.accepts c = true)
      (h : Matches items name) : Matches (i :: items) (c :: name)

variable {i : Item} {items items' : List Item} {name : Text}

theorem matches_nil_iff : Matches [] name ↔ name = [] := by
  constructor
  · intro h
    cases h
    rfl
  · rintro rfl
    exact .nil

theorem matches_many_iff : Matches (.many :: items) name ↔ ∃ rest, rest <:+ name ∧ Matches items rest := by
  constructor
  · intro h
    cases h with
    | many run h => exact ⟨_, List.suffix_append run _, h⟩
    | one hc => cases hc
  · rintro ⟨rest, ⟨run, rfl⟩, h⟩
    exact .many run h

theorem mem_tails {rest : Text} : rest ∈ tails name ↔ rest <:+ name := by
  induction name with
  | nil => simp [tails]
  | cons c name ih => rw [tails, List.mem_cons, ih, List.suffix_cons_iff]

theorem matches_one_iff (hi : i ≠ .many) :
    Matches (i :: items) name ↔ ∃ c rest, name = c :: rest ∧ i.accepts c = true ∧ Matches items rest := by
  constructor
  · intro h
    cases h with
    | many => exact absurd rfl hi
    | one hc h => exact ⟨_, _, rfl, hc, h⟩
  · rintro ⟨c, rest, rfl, hc, h⟩
    exact .one hc h

/-- The test decides the relation. -/
theorem matchItems_iff : matchItems items name = true ↔ Matches items name := by
  fun_induction matchItems items name with
  | case1 name => rw [matches_nil_iff, List.isEmpty_iff]
  | case2 items name ih =>
    rw [List.any_eq_true, matches_many_iff]
    simp only [mem_tails, ih]
  | case3 i items hi => simp [matches_one_iff hi]
  | case4 i items c name hi ih =>
    rw [Bool.and_eq_true, ih, matches_one_iff hi]
    constructor
    · rintro ⟨hc, h⟩
      exact ⟨c, name, rfl, hc, h⟩
    · rintro ⟨_, _, heq, hc, h⟩
      cases heq
      exact ⟨hc, h⟩

/-- Items in a row match names in a row. -/
theorem matches_append : Matches (items ++ items') name ↔
    ∃ x y, name = x ++ y ∧ Matches items x ∧ Matches items' y := by
  constructor
  · intro h
    induction items generalizing name with
    | nil => exact ⟨[], name, rfl, .nil, h⟩
    | cons i items ih =>
      cases h with
      | many run h =>
        obtain ⟨x, y, rfl, hx, hy⟩ := ih h
        exact ⟨run ++ x, y, (List.append_assoc run x y).symm, .many run hx, hy⟩
      | one hc h =>
        obtain ⟨x, y, rfl, hx, hy⟩ := ih h
        exact ⟨_ :: x, y, rfl, .one hc hx, hy⟩
  · rintro ⟨x, y, rfl, hx, hy⟩
    induction hx with
    | nil => exact hy
    | many run h ih =>
      rw [List.append_assoc]
      exact .many run ih
    | one hc h ih => exact .one hc ih

/-- Characters that stand for themselves match themselves only. -/
theorem matches_map_lit {w : Text} : Matches (w.map .lit) name ↔ name = w := by
  induction w generalizing name with
  | nil => exact matches_nil_iff
  | cons d w ih =>
    rw [List.map_cons, matches_one_iff (by simp)]
    simp only [Item.accepts, decide_eq_true_eq, ih]
    constructor
    · rintro ⟨c, rest, rfl, rfl, rfl⟩
      rfl
    · rintro rfl
      exact ⟨d, w, rfl, rfl, rfl⟩

/-- An item is put in front, but for a star in front of a star. -/
theorem mergeStars_cons (i : Item) (items : List Item) :
    mergeStars (i :: items) = i :: mergeStars items ∨
      ∃ rest, i = .many ∧ mergeStars items = .many :: rest ∧ mergeStars (i :: items) = .many :: rest := by
  cases hmerge : mergeStars items with
  | nil => cases i <;> simp [mergeStars, hmerge]
  | cons j rest => cases i <;> cases j <;> simp [mergeStars, hmerge]

/-- A star in front of a star adds nothing. -/
theorem matches_mergeStars : Matches (mergeStars items) name ↔ Matches items name := by
  induction items generalizing name with
  | nil => rfl
  | cons i items ih =>
    rcases mergeStars_cons i items with heq | ⟨rest, rfl, hmerge, heq⟩
    · rw [heq]
      by_cases hmany : i = .many
      · subst hmany
        simp only [matches_many_iff, ih]
      · simp only [matches_one_iff hmany, ih]
    · simp only [heq, matches_many_iff, ← ih, hmerge]
      constructor
      · rintro ⟨name', hname, h⟩
        exact ⟨name', hname, name', List.suffix_rfl, h⟩
      · rintro ⟨name', hname, name'', hname', h⟩
        exact ⟨name'', hname'.trans hname, h⟩

/-- A pattern matches what its items match. -/
theorem isMatch_iff {pattern : Text} : isMatch pattern name = true ↔ Matches (parse pattern) name := by
  rw [isMatch, matchItems_iff, matches_mergeStars]

/-! ## Texts behind a pattern -/

/-- The text has no character that opens or closes a class, and no star or question mark. -/
def IsLiteral (w : Text) : Prop := ∀ c ∈ w, c ≠ '*' ∧ c ≠ '?' ∧ c ≠ '[' ∧ c ≠ ']'

instance (w : Text) : Decidable (IsLiteral w) := w.decidableBAll _

/-- The text has no star, no question mark and no character that opens a class. -/
def IsWord (w : Text) : Prop := ∀ c ∈ w, c ≠ '*' ∧ c ≠ '?' ∧ c ≠ '['

instance (w : Text) : Decidable (IsWord w) := w.decidableBAll _

theorem IsLiteral.isWord {w : Text} (hw : IsLiteral w) : IsWord w := fun c hc =>
  ⟨(hw c hc).1, (hw c hc).2.1, (hw c hc).2.2.1⟩

/-- A word stands for itself; a class that it closes would have to be open. -/
theorem parseFrom_of_isWord {w : Text} (hw : IsWord w) : parseFrom 0 w = w.map .lit := by
  induction w with
  | nil => rfl
  | cons c w ih =>
    obtain ⟨⟨hstar, hany, hopen⟩, hrest⟩ := List.forall_mem_cons.mp hw
    simp only [parseFrom, hstar, hany, hopen, if_false, ih hrest, List.map_cons]

theorem IsLiteral.findIdx?_eq_none {w : Text} (hw : IsLiteral w) : w.findIdx? (· = ']') = none := by
  rw [List.findIdx?_eq_none_iff]
  intro c hc
  exact decide_eq_false (hw c hc).2.2.2

/-- A class ends before the text behind it begins. -/
theorem lt_length_of_classLength? {t : Text} {n : Nat} (h : classLength? t = some n) : n < t.length := by
  simp only [classLength?] at h
  generalize (if (t.drop _).head? = some ']' then _ else _) = lead at h
  obtain ⟨k, hk, rfl⟩ := Option.map_eq_some_iff.mp h
  have hlt := (List.findIdx?_eq_some_iff_getElem.mp hk).1
  rw [List.length_drop] at hlt
  omega

/-- A literal text does not close a class that is open, nor does it change where one is closed. -/
theorem classLength?_append {w : Text} (hw : IsLiteral w) (t : Text) :
    classLength? (t ++ w) = classLength? t := by
  have hdrop : ∀ k, (w.drop k).findIdx? (· = ']') = none := fun k =>
    IsLiteral.findIdx?_eq_none fun c hc => hw c (List.mem_of_mem_drop hc)
  have hfind : ∀ k, ((t ++ w).drop k).findIdx? (· = ']') = (t.drop k).findIdx? (· = ']') := by
    intro k
    rw [List.drop_append, List.findIdx?_append, hdrop, Option.map_none, Option.or_none]
  have hfirst : ∀ k, ((t ++ w).drop k).head? = some ']' ↔ (t.drop k).head? = some ']' := by
    intro k
    have hother : (w.drop (k - t.length)).head? ≠ some ']' := fun h =>
      (hw ']' (List.mem_of_mem_drop (List.mem_of_head? h))).2.2.2 rfl
    rw [List.drop_append, List.head?_append]
    cases (t.drop k).head? with
    | none => simpa using hother
    | some c => rfl
  -- Only in front of an empty text can the first character, which may be a `!`, be one of `w`.
  cases t with
  | nil =>
    simp only [classLength?, hfind, List.drop_nil, List.findIdx?_nil, Option.map_none]
  | cons c t =>
    have hhead : (c :: t ++ w).head? = (c :: t).head? := rfl
    simp only [classLength?, hhead, hfirst, hfind]

/-- A pattern is read as it is without the literal text behind it. -/
theorem parseFrom_append {w : Text} (hw : IsLiteral w) {skip : Nat} {p : Text} (hskip : skip ≤ p.length) :
    parseFrom skip (p ++ w) = parseFrom skip p ++ w.map .lit := by
  fun_induction parseFrom skip p with
  | case1 skip =>
    obtain rfl : skip = 0 := Nat.le_zero.mp hskip
    exact parseFrom_of_isWord hw.isWord
  | case2 c t k ih => exact ih (Nat.le_of_succ_le_succ hskip)
  | case3 t ih => simp [parseFrom, ih]
  | case4 t _ ih => simp [parseFrom, ih]
  | case5 t n hn _ _ ih =>
    have hlt := lt_length_of_classLength? hn
    have htake : (t ++ w).take n = t.take n := List.take_append_of_le_length (Nat.le_of_lt hlt)
    simp [parseFrom, classLength?_append hw, hn, htake, ih hlt]
  | case6 t hn _ _ ih => simp [parseFrom, classLength?_append hw, hn, ih]
  | case7 c t hstar hany hopen ih => simp [parseFrom, hstar, hany, hopen, ih]

/-- With a literal text behind it, a pattern matches the names that it matches with the text behind
    them. -/
theorem isMatch_append_iff {w : Text} (hw : IsLiteral w) {p t : Text} :
    isMatch (p ++ w) t = true ↔ ∃ x, t = x ++ w ∧ isMatch p x = true := by
  rw [isMatch_iff, parse, parseFrom_append hw (Nat.zero_le _), matches_append]
  simp only [matches_map_lit, isMatch_iff, parse]
  constructor
  · rintro ⟨x, y, rfl, hx, rfl⟩
    exact ⟨x, rfl, hx⟩
  · rintro ⟨x, rfl, hx⟩
    exact ⟨x, w, rfl, hx, rfl⟩

end Glob

/-! ## Interfaces -/

theorem isLiteral_interfaceSuffix : Glob.IsLiteral interfaceSuffix := by decide

/-- **A rule covers what its pattern matches, and the interfaces of that.** The pattern is any text, with
    stars, question marks, and classes that are closed or left open. -/
theorem SuffixRule.covers_iff_isMatch (pattern suffix t : Text) :
    (SuffixRule.mk pattern suffix).covers t = true ↔
      Glob.isMatch pattern t = true ∨
        ∃ x, t = x ++ "Interface".toList ∧ Glob.isMatch pattern x = true := by
  rw [covers, Bool.or_eq_true, Glob.isMatch_append_iff isLiteral_interfaceSuffix]
  rfl

/-- An open class stays open behind the ending. -/
example : (SuffixRule.mk "[ab-" []).covers "[ab-Interface" = true ∧
    (SuffixRule.mk "[ab-" []).covers "aInterface" = false := by decide

end HouseStyle
