import HouseStyle.Proofs.Suffix.Coverage
import HouseStyle.Proofs.Suffix.Laws

/-!
# Patterns of stars and a word

Most patterns are a star and a word, like `*Command`, and come without a suffix of their own. The word is
then read twice: as the end of the type names that the rule covers, and as the suffix of the classes,
where it loses an interface ending. Here both readings are put together: a name that is covered ends in the
suffix and at most two interface endings, the one that the word may have and the one that a pattern allows
behind what it matches.

Main definitions:
* `SuffixRule.UnnamedIn`: the pattern stands in a list or a table without a suffix of its own.

Main results:
* `Glob.isMatch_word_iff`, `Glob.isMatch_stars_iff`: what a word matches, alone and behind stars.
* `SuffixRule.UnnamedIn.mem_iff`: the one rule of such a pattern.
* `SuffixRule.deriveSuffix_cases`: the suffix that a word stands for.
* `SuffixRule.UnnamedIn.covers_iff_suffix`: what the rule of stars and a word covers, and its suffix.
-/

namespace HouseStyle

namespace Glob

variable {items : List Item} {name w : Text}

/-! ## Stars in front of a word -/

theorem parse_stars (k : Nat) (w : Text) :
    parse (Text.copies k '*' ++ w) = List.replicate k .many ++ parse w := by
  induction k with
  | zero => rfl
  | succ k ih =>
    have hcopies : Text.copies (k + 1) '*' = '*' :: Text.copies k '*' := rfl
    have hstar : parse ('*' :: (Text.copies k '*' ++ w)) = .many :: parse (Text.copies k '*' ++ w) := rfl
    rw [hcopies, List.cons_append, hstar, ih, List.replicate_succ, List.cons_append]

/-- Several stars match what one star matches. -/
theorem matches_replicate_many (k : Nat) : Matches (List.replicate (k + 1) .many ++ items) name ↔
    ∃ rest, rest <:+ name ∧ Matches items rest := by
  induction k generalizing name with
  | zero => exact matches_many_iff
  | succ k ih =>
    rw [List.replicate_succ, List.cons_append, matches_many_iff]
    simp only [ih]
    constructor
    · rintro ⟨mid, hmid, rest, hrest, h⟩
      exact ⟨rest, hrest.trans hmid, h⟩
    · rintro ⟨rest, hrest, h⟩
      exact ⟨rest, hrest, rest, List.suffix_rfl, h⟩

theorem matches_word_iff (hw : IsWord w) : Matches (parse w) name ↔ name = w := by
  rw [parse, parseFrom_of_isWord hw, matches_map_lit]

theorem isMatch_word_iff (hw : IsWord w) : isMatch w name = true ↔ name = w := by
  rw [isMatch_iff, matches_word_iff hw]

theorem isMatch_stars_iff (hw : IsWord w) {k : Nat} (hk : 1 ≤ k) :
    isMatch (Text.copies k '*' ++ w) name = true ↔ w <:+ name := by
  obtain ⟨j, rfl⟩ : ∃ j, k = j + 1 := ⟨k - 1, by omega⟩
  rw [isMatch_iff, parse_stars, matches_replicate_many]
  simp only [matches_word_iff hw, exists_eq_right]

theorem IsWord.not_mem (hw : IsWord w) : '*' ∉ w := fun h => (hw '*' h).1 rfl

end Glob

namespace SuffixRule

variable {pattern w : Text} {r : SuffixRule} {rs rules : List SuffixRule}

/-! ## The rule of a pattern without a suffix -/

/-- The rules come from a list with the pattern, or from a table that has the pattern under a key that
    stands for no pattern, and that gives it no suffix under its own name. -/
inductive UnnamedIn (pattern : Text) : List SuffixRule → Prop
  | ofPatterns {patterns : List Text} (h : pattern ∈ patterns) : UnnamedIn pattern (ofPatterns patterns)
  | ofTable {entries : List (Value × Text)} {key : Value} (hkey : isUnnamed key = true)
      (h : (key, pattern) ∈ entries)
      (hnamed : ∀ e ∈ entries, isUnnamed e.1 = false → e.1.plain ≠ pattern) :
      UnnamedIn pattern (ofTable entries)

/-- If all rules of a pattern in a row are one rule, then this is what is left of them. -/
theorem mem_putAll_iff_of_forall (hmem : r ∈ rs) (hrs : ∀ q ∈ rs, q.pattern = r.pattern → q = r)
    (q : SuffixRule) : q ∈ putAll [] rs ∧ q.pattern = r.pattern ↔ q = r := by
  have honly : ∀ q ∈ putAll [] rs, q.pattern = r.pattern → q = r := fun q hq =>
    hrs q ((mem_putAll hq).resolve_left List.not_mem_nil)
  constructor
  · rintro ⟨hq, hpattern⟩
    exact honly q hq hpattern
  · rintro rfl
    have hpattern := mem_map_pattern_putAll.mpr (List.mem_map_of_mem (f := (·.pattern)) hmem)
    obtain ⟨q', hq', heq⟩ := List.mem_map.mp hpattern
    rw [← honly q' hq' heq]
    exact ⟨hq', rfl⟩

/-- A pattern without a suffix of its own has one rule, with the suffix that it stands for. -/
theorem UnnamedIn.mem_iff (h : UnnamedIn pattern rules) (q : SuffixRule) :
    q ∈ rules ∧ q.pattern = pattern ↔ q = ofPattern pattern := by
  cases h with
  | @ofPatterns patterns h =>
    refine mem_putAll_iff_of_forall (r := ofPattern pattern) (List.mem_map_of_mem h) ?_ q
    intro q hq hpattern
    obtain ⟨p, -, rfl⟩ := List.mem_map.mp hq
    exact congrArg ofPattern hpattern
  | @ofTable entries key hkey h hnamed =>
    have hentry : ofEntry key pattern = ofPattern pattern := by rw [ofEntry, if_pos hkey]
    refine mem_putAll_iff_of_forall (r := ofPattern pattern) ?_ ?_ q
    · exact hentry ▸ List.mem_map_of_mem (f := fun e : Value × Text => ofEntry e.1 e.2) h
    · intro q hq hpattern
      obtain ⟨e, he, rfl⟩ := List.mem_map.mp hq
      -- Any other entry with this pattern has no suffix either, so that its rule is the same.
      cases hunnamed : isUnnamed e.1 with
      | true =>
        rw [ofEntry, if_pos hunnamed] at hpattern ⊢
        exact congrArg ofPattern hpattern
      | false =>
        rw [ofEntry, hunnamed, if_neg Bool.false_ne_true] at hpattern
        exact absurd hpattern (hnamed e he hunnamed)

/-! ## The suffix of a word -/

theorem deriveSuffix_stars (k : Nat) (hw : '*' ∉ w) :
    deriveSuffix (Text.copies k '*' ++ w) = (Text.dropSuffix? interfaceSuffix w).getD w := by
  have hcore : (Text.copies k '*' ++ w).dropWhile (· = '*') = w := by
    rw [List.dropWhile_append_of_pos (by simp [Text.copies]), dropWhile_star hw]
  rw [deriveSuffix, hcore]

/-- A word loses one interface ending if it has one. -/
theorem deriveSuffix_cases (k : Nat) (hw : '*' ∉ w) :
    w = deriveSuffix (Text.copies k '*' ++ w) ++ interfaceSuffix ∨
      ¬ interfaceSuffix <:+ w ∧ deriveSuffix (Text.copies k '*' ++ w) = w := by
  rw [deriveSuffix_stars k hw, Text.dropSuffix?]
  by_cases hending : interfaceSuffix <:+ w
  · obtain ⟨v, rfl⟩ := hending
    have hlen : (v ++ interfaceSuffix).length - interfaceSuffix.length = v.length := by
      rw [List.length_append]
      omega
    rw [if_pos (List.isSuffixOf_iff_suffix.mpr (List.suffix_append v _)), Option.getD_some, hlen,
      List.take_left]
    exact Or.inl rfl
  · rw [if_neg (mt List.isSuffixOf_iff_suffix.mp hending), Option.getD_none]
    exact Or.inr ⟨hending, rfl⟩

/-! ## What is covered -/

theorem covers_word_iff (hw : Glob.IsWord w) (suffix t : Text) :
    (mk w suffix).covers t = true ↔ t = w ∨ t = w ++ interfaceSuffix := by
  rw [covers, Bool.or_eq_true, Glob.isMatch_append_iff isLiteral_interfaceSuffix]
  simp only [Glob.isMatch_word_iff hw, exists_eq_right]

theorem covers_stars_iff (hw : Glob.IsWord w) {k : Nat} (hk : 1 ≤ k) (suffix t : Text) :
    (mk (Text.copies k '*' ++ w) suffix).covers t = true ↔ w <:+ t ∨ w ++ interfaceSuffix <:+ t := by
  rw [covers, Bool.or_eq_true, Glob.isMatch_append_iff isLiteral_interfaceSuffix]
  simp only [Glob.isMatch_stars_iff hw hk]
  refine or_congr_right ⟨?_, ?_⟩
  · rintro ⟨x, rfl, pre, rfl⟩
    exact ⟨pre, (List.append_assoc _ _ _).symm⟩
  · rintro ⟨pre, rfl⟩
    exact ⟨pre ++ w, (List.append_assoc _ _ _).symm, List.suffix_append pre w⟩

/-- The interface ending, `n` times. -/
def interfaceEndings (n : Nat) : Text := (List.replicate n interfaceSuffix).flatten

theorem interfaceEndings_one : interfaceEndings 1 = interfaceSuffix := List.flatten_singleton

theorem interfaceEndings_add (m n : Nat) :
    interfaceEndings (m + n) = interfaceEndings m ++ interfaceEndings n := by
  rw [interfaceEndings, List.replicate_add, List.flatten_append, interfaceEndings, interfaceEndings]

/-- A word is its suffix with at most one interface ending. -/
theorem exists_word_eq (k : Nat) (hw : '*' ∉ w) :
    ∃ n ≤ 1, w = deriveSuffix (Text.copies k '*' ++ w) ++ interfaceEndings n := by
  rcases deriveSuffix_cases k hw with h | ⟨-, h⟩
  · exact ⟨1, le_rfl, by rw [interfaceEndings_one, ← h]⟩
  · exact ⟨0, by omega, by rw [h]; exact (List.append_nil w).symm⟩

/-- What is covered ends in the word and at most one interface ending. -/
theorem exists_covered_eq (hw : Glob.IsWord w) {k : Nat} {suffix t : Text}
    (h : (mk (Text.copies k '*' ++ w) suffix).covers t = true) :
    ∃ x, ∃ n ≤ 1, t = x ++ w ++ interfaceEndings n := by
  have hends : w <:+ t ∨ w ++ interfaceSuffix <:+ t := by
    rcases Nat.eq_zero_or_pos k with rfl | hk
    · rcases (covers_word_iff hw suffix t).mp h with rfl | rfl
      · exact Or.inl List.suffix_rfl
      · exact Or.inr List.suffix_rfl
    · exact (covers_stars_iff hw hk suffix t).mp h
  rcases hends with ⟨x, rfl⟩ | ⟨x, rfl⟩
  · exact ⟨x, 0, by omega, (List.append_nil _).symm⟩
  · exact ⟨x, 1, le_rfl, by rw [interfaceEndings_one, List.append_assoc]⟩

/-- **What the rule of stars and a word covers, and its suffix.** Wherever such a pattern stands without a
    suffix of its own, it has one rule. Without stars the rule covers the word and its interface, and with
    stars all names that end in one of these. Its suffix is the word without one interface ending, so that
    every name that it covers ends in the suffix and at most two interface endings. -/
theorem UnnamedIn.covers_iff_suffix {k : Nat} (hw : Glob.IsWord w)
    (h : UnnamedIn (Text.copies k '*' ++ w) rules) :
    ∃ r : SuffixRule, (∀ q, q ∈ rules ∧ q.pattern = Text.copies k '*' ++ w ↔ q = r) ∧
      (k = 0 → ∀ t, r.covers t = true ↔ t = w ∨ t = w ++ "Interface".toList) ∧
      (1 ≤ k → ∀ t, r.covers t = true ↔ w <:+ t ∨ w ++ "Interface".toList <:+ t) ∧
      (∀ v, w = v ++ "Interface".toList → r.suffix = v) ∧
      (¬ "Interface".toList <:+ w → r.suffix = w) ∧
      ∀ t, r.covers t = true →
        ∃ x, ∃ n ≤ 2, t = x ++ r.suffix ++ (List.replicate n "Interface".toList).flatten := by
  refine ⟨ofPattern (Text.copies k '*' ++ w), h.mem_iff, ?_, ?_, ?_, ?_, ?_⟩
  · rintro rfl t
    exact covers_word_iff hw _ t
  · intro hk t
    exact covers_stars_iff hw hk _ t
  · rintro v hv
    rcases deriveSuffix_cases k hw.not_mem with hsuffix | ⟨hnot, -⟩
    · exact (List.append_cancel_right (hv.symm.trans hsuffix)).symm
    · exact absurd ⟨v, hv.symm⟩ hnot
  · intro hnot
    rcases deriveSuffix_cases k hw.not_mem with hsuffix | ⟨-, hsuffix⟩
    · exact absurd ⟨_, hsuffix.symm⟩ hnot
    · exact hsuffix
  · intro t ht
    obtain ⟨x, n, hn, hcovered⟩ := exists_covered_eq hw ht
    obtain ⟨m, hm, hword⟩ := exists_word_eq k hw.not_mem
    refine ⟨x, m + n, by omega, ?_⟩
    -- The word brings at most one ending, and the pattern allows at most one behind it.
    calc t = x ++ w ++ interfaceEndings n := hcovered
      _ = x ++ (deriveSuffix (Text.copies k '*' ++ w) ++ interfaceEndings m) ++ interfaceEndings n := by
        rw [← hword]
      _ = x ++ deriveSuffix (Text.copies k '*' ++ w) ++ interfaceEndings (m + n) := by
        rw [interfaceEndings_add, List.append_assoc, List.append_assoc, List.append_assoc]

/-- Two stars and a word with an interface ending, in a table that numbers its entries. -/
theorem covers_iff_suffix_interface :
    let rules := ofTable [(.int 1, "**FixerInterface"), (.text "*Rule", "Rule")]
    ∃ r ∈ rules, r.suffix = "Fixer".toList ∧ r.covers "pkg.MyFixerInterfaceInterface" = true ∧
      r.covers "MyFixer" = false := by
  intro rules
  have hword : Glob.IsWord "FixerInterface" := by decide
  have hrules : UnnamedIn (Text.copies 2 '*' ++ "FixerInterface".toList) rules :=
    .ofTable (by rfl) List.mem_cons_self (by decide)
  obtain ⟨r, hr, -, hcovers, hsuffix, -⟩ := UnnamedIn.covers_iff_suffix hword hrules
  refine ⟨r, ((hr r).mpr rfl).1, hsuffix "Fixer" rfl, ?_, ?_⟩
  · exact (hcovers (by omega) _).mpr (by decide)
  · rw [Bool.eq_false_iff, ne_eq, hcovers (by omega)]
    decide

end SuffixRule

end HouseStyle
