import HouseStyle.Proofs.RuleId
import HouseStyle.Proofs.Suffix.Merging

/-!
# Lists of suffix rules as tables

A list of rules with different patterns can be written as a table from patterns to suffixes. Reading
the table back could take another turn: a key that looks like a number stands for no pattern, and its
entry is then a pattern of its own. No list that comes from patterns, tables or merging is changed by
it, since there a pattern that looks like a number always has itself as its suffix.

Main definitions:
* `SuffixRule.Normalized`: the lists that come from patterns, tables and merging.
* `SuffixRule.IsNormal`: different patterns, and numerals that are their own suffix.
* `SuffixRule.entries`: the table from patterns to suffixes.

Main results:
* `Value.ofPairs_of_pairwise`: entries under different keys are the entries of their table.
* `SuffixRule.Normalized.isNormal`: the invariant holds of every such list.
* `SuffixRule.IsNormal.ofTable_entries`: the table of such a list is read back as the list.
-/

namespace HouseStyle

/-- What follows in a list with different keys has a new key. -/
theorem not_mem_map_of_nodup {α β : Type} {key : α → β} {xs ys : List α} {x : α}
    (h : ((xs ++ x :: ys).map key).Nodup) : key x ∉ xs.map key := by
  rw [List.map_append, List.map_cons, List.nodup_middle, List.nodup_cons] at h
  intro hmem
  exact h.1 (List.mem_append_left _ hmem)

/-! ## Tables with different keys -/

namespace Value

theorem setEntry_of_new {key value : Value} {es : List (Value × Value)}
    (h : ∀ e ∈ es, sameKey e.1 key = false) : setEntry key value es = es ++ [(key, value)] := by
  induction es with
  | nil => rfl
  | cons e es ih =>
    obtain ⟨he, hes⟩ := List.forall_mem_cons.mp h
    rw [setEntry, he, if_neg Bool.false_ne_true, ih hes, List.cons_append]

/-- Entries under different keys are the entries of their table. -/
theorem ofPairs_of_pairwise {es : List (Value × Value)}
    (h : es.Pairwise fun d e => sameKey d.1 e.1 = false) : ofPairs es = .table es := by
  have hfold : ∀ rest done : List (Value × Value),
      (done ++ rest).Pairwise (fun d e => sameKey d.1 e.1 = false) →
        rest.foldl (fun es p => setEntry p.1 p.2 es) done = done ++ rest := by
    intro rest
    induction rest with
    | nil => simp
    | cons e rest ih =>
      intro done hdone
      have hnew : ∀ d ∈ done, sameKey d.1 e.1 = false := fun d hd =>
        (List.pairwise_append.mp hdone).2.2 d hd e List.mem_cons_self
      rw [List.foldl_cons, setEntry_of_new hnew, ih _ (by simpa using hdone), List.append_assoc,
        List.singleton_append]
  exact congrArg Value.table (hfold es [] h)

end Value

/-! ## Numerals -/

/-- A set is read from the characters of its rows. -/
theorem CharSet.ranges_read {rows : List String} {texts : List Text}
    (h : List.Forall₂ (fun r t => r.toList = t) rows texts) :
    (CharSet.read rows).ranges = (texts.flatMap (Text.splitOn ' ')).map readRange := by
  have hfields : Text.fields rows = texts.flatMap (Text.splitOn ' ') := by
    induction h with
    | nil => rfl
    | cons hrow _ ih => rw [Text.fields, List.flatMap_cons, hrow, List.flatMap_cons, ← ih, Text.fields]
  rw [read, hfields]

namespace Text

/-- Blanks beyond ASCII. -/
def furtherBlanks : List Nat :=
  [0x85, 0xA0, 0x1680] ++ List.range' 0x2000 11 ++ [0x2028, 0x2029, 0x202F, 0x205F, 0x3000]

theorem furtherDigits_disjoint_furtherBlanks : furtherDigits.ranges.all (fun r =>
    furtherBlanks.all fun n => !(decide (r.1 ≤ n) && decide (n ≤ r.2))) = true := by
  -- the rows as lists of characters: the kernel is slow to get these from the bytes of a literal
  have row {t : Text} : (String.ofList t).toList = t := String.toList_ofList
  unfold furtherDigits
  rw [CharSet.ranges_read (.cons row (.cons row (.cons row (.cons row (.cons row (.cons row (.cons row
    (.cons row (.cons row (.cons row .nil))))))))))]
  decide +kernel

theorem isBlank_of_isDigit {c : Char} (h : isDigit c = true) : isBlank c = false := by
  by_contra hblank
  rw [Bool.not_eq_false] at hblank
  simp only [isBlank, Bool.or_eq_true, Bool.and_eq_true, decide_eq_true_eq] at hblank
  rw [isDigit] at h
  split_ifs at h with hascii
  · simp only [isAsciiDigit, Bool.and_eq_true, decide_eq_true_eq] at h
    omega
  · have hmem : c.toNat ∈ furtherBlanks := by
      simp only [furtherBlanks, List.mem_append, List.mem_range'_1, List.mem_cons, List.not_mem_nil,
        or_false]
      omega
    obtain ⟨r, hr, hin⟩ := List.any_eq_true.mp h
    have hall := List.all_eq_true.mp furtherDigits_disjoint_furtherBlanks r hr
    have hnot := List.all_eq_true.mp hall _ hmem
    rw [hin] at hnot
    exact Bool.false_ne_true hnot

/-- A numeral has no blanks around it. -/
theorem strip_of_isNumeral {t : Text} (h : t.isNumeral = true) : t.strip = t := by
  rw [isNumeral, Bool.and_eq_true, List.all_eq_true] at h
  exact strip_eq_self (fun c hc => isBlank_of_isDigit (h.2 c (List.mem_of_head? hc)))
    fun c hc => isBlank_of_isDigit (h.2 c (List.mem_of_getLast? hc))

end Text

namespace SuffixRule

variable {pattern suffix : Text} {r : SuffixRule} {rs base extra rules : List SuffixRule}

/-! ## Patterns that look like numbers -/

/-- A pattern that looks like a number has digits and blanks only. -/
theorem blank_or_digit_of_isNumeral (h : pattern.strip.isNumeral = true) {c : Char}
    (hc : c ∈ pattern) : Text.isBlank c = true ∨ Text.isDigit c = true := by
  cases hblank : Text.isBlank c with
  | true => exact .inl rfl
  | false =>
    rw [Text.isNumeral, Bool.and_eq_true, List.all_eq_true] at h
    exact .inr (h.2 c (Text.mem_strip hc hblank))

theorem dropWhile_star (h : '*' ∉ pattern) : pattern.dropWhile (· = '*') = pattern := by
  cases pattern with
  | nil => rfl
  | cons c t =>
    have hne : c ≠ '*' := fun heq => h (heq ▸ List.mem_cons_self)
    rw [List.dropWhile_cons, if_neg (by simpa using hne)]

/-- Neither a star nor the interface ending can be dropped from it. -/
theorem deriveSuffix_of_isNumeral (h : pattern.strip.isNumeral = true) :
    deriveSuffix pattern = pattern := by
  have hstar : '*' ∉ pattern := by
    intro hc
    rcases blank_or_digit_of_isNumeral h hc with hc | hc <;> revert hc <;> decide
  have hletter : 'e' ∉ pattern := by
    intro hc
    rcases blank_or_digit_of_isNumeral h hc with hc | hc <;> revert hc <;> decide
  have hending : interfaceSuffix.isSuffixOf pattern = false := by
    rw [Bool.eq_false_iff, ne_eq, List.isSuffixOf_iff_suffix]
    intro hsuffix
    exact hletter (hsuffix.subset (by decide))
  rw [deriveSuffix, dropWhile_star hstar, Text.dropSuffix?, hending]
  rfl

/-! ## Lists with different patterns -/

theorem put_of_not_mem (h : pattern ∉ rs.map (·.pattern)) :
    put pattern suffix rs = rs ++ [⟨pattern, suffix⟩] := by
  induction rs with
  | nil => rfl
  | cons q rs ih =>
    rw [List.map_cons, List.mem_cons, not_or] at h
    rw [put, if_neg (Ne.symm h.1), ih h.2, List.cons_append]

/-- Rules with different patterns are added as they are. -/
theorem putAll_of_nodup (h : ((base ++ extra).map (·.pattern)).Nodup) :
    putAll base extra = base ++ extra := by
  induction extra generalizing base with
  | nil => rw [List.append_nil]; rfl
  | cons r rs ih =>
    have hnew : r.pattern ∉ base.map (·.pattern) := not_mem_map_of_nodup h
    have hstep : putAll base (r :: rs) = putAll (base ++ [r]) rs := by
      rw [putAll, List.foldl_cons, put_of_not_mem hnew, ← putAll]
    rw [hstep, ih (by simpa using h), List.append_assoc, List.singleton_append]

theorem putAll_nil (h : (rules.map (·.pattern)).Nodup) : putAll [] rules = rules := putAll_of_nodup h

/-! ## Normal lists -/

/-- The patterns are different, and a pattern that looks like a number is its own suffix. -/
structure IsNormal (rules : List SuffixRule) : Prop where
  nodup : (rules.map (·.pattern)).Nodup
  numeral : ∀ r ∈ rules, r.pattern.strip.isNumeral = true → r.suffix = r.pattern

theorem isNormal_putAll (hbase : IsNormal base)
    (hextra : ∀ r ∈ extra, r.pattern.strip.isNumeral = true → r.suffix = r.pattern) :
    IsNormal (putAll base extra) where
  nodup := nodup_putAll hbase.nodup
  numeral r hr := (mem_putAll hr).elim (hbase.numeral r) (hextra r)

theorem isNormal_nil : IsNormal [] where
  nodup := .nil
  numeral := by simp

theorem suffix_ofPattern (h : pattern.strip.isNumeral = true) :
    (ofPattern pattern).suffix = (ofPattern pattern).pattern := deriveSuffix_of_isNumeral h

/-- A key of a suffix table: a text or an integer. -/
def IsKey (k : Value) : Prop := (∃ t, k = .text t) ∨ ∃ n, k = .int n

/-- A named entry has no pattern that looks like a number, for then it would not be named. -/
theorem suffix_ofEntry {key : Value} {entry : Text} (hkey : IsKey key)
    (h : (ofEntry key entry).pattern.strip.isNumeral = true) :
    (ofEntry key entry).suffix = (ofEntry key entry).pattern := by
  by_cases hunnamed : isUnnamed key = true
  · rw [ofEntry, if_pos hunnamed] at h ⊢
    exact suffix_ofPattern h
  · rw [ofEntry, if_neg hunnamed] at h
    obtain ⟨t, rfl⟩ | ⟨n, rfl⟩ := hkey
    · exact absurd h hunnamed
    · exact absurd rfl hunnamed

/-- The lists of rules that come from lists of patterns, from tables and from merging such lists. -/
inductive Normalized : List SuffixRule → Prop where
  | ofPatterns (patterns : List Text) : Normalized (ofPatterns patterns)
  | ofTable (es : List (Value × Text)) (h : ∀ e ∈ es, IsKey e.1) : Normalized (ofTable es)
  | merge {base extra : List SuffixRule} (hbase : Normalized base) (hextra : Normalized extra) :
      Normalized (merge base extra)

theorem Normalized.isNormal (h : Normalized rules) : IsNormal rules := by
  induction h with
  | ofPatterns patterns =>
    refine isNormal_putAll isNormal_nil fun r hr => ?_
    obtain ⟨pattern, -, rfl⟩ := List.mem_map.mp hr
    exact suffix_ofPattern
  | ofTable es hkeys =>
    refine isNormal_putAll isNormal_nil fun r hr => ?_
    obtain ⟨e, he, rfl⟩ := List.mem_map.mp hr
    exact suffix_ofEntry (hkeys e he)
  | merge hbase hextra ihbase ihextra =>
    exact isNormal_putAll (isNormal_putAll isNormal_nil ihbase.numeral) ihextra.numeral

/-! ## The table of a list -/

/-- The table that gives every pattern its suffix. -/
def entries (rules : List SuffixRule) : List (Value × Text) :=
  rules.map fun r => (.text r.pattern, r.suffix)

theorem IsNormal.ofEntry_eq (h : IsNormal rules) (hr : r ∈ rules) :
    ofEntry (.text r.pattern) r.suffix = r := by
  by_cases hnumeral : r.pattern.strip.isNumeral = true
  · have hsuffix := h.numeral r hr hnumeral
    rw [ofEntry, isUnnamed, if_pos hnumeral, hsuffix, ofPattern, deriveSuffix_of_isNumeral hnumeral,
      SuffixRule.mk.injEq]
    exact ⟨rfl, hsuffix.symm⟩
  · rw [ofEntry, isUnnamed, if_neg hnumeral]
    rfl

/-- The table of a normal list is read back as the list. -/
theorem IsNormal.ofTable_entries (h : IsNormal rules) : ofTable (entries rules) = rules := by
  have hmap : (entries rules).map (fun e => ofEntry e.1 e.2) = rules := by
    rw [entries, List.map_map, List.map_congr_left (g := id), List.map_id]
    intro r hr
    exact h.ofEntry_eq hr
  rw [ofTable, hmap, putAll_nil h.nodup]

end SuffixRule

end HouseStyle
