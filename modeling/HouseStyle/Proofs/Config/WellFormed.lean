import HouseStyle.Config.Reader
import HouseStyle.Proofs.Config.Selection
import HouseStyle.Proofs.Suffix.Merging

/-!
# Accepted configurations are well-formed

Reading a table checks each option on its own, and the rules of two options are merged afterwards. What
comes out keeps all that was checked, in the form in which the rest of the library relies on it.

Main definitions:
* `SuffixRule.WellFormed`: lists of rules with different patterns, none of them blank, and no empty
  suffix.
* `Config.WellFormed`: well-formed configurations.

Main results:
* `Config.suffixPart_induction`: how the rules of a configuration are built.
* `Config.suffixPart_wellFormed`, `Config.rulesPart_wellFormed`, `Config.complexityPart_eq_ok`: the
  parts of a table.
* `Config.wellFormed_of_ofValue`: every accepted table gives a well-formed configuration.
-/

namespace HouseStyle

/-! ## Suffix rules -/

/-- The patterns are different and not blank, and no suffix is empty. -/
structure SuffixRule.WellFormed (rules : List SuffixRule) : Prop where
  nodup : (rules.map (·.pattern)).Nodup
  pattern_ne : ∀ r ∈ rules, r.pattern.strip ≠ []
  suffix_ne : ∀ r ∈ rules, r.suffix ≠ []

theorem SuffixRule.wellFormed_nil : WellFormed [] where
  nodup := .nil
  pattern_ne := by simp
  suffix_ne := by simp

theorem SuffixRule.wellFormed_defaults : WellFormed defaults where
  nodup := by decide
  pattern_ne := by decide
  suffix_ne := by decide

theorem SuffixRule.WellFormed.merge {base extra : List SuffixRule} (hbase : WellFormed base)
    (hextra : WellFormed extra) : WellFormed (merge base extra) where
  nodup := nodup_merge
  pattern_ne r hr := (mem_merge hr).elim (hbase.pattern_ne r) (hextra.pattern_ne r)
  suffix_ne r hr := (mem_merge hr).elim (hbase.suffix_ne r) (hextra.suffix_ne r)

namespace Config

/-! ## Steps of a reader -/

theorem bind_eq_ok_iff {ε α β : Type} {x : Except ε α} {f : α → Except ε β} {r : β} :
    x >>= f = .ok r ↔ ∃ a, x = .ok a ∧ f a = .ok r := by
  cases x with
  | error e => exact iff_of_false nofun (by simp)
  | ok a =>
    constructor
    · intro h
      exact ⟨a, rfl, h⟩
    · rintro ⟨b, hb, h⟩
      cases hb
      exact h

theorem map_eq_ok_iff {ε α β : Type} {x : Except ε α} {f : α → β} {r : β} :
    f <$> x = .ok r ↔ ∃ a, x = .ok a ∧ f a = r := by
  cases x with
  | error e => exact iff_of_false nofun (by simp)
  | ok a => simp

/-! ## The table of class suffixes -/

theorem checkRules_eq_ok_iff {field : Text} {rules : List SuffixRule} :
    checkRules field rules = .ok () ↔ ∀ r ∈ rules, r.pattern.strip ≠ [] ∧ r.suffix ≠ [] := by
  induction rules with
  | nil => simp [checkRules]
  | cons r rs ih =>
    rw [checkRules, List.forall_mem_cons]
    split_ifs with hpattern hsuffix
    · simp [List.isEmpty_iff.mp hpattern]
    · simp [List.isEmpty_iff.mp hsuffix]
    · rw [List.isEmpty_iff] at hpattern hsuffix
      simp [hpattern, hsuffix, ih]

theorem wellFormed_of_checkRules {field : Text} {rules : List SuffixRule}
    (hnodup : (rules.map (·.pattern)).Nodup) (h : checkRules field rules = .ok ()) :
    SuffixRule.WellFormed rules := by
  have hrules := checkRules_eq_ok_iff.mp h
  exact ⟨hnodup, fun r hr => (hrules r hr).1, fun r hr => (hrules r hr).2⟩

/-- Rules are given by a table or by a list of patterns, and checked in either case. -/
theorem suffixRulesOf_eq_ok {field : Text} {v : Value} {rules : List SuffixRule}
    (h : suffixRulesOf field v = .ok rules) :
    checkRules field rules = .ok () ∧
      ((∃ es entries, v = .table es ∧ suffixEntries field es = .ok entries ∧
          rules = SuffixRule.ofTable entries) ∨
        ∃ ts, v.texts? = some ts ∧ rules = SuffixRule.ofPatterns ts) := by
  unfold suffixRulesOf at h
  dsimp only at h
  split at h
  · next es =>
    obtain ⟨found, hfound, h⟩ := bind_eq_ok_iff.mp h
    obtain ⟨⟨⟩, hcheck, h⟩ := bind_eq_ok_iff.mp h
    cases h
    obtain ⟨entries, hentries, rfl⟩ := map_eq_ok_iff.mp hfound
    exact ⟨hcheck, .inl ⟨es, entries, rfl, hentries, rfl⟩⟩
  · split at h
    · next ts hts =>
      obtain ⟨found, hfound, h⟩ := bind_eq_ok_iff.mp h
      obtain ⟨⟨⟩, hcheck, h⟩ := bind_eq_ok_iff.mp h
      cases h
      cases hfound
      exact ⟨hcheck, .inr ⟨ts, hts, rfl⟩⟩
    · cases h

/-- A list and a table give rules with different patterns; the check sees to the rest. -/
theorem suffixRulesOf_wellFormed {field : Text} {v : Value} {rules : List SuffixRule}
    (h : suffixRulesOf field v = .ok rules) : SuffixRule.WellFormed rules := by
  obtain ⟨hcheck, ⟨_, entries, -, -, rfl⟩ | ⟨ts, -, rfl⟩⟩ := suffixRulesOf_eq_ok h
  · exact wellFormed_of_checkRules (SuffixRule.nodup_putAll .nil) hcheck
  · exact wellFormed_of_checkRules (SuffixRule.nodup_putAll .nil) hcheck

theorem suffixPart_table_eq_ok_iff {es : Entries} {rules : List SuffixRule} :
    suffixPart (.table es) = .ok rules ↔
      checkOptions suffixField (primaryOptions ++ extraOptions) es = .ok () ∧
      ∃ primary, suffixOption SuffixRule.defaults "parent_types_to_suffixes"
        (option? es primaryOptions) = .ok primary ∧
      ∃ extra, suffixOption [] "extra_parent_types_to_suffixes" (option? es extraOptions) =
        .ok extra ∧ rules = SuffixRule.merge primary extra := by
  rw [suffixPart]
  constructor
  · intro h
    obtain ⟨⟨⟩, hoptions, h⟩ := bind_eq_ok_iff.mp h
    obtain ⟨primary, hprimary, h⟩ := bind_eq_ok_iff.mp h
    obtain ⟨extra, hextra, h⟩ := bind_eq_ok_iff.mp h
    cases h
    exact ⟨hoptions, primary, hprimary, extra, hextra, rfl⟩
  · rintro ⟨hoptions, primary, hprimary, extra, hextra, rfl⟩
    refine bind_eq_ok_iff.mpr ⟨(), hoptions, bind_eq_ok_iff.mpr ⟨primary, hprimary, ?_⟩⟩
    exact bind_eq_ok_iff.mpr ⟨extra, hextra, rfl⟩

/-- The suffix maps of the table of class suffixes: the one that replaces the defaults, and the one that
    is added. -/
def suffixMaps : Value → List Value
  | .table es => (option? es primaryOptions).toList ++ (option? es extraOptions).toList
  | _ => []

/-- The rules of a configuration are built from the defaults, from no rules and from what the maps of
    the table give, by merging. -/
theorem suffixPart_induction {P : List SuffixRule → Prop} {v : Value} {rules : List SuffixRule}
    (hdefaults : P SuffixRule.defaults) (hnil : P [])
    (hmap : ∀ m ∈ suffixMaps v, ∀ field found, suffixRulesOf field m = .ok found → P found)
    (hmerge : ∀ {base extra}, P base → P extra → P (SuffixRule.merge base extra))
    (h : suffixPart v = .ok rules) : P rules := by
  have hoption : ∀ {absent found : List SuffixRule} {name : Text} {o : Option Value}, P absent →
      (∀ m, o = some m → m ∈ suffixMaps v) → suffixOption absent name o = .ok found → P found := by
    intro absent found name o habsent hmem hfound
    unfold suffixOption at hfound
    split at hfound
    · cases hfound
      exact habsent
    · cases hfound
      exact habsent
    · exact hmap _ (hmem _ rfl) _ _ hfound
  cases v with
  | null =>
    cases h
    exact hdefaults
  | table es =>
    obtain ⟨-, primary, hprimary, extra, hextra, rfl⟩ := suffixPart_table_eq_ok_iff.mp h
    exact hmerge (hoption hdefaults (fun m hm => by simp [suffixMaps, hm]) hprimary)
      (hoption hnil (fun m hm => by simp [suffixMaps, hm]) hextra)
  | _ => cases h

/-- The rules that replace the defaults and those that are added are checked on their own; merging them
    loses nothing of it. -/
theorem suffixPart_wellFormed {v : Value} {rules : List SuffixRule} (h : suffixPart v = .ok rules) :
    SuffixRule.WellFormed rules :=
  suffixPart_induction SuffixRule.wellFormed_defaults SuffixRule.wellFormed_nil
    (fun _ _ _ _ hfound => suffixRulesOf_wellFormed hfound) SuffixRule.WellFormed.merge h

/-! ## The table of cognitive complexity -/

/-- The greatest complexity that a table gives, under the first spelling that is present. -/
def givenMaximum? : Value → Option Value
  | .table es => option? es maximumOptions
  | _ => none

theorem maximumOf_eq_ok_iff {v : Value} {n : Nat} : maximumOf v = .ok n ↔ v = .int n := by
  unfold maximumOf
  split
  · rw [Except.ok.injEq, Value.int.injEq, Int.ofNat_eq_natCast, Int.ofNat_inj]
  · simp
  · next hnat _ =>
    refine iff_of_false nofun ?_
    rintro rfl
    exact hnat n rfl

theorem complexityPart_eq_ok {v : Value} {n : Nat} (h : complexityPart v = .ok n) :
    givenMaximum? v = some (.int n) ∨ givenMaximum? v = none ∧ n = 8 := by
  unfold complexityPart at h
  split at h
  · cases h
    exact .inr ⟨rfl, rfl⟩
  · obtain ⟨-, -, h⟩ := bind_eq_ok_iff.mp h
    rw [givenMaximum?]
    split at h
    · next hgiven => exact .inl (by rw [hgiven, maximumOf_eq_ok_iff.mp h])
    · next hgiven =>
      cases h
      exact .inr ⟨hgiven, rfl⟩
  · cases h

/-! ## The table of rules -/

/-- A token of `enable` is not blank, has no blanks around it, and is a group, in any case and with
    `-` for `_`, or means a canonical id. -/
structure IsToken (t : Text) : Prop where
  ne_nil : t ≠ []
  strip_eq : t.strip = t
  group_or_id : t.lowerAscii.replaceChar '-' '_' ∈ RuleGroup.names ∨
    RuleId.Canonical (RuleId.normalize t)

theorem checkTokens_eq_ok_iff {field : Text} {ts : List Text} :
    checkTokens field ts = .ok () ↔ ∀ t ∈ ts, isRuleToken t = true := by
  induction ts with
  | nil => simp [checkTokens]
  | cons t ts ih =>
    rw [checkTokens, List.forall_mem_cons]
    split_ifs with ht
    · simp [ht, ih]
    · simp [ht]

theorem isToken_of_isRuleToken {t : Text} (hne : t ≠ []) (hstrip : t.strip = t)
    (h : isRuleToken t = true) : IsToken t := by
  refine ⟨hne, hstrip, ?_⟩
  rw [isRuleToken, hstrip, Bool.or_assoc, Bool.or_eq_true, Bool.or_eq_true, List.isEmpty_iff,
    RuleGroup.isSome_ofToken?, hstrip, RuleId.isCanonical_iff] at h
  exact h.resolve_left hne

theorem trimmed_of_enableOf {v : Value} {e : Enable} (h : enableOf v = .ok e) {t : Text}
    (ht : t ∈ e.tokens) : t ≠ [] ∧ t.strip = t := by
  unfold enableOf at h
  split at h
  · cases h
    rw [Enable.tokens, List.mem_singleton] at ht
    split_ifs at ht with hblank
    · subst ht
      exact ⟨by decide, by decide⟩
    · subst ht
      exact ⟨by simpa using hblank, Text.strip_strip _⟩
  · split at h
    · cases h
      rw [Enable.tokens, List.mem_filter] at ht
      obtain ⟨u, -, rfl⟩ := List.mem_map.mp ht.1
      exact ⟨by simpa using ht.2, Text.strip_strip u⟩
    · cases h

theorem map_fst_putOverride (ruleId : Text) (s : Severity) (es : List (Text × Severity)) :
    (putOverride ruleId s es).map Prod.fst =
      if ruleId ∈ es.map Prod.fst then es.map Prod.fst else es.map Prod.fst ++ [ruleId] := by
  induction es with
  | nil => rfl
  | cons e es ih =>
    rw [putOverride, List.map_cons]
    by_cases h : e.1 = ruleId
    · rw [if_pos h, if_pos (h ▸ List.mem_cons_self), List.map_cons]
    · rw [if_neg h, List.map_cons, ih]
      simp only [List.mem_cons, Ne.symm h, false_or]
      split_ifs <;> rfl

theorem mem_map_fst_putOverride {ruleId k : Text} {s : Severity} {es : List (Text × Severity)} :
    k ∈ (putOverride ruleId s es).map Prod.fst ↔ k = ruleId ∨ k ∈ es.map Prod.fst := by
  rw [map_fst_putOverride]
  split_ifs with h
  · constructor
    · exact .inr
    · rintro (rfl | hk)
      · exact h
      · exact hk
  · rw [List.mem_append, List.mem_singleton, or_comm]

/-- Reading severities keeps the ids different and canonical. -/
theorem overridesOf_keys {found overrides : List (Text × Severity)} {es : Entries}
    (h : overridesOf found es = .ok overrides) (hnodup : (found.map Prod.fst).Nodup)
    (hcanonical : ∀ i ∈ found.map Prod.fst, RuleId.Canonical i) :
    (overrides.map Prod.fst).Nodup ∧ ∀ i ∈ overrides.map Prod.fst, RuleId.Canonical i := by
  induction es generalizing found with
  | nil =>
    cases h
    exact ⟨hnodup, hcanonical⟩
  | cons e es ih =>
    rw [overridesOf] at h
    split_ifs at h with hid
    split at h
    · cases h
    · next s _ =>
      refine ih h ?_ ?_
      · rw [map_fst_putOverride]
        exact nodup_addKey hnodup
      · intro i hi
        rcases mem_map_fst_putOverride.mp hi with rfl | hi
        · exact RuleId.isCanonical_iff.mp (by simpa using hid)
        · exact hcanonical i hi

theorem overridesPart_keys {es : Entries} {overrides : List (Text × Severity)}
    (h : overridesPart es = .ok overrides) :
    (overrides.map Prod.fst).Nodup ∧ ∀ i ∈ overrides.map Prod.fst, RuleId.Canonical i := by
  unfold overridesPart at h
  split at h
  · cases h
    simp
  · cases h
    simp
  · exact overridesOf_keys h .nil (by simp)
  · cases h

/-- The tokens of `enable` and the severities of an accepted table of rules. -/
theorem rulesPart_wellFormed {v : Value} {part : RulesPart} (h : rulesPart v = .ok part) :
    (∀ t ∈ part.enable.tokens, IsToken t) ∧ (part.overrides.map Prod.fst).Nodup ∧
      ∀ i ∈ part.overrides.map Prod.fst, RuleId.Canonical i := by
  unfold rulesPart at h
  split at h
  · cases h
    refine ⟨fun t ht => ?_, .nil, by simp⟩
    rw [Enable.tokens, List.mem_singleton] at ht
    subst ht
    exact ⟨by decide, by decide, .inl (by decide)⟩
  · obtain ⟨-, -, h⟩ := bind_eq_ok_iff.mp h
    obtain ⟨enable, henable, h⟩ := bind_eq_ok_iff.mp h
    obtain ⟨disable, -, h⟩ := bind_eq_ok_iff.mp h
    obtain ⟨⟨⟩, hcheck, h⟩ := bind_eq_ok_iff.mp h
    obtain ⟨-, -, h⟩ := bind_eq_ok_iff.mp h
    obtain ⟨overrides, hoverrides, h⟩ := bind_eq_ok_iff.mp h
    cases h
    refine ⟨fun t ht => ?_, overridesPart_keys hoverrides⟩
    obtain ⟨hne, hstrip⟩ := trimmed_of_enableOf henable ht
    exact isToken_of_isRuleToken hne hstrip (checkTokens_eq_ok_iff.mp hcheck t ht)
  · cases h

/-! ## The whole table -/

/-- A configuration that the rest of the library can rely on. -/
structure WellFormed (c : Config) : Prop where
  suffixRules : SuffixRule.WellFormed c.suffixRules
  overrides_nodup : (c.overrides.map Prod.fst).Nodup
  overrides_canonical : ∀ o ∈ c.overrides, RuleId.Canonical o.1
  overrides_text : ∀ o ∈ c.overrides, o.2.text ∈ ["info".toList, "warn".toList, "error".toList]
  enable : ∀ t ∈ c.enable.tokens, IsToken t

/-- The tables of cognitive complexity in the table of this tool, of which the first spelling counts. -/
def complexityTable : Value → Value
  | .table es =>
    (option? es ["cognitive-complexity".toList, "cognitive_complexity".toList]).getD (.table [])
  | v => v

/-- The parts that an accepted table consists of. -/
theorem parts_of_ofValue {v : Value} {c : Config} (h : ofValue v = .ok c) :
    (∃ rules part, rulesPart rules = .ok part ∧ part.enable = c.enable ∧
        part.overrides = c.overrides) ∧
      complexityPart (complexityTable v) = .ok c.maximum ∧
      ∃ suffixes, suffixPart suffixes = .ok c.suffixRules := by
  unfold ofValue at h
  split at h
  · obtain ⟨-, -, h⟩ := bind_eq_ok_iff.mp h
    obtain ⟨part, hpart, h⟩ := bind_eq_ok_iff.mp h
    obtain ⟨maximum, hmaximum, h⟩ := bind_eq_ok_iff.mp h
    obtain ⟨suffixRules, hsuffix, h⟩ := bind_eq_ok_iff.mp h
    obtain ⟨plugins, -, h⟩ := bind_eq_ok_iff.mp h
    cases h
    exact ⟨⟨_, part, hpart, rfl, rfl⟩, hmaximum, _, hsuffix⟩
  · cases h

theorem severity_text_mem (s : Severity) :
    s.text ∈ ["info".toList, "warn".toList, "error".toList] := by
  cases s <;> decide

theorem WellFormed.of_ofValue {v : Value} {c : Config} (h : ofValue v = .ok c) : c.WellFormed := by
  obtain ⟨⟨rules, part, hpart, henable, hoverrides⟩, -, suffixes, hsuffix⟩ := parts_of_ofValue h
  obtain ⟨htokens, hnodup, hcanonical⟩ := rulesPart_wellFormed hpart
  rw [henable] at htokens
  rw [hoverrides] at hnodup hcanonical
  exact
    { suffixRules := suffixPart_wellFormed hsuffix
      overrides_nodup := hnodup
      overrides_canonical := fun o ho => hcanonical o.1 (List.mem_map_of_mem ho)
      overrides_text := fun o _ => severity_text_mem o.2
      enable := htokens }

/-- A well-formed configuration runs canonical ids only, as long as all rules are the built-in ones:
    the names of groups and ids are read here as they were checked. -/
theorem WellFormed.canonical_of_mem_enabledIds {c : Config} (hc : c.WellFormed) {i : Text}
    (hi : i ∈ c.enabledIds none) : RuleId.Canonical i := by
  obtain ⟨⟨t, ht, hit⟩, -, -⟩ := mem_enabledIds.mp hi
  obtain ⟨-, hstrip, htoken⟩ := hc.enable t ht
  apply canonical_of_mem_enabledBy hit
  rwa [RuleGroup.isSome_ofToken?, hstrip]

/-- Every accepted table gives a well-formed configuration, whose greatest complexity is the natural
    number that the table gives, or 8 if it gives none, and which runs canonical ids only. -/
theorem wellFormed_of_ofValue {v : Value} {c : Config} (h : ofValue v = .ok c) :
    c.WellFormed ∧
      (givenMaximum? (complexityTable v) = some (.int c.maximum) ∨
        givenMaximum? (complexityTable v) = none ∧ c.maximum = 8) ∧
      ∀ i ∈ c.enabledIds none, RuleId.Canonical i := by
  have hc := WellFormed.of_ofValue h
  obtain ⟨-, hmaximum, -⟩ := parts_of_ofValue h
  exact ⟨hc, complexityPart_eq_ok hmaximum, fun i hi => hc.canonical_of_mem_enabledIds hi⟩

/-- A table that uses second spellings, blanks, mixed case and both kinds of suffix rules. -/
def mixedTable : Value :=
  .table
    [(.text "rules", .table
        [(.text "enable", .list [.text " C01 ", .text "NAMING", .text " "]),
          (.text "severity-overrides", .table
            [(.text "c01", .text "Warning"), (.text " C01", .text "error")])]),
      (.text "cognitive_complexity", .table
        [(.text "maximum_cognitive_complexity", .int 3)]),
      (.text "class-suffix", .table
        [(.text "parent_types_to_suffixes", .list [.text "*Job"]),
          (.text "extra-parent-types-to-suffixes", .table
            [(.int 0, .text "*Task"), (.text "*Job", .text "Work")])])]

/-- What `mixedTable` describes. -/
def mixedConfig : Config where
  enable := .each ["C01", "NAMING"]
  overrides := [("C01", .error)]
  maximum := 3
  suffixRules := [⟨"*Job", "Work"⟩, ⟨"*Task", "Task"⟩]

theorem wellFormed_mixedConfig : ofValue mixedTable = .ok mixedConfig ∧ mixedConfig.WellFormed :=
  have h : ofValue mixedTable = .ok mixedConfig := by rfl
  ⟨h, (wellFormed_of_ofValue h).1⟩

end Config

end HouseStyle
