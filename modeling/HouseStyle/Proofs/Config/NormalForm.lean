import HouseStyle.Proofs.Config.Options
import HouseStyle.Proofs.Suffix.NormalForm

/-!
# Configurations as tables

A configuration can be written as a table, with the first spelling of every option: the tokens as they
are, every severity under its id, the greatest complexity, every suffix under its pattern, and the
plugins. A configuration that was read from a table is in normal form, and reading what is written from
it gives it again.

Main definitions:
* `Config.toValue`: the table of a configuration.
* `Config.IsNormal`: configurations in normal form.

Main results:
* `Config.IsNormal.of_ofValue`: what is read is in normal form.
* `Config.IsNormal.ofValue_toValue`: a normal form is read back from its table.
* `Config.ofValue_toValue_of_ofValue`: both together, and the same for lists of suffix rules.
-/

namespace HouseStyle

/-! ## Tables with different keys -/

namespace Value

variable {α : Type} {key : α → Text} {value : α → Value}

theorem ofPairs_of_nodup {xs : List α} (h : (xs.map key).Nodup) :
    ofPairs (xs.map fun x => (.text (key x), value x)) =
      .table (xs.map fun x => (.text (key x), value x)) := by
  apply ofPairs_of_pairwise
  rw [List.pairwise_map]
  refine (List.pairwise_map.mp h).imp fun hne => ?_
  simpa [sameKey] using hne

theorem texts?_list (ts : List Text) : texts? (.list (ts.map .text)) = some ts := by
  have hmap : ∀ us : List Text, (us.map Value.text).mapM text? = some us := by
    intro us
    induction us with
    | nil => rfl
    | cons u us ih => rw [List.map_cons, List.mapM_cons, ih]; rfl
  exact hmap ts

end Value

namespace Config

/-! ## The table of a configuration -/

/-- A list of texts as a value. -/
def textValues (ts : List Text) : Value := .list (ts.map .text)

/-- The tokens to enable as a value. -/
def enableValue : Enable → Value
  | .one t => .text t
  | .each ts => textValues ts

/-- The table from ids to severities. -/
def overridesValue (overrides : List (Text × Severity)) : Value :=
  .ofPairs (overrides.map fun o => (.text o.1, .text o.2.text))

/-- The table from patterns to suffixes. -/
def suffixValue (rules : List SuffixRule) : Value :=
  .ofPairs (rules.map fun r => (.text r.pattern, .text r.suffix))

/-- The table of a configuration, under the first spelling of every option. -/
def toValue (c : Config) : Value :=
  .table
    [(.text "rules", .table
        [(.text "enable", enableValue c.enable), (.text "disable", textValues c.disable),
          (.text "severity_overrides", overridesValue c.overrides)]),
      (.text "cognitive-complexity", .table [(.text "maximum-cognitive-complexity", .int c.maximum)]),
      (.text "class-suffix", .table
        [(.text "parent_types_to_suffixes", suffixValue c.suffixRules)]),
      (.text "plugins", textValues c.plugins)]

/-- A configuration in normal form: well-formed, with trimmed tokens and plugins, and with suffix rules
    that are normal. -/
structure IsNormal (c : Config) : Prop extends WellFormed c where
  disable_strip : ∀ t ∈ c.disable, t.strip = t
  disable_token : ∀ t ∈ c.disable, isRuleToken t = true
  rules_normal : SuffixRule.IsNormal c.suffixRules
  plugins_strip : ∀ p ∈ c.plugins, p.strip = p

/-! ## What is read is in normal form -/

theorem strip_of_textList {field : Text} {v : Value} {ts : List Text}
    (h : textList field v = .ok ts) {t : Text} (ht : t ∈ ts) : t.strip = t := by
  unfold textList at h
  split at h
  · cases h
    cases ht
  · split at h
    · cases h
      obtain ⟨u, -, rfl⟩ := List.mem_map.mp ht
      exact Text.strip_strip u
    · cases h

theorem disable_of_rulesPart {v : Value} {part : RulesPart} (h : rulesPart v = .ok part) {t : Text}
    (ht : t ∈ part.disable) : t.strip = t ∧ isRuleToken t = true := by
  cases v with
  | null =>
    cases h
    cases ht
  | table es =>
    obtain ⟨-, -, hdisable, -, hdisabled, -⟩ := rulesPart_table_eq_ok_iff.mp h
    exact ⟨strip_of_textList hdisable ht, checkTokens_eq_ok_iff.mp hdisabled t ht⟩
  | _ => cases h

theorem suffixEntries_cons_eq_ok {field : Text} {key v : Value} {es : Entries}
    {found : List (Value × Text)} (h : suffixEntries field ((key, v) :: es) = .ok found) :
    SuffixRule.IsKey key ∧ ∃ entry rest, v = .text entry ∧ suffixEntries field es = .ok rest ∧
      found = (key, entry) :: rest := by
  unfold suffixEntries at h
  dsimp only at h
  split at h
  · obtain ⟨entry, hentry, h⟩ := bind_eq_ok_iff.mp h
    obtain ⟨rest, hrest, h⟩ := bind_eq_ok_iff.mp h
    cases hentry
    cases h
    exact ⟨.inr ⟨_, rfl⟩, _, rest, rfl, hrest, rfl⟩
  · split_ifs at h
    · cases h
    · obtain ⟨entry, hentry, h⟩ := bind_eq_ok_iff.mp h
      obtain ⟨rest, hrest, h⟩ := bind_eq_ok_iff.mp h
      cases hentry
      cases h
      exact ⟨.inl ⟨_, rfl⟩, _, rest, rfl, hrest, rfl⟩
  · cases h

/-- An accepted suffix table has texts under texts and integers. -/
theorem suffixEntries_eq_ok {field : Text} {es : Entries} {found : List (Value × Text)}
    (h : suffixEntries field es = .ok found) :
    es = found.map (fun e => (e.1, .text e.2)) ∧ ∀ e ∈ found, SuffixRule.IsKey e.1 := by
  induction es generalizing found with
  | nil =>
    cases h
    simp
  | cons e es ih =>
    obtain ⟨key, v⟩ := e
    obtain ⟨hkey, entry, rest, rfl, hrest, rfl⟩ := suffixEntries_cons_eq_ok h
    obtain ⟨rfl, hkeys⟩ := ih hrest
    exact ⟨rfl, List.forall_mem_cons.mpr ⟨hkey, hkeys⟩⟩

theorem normalized_of_suffixRulesOf {field : Text} {v : Value} {rules : List SuffixRule}
    (h : suffixRulesOf field v = .ok rules) : SuffixRule.Normalized rules := by
  obtain ⟨-, ⟨_, entries, -, hentries, rfl⟩ | ⟨ts, -, rfl⟩⟩ := suffixRulesOf_eq_ok h
  · exact .ofTable entries (suffixEntries_eq_ok hentries).2
  · exact .ofPatterns ts

/-- The rules of a configuration come from patterns, tables and merging only. -/
theorem normalized_of_suffixPart {v : Value} {rules : List SuffixRule}
    (h : suffixPart v = .ok rules) : SuffixRule.Normalized rules :=
  suffixPart_induction (.ofPatterns _) (.ofPatterns [])
    (fun _ _ _ _ hfound => normalized_of_suffixRulesOf hfound) .merge h

theorem IsNormal.of_ofValue {v : Value} {c : Config} (h : ofValue v = .ok c) : c.IsNormal := by
  cases v with
  | table es =>
    obtain ⟨-, hpart, -, hsuffix, hplugins⟩ := ofValue_table_eq_ok_iff.mp h
    exact
      { toWellFormed := WellFormed.of_ofValue h
        disable_strip := fun t ht => (disable_of_rulesPart hpart ht).1
        disable_token := fun t ht => (disable_of_rulesPart hpart ht).2
        rules_normal := (normalized_of_suffixPart hsuffix).isNormal
        plugins_strip := fun t ht => strip_of_textList hplugins ht }
  | _ => cases h

/-! ## A normal form is read back -/

theorem map_strip_eq_self {ts : List Text} (h : ∀ t ∈ ts, t.strip = t) : ts.map Text.strip = ts := by
  rw [List.map_congr_left (g := id) h, List.map_id]

theorem textList_textValues {field : Text} {ts : List Text} (h : ∀ t ∈ ts, t.strip = t) :
    textList field (textValues ts) = .ok ts := by
  rw [textList, textValues, Value.texts?_list]
  · simp only
    rw [map_strip_eq_self h]
  · nofun

theorem enableOf_enableValue {e : Enable} (h : ∀ t ∈ e.tokens, IsToken t) :
    enableOf (enableValue e) = .ok e := by
  cases e with
  | one t =>
    obtain ⟨hne, hstrip, -⟩ := h t (List.mem_singleton_self t)
    rw [enableValue, enableOf, hstrip, if_neg (by simpa using hne)]
  | each ts =>
    have hstrip : ts.map Text.strip = ts := map_strip_eq_self fun t ht => (h t ht).strip_eq
    have hfilter : ts.filter (!·.isEmpty) = ts := by
      rw [List.filter_eq_self]
      intro t ht
      simpa using (h t ht).ne_nil
    rw [enableValue, textValues, enableOf, Value.texts?_list]
    · simp only
      rw [hstrip, hfilter]
    · nofun

theorem isRuleToken_of_isToken {t : Text} (h : IsToken t) : isRuleToken t = true := by
  rw [isRuleToken, h.strip_eq, Bool.or_assoc, Bool.or_eq_true, Bool.or_eq_true,
    RuleGroup.isSome_ofToken?, h.strip_eq, RuleId.isCanonical_iff]
  exact .inr h.group_or_id

theorem severity_text (field : Text) (s : Severity) : severity field (.text s.text) = .ok s := by
  cases s <;> rfl

theorem putOverride_of_not_mem {ruleId : Text} {s : Severity} {found : List (Text × Severity)}
    (h : ruleId ∉ found.map Prod.fst) : putOverride ruleId s found = found ++ [(ruleId, s)] := by
  induction found with
  | nil => rfl
  | cons o found ih =>
    rw [List.map_cons, List.mem_cons, not_or] at h
    rw [putOverride, if_neg (Ne.symm h.1), ih h.2, List.cons_append]

theorem overridesOf_cons {ruleId : Text} {s : Severity} {found : List (Text × Severity)} {es : Entries}
    (h : RuleId.Canonical ruleId) :
    overridesOf found ((.text ruleId, .text s.text) :: es) =
      overridesOf (putOverride ruleId s found) es := by
  have hnormal : RuleId.normalize (Value.text ruleId).plain = ruleId := h.normalize_eq
  have hid : ¬ (!RuleId.isCanonical (RuleId.normalize (Value.text ruleId).plain)) = true := by
    rw [hnormal, RuleId.isCanonical_iff.mpr h]
    decide
  rw [overridesOf, if_neg hid, severity_text, hnormal]

/-- Severities under different canonical ids are found one after the other. -/
theorem overridesOf_entries {overrides found : List (Text × Severity)}
    (hnodup : ((found ++ overrides).map Prod.fst).Nodup)
    (hcanonical : ∀ o ∈ overrides, RuleId.Canonical o.1) :
    overridesOf found (overrides.map fun o => (.text o.1, .text o.2.text)) =
      .ok (found ++ overrides) := by
  induction overrides generalizing found with
  | nil => rw [List.append_nil]; rfl
  | cons o overrides ih =>
    rw [List.forall_mem_cons] at hcanonical
    have hnew : o.1 ∉ found.map Prod.fst := not_mem_map_of_nodup hnodup
    rw [List.map_cons, overridesOf_cons hcanonical.1, putOverride_of_not_mem hnew,
      ih (by simpa using hnodup) hcanonical.2, List.append_assoc, List.singleton_append]

theorem suffixEntries_entries {field : Text} {rules : List SuffixRule}
    (h : ∀ r ∈ rules, r.pattern.strip ≠ []) :
    suffixEntries field (rules.map fun r => (.text r.pattern, .text r.suffix)) =
      .ok (SuffixRule.entries rules) := by
  induction rules with
  | nil => rfl
  | cons r rules ih =>
    rw [List.forall_mem_cons] at h
    rw [List.map_cons, suffixEntries, ih h.2, if_neg (by simpa using h.1)]
    rfl

/-- Patterns that look like numbers are read back in their own way, with the same result. -/
theorem suffixRulesOf_suffixValue {field : Text} {rules : List SuffixRule}
    (hrules : SuffixRule.WellFormed rules) (hnormal : SuffixRule.IsNormal rules) :
    suffixRulesOf field (suffixValue rules) = .ok rules := by
  have hcheck : checkRules field rules = .ok () :=
    checkRules_eq_ok_iff.mpr fun r hr => ⟨hrules.pattern_ne r hr, hrules.suffix_ne r hr⟩
  rw [suffixValue, Value.ofPairs_of_nodup hrules.nodup, suffixRulesOf]
  simp only [suffixEntries_entries hrules.pattern_ne]
  refine bind_eq_ok_iff.mpr ⟨rules, ?_, bind_eq_ok_iff.mpr ⟨(), hcheck, rfl⟩⟩
  exact congrArg Except.ok hnormal.ofTable_entries

theorem rulesPart_toValue {c : Config} (h : c.IsNormal) :
    rulesPart (.table [(.text "enable", enableValue c.enable),
      (.text "disable", textValues c.disable),
      (.text "severity_overrides", overridesValue c.overrides)]) =
        .ok ⟨c.enable, c.disable, c.overrides⟩ := by
  have hoverrides : overridesOf [] (c.overrides.map fun o => (.text o.1, .text o.2.text)) =
      .ok c.overrides := overridesOf_entries h.overrides_nodup h.overrides_canonical
  refine rulesPart_table_eq_ok_iff.mpr ⟨rfl, enableOf_enableValue h.enable,
    textList_textValues h.disable_strip, ?_, checkTokens_eq_ok_iff.mpr h.disable_token, ?_⟩
  · exact checkTokens_eq_ok_iff.mpr fun t ht => isRuleToken_of_isToken (h.enable t ht)
  · rw [overridesValue, Value.ofPairs_of_nodup h.overrides_nodup]
    exact hoverrides

theorem suffixPart_toValue {c : Config} (h : c.IsNormal) :
    suffixPart (.table [(.text "parent_types_to_suffixes", suffixValue c.suffixRules)]) =
      .ok c.suffixRules := by
  refine suffixPart_table_eq_ok_iff.mpr ⟨rfl, c.suffixRules, ?_, [], rfl, ?_⟩
  · exact suffixRulesOf_suffixValue h.suffixRules h.rules_normal
  · exact (SuffixRule.putAll_nil h.suffixRules.nodup).symm

theorem IsNormal.ofValue_toValue {c : Config} (h : c.IsNormal) : ofValue c.toValue = .ok c :=
  ofValue_table_eq_ok_iff.mpr ⟨rfl, rulesPart_toValue h, rfl, suffixPart_toValue h,
    textList_textValues h.plugins_strip⟩

/-- **What is read is in normal form.** The table that is written from an accepted configuration is
    accepted and gives the same configuration. In particular a list of suffix rules that comes from
    patterns, tables or merging has every pattern once, and the table from its patterns to its suffixes
    is read as the same list. -/
theorem ofValue_toValue_of_ofValue :
    (∀ v c, ofValue v = .ok c → ofValue c.toValue = .ok c) ∧
    ∀ rules, SuffixRule.Normalized rules →
      (rules.map (·.pattern)).Nodup ∧ SuffixRule.ofTable (SuffixRule.entries rules) = rules := by
  constructor
  · intro v c h
    exact (IsNormal.of_ofValue h).ofValue_toValue
  · intro rules h
    exact ⟨h.isNormal.nodup, h.isNormal.ofTable_entries⟩

/-- Patterns that look like numbers, from a numeral key, from an integer key and from a list. -/
theorem ofValue_toValue_of_ofValue_numerals :
    let v : Value := .table
      [(.text "rules", .table [(.text "enable", .text " naming "),
          (.text "disable", .list [.text " c01 ", .text " "])]),
        (.text "class_suffix", .table
          [(.text "parent-types-to-suffixes", .table
              [(.text "7", .text " 42 "), (.int 0, .text "*Job"), (.text "*Task", .text "9")]),
            (.text "extra_parent_types_to_suffixes", .list [.text "12"])])]
    let c : Config :=
      { enable := .one "naming", disable := ["c01", ""],
        suffixRules := [⟨" 42 ", " 42 "⟩, ⟨"*Job", "Job"⟩, ⟨"*Task", "9"⟩, ⟨"12", "12"⟩] }
    ofValue v = .ok c ∧ ofValue c.toValue = .ok c ∧
      SuffixRule.ofTable (SuffixRule.entries
        (SuffixRule.merge (SuffixRule.ofPatterns ["*Job", "7"]) (SuffixRule.ofTable [(.int 3, "7")]))) =
      [⟨"*Job", "Job"⟩, ⟨"7", "7"⟩] := by
  intro v c
  obtain ⟨hread, hrules⟩ := ofValue_toValue_of_ofValue
  have h : ofValue v = .ok c := rfl
  have hmerged : SuffixRule.Normalized (SuffixRule.merge (SuffixRule.ofPatterns ["*Job", "7"])
      (SuffixRule.ofTable [(.int 3, "7")])) :=
    .merge (.ofPatterns _) (.ofTable _ (by simp [SuffixRule.IsKey]))
  exact ⟨h, hread v c h, (hrules _ hmerged).2.trans (by decide)⟩

end Config

end HouseStyle
