import HouseStyle.Proofs.Config.WellFormed
import Mathlib.Data.List.Pairwise

/-!
# Options are checked one by one

An option has one or more spellings, and a table is read option by option: of the spellings that are
present the first one counts, and its value is checked without a look at the other options. A table is
therefore accepted exactly if each value that counts is accepted in a table of its own.

If no option is given under two spellings, every value counts, and no value of an accepted table is
wrong. A second spelling of an option that is given twice is not looked at: next to an empty table
`cognitive-complexity`, a table `cognitive_complexity` may hold anything, and the default holds.

Main definitions:
* `Config.Accepts`: a reader accepts a value.
* `Config.Counts`: the keys that are the first spelling of their option.
* `Config.ReadBy`: acceptance that is decided by the checks of single options.
* `Config.ChecksEach`: the law for a table and its one-key tables.

Main results:
* `Config.ReadBy.checksEach`: the law holds wherever single options decide.
* `Config.readBy_rulesPart`, `Config.readBy_complexityPart`, `Config.readBy_suffixPart`,
  `Config.readBy_ofValue`: in every table single options decide.
* `Config.ofValue_checksEach`: the law, for the whole table and inside its tables.
* `Config.ofValue_ignores_second_spelling`: a wrong value that is not noticed.
-/

namespace HouseStyle

/-! ## Looking up options -/

theorem Value.mem_of_get? {key : Text} {es : List (Value × Value)} {v : Value}
    (h : get? key es = some v) : (.text key, v) ∈ es := by
  fun_induction get? key es with
  | case1 => cases h
  | case2 w es =>
    cases h
    exact List.mem_cons_self
  | case3 k w es hne ih => exact List.mem_cons_of_mem _ (ih h)
  | case4 e es _ ih => exact List.mem_cons_of_mem _ (ih h)

theorem Value.get?_singleton (key k : Text) (v : Value) :
    get? key [(.text k, v)] = if k = key then some v else none := rfl

namespace Config

/-- The first spelling that is present. -/
def firstSpelling? (es : Entries) (spellings : List Text) : Option Text :=
  spellings.find? fun k => (Value.get? k es).isSome

theorem option?_eq_bind (es : Entries) (spellings : List Text) :
    option? es spellings = (firstSpelling? es spellings).bind (Value.get? · es) := by
  induction spellings with
  | nil => rfl
  | cons k ks ih =>
    rw [option?, List.findSome?_cons, ← option?, ih]
    cases h : Value.get? k es with
    | none => simp [firstSpelling?, h]
    | some v => simp [firstSpelling?, h]

theorem option?_singleton (spellings : List Text) (k : Text) (v : Value) :
    option? [(.text k, v)] spellings = if k ∈ spellings then some v else none := by
  induction spellings with
  | nil => rfl
  | cons j js ih =>
    rw [option?, List.findSome?_cons, ← option?, ih, Value.get?_singleton]
    by_cases h : k = j
    · simp [h]
    · simp [h]

theorem option?_singleton_spelling (es : Entries) (k : Text) : option? es [k] = Value.get? k es := by
  rw [option?, List.findSome?_cons]
  cases Value.get? k es <;> rfl

theorem checkOptions_eq_ok_iff {field : Text} {allowed : List Text} {es : Entries} :
    checkOptions field allowed es = .ok () ↔ ∀ e ∈ es, isOption allowed e.1 = true := by
  induction es with
  | nil => simp [checkOptions]
  | cons e es ih =>
    rw [checkOptions, List.forall_mem_cons]
    split_ifs with h
    · rw [ih, and_iff_right h]
    · exact iff_of_false nofun fun hall => h hall.1

/-! ## Tables and their one-key tables -/

/-- The reader accepts the value. -/
def Accepts {α : Type} (read : Value → Except ConfigError α) (v : Value) : Prop :=
  ∃ r, read v = .ok r

instance {α : Type} (read : Value → Except ConfigError α) (v : Value) :
    Decidable (Accepts read v) :=
  match h : read v with
  | .ok r => isTrue ⟨r, h⟩
  | .error _ => isFalse fun ⟨_, hr⟩ => nomatch h.symm.trans hr

/-- Every key of the table is a spelling of an option. -/
def Known (options : List (List Text)) (es : Entries) : Prop :=
  ∀ e ∈ es, isOption options.flatten e.1 = true

instance (options : List (List Text)) (es : Entries) : Decidable (Known options es) :=
  inferInstanceAs (Decidable (∀ e ∈ es, isOption options.flatten e.1 = true))

/-- The key is the first spelling of its option that is present in the table. -/
def Counts (options : List (List Text)) (es : Entries) (k : Text) : Prop :=
  ∃ spellings ∈ options, firstSpelling? es spellings = some k

/-- No option is given under two spellings. -/
def Unambiguous (options : List (List Text)) (es : Entries) : Prop :=
  ∀ spellings ∈ options, ∀ j ∈ spellings, ∀ k ∈ spellings,
    (Value.get? j es).isSome → (Value.get? k es).isSome → j = k

instance (options : List (List Text)) (es : Entries) : Decidable (Unambiguous options es) :=
  inferInstanceAs (Decidable (∀ spellings ∈ options, ∀ j ∈ spellings, ∀ k ∈ spellings,
    (Value.get? j es).isSome → (Value.get? k es).isSome → j = k))

/-- The table is accepted exactly if every value that counts is accepted in a table of its own; that is
    every value, unless an option is given under two spellings. -/
structure ChecksEach (accepts : Value → Prop) (options : List (List Text)) (es : Entries) : Prop where
  counting : accepts (.table es) ↔
    ∀ k v, Value.get? k es = some v → Counts options es k → accepts (.table [(.text k, v)])
  unambiguous : Unambiguous options es → (accepts (.table es) ↔
    ∀ k v, Value.get? k es = some v → accepts (.table [(.text k, v)]))

theorem counts_of_unambiguous {options : List (List Text)} {es : Entries} (hknown : Known options es)
    (h : Unambiguous options es) {k : Text} {v : Value} (hk : Value.get? k es = some v) :
    Counts options es k := by
  have hoption := hknown _ (Value.mem_of_get? hk)
  rw [isOption, List.contains_iff_mem, List.mem_flatten] at hoption
  obtain ⟨spellings, hspellings, hmem⟩ := hoption
  refine ⟨spellings, hspellings, ?_⟩
  cases hfirst : firstSpelling? es spellings with
  | none =>
    have := List.find?_eq_none.mp hfirst k hmem
    simp [hk] at this
  | some j =>
    have hj := List.find?_some hfirst
    rw [h spellings hspellings j (List.mem_of_find?_eq_some hfirst) k hmem hj (by simp [hk])]

/-! ## Single options -/

/-- An option: its spellings, and the values that it takes. -/
structure Setting where
  spellings : List Text
  Valid : Value → Prop

/-- A table is accepted exactly if it has no key but the spellings of the settings, and each setting
    takes the value of its first spelling that is present. -/
structure ReadBy (accepts : Value → Prop) (settings : List Setting) : Prop where
  nodup : (settings.flatMap (·.spellings)).Nodup
  accepts_iff : ∀ es, accepts (.table es) ↔ Known (settings.map (·.spellings)) es ∧
    ∀ s ∈ settings, ∀ v, option? es s.spellings = some v → s.Valid v

namespace ReadBy

variable {accepts : Value → Prop} {settings : List Setting}

/-- A spelling belongs to one setting only. -/
theorem eq_of_mem (h : ReadBy accepts settings) {s t : Setting} (hs : s ∈ settings)
    (ht : t ∈ settings) {k : Text} (hks : k ∈ s.spellings) (hkt : k ∈ t.spellings) : s = t := by
  by_contra hne
  have hsymm : Std.Symm (Function.onFun List.Disjoint Setting.spellings) :=
    ⟨fun _ _ hdisjoint => List.disjoint_symm hdisjoint⟩
  exact (List.nodup_flatMap.mp h.nodup).2.forall hs ht hne hks hkt

/-- A table with one key is accepted exactly if the setting of the key takes its value. -/
theorem accepts_singleton_iff (h : ReadBy accepts settings) {s : Setting} (hs : s ∈ settings)
    {k : Text} (hk : k ∈ s.spellings) {v : Value} :
    accepts (.table [(.text k, v)]) ↔ s.Valid v := by
  have hknown : Known (settings.map (·.spellings)) [(.text k, v)] := by
    intro e he
    rw [List.mem_singleton.mp he, isOption, List.contains_iff_mem, List.mem_flatten]
    exact ⟨s.spellings, List.mem_map_of_mem hs, hk⟩
  rw [h.accepts_iff, and_iff_right hknown]
  constructor
  · intro hall
    exact hall s hs v (by rw [option?_singleton, if_pos hk])
  · intro hvalid t ht w hw
    rw [option?_singleton] at hw
    split_ifs at hw with hkt
    cases hw
    rwa [← h.eq_of_mem hs ht hk hkt]

theorem accepts_iff_counting (h : ReadBy accepts settings) {es : Entries}
    (hknown : Known (settings.map (·.spellings)) es) :
    accepts (.table es) ↔ ∀ k v, Value.get? k es = some v →
      Counts (settings.map (·.spellings)) es k → accepts (.table [(.text k, v)]) := by
  rw [h.accepts_iff, and_iff_right hknown]
  constructor
  · rintro hall k v hk ⟨spellings, hspellings, hfirst⟩
    obtain ⟨s, hs, rfl⟩ := List.mem_map.mp hspellings
    rw [h.accepts_singleton_iff hs (List.mem_of_find?_eq_some hfirst)]
    apply hall s hs
    rw [option?_eq_bind, hfirst]
    exact hk
  · intro hall s hs v hv
    rw [option?_eq_bind, Option.bind_eq_some_iff] at hv
    obtain ⟨k, hfirst, hk⟩ := hv
    rw [← h.accepts_singleton_iff hs (List.mem_of_find?_eq_some hfirst)]
    exact hall k v hk ⟨s.spellings, List.mem_map_of_mem hs, hfirst⟩

/-- Where single options decide, a table is accepted exactly if its one-key tables are. -/
theorem checksEach (h : ReadBy accepts settings) {es : Entries}
    (hknown : Known (settings.map (·.spellings)) es) :
    ChecksEach accepts (settings.map (·.spellings)) es where
  counting := h.accepts_iff_counting hknown
  unambiguous hsingle := by
    rw [h.accepts_iff_counting hknown]
    constructor
    · intro hall k v hk
      exact hall k v hk (counts_of_unambiguous hknown hsingle hk)
    · intro hall k v hk _
      exact hall k v hk

theorem congr (h : ReadBy accepts settings) {accepts' : Value → Prop}
    (heq : ∀ v, accepts' v ↔ accepts v) : ReadBy accepts' settings where
  nodup := h.nodup
  accepts_iff es := by rw [heq, h.accepts_iff]

end ReadBy

/-- A default that is valid changes nothing about a check. -/
theorem forall_eq_some_iff_getD {P : Value → Prop} {o : Option Value} {d : Value} (hd : P d) :
    (∀ v, o = some v → P v) ↔ P (o.getD d) := by
  cases o with
  | none => simp [hd]
  | some v => simp

/-! ## The table of rules -/

theorem rulesPart_table_eq_ok_iff {es : Entries} {part : RulesPart} :
    rulesPart (.table es) = .ok part ↔
      checkOptions (fieldName "rules") rulesOptions es = .ok () ∧
      enableOf ((Value.get? "enable" es).getD (.text "all")) = .ok part.enable ∧
      textList (fieldName "rules.disable") ((Value.get? "disable" es).getD (.list [])) =
        .ok part.disable ∧
      checkTokens (fieldName "rules.enable") part.enable.tokens = .ok () ∧
      checkTokens (fieldName "rules.disable") part.disable = .ok () ∧
      overridesPart es = .ok part.overrides := by
  rw [rulesPart]
  constructor
  · intro h
    obtain ⟨⟨⟩, hoptions, h⟩ := bind_eq_ok_iff.mp h
    obtain ⟨enable, henable, h⟩ := bind_eq_ok_iff.mp h
    obtain ⟨disable, hdisable, h⟩ := bind_eq_ok_iff.mp h
    obtain ⟨⟨⟩, htokens, h⟩ := bind_eq_ok_iff.mp h
    obtain ⟨⟨⟩, hdisabled, h⟩ := bind_eq_ok_iff.mp h
    obtain ⟨overrides, hoverrides, h⟩ := bind_eq_ok_iff.mp h
    cases h
    exact ⟨hoptions, henable, hdisable, htokens, hdisabled, hoverrides⟩
  · rintro ⟨hoptions, henable, hdisable, htokens, hdisabled, hoverrides⟩
    refine bind_eq_ok_iff.mpr ⟨(), hoptions, bind_eq_ok_iff.mpr ⟨_, henable, ?_⟩⟩
    refine bind_eq_ok_iff.mpr ⟨_, hdisable, bind_eq_ok_iff.mpr ⟨(), htokens, ?_⟩⟩
    exact bind_eq_ok_iff.mpr ⟨(), hdisabled, bind_eq_ok_iff.mpr ⟨_, hoverrides, rfl⟩⟩

/-- Texts or one text, of which every token that is not blank is a group or an id. -/
def ValidEnable (v : Value) : Prop := ∃ e, enableOf v = .ok e ∧ ∀ t ∈ e.tokens, isRuleToken t = true

/-- Texts, of which every token that is not blank is a group or an id. -/
def ValidDisable (v : Value) : Prop :=
  ∃ ts, textList (fieldName "rules.disable") v = .ok ts ∧ ∀ t ∈ ts, isRuleToken t = true

/-- Null, or a table from rule ids to severities. -/
def ValidOverrides : Value → Prop
  | .null => True
  | .table entries => ∃ overrides, overridesOf [] entries = .ok overrides
  | _ => False

/-- The settings of the table of rules. -/
def rulesSettings : List Setting :=
  [⟨["enable".toList], ValidEnable⟩, ⟨["disable".toList], ValidDisable⟩,
    ⟨["severity_overrides".toList, "severity-overrides".toList], ValidOverrides⟩]

theorem validEnable_all : ValidEnable (.text "all") := ⟨.one "all".toList, rfl, by decide⟩

theorem validDisable_nil : ValidDisable (.list []) := ⟨[], rfl, by simp⟩

theorem overridesPart_ok_iff {es : Entries} : (∃ overrides, overridesPart es = .ok overrides) ↔
    ∀ v, option? es ["severity_overrides".toList, "severity-overrides".toList] = some v →
      ValidOverrides v := by
  unfold overridesPart
  cases option? es ["severity_overrides".toList, "severity-overrides".toList] with
  | none => simp
  | some v => cases v <;> simp [ValidOverrides]

/-- The tokens to enable, the tokens to disable and the severities are checked in turn, and none of the
    checks depends on another option. -/
theorem readBy_rulesPart : ReadBy (Accepts rulesPart) rulesSettings where
  nodup := by decide
  accepts_iff es := by
    have hknown : checkOptions (fieldName "rules") rulesOptions es = .ok () ↔
        Known (rulesSettings.map (·.spellings)) es := checkOptions_eq_ok_iff
    rw [rulesSettings, List.forall_mem_cons, List.forall_mem_cons, List.forall_mem_singleton,
      ← rulesSettings, ← hknown, ← overridesPart_ok_iff, option?_singleton_spelling,
      option?_singleton_spelling, forall_eq_some_iff_getD validEnable_all,
      forall_eq_some_iff_getD validDisable_nil]
    constructor
    · rintro ⟨part, h⟩
      obtain ⟨hoptions, henable, hdisable, htokens, hdisabled, hoverrides⟩ :=
        rulesPart_table_eq_ok_iff.mp h
      exact ⟨hoptions, ⟨part.enable, henable, checkTokens_eq_ok_iff.mp htokens⟩,
        ⟨part.disable, hdisable, checkTokens_eq_ok_iff.mp hdisabled⟩, part.overrides, hoverrides⟩
    · rintro ⟨hoptions, ⟨enable, henable, htokens⟩, ⟨disable, hdisable, hdisabled⟩,
        overrides, hoverrides⟩
      exact ⟨⟨enable, disable, overrides⟩, rulesPart_table_eq_ok_iff.mpr ⟨hoptions, henable, hdisable,
        checkTokens_eq_ok_iff.mpr htokens, checkTokens_eq_ok_iff.mpr hdisabled, hoverrides⟩⟩

/-! ## The tables of cognitive complexity and of class suffixes -/

/-- The settings of the table of cognitive complexity. -/
def complexitySettings : List Setting := [⟨maximumOptions, Accepts maximumOf⟩]

theorem complexityPart_table_eq_ok_iff {es : Entries} {n : Nat} :
    complexityPart (.table es) = .ok n ↔
      checkOptions complexityField maximumOptions es = .ok () ∧
      ((option? es maximumOptions).elim (.ok 8) maximumOf) = .ok n := by
  rw [complexityPart]
  constructor
  · intro h
    obtain ⟨⟨⟩, hoptions, h⟩ := bind_eq_ok_iff.mp h
    cases hgiven : option? es maximumOptions <;> rw [hgiven] at h <;> exact ⟨hoptions, h⟩
  · rintro ⟨hoptions, h⟩
    refine bind_eq_ok_iff.mpr ⟨(), hoptions, ?_⟩
    cases hgiven : option? es maximumOptions <;> rw [hgiven] at h <;> exact h

theorem readBy_complexityPart : ReadBy (Accepts complexityPart) complexitySettings where
  nodup := by decide
  accepts_iff es := by
    have hknown : checkOptions complexityField maximumOptions es = .ok () ↔
        Known (complexitySettings.map (·.spellings)) es := checkOptions_eq_ok_iff
    rw [complexitySettings, List.forall_mem_singleton, ← complexitySettings, ← hknown, Accepts]
    simp only [complexityPart_table_eq_ok_iff, exists_and_left]
    cases option? es maximumOptions with
    | none => simp
    | some v => simp [Accepts]

/-- The settings of the table of class suffixes. -/
def suffixSettings : List Setting :=
  [⟨primaryOptions, fun v =>
      ∃ rules, suffixOption SuffixRule.defaults "parent_types_to_suffixes" (some v) = .ok rules⟩,
    ⟨extraOptions, fun v =>
      ∃ rules, suffixOption [] "extra_parent_types_to_suffixes" (some v) = .ok rules⟩]

/-- An option that is missing is always accepted. -/
theorem suffixOption_ok_iff {absent : List SuffixRule} {name : Text} {o : Option Value} :
    (∃ rules, suffixOption absent name o = .ok rules) ↔
      ∀ v, o = some v → ∃ rules, suffixOption absent name (some v) = .ok rules := by
  cases o with
  | none => simp [suffixOption]
  | some v => simp

theorem readBy_suffixPart : ReadBy (Accepts suffixPart) suffixSettings where
  nodup := by decide
  accepts_iff es := by
    have hknown : checkOptions suffixField (primaryOptions ++ extraOptions) es = .ok () ↔
        Known (suffixSettings.map (·.spellings)) es := checkOptions_eq_ok_iff
    rw [suffixSettings, List.forall_mem_cons, List.forall_mem_singleton, ← suffixSettings, ← hknown,
      ← suffixOption_ok_iff, ← suffixOption_ok_iff]
    constructor
    · rintro ⟨rules, h⟩
      obtain ⟨hoptions, primary, hprimary, extra, hextra, -⟩ := suffixPart_table_eq_ok_iff.mp h
      exact ⟨hoptions, ⟨primary, hprimary⟩, extra, hextra⟩
    · rintro ⟨hoptions, ⟨primary, hprimary⟩, extra, hextra⟩
      exact ⟨_, suffixPart_table_eq_ok_iff.mpr ⟨hoptions, primary, hprimary, extra, hextra, rfl⟩⟩

/-! ## The whole table -/

theorem ofValue_table_eq_ok_iff {es : Entries} {c : Config} :
    ofValue (.table es) = .ok c ↔
      checkOptions tableName topOptions es = .ok () ∧
      rulesPart ((Value.get? "rules" es).getD (.table [])) =
        .ok ⟨c.enable, c.disable, c.overrides⟩ ∧
      complexityPart ((option? es ["cognitive-complexity".toList,
        "cognitive_complexity".toList]).getD (.table [])) = .ok c.maximum ∧
      suffixPart ((option? es ["class-suffix".toList, "class_suffix".toList]).getD (.table [])) =
        .ok c.suffixRules ∧
      textList (fieldName "plugins") ((Value.get? "plugins" es).getD (.list [])) =
        .ok c.plugins := by
  rw [ofValue]
  constructor
  · intro h
    obtain ⟨⟨⟩, hoptions, h⟩ := bind_eq_ok_iff.mp h
    obtain ⟨part, hpart, h⟩ := bind_eq_ok_iff.mp h
    obtain ⟨maximum, hmaximum, h⟩ := bind_eq_ok_iff.mp h
    obtain ⟨suffixRules, hsuffix, h⟩ := bind_eq_ok_iff.mp h
    obtain ⟨plugins, hplugins, h⟩ := bind_eq_ok_iff.mp h
    cases h
    exact ⟨hoptions, hpart, hmaximum, hsuffix, hplugins⟩
  · rintro ⟨hoptions, hpart, hmaximum, hsuffix, hplugins⟩
    refine bind_eq_ok_iff.mpr ⟨(), hoptions, bind_eq_ok_iff.mpr ⟨_, hpart, ?_⟩⟩
    refine bind_eq_ok_iff.mpr ⟨_, hmaximum, bind_eq_ok_iff.mpr ⟨_, hsuffix, ?_⟩⟩
    exact bind_eq_ok_iff.mpr ⟨_, hplugins, rfl⟩

/-- The settings of the whole table: its tables, and the plugins. -/
def topSettings : List Setting :=
  [⟨["rules".toList], Accepts rulesPart⟩, ⟨["plugins".toList], Accepts (textList (fieldName "plugins"))⟩,
    ⟨["cognitive-complexity".toList, "cognitive_complexity".toList], Accepts complexityPart⟩,
    ⟨["class-suffix".toList, "class_suffix".toList], Accepts suffixPart⟩]

theorem readBy_ofValue : ReadBy (Accepts ofValue) topSettings where
  nodup := by decide
  accepts_iff es := by
    have hknown : checkOptions tableName topOptions es = .ok () ↔
        Known (topSettings.map (·.spellings)) es := checkOptions_eq_ok_iff
    have hrules : Accepts rulesPart (.table []) := ⟨_, rfl⟩
    have hplugins : Accepts (textList (fieldName "plugins")) (.list []) := ⟨_, rfl⟩
    have hcomplexity : Accepts complexityPart (.table []) := ⟨_, rfl⟩
    have hsuffix : Accepts suffixPart (.table []) := ⟨_, rfl⟩
    rw [topSettings, List.forall_mem_cons, List.forall_mem_cons, List.forall_mem_cons,
      List.forall_mem_singleton, ← topSettings, ← hknown, option?_singleton_spelling,
      option?_singleton_spelling, forall_eq_some_iff_getD hrules, forall_eq_some_iff_getD hplugins,
      forall_eq_some_iff_getD hcomplexity, forall_eq_some_iff_getD hsuffix]
    constructor
    · rintro ⟨c, h⟩
      obtain ⟨hoptions, hpart, hmaximum, hrules, hplugins⟩ := ofValue_table_eq_ok_iff.mp h
      exact ⟨hoptions, ⟨_, hpart⟩, ⟨_, hplugins⟩, ⟨_, hmaximum⟩, _, hrules⟩
    · rintro ⟨hoptions, ⟨part, hpart⟩, ⟨plugins, hplugins⟩, ⟨maximum, hmaximum⟩, rules, hrules⟩
      exact ⟨⟨part.enable, part.disable, part.overrides, maximum, rules, plugins⟩,
        ofValue_table_eq_ok_iff.mpr ⟨hoptions, hpart, hmaximum, hrules, hplugins⟩⟩

/-- The options of the whole table, each with its spellings. -/
def topSpellings : List (List Text) :=
  [["rules".toList], ["plugins".toList], ["cognitive-complexity".toList, "cognitive_complexity".toList],
    ["class-suffix".toList, "class_suffix".toList]]

/-- The tables inside the whole table, under each of their spellings, with the options in them. -/
def innerTables : List (Text × List (List Text)) :=
  [("rules".toList, [["enable".toList], ["disable".toList],
      ["severity_overrides".toList, "severity-overrides".toList]]),
    ("cognitive-complexity".toList, [maximumOptions]), ("cognitive_complexity".toList, [maximumOptions]),
    ("class-suffix".toList, [primaryOptions, extraOptions]),
    ("class_suffix".toList, [primaryOptions, extraOptions])]

/-- In an inner table, too, single options decide whether the whole table is accepted. -/
theorem exists_readBy_inner {inner : Text × List (List Text)} (h : inner ∈ innerTables) :
    ∃ settings : List Setting, settings.map (·.spellings) = inner.2 ∧
      ReadBy (fun v => Accepts ofValue (.table [(.text inner.1, v)])) settings := by
  -- each spelling of an inner table belongs to the setting whose check is the reader of the table
  have hinner : ∀ s ∈ topSettings, ∀ k ∈ s.spellings, ∀ v,
      Accepts ofValue (.table [(.text k, v)]) ↔ s.Valid v :=
    fun s hs k hk v => readBy_ofValue.accepts_singleton_iff hs hk
  simp only [topSettings, List.forall_mem_cons, List.not_mem_nil, false_imp_iff, implies_true,
    and_true] at hinner
  obtain ⟨hrules, -, ⟨hdash, hlow⟩, hsuffixDash, hsuffixLow⟩ := hinner
  simp only [innerTables, List.mem_cons, List.not_mem_nil, or_false] at h
  rcases h with rfl | rfl | rfl | rfl | rfl
  · exact ⟨rulesSettings, rfl, readBy_rulesPart.congr hrules⟩
  · exact ⟨complexitySettings, rfl, readBy_complexityPart.congr hdash⟩
  · exact ⟨complexitySettings, rfl, readBy_complexityPart.congr hlow⟩
  · exact ⟨suffixSettings, rfl, readBy_suffixPart.congr hsuffixDash⟩
  · exact ⟨suffixSettings, rfl, readBy_suffixPart.congr hsuffixLow⟩

/-- **Every value that counts is checked.** A table of known options is accepted exactly if each value
    that counts is accepted in a table of its own, which is every value unless an option is given under
    two spellings; the same holds inside the tables of rules, cognitive complexity and class suffixes.
    Hence one wrong value that counts, in a table that counts, makes the whole table an error. -/
theorem ofValue_checksEach (es : Entries) (hknown : Known topSpellings es) :
    ChecksEach (Accepts ofValue) topSpellings es ∧
    ∀ inner ∈ innerTables, ∀ fields,
      (Known inner.2 fields →
        ChecksEach (fun v => Accepts ofValue (.table [(.text inner.1, v)])) inner.2 fields) ∧
      (Value.get? inner.1 es = some (.table fields) → Counts topSpellings es inner.1 →
        ∀ k v, Value.get? k fields = some v → Counts inner.2 fields k →
          ¬ Accepts ofValue (.table [(.text inner.1, .table [(.text k, v)])]) →
          ∃ e, ofValue (.table es) = .error e) := by
  have htop : ChecksEach (Accepts ofValue) topSpellings es := readBy_ofValue.checksEach hknown
  refine ⟨htop, ?_⟩
  intro inner hinner fields
  obtain ⟨settings, hspellings, hread⟩ := exists_readBy_inner hinner
  rw [← hspellings]
  refine ⟨hread.checksEach, ?_⟩
  intro hfields hcounts k v hk hcountsInner hwrong
  cases hresult : ofValue (.table es) with
  | error e => exact ⟨e, rfl⟩
  | ok c =>
    have htable := htop.counting.mp ⟨c, hresult⟩ _ _ hfields hcounts
    have hknownInner := ((hread.accepts_iff fields).mp htable).1
    exact absurd ((hread.accepts_iff_counting hknownInner).mp htable k v hk hcountsInner) hwrong

/-- A number under the second spelling of the suffix map, next to sound options: the one-key table is
    refused, hence the table of class suffixes, hence the whole table. Without the suffix map the whole
    table is accepted. -/
theorem ofValue_checksEach_wrongSuffixMap :
    let suffixes : Entries := [(.text "parent-types-to-suffixes", .int 5),
      (.text "extra_parent_types_to_suffixes", .list [.text "*Job"])]
    let es : Entries := [(.text "plugins", .list []), (.text "class_suffix", .table suffixes)]
    let sound : Entries := [(.text "plugins", .list []), (.text "class_suffix", .table [])]
    ¬ Accepts ofValue (.table [(.text "class_suffix", .table suffixes)]) ∧
    (∃ e, ofValue (.table es) = .error e) ∧ Accepts ofValue (.table sound) := by
  intro suffixes es sound
  obtain ⟨-, hinner⟩ := ofValue_checksEach es (by decide)
  obtain ⟨htop, -⟩ := ofValue_checksEach sound (by decide)
  have hmem : ("class_suffix".toList, [primaryOptions, extraOptions]) ∈ innerTables := by decide
  obtain ⟨heach, hwhole⟩ := hinner _ hmem suffixes
  have hwrong : ¬ Accepts ofValue
      (.table [(.text "class_suffix", .table [(.text "parent-types-to-suffixes", .int 5)])]) := by
    decide
  refine ⟨fun h => hwrong ?_, ?_, ?_⟩
  · exact ((heach (by decide)).unambiguous (by decide)).mp h _ _ rfl
  · exact hwhole rfl ⟨["class-suffix".toList, "class_suffix".toList], by decide, by decide⟩ _ _ rfl
      ⟨primaryOptions, by decide, by decide⟩ hwrong
  · refine (htop.unambiguous (by decide)).mpr fun k v hk => ?_
    have hmem := Value.mem_of_get? hk
    simp only [sound, List.mem_cons, Prod.mk.injEq, Value.text.injEq, List.not_mem_nil,
      or_false] at hmem
    rcases hmem with ⟨rfl, rfl⟩ | ⟨rfl, rfl⟩ <;> decide

/-- Not every value is checked: under the second spelling of an option that is given twice a wrong value
    goes unnoticed. Here the greatest complexity is negative, and the configuration is the default one. -/
theorem ofValue_ignores_second_spelling :
    let wrong : Value := .table [(.text "maximum-cognitive-complexity", .int (-1))]
    let es : Entries :=
      [(.text "cognitive-complexity", .table []), (.text "cognitive_complexity", wrong)]
    Known topSpellings es ∧
      ofValue (.table [(.text "cognitive_complexity", wrong)]) =
        .error (.negative (complexityField ++ ".maximum-cognitive-complexity".toList)) ∧
      ofValue (.table es) = .ok {} := by
  intro wrong es
  exact ⟨by decide, rfl, rfl⟩

end Config

end HouseStyle
