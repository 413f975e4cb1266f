import HouseStyle.Detection
import HouseStyle.Proofs.Config.Selection
import Mathlib.Data.List.Basic
import Mathlib.Data.List.Forall2

/-!
# Detection is compositional, and options do not interfere

Detection sees of a rule its id and what it reports about a file under a configuration. `Checker` has
just that, so that rules of plugins can be anything: they only have to report under their own id and to
take no notice of which rules are selected. What is detected is then put together from what the enabled
checkers report, file by file, and every option acts where it should and nowhere else.

Main definitions:
* `Checker`, `Checker.ofRule`: rules as detection sees them.
* `Checker.ReportsOwnId`, `Checker.IgnoresSelection`: what is expected of the rules of plugins.
* `Checker.detect`: detection with given checkers; `Detection.detect` is a case of it.

Main results:
* `Checker.detect_eq_map`: severities are set at the very end.
* `Checker.filter_found`: the violations of some rules are what these rules report.
* `Checker.detect_noninterference`: what each option changes.
-/

namespace HouseStyle

/-! ## Violations and severities -/

namespace Detection

theorem ruleId_withOverride (c : Config) (v : Violation) : (v.withOverride c).ruleId = v.ruleId := by
  unfold Violation.withOverride
  split <;> rfl

theorem ruleId_of_mem_checkComplexity {maximum : Nat} {f : SourceFile} {v : Violation}
    (h : v ∈ Rule.checkComplexity maximum f) : v.ruleId = RuleId.complexity := by
  unfold Rule.checkComplexity at h
  split at h
  · cases h
  · obtain ⟨u, -, rfl⟩ := List.mem_map.mp h
    rfl

end Detection

/-! ## Checkers -/

/-- A rule as detection sees it. -/
structure Checker where
  ruleId : Text
  /-- What is reported about a file under a configuration. -/
  report : Config → SourceFile → List Violation

/-- The two configurations differ in which rules they select, and with which severity, at most. -/
structure Config.SameOptions (c d : Config) : Prop where
  maximum : c.maximum = d.maximum
  suffixRules : c.suffixRules = d.suffixRules
  plugins : c.plugins = d.plugins

namespace Checker

/-- The checker of a rule. -/
def ofRule (r : Rule) : Checker := ⟨r.ruleId, fun c f => (r.configure c).check f⟩

/-- All violations are reported under the id of the checker. -/
def ReportsOwnId (k : Checker) : Prop := ∀ c f, ∀ v ∈ k.report c f, v.ruleId = k.ruleId

/-- What is reported does not depend on which rules are selected, nor on their severities. -/
def IgnoresSelection (k : Checker) : Prop := ∀ c d f, c.SameOptions d → k.report c f = k.report d f

theorem reportsOwnId_ofRule (r : Rule) : (ofRule r).ReportsOwnId := by
  intro c f v hv
  cases r with
  | complexity n => exact Detection.ruleId_of_mem_checkComplexity hv
  | naming rules =>
    obtain ⟨e, -, rfl⟩ := List.mem_map.mp hv
    rfl
  | plugin p =>
    obtain ⟨x, -, rfl⟩ := List.mem_map.mp hv
    rfl

theorem ignoresSelection_ofRule (r : Rule) : (ofRule r).IgnoresSelection := by
  intro c d f h
  cases r with
  | complexity n => simp only [ofRule, Rule.configure, h.maximum]
  | naming rules => simp only [ofRule, Rule.configure, h.suffixRules]
  | plugin p => rfl

/-! ## Detection with checkers -/

variable {checkers : List Checker} {c d : Config} {files : List SourceFile}

/-- The checkers that a configuration enables. -/
def enabled (checkers : List Checker) (c : Config) : List Checker :=
  checkers.filter fun k => (c.enabledIds (some (checkers.map (·.ruleId)))).contains k.ruleId

/-- The violations that the enabled checkers report, with their own severities. -/
def found (checkers : List Checker) (c : Config) (files : List SourceFile) : List Violation :=
  files.flatMap fun f => (enabled checkers c).flatMap fun k => k.report c f

/-- The violations of files, file by file and checker by checker, with the severities that the
    configuration sets. -/
def detect (checkers : List Checker) (c : Config) (files : List SourceFile) : List Violation :=
  files.flatMap fun f => (enabled checkers c).flatMap fun k =>
    (k.report c f).map (Violation.withOverride c)

/-- Detection with the rules of a registry. -/
theorem detect_ofRule (registry : Registry) (c : Config) (files : List SourceFile) :
    Detection.detect registry c files = detect (registry.rules.map ofRule) c files := by
  have hids : (registry.rules.map ofRule).map (·.ruleId) = registry.ruleIds := List.map_map
  have henabled : enabled (registry.rules.map ofRule) c =
      (registry.rules.filter fun r =>
        (c.enabledIds (some registry.ruleIds)).contains r.ruleId).map ofRule := by
    rw [enabled, hids, List.filter_map]
    rfl
  unfold Detection.detect Detection.detectFile Detection.enabledRules detect
  rw [henabled]
  simp only [List.flatMap_map]
  rfl

/-- Severities are set at the very end. -/
theorem detect_eq_map :
    detect checkers c files = (found checkers c files).map (Violation.withOverride c) := by
  unfold detect found
  rw [List.map_flatMap]
  simp only [List.map_flatMap]

theorem detect_append (a b : List SourceFile) :
    detect checkers c (a ++ b) = detect checkers c a ++ detect checkers c b := List.flatMap_append

theorem filter_detect (p : Text → Bool) : (detect checkers c files).filter (fun v => p v.ruleId) =
    ((found checkers c files).filter fun v => p v.ruleId).map (Violation.withOverride c) := by
  rw [detect_eq_map, List.filter_map]
  congr 2
  funext v
  exact congrArg p (Detection.ruleId_withOverride c v)

/-- What a checker reports is either all under the chosen ids or not at all. -/
theorem filter_flatMap_report {ks : List Checker} (hown : ∀ k ∈ ks, k.ReportsOwnId) (c : Config)
    (f : SourceFile) (p : Text → Bool) :
    (ks.flatMap fun k => k.report c f).filter (fun v => p v.ruleId) =
      (ks.filter fun k => p k.ruleId).flatMap fun k => k.report c f := by
  induction ks with
  | nil => rfl
  | cons k ks ih =>
    rw [List.forall_mem_cons] at hown
    rw [List.flatMap_cons, List.filter_append, ih hown.2, List.filter_cons]
    cases hp : p k.ruleId with
    | true =>
      rw [if_pos rfl, List.flatMap_cons, List.filter_eq_self.mpr]
      intro v hv
      rw [hown.1 c f v hv, hp]
    | false =>
      rw [if_neg Bool.false_ne_true, List.filter_eq_nil_iff.mpr, List.nil_append]
      intro v hv
      rw [hown.1 c f v hv, hp]
      exact Bool.false_ne_true

/-- The violations of some rules are what these rules report. -/
theorem filter_found (hown : ∀ k ∈ checkers, k.ReportsOwnId) (p : Text → Bool) :
    (found checkers c files).filter (fun v => p v.ruleId) =
      files.flatMap fun f =>
        ((enabled checkers c).filter fun k => p k.ruleId).flatMap fun k => k.report c f := by
  unfold found
  rw [List.filter_flatMap]
  congr 1
  funext f
  exact filter_flatMap_report (fun k hk => hown k (List.mem_of_mem_filter hk)) c f p

/-! ## What each option changes -/

/-- Among the enabled checkers a disabled canonical id takes away its own and no other. -/
theorem enabled_disable {r : Text} (hr : RuleId.Canonical r) {disable : List Text}
    (hdisable : ∀ t, t ∈ disable ↔ t = r ∨ t ∈ c.disable) :
    enabled checkers { c with disable } = (enabled checkers c).filter (·.ruleId ≠ r) := by
  rw [enabled, enabled, List.filter_filter]
  congr 1
  funext k
  rw [Bool.eq_iff_iff, Bool.and_eq_true, List.contains_iff_mem, List.contains_iff_mem,
    Config.mem_enabledIds, Config.mem_enabledIds, decide_eq_true_iff]
  simp only [hdisable, forall_eq_or_imp, Config.disabledBy_of_canonical hr, decide_eq_false_iff_not]
  grind

theorem detect_disable (hown : ∀ k ∈ checkers, k.ReportsOwnId)
    (hignores : ∀ k ∈ checkers, k.IgnoresSelection) {r : Text} (hr : RuleId.Canonical r)
    {disable : List Text} (hdisable : ∀ t, t ∈ disable ↔ t = r ∨ t ∈ c.disable) :
    detect checkers { c with disable } files = (detect checkers c files).filter (·.ruleId ≠ r) := by
  have hfound : found checkers { c with disable } files =
      (found checkers c files).filter (·.ruleId ≠ r) := by
    rw [filter_found hown (p := fun i => i ≠ r), found, enabled_disable hr hdisable]
    congr 1
    funext f
    refine List.flatMap_congr fun k hk => ?_
    have hmem : k ∈ checkers := List.mem_of_mem_filter (List.mem_of_mem_filter hk)
    exact hignores k hmem _ _ f ⟨rfl, rfl, rfl⟩
  rw [filter_detect (p := fun i => i ≠ r), detect_eq_map, hfound]
  rfl

/-- The violations are the same but for severities, and these are the configured ones where a rule has
    one; a violation of a rule whose severity is configured alike is the same altogether. -/
structure Restated (c d : Config) (v w : Violation) : Prop where
  same : w = { v with severity := w.severity }
  configured : ∀ s, d.override? v.ruleId = some s → w.severity = s.text
  unchanged : d.override? v.ruleId = c.override? v.ruleId → w = v

theorem restated_withOverride (c d : Config) (v : Violation) :
    Restated c d (v.withOverride c) (v.withOverride d) := by
  unfold Violation.withOverride
  cases hc : c.override? v.ruleId <;> cases hd : d.override? v.ruleId <;>
    constructor <;> simp_all

theorem detect_overrides (hignores : ∀ k ∈ checkers, k.IgnoresSelection)
    (overrides : List (Text × Severity)) :
    List.Forall₂ (Restated c { c with overrides }) (detect checkers c files)
      (detect checkers { c with overrides } files) := by
  have hfound : found checkers { c with overrides } files = found checkers c files := by
    unfold found
    congr 1
    funext f
    exact List.flatMap_congr fun k hk =>
      hignores k (List.mem_of_mem_filter hk) _ _ f ⟨rfl, rfl, rfl⟩
  rw [detect_eq_map, detect_eq_map, hfound, List.forall₂_map_left_iff, List.forall₂_map_right_iff,
    List.forall₂_same]
  exact fun v _ => restated_withOverride c _ v

/-- The violations of a rule stay the same if it reports the same. -/
theorem filter_detect_congr (hown : ∀ k ∈ checkers, k.ReportsOwnId) {i : Text}
    (henable : d.enable = c.enable) (hdisable : d.disable = c.disable)
    (hoverrides : d.overrides = c.overrides)
    (hreport : ∀ k ∈ checkers, k.ruleId = i → ∀ f, k.report d f = k.report c f) :
    (detect checkers d files).filter (·.ruleId = i) =
      (detect checkers c files).filter (·.ruleId = i) := by
  have henabled : enabled checkers d = enabled checkers c := by
    simp only [enabled, Config.enabledIds, henable, hdisable]
  have hwith : Violation.withOverride d = Violation.withOverride c := by
    funext v
    simp only [Violation.withOverride, Config.override?, hoverrides]
  rw [filter_detect (p := fun j => j = i), filter_detect (p := fun j => j = i), hwith,
    filter_found hown (p := fun j => j = i), filter_found hown (p := fun j => j = i), henabled]
  congr 2
  funext f
  refine List.flatMap_congr fun k hk => ?_
  obtain ⟨hk, hi⟩ := List.mem_filter.mp hk
  exact hreport k (List.mem_of_mem_filter hk) (of_decide_eq_true hi) f

/-! ## All checkers of a registry -/

variable {plugins : List Checker}

/-- A property of the built-in checkers and of those of plugins is one of all checkers. -/
theorem forall_mem_checkers {P : Checker → Prop}
    (hcheckers : checkers.Perm (Registry.builtIn.map ofRule ++ plugins))
    (hrule : ∀ r, P (ofRule r)) (hplugin : ∀ k ∈ plugins, P k) : ∀ k ∈ checkers, P k := by
  intro k hk
  rcases List.mem_append.mp (hcheckers.mem_iff.mp hk) with hk | hk
  · obtain ⟨r, -, rfl⟩ := List.mem_map.mp hk
    exact hrule r
  · exact hplugin k hk

/-- The only checkers with the ids of the built-in rules are the built-in ones. -/
theorem builtIn_of_ruleId (hcheckers : checkers.Perm (Registry.builtIn.map ofRule ++ plugins))
    (hids : ∀ k ∈ plugins, k.ruleId ∉ Registry.builtInIds) {k : Checker} (hk : k ∈ checkers) :
    (k.ruleId = RuleId.complexity → ∃ n, k = ofRule (.complexity n)) ∧
      (k.ruleId = RuleId.naming → ∃ rules, k = ofRule (.naming rules)) := by
  rcases List.mem_append.mp (hcheckers.mem_iff.mp hk) with hk | hk
  · simp only [Registry.builtIn, List.map_cons, List.map_nil, List.mem_cons, List.not_mem_nil,
      or_false] at hk
    rcases hk with rfl | rfl
    · exact ⟨fun _ => ⟨_, rfl⟩, fun h => absurd h (by decide)⟩
    · exact ⟨fun h => absurd h (by decide), fun _ => ⟨_, rfl⟩⟩
  · have hid := hids k hk
    exact ⟨fun h => absurd (h ▸ by decide) hid, fun h => absurd (h ▸ by decide) hid⟩

/-- **Detection is compositional and options do not interfere.** Let the rules of plugins have ids of
    their own, report under them and take no notice of which rules are selected; then for the built-in
    rules and those of plugins, in any order:
    the violations of files are those of the first files and those of the others; a disabled canonical id
    takes away the violations of its rule and leaves the others in order; configured severities change
    the severities of the violations of these rules and nothing else; and the greatest complexity does
    not act on class names, nor do the suffix rules on complexity. The rules of a registry are a case. -/
theorem detect_noninterference (hcheckers : checkers.Perm (Registry.builtIn.map ofRule ++ plugins))
    (hids : ∀ k ∈ plugins, k.ruleId ∉ Registry.builtInIds) (hown : ∀ k ∈ plugins, k.ReportsOwnId)
    (hignores : ∀ k ∈ plugins, k.IgnoresSelection) (c : Config) :
    (∀ registry files, checkers = registry.rules.map ofRule →
      Detection.detect registry c files = detect checkers c files) ∧
    (∀ a b, detect checkers c (a ++ b) = detect checkers c a ++ detect checkers c b) ∧
    (∀ r disable files, RuleId.Canonical r → (∀ t, t ∈ disable ↔ t = r ∨ t ∈ c.disable) →
      detect checkers { c with disable } files = (detect checkers c files).filter (·.ruleId ≠ r)) ∧
    (∀ overrides files, List.Forall₂ (Restated c { c with overrides }) (detect checkers c files)
      (detect checkers { c with overrides } files)) ∧
    (∀ maximum files,
      (detect checkers { c with maximum } files).filter (·.ruleId = RuleId.naming) =
        (detect checkers c files).filter (·.ruleId = RuleId.naming)) ∧
    ∀ suffixRules files,
      (detect checkers { c with suffixRules } files).filter (·.ruleId = RuleId.complexity) =
        (detect checkers c files).filter (·.ruleId = RuleId.complexity) := by
  have hown' := forall_mem_checkers hcheckers reportsOwnId_ofRule hown
  have hignores' := forall_mem_checkers hcheckers ignoresSelection_ofRule hignores
  refine ⟨?_, detect_append, ?_, fun overrides _ => detect_overrides hignores' overrides, ?_, ?_⟩
  · rintro registry files rfl
    exact detect_ofRule registry c files
  · intro r disable files hr hdisable
    exact detect_disable hown' hignores' hr hdisable
  · intro maximum files
    refine filter_detect_congr hown' rfl rfl rfl fun k hk hid f => ?_
    obtain ⟨rules, rfl⟩ := (builtIn_of_ruleId hcheckers hids hk).2 hid
    rfl
  · intro suffixRules files
    refine filter_detect_congr hown' rfl rfl rfl fun k hk hid f => ?_
    obtain ⟨n, rfl⟩ := (builtIn_of_ruleId hcheckers hids hk).1 hid
    rfl

/-- A rule of a plugin that reports long files, beside the built-in rules: disabling it leaves the
    violation of the naming rule. -/
theorem detect_noninterference_longFile :
    let long : Checker := ⟨"P01".toList, fun c f =>
      if c.maximum < f.lines.length then
        [{ ruleId := "P01".toList, severity := "info".toList, message := "long file".toList }]
      else []⟩
    let checkers := Registry.builtIn.map ofRule ++ [long]
    let files := [SourceFile.ofText ⟨[], ["a.py".toList]⟩ "a.py" "class A(Command): pass\n"]
    (detect checkers { maximum := 0 } files).map (·.ruleId) = [RuleId.naming, "P01".toList] ∧
    detect checkers { maximum := 0, disable := ["P01".toList] } files =
      (detect checkers { maximum := 0 } files).filter (·.ruleId ≠ "P01".toList) := by
  intro long checkers files
  have hown : ∀ k ∈ [long], k.ReportsOwnId := by
    intro k hk c f v hv
    cases List.mem_singleton.mp hk
    simp only [long] at hv
    split_ifs at hv
    · cases List.mem_singleton.mp hv
      rfl
    · cases hv
  have hignores : ∀ k ∈ [long], k.IgnoresSelection := by
    intro k hk c d f h
    cases List.mem_singleton.mp hk
    simp only [long, h.maximum]
  refine ⟨by decide +kernel, ?_⟩
  exact (detect_noninterference (.refl _) (by decide) hown hignores { maximum := 0 }).2.2.1
    "P01".toList ["P01".toList] files (by decide) (by simp)

end Checker

end HouseStyle
