import HouseStyle.Config.Basic
import HouseStyle.Proofs.RuleId
import HouseStyle.Proofs.Sorting

/-!
# The rules that a configuration selects

A rule runs if a token of `enable` covers its id, no token of `disable` covers it, and it is available. A
token covers the ids of the group that it names, or the one id that it is; what the group of all rules
covers is not the same in the two lists. So neither the order of tokens nor their repetition matters.

Main definitions:
* `RuleGroup.nameOf`: the name of a group that a token is, if it is one.
* `Config.Covers`: the ids that a token covers.

Main results:
* `Config.mem_enabledIds`: the ids that run.
* `Config.disabledBy_of_canonical`: a canonical id among the disabled tokens covers itself only.
* `Config.canonical_of_mem_enabledBy`: what a token of `enable` can stand for.
* `Config.mem_enabledBy_iff`, `Config.disabledBy_iff`: what tokens cover in the two lists.
* `Config.enabledIds_exact`: the ids that run, by the tokens that cover them.
-/

namespace HouseStyle

/-- The name of a group that a token is in any case, with blanks around and with `-` for `_`. -/
def RuleGroup.nameOf (t : Text) : Text := t.strip.lowerAscii.replaceChar '-' '_'

namespace Config

theorem mem_enabledIds {c : Config} {available : Option (List Text)} {i : Text} :
    i ∈ c.enabledIds available ↔
      (∃ t ∈ c.enable.tokens, i ∈ enabledBy available t) ∧ (∀ t ∈ c.disable, disabledBy i t = false) ∧
        isAvailable available i = true := by
  rw [enabledIds, mem_stableSort, List.mem_filter, mem_distinct, List.mem_flatMap, Bool.and_eq_true,
    Bool.not_eq_true', List.any_eq_false]
  simp only [Bool.not_eq_true]

/-- A canonical id among the disabled tokens covers itself and no other id. -/
theorem disabledBy_of_canonical {t : Text} (h : RuleId.Canonical t) (i : Text) :
    disabledBy i t = decide (t = i) := by
  rw [disabledBy, h.ofToken?_eq_none, h.normalize_eq]

/-- A token that is a group or means a canonical id stands for canonical ids, as long as all rules are
    the built-in ones. -/
theorem canonical_of_mem_enabledBy {t i : Text} (hi : i ∈ enabledBy none t)
    (ht : (RuleGroup.ofToken? t).isSome = true ∨ RuleId.Canonical (RuleId.normalize t)) :
    RuleId.Canonical i := by
  unfold enabledBy at hi
  split at hi
  · exact RuleGroup.canonical_of_mem_members (g := .all) hi
  · exact RuleGroup.canonical_of_mem_members hi
  · next hgroup =>
    rcases ht with ht | ht
    · rw [hgroup] at ht
      cases ht
    · rwa [List.mem_singleton.mp hi]

/-! ## What tokens cover -/

/-- The token covers the id: it names the group of all rules, which are the ids in `All`, or another group
    that has the id, or it is no group and means the id. -/
def Covers (All : Text → Prop) (t i : Text) : Prop :=
  (RuleGroup.nameOf t = "all".toList ∧ All i) ∨
  (RuleGroup.nameOf t = "complexity".toList ∧ i = RuleId.complexity) ∨
  (RuleGroup.nameOf t = "naming".toList ∧ i = RuleId.naming) ∨
  (RuleGroup.nameOf t ∉ RuleGroup.names ∧ i = t.strip.upper)

/-- All rules, for a token of `enable`: the available ones, or else the built-in ones. -/
def AllEnabled (available : Option (List Text)) (i : Text) : Prop :=
  match available with
  | some ids => i ∈ ids
  | none => i = RuleId.complexity ∨ i = RuleId.naming

/-- What a token covers is told by the group that it names. -/
theorem covers_iff {All : Text → Prop} {t i : Text} : Covers All t i ↔
    match RuleGroup.ofToken? t with
    | some .all => All i
    | some g => i ∈ g.members
    | none => i = RuleId.normalize t := by
  rw [show RuleGroup.ofToken? t = RuleGroup.ofName? (RuleGroup.nameOf t) from rfl]
  unfold Covers RuleGroup.ofName?
  split_ifs with hall hcomplexity hnaming
  · simp [hall, RuleGroup.names]
  · simp [hcomplexity, RuleGroup.members, RuleGroup.names]
  · simp [hnaming, RuleGroup.members, RuleGroup.names]
  · have hother : RuleGroup.nameOf t ∉ RuleGroup.names := by
      simp only [RuleGroup.names, List.mem_cons, List.not_mem_nil, or_false]
      tauto
    simp only [hall, hcomplexity, hnaming, hother, not_false_eq_true, false_and, true_and, false_or,
      RuleId.normalize]

theorem mem_enabledBy_iff {available : Option (List Text)} {t i : Text} :
    i ∈ enabledBy available t ↔ Covers (AllEnabled available) t i := by
  rw [covers_iff, enabledBy]
  cases RuleGroup.ofToken? t with
  | none => exact List.mem_singleton
  | some g =>
    cases g with
    | all =>
      cases available with
      | none => simp [AllEnabled, RuleGroup.members]
      | some ids => rfl
    | complexity => rfl
    | naming => rfl

theorem disabledBy_iff {t i : Text} : disabledBy i t = true ↔ Covers (fun _ => True) t i := by
  rw [covers_iff, disabledBy]
  cases RuleGroup.ofToken? t with
  | none => rw [decide_eq_true_eq, eq_comm]
  | some g =>
    cases g with
    | all => exact iff_of_true rfl trivial
    | complexity => exact List.contains_iff_mem
    | naming => exact List.contains_iff_mem

theorem isAvailable_iff {available : Option (List Text)} {i : Text} :
    isAvailable available i = true ↔ ∀ ids, available = some ids → i ∈ ids := by
  cases available with
  | none => simp [isAvailable]
  | some ids => simp [isAvailable]

/-! ## The ids that run -/

theorem mem_enabledIds_iff {c : Config} {available : Option (List Text)} {i : Text} :
    i ∈ c.enabledIds available ↔
      (∀ ids, available = some ids → i ∈ ids) ∧
      (∃ t ∈ c.enable.tokens, Covers (AllEnabled available) t i) ∧
      ¬∃ t ∈ c.disable, Covers (fun _ => True) t i := by
  rw [mem_enabledIds, isAvailable_iff]
  simp only [mem_enabledBy_iff, ← disabledBy_iff, not_exists, not_and, Bool.not_eq_true]
  tauto

/-- Each id is listed once, and they are sorted. -/
theorem pairwise_lt_enabledIds (c : Config) (available : Option (List Text)) :
    (c.enabledIds available).Pairwise (· < ·) := by
  have hnodup : ((distinct (c.enable.tokens.flatMap (enabledBy available))).filter fun i =>
      !c.disable.any (disabledBy i) && isAvailable available i).Nodup := (nodup_distinct _).filter _
  rw [← List.map_id' (List.filter _ _)] at hnodup
  have hsorted := stableSort_pairwise_lt (fun i : Text => i) hnodup
  rwa [List.map_id'] at hsorted

/-- More tokens to enable and fewer to disable give more ids. -/
theorem enabledIds_mono {c c' : Config} (available : Option (List Text))
    (henable : c.enable.tokens ⊆ c'.enable.tokens) (hdisable : c'.disable ⊆ c.disable) :
    c.enabledIds available ⊆ c'.enabledIds available := by
  intro i hi
  obtain ⟨havailable, ⟨t, ht, hcovers⟩, hnot⟩ := mem_enabledIds_iff.mp hi
  refine mem_enabledIds_iff.mpr ⟨havailable, ⟨t, henable ht, hcovers⟩, ?_⟩
  rintro ⟨t', ht', hcovers'⟩
  exact hnot ⟨t', hdisable ht', hcovers'⟩

/-- **Which rules run.** An id runs exactly if it is among the available ones, where these are given, some
    token of `enable` covers it and no token of `disable` does. The ids are listed in strict order, so the
    order and the repetition of tokens do not matter. What a token of `disable` covers does not run
    whatever is enabled, and more ids run with more tokens in `enable` or fewer in `disable`. -/
theorem enabledIds_exact (c : Config) (available : Option (List Text)) :
    (∀ i, i ∈ c.enabledIds available ↔
      (∀ ids, available = some ids → i ∈ ids) ∧
      (∃ t ∈ c.enable.tokens, Covers (AllEnabled available) t i) ∧
      ¬∃ t ∈ c.disable, Covers (fun _ => True) t i) ∧
    (c.enabledIds available).Pairwise (· < ·) ∧
    (∀ c' : Config, (∀ t, t ∈ c'.enable.tokens ↔ t ∈ c.enable.tokens) →
      (∀ t, t ∈ c'.disable ↔ t ∈ c.disable) → c'.enabledIds available = c.enabledIds available) ∧
    (∀ i, ∀ t ∈ c.disable, Covers (fun _ => True) t i → i ∉ c.enabledIds available) ∧
    (∀ c' : Config, c.enable.tokens ⊆ c'.enable.tokens → c'.disable ⊆ c.disable →
      c.enabledIds available ⊆ c'.enabledIds available) := by
  refine ⟨fun i => mem_enabledIds_iff, c.pairwise_lt_enabledIds available, ?_, ?_,
    fun c' henable hdisable => enabledIds_mono available henable hdisable⟩
  · intro c' henable hdisable
    have hsub : c'.enabledIds available ⊆ c.enabledIds available :=
      enabledIds_mono available (fun t => (henable t).mp) fun t => (hdisable t).mpr
    have hsup : c.enabledIds available ⊆ c'.enabledIds available :=
      enabledIds_mono available (fun t => (henable t).mpr) fun t => (hdisable t).mp
    exact (c'.pairwise_lt_enabledIds available).eq_of_mem_iff (c.pairwise_lt_enabledIds available)
      fun i => ⟨fun h => hsub h, fun h => hsup h⟩
  · intro i t ht hcovers hi
    exact (mem_enabledIds_iff.mp hi).2.2 ⟨t, ht, hcovers⟩

end Config

end HouseStyle
