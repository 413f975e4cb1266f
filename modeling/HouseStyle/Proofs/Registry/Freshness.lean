import HouseStyle.Catalog
import HouseStyle.Proofs.RuleId
import HouseStyle.Proofs.Sorting
import Mathlib.Data.List.Induction

/-!
# The catalog never serves stale rules

The catalog keeps what was read in caches, under the number of registrations. A cached value can only be
served in the generation in which it was computed, because a registration starts a new one: so every
answer is the one that the registry gives without any cache. The registry in turn has the built-in rules
and those of the last registration that was accepted.

Main definitions:
* `Registry.Acceptable`: the rules that can be registered.
* `Registry.step`, `Registry.run`: the answers of the registry without caches.
* `Catalog.Fresh`: what the caches hold for the present generation is up to date.
* `Catalog.inForce`: the rules of the last registration that was accepted.

Main results:
* `Registry.acceptable_iff`: the check of a registration.
* `Catalog.step_eq`, `Catalog.run_eq`: the caches do not show.
* `Catalog.run_serves_inForce`: what is read after any sequence of requests.
-/

namespace HouseStyle

/-! ## Registrations -/

namespace Registry

/-- Rules can be registered if their ids are canonical, belong to no built-in rule and are all
    different. -/
structure Acceptable (rules : List PluginRule) : Prop where
  trimmed : ∀ r ∈ rules, r.info.ruleId.strip = r.info.ruleId
  upper : ∀ r ∈ rules, r.info.ruleId.upper = r.info.ruleId
  canonical : ∀ r ∈ rules, RuleId.Canonical r.info.ruleId
  not_builtIn : ∀ r ∈ rules, r.info.ruleId ∉ builtInIds
  nodup : (rules.map (·.info.ruleId)).Nodup

theorem idError?_eq_none_iff {seen : List Text} {i : Text} :
    idError? seen i = none ↔ RuleId.Canonical i ∧ i ∉ builtInIds ∧ i ∉ seen := by
  unfold idError?
  split_ifs with hform hcanonical hbuiltIn hseen
  · -- blanks around or small letters: the id is not canonical either
    refine iff_of_false (by simp) fun h => ?_
    simp [h.1.strip_eq, h.1.upper_eq] at hform
  · refine iff_of_false (by simp) fun h => ?_
    simp [RuleId.isCanonical_iff.mpr h.1] at hcanonical
  · exact iff_of_false (by simp) fun h => h.2.1 (List.contains_iff_mem.mp hbuiltIn)
  · exact iff_of_false (by simp) fun h => h.2.2 (List.contains_iff_mem.mp hseen)
  · rw [Bool.not_eq_true, Bool.not_eq_false'] at hcanonical
    rw [List.contains_iff_mem] at hbuiltIn hseen
    exact iff_of_true rfl ⟨RuleId.isCanonical_iff.mp hcanonical, hbuiltIn, hseen⟩

theorem firstError?_eq_none_iff {seen : List Text} {rules : List PluginRule} :
    firstError? seen rules = none ↔
      (∀ r ∈ rules, RuleId.Canonical r.info.ruleId ∧ r.info.ruleId ∉ builtInIds ∧
        r.info.ruleId ∉ seen) ∧ (rules.map (·.info.ruleId)).Nodup := by
  induction rules generalizing seen with
  | nil => simp [firstError?]
  | cons r rs ih =>
    rw [firstError?, List.forall_mem_cons, List.map_cons, List.nodup_cons]
    cases hr : idError? seen r.info.ruleId with
    | some e =>
      refine iff_of_false (by simp) fun h => ?_
      rw [idError?_eq_none_iff.mpr h.1.1] at hr
      cases hr
    | none =>
      rw [ih]
      have hfirst := idError?_eq_none_iff.mp hr
      simp only [List.mem_cons, not_or, List.mem_map, not_exists, not_and]
      constructor
      · rintro ⟨hrest, hnodup⟩
        exact ⟨⟨hfirst, fun q hq => ⟨(hrest q hq).1, (hrest q hq).2.1, (hrest q hq).2.2.2⟩⟩,
          fun q hq => (hrest q hq).2.2.1, hnodup⟩
      · rintro ⟨⟨-, hrest⟩, hne, hnodup⟩
        exact ⟨fun q hq => ⟨(hrest q hq).1, (hrest q hq).2.1, hne q hq, (hrest q hq).2.2⟩, hnodup⟩

theorem acceptable_iff {rules : List PluginRule} :
    Acceptable rules ↔ firstError? [] rules = none := by
  rw [firstError?_eq_none_iff]
  constructor
  · intro h
    exact ⟨fun r hr => ⟨h.canonical r hr, h.not_builtIn r hr, List.not_mem_nil⟩, h.nodup⟩
  · rintro ⟨h, hnodup⟩
    exact ⟨fun r hr => (h r hr).1.strip_eq, fun r hr => (h r hr).1.upper_eq, fun r hr => (h r hr).1,
      fun r hr => (h r hr).2.1, hnodup⟩

instance (rules : List PluginRule) : Decidable (Acceptable rules) :=
  decidable_of_iff _ acceptable_iff.symm

/-- Rules are accepted exactly if they can be registered, and then they are the rules of plugins. -/
theorem register_of_acceptable {rules : List PluginRule} (h : Acceptable rules) (r : Registry) :
    r.register rules = .ok ⟨rules⟩ := by
  rw [register, acceptable_iff.mp h]

theorem register_of_not_acceptable {rules : List PluginRule} (h : ¬Acceptable rules) (r : Registry) :
    ∃ e, r.register rules = .error e := by
  rw [acceptable_iff] at h
  obtain ⟨e, he⟩ := Option.ne_none_iff_exists'.mp h
  exact ⟨e, by rw [register, he]⟩

/-! ## All rules in order -/

theorem nodup_builtInIds : builtInIds.Nodup := by decide

theorem rules_perm (r : Registry) : r.rules.Perm (builtIn ++ r.extra.map .plugin) :=
  stableSort_perm _ _

/-- The rules are in strict order of their ids. -/
theorem pairwise_lt_rules {r : Registry} (h : Acceptable r.extra) :
    (r.rules.map (·.ruleId)).Pairwise (· < ·) := by
  apply stableSort_pairwise_lt
  rw [List.map_append, List.map_map, List.nodup_append]
  refine ⟨nodup_builtInIds, h.nodup, ?_⟩
  intro i hi j hj hij
  obtain ⟨q, hq, rfl⟩ := List.mem_map.mp hj
  rw [hij] at hi
  exact h.not_builtIn q hq hi

/-- What is told about all rules, by their ids. -/
def table (r : Registry) : List (Text × RuleMeta) := r.rules.map fun r => (r.ruleId, r.info)

/-! ## Answers without caches -/

open Catalog (Request Answer)

/-- The answer of the registry to a request. -/
def step (r : Registry) : Request → Answer × Registry
  | .register rules =>
    match r.register rules with
    | .ok r => (.registered, r)
    | .error e => (.refused e, r)
  | .rules => (.rules r.rules, r)
  | .ids => (.ids r.ruleIds, r)
  | .metas => (.metas r.table, r)

/-- The answers of the registry to requests, one after the other. -/
def run (r : Registry) : List Request → List Answer × Registry
  | [] => ([], r)
  | q :: qs => ((r.step q).1 :: ((r.step q).2.run qs).1, ((r.step q).2.run qs).2)

theorem run_append (r : Registry) (qs ps : List Request) :
    (r.run (qs ++ ps)).2 = ((r.run qs).2.run ps).2 := by
  induction qs generalizing r with
  | nil => rfl
  | cons q qs ih => exact ih (r.step q).2

end Registry

/-! ## Caches -/

namespace Cache

variable {capacity : Nat} {α : Type} {c : Cache capacity Nat α} {generation : Nat} {value other : α}

/-- All values are from generations so far, and what is kept for the present one is the given value. -/
def FreshAt (c : Cache capacity Nat α) (generation : Nat) (value : α) : Prop :=
  ∀ e ∈ c.entries, e.1 ≤ generation ∧ (e.1 = generation → e.2 = value)

theorem FreshAt.eq_of_find? (h : c.FreshAt generation value) (hfind : c.find? generation = some other) :
    other = value := by
  obtain ⟨before, after, hentries, -⟩ := List.lookup_eq_some_iff.mp hfind
  exact (h (generation, other) (by rw [hentries]; simp)).2 rfl

theorem FreshAt.use (h : c.FreshAt generation value) :
    (c.use generation value).FreshAt generation value := by
  intro e he
  rcases List.mem_cons.mp (List.mem_of_mem_take he) with rfl | he
  · exact ⟨Nat.le_refl _, fun _ => rfl⟩
  · exact h e (List.mem_of_mem_filter he)

/-- In the next generation nothing that is kept is served any more. -/
theorem FreshAt.succ (h : c.FreshAt generation value) : c.FreshAt (generation + 1) other := by
  intro e he
  have := (h e he).1
  exact ⟨by omega, fun heq => by omega⟩

end Cache

namespace Catalog

/-- What the caches hold for the present generation is up to date. -/
structure Fresh (c : Catalog) : Prop where
  rules : c.rules.FreshAt c.generation c.registry.rules
  metas : c.metas.FreshAt c.generation c.registry.table

theorem fresh_empty : Fresh {} where
  rules := fun _ h => nomatch h
  metas := fun _ h => nomatch h

/-! ## One request -/

section

variable {c : Catalog}

theorem Fresh.readRules (h : c.Fresh) : c.readRules.1 = c.registry.rules ∧
    c.readRules.2.registry = c.registry ∧ c.readRules.2.generation = c.generation ∧
    c.readRules.2.metas = c.metas ∧ c.readRules.2.Fresh := by
  have hvalue : (c.rules.find? c.generation).getD c.registry.rules = c.registry.rules := by
    cases hfind : c.rules.find? c.generation with
    | none => rfl
    | some rules => exact h.rules.eq_of_find? hfind
  unfold Catalog.readRules
  rw [hvalue]
  exact ⟨rfl, rfl, rfl, rfl, h.rules.use, h.metas⟩

theorem Fresh.readMetas (h : c.Fresh) : c.readMetas.1 = c.registry.table ∧
    c.readMetas.2.registry = c.registry ∧ c.readMetas.2.Fresh := by
  unfold Catalog.readMetas
  cases hfind : c.metas.find? c.generation with
  | some table =>
    rw [h.metas.eq_of_find? hfind]
    exact ⟨rfl, rfl, h.rules, h.metas.use⟩
  | none =>
    -- the table is made from the rules, which are read through their own cache
    obtain ⟨hrules, hregistry, hgeneration, hmetas, hfresh⟩ := h.readRules
    have htable : (c.readRules.1.map fun r => (r.ruleId, r.info)) = c.registry.table := by
      rw [hrules, Registry.table]
    refine ⟨htable, hregistry, hfresh.rules, ?_⟩
    show (c.readRules.2.metas.use c.readRules.2.generation _).FreshAt c.readRules.2.generation
      c.readRules.2.registry.table
    rw [htable, hregistry, hgeneration, hmetas]
    exact h.metas.use

theorem Fresh.readIds (h : c.Fresh) : c.readIds.1 = c.registry.ruleIds ∧
    c.readIds.2.registry = c.registry ∧ c.readIds.2.Fresh := by
  obtain ⟨hrules, hregistry, -, -, hfresh⟩ := h.readRules
  refine ⟨?_, hregistry, hfresh⟩
  show c.readRules.1.map (·.ruleId) = c.registry.ruleIds
  rw [hrules, Registry.ruleIds]

/-- To every request a fresh catalog gives the answer of its registry, and it stays fresh. -/
theorem step_eq (h : c.Fresh) (q : Request) : (c.step q).1 = (c.registry.step q).1 ∧
    (c.step q).2.registry = (c.registry.step q).2 ∧ (c.step q).2.Fresh := by
  cases q with
  | register rules =>
    simp only [Catalog.step, Catalog.register, Registry.step]
    cases c.registry.register rules with
    | error e => exact ⟨rfl, rfl, h⟩
    | ok r => exact ⟨rfl, rfl, h.rules.succ, h.metas.succ⟩
  | rules => exact ⟨congrArg Answer.rules h.readRules.1, h.readRules.2.1, h.readRules.2.2.2.2⟩
  | ids => exact ⟨congrArg Answer.ids h.readIds.1, h.readIds.2⟩
  | metas => exact ⟨congrArg Answer.metas h.readMetas.1, h.readMetas.2⟩

/-! ## All requests -/

/-- The caches do not show in any sequence of requests. -/
theorem run_eq (h : c.Fresh) (qs : List Request) : (c.run qs).1 = (c.registry.run qs).1 ∧
    (c.run qs).2.registry = (c.registry.run qs).2 ∧ (c.run qs).2.Fresh := by
  induction qs generalizing c with
  | nil => exact ⟨rfl, rfl, h⟩
  | cons q qs ih =>
    obtain ⟨hanswer, hregistry, hfresh⟩ := step_eq h q
    obtain ⟨hanswers, hregistry', hfresh'⟩ := ih hfresh
    refine ⟨?_, ?_, hfresh'⟩
    · show (c.step q).1 :: ((c.step q).2.run qs).1 = _
      rw [hanswer, hanswers, hregistry]
      rfl
    · show ((c.step q).2.run qs).2.registry = _
      rw [hregistry', hregistry]
      rfl

end

/-- The rules that a request registers. -/
def accepted? : Request → Option (List PluginRule)
  | .register rules => if Registry.Acceptable rules then some rules else none
  | _ => none

/-- The rules of the last registration that was accepted; none before the first. -/
def inForce (history : List Request) : List PluginRule :=
  (history.reverse.findSome? accepted?).getD []

theorem inForce_append (history : List Request) (q : Request) :
    inForce (history ++ [q]) = (accepted? q).getD (inForce history) := by
  rw [inForce, List.reverse_append, List.reverse_singleton, List.singleton_append,
    List.findSome?_cons]
  cases accepted? q <;> rfl

theorem acceptable_of_accepted? {q : Request} {rules : List PluginRule}
    (h : accepted? q = some rules) : Registry.Acceptable rules := by
  cases q with
  | register new =>
    rw [accepted?, Option.ite_none_right_eq_some] at h
    obtain ⟨hnew, heq⟩ := h
    cases heq
    exact hnew
  | _ => cases h

/-- The rules in force could be registered. -/
theorem acceptable_inForce (history : List Request) : Registry.Acceptable (inForce history) := by
  unfold inForce
  cases hfind : history.reverse.findSome? accepted? with
  | none => exact Registry.acceptable_iff.mpr rfl
  | some rules =>
    obtain ⟨q, -, hq⟩ := List.exists_of_findSome?_eq_some hfind
    exact acceptable_of_accepted? hq

/-- A request registers new rules, or it leaves the rules as they are. -/
theorem registry_step (r : Registry) (q : Request) : (r.step q).2 = ⟨(accepted? q).getD r.extra⟩ := by
  cases q with
  | register rules =>
    rw [Registry.step, accepted?]
    by_cases h : Registry.Acceptable rules
    · rw [Registry.register_of_acceptable h, if_pos h]
      rfl
    · obtain ⟨e, he⟩ := Registry.register_of_not_acceptable h r
      rw [he, if_neg h]
      rfl
  | _ => rfl

theorem registry_run (history : List Request) : (Registry.run {} history).2 = ⟨inForce history⟩ := by
  induction history using List.reverseRecOn with
  | nil => rfl
  | append_singleton history q ih =>
    rw [Registry.run_append, ih, inForce_append]
    exact registry_step _ q

/-! ## The catalog of a process -/

/-- The catalog after requests to a new process. -/
def after (history : List Request) : Catalog := (run {} history).2

theorem fresh_after (history : List Request) : (after history).Fresh :=
  (run_eq fresh_empty history).2.2

@[simp] theorem registry_after (history : List Request) :
    (after history).registry = ⟨inForce history⟩ := by
  rw [after, (run_eq fresh_empty history).2.1]
  exact registry_run history

theorem register_eq_error_iff (c : Catalog) (rules : List PluginRule) :
    (∃ e, c.register rules = .error e) ↔ ¬Registry.Acceptable rules := by
  rw [register]
  by_cases h : Registry.Acceptable rules
  · rw [Registry.register_of_acceptable h]
    simp [h]
  · obtain ⟨e, he⟩ := Registry.register_of_not_acceptable h c.registry
    rw [he]
    exact iff_of_true ⟨e, rfl⟩ h

/-- The answers to further requests depend on the rules in force only. -/
theorem run_after_congr {history other : List Request} (h : inForce history = inForce other)
    (later : List Request) : ((after history).run later).1 = ((after other).run later).1 := by
  rw [(run_eq (fresh_after history) later).1, (run_eq (fresh_after other) later).1,
    registry_after, registry_after, h]

/-- **No stale rules.** After any requests the rules that are read are the built-in rules and those of
    the last registration that was accepted, in strict order of their ids, and the ids and the table of
    rules are read off the same rules. A registration is refused exactly if an id has blanks around, is
    not in upper case, is not canonical, belongs to a built-in rule or occurs twice; a registration that
    is refused changes no later answer, and after one that is accepted no answer depends on what was
    before it. -/
theorem run_serves_inForce (history : List Request) :
    ((after history).readRules.1.Perm
        (Registry.builtIn ++ (inForce history).map .plugin) ∧
      ((after history).readRules.1.map (·.ruleId)).Pairwise (· < ·)) ∧
    (after history).readIds.1 = (after history).readRules.1.map (·.ruleId) ∧
    (after history).readMetas.1 = ((after history).readRules.1.map fun r => (r.ruleId, r.info)) ∧
    (∀ rules, (∃ e, (after history).register rules = .error e) ↔ ¬Registry.Acceptable rules) ∧
    (∀ rules later, ¬Registry.Acceptable rules →
      ((after (history ++ [.register rules])).run later).1 = ((after history).run later).1) ∧
    ∀ other rules later, Registry.Acceptable rules →
      ((after (history ++ [.register rules])).run later).1 =
        ((after (other ++ [.register rules])).run later).1 := by
  have hfresh := fresh_after history
  have hrules : (after history).readRules.1 = Registry.rules ⟨inForce history⟩ := by
    rw [hfresh.readRules.1, registry_after]
  refine ⟨?_, ?_, ?_, register_eq_error_iff _, ?_, ?_⟩
  · rw [hrules]
    exact ⟨Registry.rules_perm _, Registry.pairwise_lt_rules (acceptable_inForce history)⟩
  · rw [hfresh.readIds.1, hrules, registry_after, Registry.ruleIds]
  · rw [hfresh.readMetas.1, hrules, registry_after, Registry.table]
  · intro rules later h
    apply run_after_congr
    rw [inForce_append, accepted?, if_neg h]
    rfl
  · intro other rules later h
    apply run_after_congr
    rw [inForce_append, inForce_append, accepted?, if_pos h]
    rfl

end Catalog

end HouseStyle
