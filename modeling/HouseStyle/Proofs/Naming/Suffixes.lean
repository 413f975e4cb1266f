import HouseStyle.Rule
import HouseStyle.Proofs.Sorting
import Mathlib.Data.List.Basic

/-!
# Class names and their suffixes

`Declaration.suffixed?` appends, one after the other, the suffixes that a name lacks. The test for a
suffix looks at the name as far as it has been built, so two suffixes that both apply can push each other
away from the end of the name: `FooCommandHandler` ends in `Handler`, but no longer in `Command`.

Main results:
* `Declaration.foldl_addSuffix_eq_append`: a name only grows, by some of the suffixes in order.
* `Declaration.foldl_addSuffix_eq_self_iff`: a name is left alone exactly if it has all suffixes.
* `Declaration.forall_suffix_foldl_iff`: the new name has all suffixes exactly if they are nested.
* `Declaration.suffixed?_again_eq_none_iff`: renaming comes to rest after one run exactly if the
  suffixes that apply are nested.
-/

namespace HouseStyle

namespace Declaration

/-! ## One suffix -/

theorem addSuffix_of_suffix {name s : Text} (h : s <:+ name) : addSuffix name s = name := by
  rw [addSuffix, if_pos (List.isSuffixOf_iff_suffix.mpr h)]

theorem addSuffix_of_not_suffix {name s : Text} (h : ¬ s <:+ name) :
    addSuffix name s = name ++ s := by
  rw [addSuffix, if_neg (mt List.isSuffixOf_iff_suffix.mp h)]

theorem suffix_addSuffix (name s : Text) : s <:+ addSuffix name s := by
  by_cases h : s <:+ name
  · rw [addSuffix_of_suffix h]; exact h
  · rw [addSuffix_of_not_suffix h]; exact List.suffix_append name s

/-- A suffix that a name has stays at its end when a comparable suffix is added. -/
theorem suffix_addSuffix_of_comparable {name s t : Text} (ht : t <:+ name)
    (h : s <:+ t ∨ t <:+ s) : t <:+ addSuffix name s := by
  by_cases hs : s <:+ name
  · rw [addSuffix_of_suffix hs]; exact ht
  · rw [addSuffix_of_not_suffix hs]
    rcases h with hst | hts
    · exact absurd (hst.trans ht) hs
    · exact hts.trans (List.suffix_append name s)

/-! ## All suffixes -/

/-- The new name is the old one with some of the suffixes behind it, in their order. -/
theorem foldl_addSuffix_eq_append (ss : List Text) (name : Text) :
    ∃ added : List Text, added.Sublist ss ∧ ss.foldl addSuffix name = name ++ added.flatten := by
  induction ss generalizing name with
  | nil => exact ⟨[], List.Sublist.slnil, by simp⟩
  | cons s ss ih =>
    obtain ⟨added, hsub, heq⟩ := ih (addSuffix name s)
    rw [List.foldl_cons, heq]
    by_cases h : s <:+ name
    · exact ⟨added, hsub.cons s, by rw [addSuffix_of_suffix h]⟩
    · exact ⟨s :: added, hsub.cons_cons s, by rw [addSuffix_of_not_suffix h]; simp⟩

theorem foldl_addSuffix_eq_self_iff {ss : List Text} {name : Text} :
    ss.foldl addSuffix name = name ↔ ∀ s ∈ ss, s <:+ name := by
  induction ss with
  | nil => simp
  | cons s ss ih =>
    rw [List.foldl_cons, List.forall_mem_cons]
    by_cases h : s <:+ name
    · rw [addSuffix_of_suffix h, ih, and_iff_right h]
    · -- the first suffix is not empty, and what it adds never goes away
      obtain ⟨added, -, heq⟩ := foldl_addSuffix_eq_append ss (addSuffix name s)
      have hne : s ≠ [] := by rintro rfl; exact h (List.nil_suffix)
      have hpos := List.length_pos_iff.mpr hne
      constructor
      · intro hself
        rw [heq, addSuffix_of_not_suffix h] at hself
        have := congrArg List.length hself
        simp only [List.length_append] at this
        omega
      · rintro ⟨hs, -⟩
        exact absurd hs h

theorem prefix_foldl_addSuffix (ss : List Text) (name : Text) : name <+: ss.foldl addSuffix name := by
  obtain ⟨added, -, heq⟩ := foldl_addSuffix_eq_append ss name
  rw [heq]
  exact List.prefix_append name _

theorem suffix_foldl_addSuffix {ss : List Text} {s : Text} (h : ss.getLast? = some s)
    (name : Text) : s <:+ ss.foldl addSuffix name := by
  obtain ⟨before, rfl⟩ := List.getLast?_eq_some_iff.mp h
  rw [List.foldl_append]
  exact suffix_addSuffix _ s

/-- Of any two of the suffixes, one is the end of the other. -/
def Nested (ss : List Text) : Prop := ∀ s ∈ ss, ∀ t ∈ ss, s <:+ t ∨ t <:+ s

instance (ss : List Text) : Decidable (Nested ss) :=
  inferInstanceAs (Decidable (∀ s ∈ ss, ∀ t ∈ ss, s <:+ t ∨ t <:+ s))

/-- What holds after each suffix: the name ends in all suffixes looked at so far. -/
theorem forall_suffix_foldl {seen ss : List Text} {name : Text} (hseen : ∀ s ∈ seen, s <:+ name)
    (hnested : Nested (seen ++ ss)) : ∀ s ∈ seen ++ ss, s <:+ ss.foldl addSuffix name := by
  induction ss generalizing seen name with
  | nil => simpa using hseen
  | cons s ss ih =>
    have hsplit : seen ++ s :: ss = (seen ++ [s]) ++ ss := by simp
    have hnow : ∀ t ∈ seen ++ [s], t <:+ addSuffix name s := by
      intro t ht
      rcases List.mem_append.mp ht with ht | ht
      · exact suffix_addSuffix_of_comparable (hseen t ht)
          (hnested s (by simp) t (by simp [ht]))
      · rw [List.mem_singleton.mp ht]
        exact suffix_addSuffix name s
    rw [hsplit] at hnested ⊢
    exact ih hnow hnested

/-- The new name has all suffixes exactly if they are nested, whatever the old name was. -/
theorem forall_suffix_foldl_iff {ss : List Text} {name : Text} :
    (∀ s ∈ ss, s <:+ ss.foldl addSuffix name) ↔ Nested ss := by
  constructor
  · intro h s hs t ht
    exact List.suffix_or_suffix_of_suffix (h s hs) (h t ht)
  · intro h
    have hnone : ∀ s ∈ ([] : List Text), s <:+ name := by simp
    exact forall_suffix_foldl hnone h

/-! ## Declarations -/

theorem mem_suffixes {rules : List SuffixRule} {types : List Text} {s : Text} :
    s ∈ suffixes rules types ↔
      ∃ r ∈ rules, (∃ t ∈ types, r.covers t = true) ∧ r.suffix = s := by
  simp only [suffixes, List.mem_flatMap, List.mem_map, List.mem_filter]
  constructor
  · rintro ⟨t, ht, r, ⟨hr, hcovers⟩, hs⟩
    exact ⟨r, hr, ⟨t, ht, hcovers⟩, hs⟩
  · rintro ⟨r, hr, ⟨t, ht, hcovers⟩, hs⟩
    exact ⟨t, ht, r, ⟨hr, hcovers⟩, hs⟩

theorem suffixed?_eq_none_iff {rules : List SuffixRule} {d : Declaration} {name : Text}
    (hname : d.name = some name) :
    d.suffixed? rules = none ↔ ∀ s ∈ suffixes rules d.types, s <:+ name := by
  rw [← foldl_addSuffix_eq_self_iff]
  simp [suffixed?, hname]

theorem suffixed?_eq_some_iff {rules : List SuffixRule} {d : Declaration} {renamed : Text} :
    d.suffixed? rules = some renamed ↔ ∃ name, d.name = some name ∧
      (suffixes rules d.types).foldl addSuffix name = renamed ∧ renamed ≠ name := by
  cases hname : d.name with
  | none => simp [suffixed?, hname]
  | some name =>
    simp only [suffixed?, hname, Option.bind_some, Option.some.injEq, exists_eq_left']
    split_ifs with h
    · simp only [false_iff, not_and, not_not]
      rintro rfl
      exact h
    · constructor
      · rintro ⟨⟩; exact ⟨rfl, h⟩
      · rintro ⟨rfl, -⟩; rfl

theorem getD_suffixed? (rules : List SuffixRule) {d : Declaration} {name : Text}
    (hname : d.name = some name) :
    (d.suffixed? rules).getD name = (suffixes rules d.types).foldl addSuffix name := by
  rw [suffixed?, hname, Option.bind_some]
  dsimp only
  split_ifs with h
  · exact h.symm
  · rfl

/-- A name that is not left alone gets some of the suffixes, in order and not all empty. -/
theorem suffixed?_eq_append {rules : List SuffixRule} {d : Declaration} {name renamed : Text}
    (hname : d.name = some name) (h : d.suffixed? rules = some renamed) :
    ∃ added : List Text, added.Sublist (suffixes rules d.types) ∧ added.flatten ≠ [] ∧
      renamed = name ++ added.flatten := by
  obtain ⟨name', hname', hfold, hne⟩ := suffixed?_eq_some_iff.mp h
  rw [hname] at hname'
  cases hname'
  obtain ⟨added, hsub, heq⟩ := foldl_addSuffix_eq_append (suffixes rules d.types) name
  rw [hfold] at heq
  refine ⟨added, hsub, ?_, heq⟩
  intro hnil
  rw [hnil, List.append_nil] at heq
  exact hne heq

theorem edit?_eq_some_iff {ruleId : Text} {rules : List SuffixRule} {d : Declaration} {e : Edit} :
    d.edit? ruleId rules = some e ↔ ∃ name line col renamed, d.name = some name ∧
      d.line = some line ∧ d.col = some col ∧ d.suffixed? rules = some renamed ∧
      e = ⟨ruleId, line, col, col + name.length, name, renamed⟩ := by
  unfold edit?
  split
  next name line col hname hline hcol => simp [hname, hline, hcol, eq_comm]
  next hnone =>
    simp only [reduceCtorEq, false_iff]
    rintro ⟨name, line, col, renamed, hname, hline, hcol, -⟩
    exact hnone name line col hname hline hcol

end Declaration

/-! ## The classes of a file -/

/-- The classes of a file: those of its tree, with the names that its tokens show. -/
def SourceFile.declarations (f : SourceFile) : List Declaration :=
  match f.tree with
  | none => []
  | some tree => tree.declarations (f.tokens.getD [])

theorem Rule.namingEdits_eq (rules : List SuffixRule) (f : SourceFile) :
    Rule.namingEdits rules f =
      stableSort Edit.le (f.declarations.filterMap (·.edit? RuleId.naming rules)) := by
  unfold Rule.namingEdits SourceFile.declarations
  cases f.tree <;> rfl

/-- A class has a name exactly if its place is known. -/
theorem SourceFile.place_of_mem_declarations {f : SourceFile} {d : Declaration}
    (hd : d ∈ f.declarations) {name : Text} (hname : d.name = some name) :
    ∃ line col, d.line = some line ∧ d.col = some col := by
  unfold declarations at hd
  cases htree : f.tree with
  | none => rw [htree] at hd; cases hd
  | some tree =>
    rw [htree] at hd
    obtain ⟨n, -, hn⟩ := List.mem_filterMap.mp hd
    cases n <;> simp only [Syntax.Node.declaration?, reduceCtorEq, Option.some.injEq] at hn
    subst hn
    simp only [Syntax.Node.declaration, Option.map_eq_some_iff] at hname ⊢
    obtain ⟨t, ht, -⟩ := hname
    simp [ht]

theorem SourceFile.edit?_isSome_iff {f : SourceFile} {d : Declaration} (hd : d ∈ f.declarations)
    (ruleId : Text) (rules : List SuffixRule) :
    (d.edit? ruleId rules).isSome ↔ (d.suffixed? rules).isSome := by
  simp only [Option.isSome_iff_exists, Declaration.edit?_eq_some_iff]
  constructor
  · rintro ⟨e, name, line, col, renamed, -, -, -, h, -⟩
    exact ⟨renamed, h⟩
  · rintro ⟨renamed, h⟩
    obtain ⟨name, hname, -⟩ := Declaration.suffixed?_eq_some_iff.mp h
    obtain ⟨line, col, hline, hcol⟩ := place_of_mem_declarations hd hname
    exact ⟨_, name, line, col, renamed, hname, hline, hcol, h, rfl⟩

theorem Rule.namingEdits_eq_nil_iff {rules : List SuffixRule} {f : SourceFile} :
    Rule.namingEdits rules f = [] ↔ ∀ d ∈ f.declarations, d.suffixed? rules = none := by
  rw [Rule.namingEdits_eq, ← List.length_eq_zero_iff, (stableSort_perm _ _).length_eq,
    List.length_eq_zero_iff, List.filterMap_eq_nil_iff]
  apply forall₂_congr
  intro d hd
  rw [← Option.not_isSome_iff_eq_none, SourceFile.edit?_isSome_iff hd,
    Option.not_isSome_iff_eq_none]

/-! ## Renaming twice -/

namespace Declaration

/-- A renamed class is left alone exactly if its suffixes are nested, because the new name has been built from
    all of them. -/
theorem suffixed?_renamed_eq_none_iff {rules : List SuffixRule} {d : Declaration} {renamed : Text}
    (h : d.suffixed? rules = some renamed) :
    { d with name := some renamed }.suffixed? rules = none ↔ Nested (suffixes rules d.types) := by
  obtain ⟨name, -, rfl, -⟩ := suffixed?_eq_some_iff.mp h
  exact (suffixed?_eq_none_iff rfl).trans forall_suffix_foldl_iff

/-- Suffixes that are not nested are missed by every name. -/
theorem suffixed?_ne_none_of_not_nested {rules : List SuffixRule} {d : Declaration} {name : Text}
    (hname : d.name = some name) (h : ¬ Nested (suffixes rules d.types)) :
    d.suffixed? rules ≠ none := by
  intro hnone
  have hall := (suffixed?_eq_none_iff hname).mp hnone
  exact h fun s hs t ht => List.suffix_or_suffix_of_suffix (hall s hs) (hall t ht)

/-- **When renaming comes to rest.** A class that has been renamed is left alone by the next run
    exactly if the suffixes that apply to it are nested; otherwise it is renamed again under any name
    whatever. A run over a file finds nothing to rename exactly if it leaves every class alone that it
    reads in the file. -/
theorem suffixed?_again_eq_none_iff (rules : List SuffixRule) :
    (∀ (d : Declaration) (renamed : Text), d.suffixed? rules = some renamed →
      ({ d with name := some renamed }.suffixed? rules = none ↔
        Nested (suffixes rules d.types))) ∧
    (∀ d : Declaration, ¬ Nested (suffixes rules d.types) →
      ∀ name, { d with name := some name }.suffixed? rules ≠ none) ∧
    ∀ f : SourceFile, Rule.namingEdits rules f = [] ↔
      ∀ d ∈ f.declarations, d.suffixed? rules = none :=
  ⟨fun _ _ => suffixed?_renamed_eq_none_iff,
    fun d h name => suffixed?_ne_none_of_not_nested (d := { d with name := some name }) rfl h,
    fun _ => Rule.namingEdits_eq_nil_iff⟩

/-- `Foo(Command, BaseCommand)` comes to rest as `FooCommand`, alone and in its file, while
    `Foo(Command, Handler)` does not come to rest as `FooCommandHandler`. -/
theorem suffixed?_again_eq_none_iff_defaults :
    let file : SourceFile :=
      { path := ⟨[], []⟩, shownPath := [], text := [], lines := []
        tree := some (.classDef "FooCommand" ⟨1, 0⟩ [.name "Command", .name "BaseCommand"] [] [] [])
        tokens := some [⟨.name, "class", 1, 0⟩, ⟨.name, "FooCommand", 1, 6⟩] }
    let calm : Declaration :=
      { name := some "Foo".toList, parent := some "Command".toList,
        interfaces := ["BaseCommand".toList] }
    let restless : Declaration := { calm with interfaces := ["Handler".toList] }
    calm.suffixed? SuffixRule.defaults = some "FooCommand".toList ∧
    { calm with name := some "FooCommand".toList }.suffixed? SuffixRule.defaults = none ∧
    { restless with name := some "FooCommandHandler".toList }.suffixed? SuffixRule.defaults ≠
      none ∧
    Rule.namingEdits SuffixRule.defaults file = [] := by
  intro file calm restless
  obtain ⟨hone, hnone, hfile⟩ := suffixed?_again_eq_none_iff SuffixRule.defaults
  have hcalm : calm.suffixed? SuffixRule.defaults = some "FooCommand".toList := by decide
  refine ⟨hcalm, (hone calm _ hcalm).mpr (by decide), hnone restless (by decide) _,
    (hfile file).mpr fun d hd => ?_⟩
  rw [List.mem_singleton.mp hd]
  decide

/-- Renaming does not always come to rest: already under the default rules, `Foo(Command, Handler)`
    becomes `FooCommandHandler`, which no longer ends in `Command`. -/
theorem suffixed?_not_idempotent :
    ¬ ∀ rules : List SuffixRule, (∀ r ∈ rules, r.suffix ≠ []) → (rules.map (·.pattern)).Nodup →
      ∀ (d : Declaration) (renamed : Text), d.suffixed? rules = some renamed →
        { d with name := some renamed }.suffixed? rules = none := by
  intro h
  have hagain := h SuffixRule.defaults (by decide) (by decide)
    { name := some "Foo".toList, parent := some "Command".toList,
      interfaces := ["Handler".toList] }
    "FooCommandHandler".toList (by decide)
  revert hagain
  decide

end Declaration

end HouseStyle
