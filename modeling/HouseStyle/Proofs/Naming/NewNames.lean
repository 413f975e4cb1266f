import HouseStyle.Proofs.Config.NormalForm
import HouseStyle.Proofs.Naming.Suffixes

/-!
# The names that classes get

The suffixes that apply to a class form a list: types outermost, rules in their order. A class is left
alone exactly if its name has all of them at its end. Otherwise some of them are appended, in order, and
the new name ends with the last one. More interfaces give more suffixes at the end of the list, so they
only add to the name.

A name only gets characters from suffixes. An identifier stays an identifier exactly if every suffix
that applies to it consists of characters with which an identifier may go on. Reading a configuration
does not check this: a suffix only has to be non-empty, and an unnamed pattern such as `*Repository*`
keeps every star that is not in front.

Main definitions:
* `Config.PlainMap`: suffix maps whose suffixes can stand in an identifier.

Main results:
* `Declaration.suffixed?_exact`: the new name, exactly.
* `Declaration.forall_mem_foldl_addSuffix_iff`: the characters of the new name.
* `Config.allIdent_of_ofValue`: plain suffix maps give plain suffixes.
* `Declaration.isIdentifier_suffixed?_iff`: when the new name is an identifier.
-/

namespace HouseStyle

namespace Declaration

variable {rules : List SuffixRule} {d : Declaration} {name renamed : Text}

/-! ## The suffixes that apply -/

theorem types_eq (d : Declaration) :
    d.types = d.parent.toList.filter (!·.isEmpty) ++ d.interfaces := by
  rw [types]
  cases d.parent with
  | none => rfl
  | some p => by_cases h : p.isEmpty = true <;> simp [h]

theorem types_append (d : Declaration) (more : List Text) :
    { d with interfaces := d.interfaces ++ more }.types = d.types ++ more := by
  rw [types_eq, types_eq, List.append_assoc]

theorem suffixes_append (rules : List SuffixRule) (ts us : List Text) :
    suffixes rules (ts ++ us) = suffixes rules ts ++ suffixes rules us := List.flatMap_append

/-! ## The new name -/

/-- A name that is not left alone ends with the last suffix. -/
theorem suffixed?_getLast? (hname : d.name = some name) (h : d.suffixed? rules = some renamed) :
    ∃ last, (suffixes rules d.types).getLast? = some last ∧ last <:+ renamed := by
  have hfold := getD_suffixed? rules hname
  rw [h, Option.getD_some] at hfold
  cases hlast : (suffixes rules d.types).getLast? with
  | none =>
    obtain ⟨added, hsub, hne, -⟩ := suffixed?_eq_append hname h
    rw [List.getLast?_eq_none_iff.mp hlast, List.sublist_nil] at hsub
    exact absurd (hsub ▸ rfl) hne
  | some last => exact ⟨last, rfl, hfold ▸ suffix_foldl_addSuffix hlast name⟩

theorem suffixed?_again (hname : d.name = some name) (h : d.suffixed? rules = some renamed) :
    ({ d with name := some renamed }.suffixed? rules = none ↔
      ∀ s ∈ suffixes rules d.types, s <:+ renamed) ∧
    ((∀ s ∈ suffixes rules d.types, ∀ t ∈ suffixes rules d.types, s = t) →
      { d with name := some renamed }.suffixed? rules = none) := by
  have hagain : { d with name := some renamed }.suffixed? rules = none ↔
      ∀ s ∈ suffixes rules d.types, s <:+ renamed :=
    suffixed?_eq_none_iff (d := { d with name := some renamed }) rfl
  refine ⟨hagain, fun hequal => ?_⟩
  have hfold := getD_suffixed? rules hname
  rw [h, Option.getD_some] at hfold
  rw [hagain, hfold, forall_suffix_foldl_iff]
  intro s hs t ht
  rw [hequal s hs t ht]
  exact .inl List.suffix_rfl

/-- **The new name, exactly.** Let `S` be the suffixes of the rules that cover the parent, unless it is
    empty, and then each interface: types outermost, rules in their order. A class is left alone exactly
    if its name ends with all of `S`. Otherwise its new name is the old one with some of `S` behind it, at
    least one and in order, and ends with the last of `S`; it is left alone in turn exactly if it ends
    with all of `S`, which it does if these are all equal. Further interfaces only extend the name. -/
theorem suffixed?_exact (rules : List SuffixRule) (d : Declaration) (name : Text)
    (hname : d.name = some name) :
    let types := d.parent.toList.filter (!·.isEmpty) ++ d.interfaces
    let S := types.flatMap fun t => (rules.filter (·.covers t)).map (·.suffix)
    (d.suffixed? rules = none ↔ ∀ s ∈ S, s <:+ name) ∧
    ((∃ s ∈ S, ¬ s <:+ name) → ∃ renamed, d.suffixed? rules = some renamed ∧
      (∃ added : List Text, added ≠ [] ∧ added.Sublist S ∧ renamed = name ++ added.flatten) ∧
      (∃ last, S.getLast? = some last ∧ last <:+ renamed) ∧
      ({ d with name := some renamed }.suffixed? rules = none ↔ ∀ s ∈ S, s <:+ renamed) ∧
      ((∀ s ∈ S, ∀ t ∈ S, s = t) → { d with name := some renamed }.suffixed? rules = none)) ∧
    ∀ more, (d.suffixed? rules).getD name <+:
      ({ d with interfaces := d.interfaces ++ more }.suffixed? rules).getD name := by
  intro types S
  have hS : suffixes rules d.types = S := by rw [types_eq]; rfl
  have hnone : d.suffixed? rules = none ↔ ∀ s ∈ S, s <:+ name := by
    rw [← hS]
    exact suffixed?_eq_none_iff hname
  refine ⟨hnone, ?_, ?_⟩
  · rintro ⟨s, hs, hmissing⟩
    obtain ⟨renamed, h⟩ := Option.ne_none_iff_exists'.mp fun h => hmissing (hnone.mp h s hs)
    obtain ⟨added, hsub, hne, heq⟩ := suffixed?_eq_append hname h
    have hadded : added ≠ [] := by rintro rfl; exact hne rfl
    have hlast := suffixed?_getLast? hname h
    obtain ⟨hagain, hequal⟩ := suffixed?_again hname h
    rw [hS] at hsub hlast hagain hequal
    exact ⟨renamed, h, ⟨added, hadded, hsub, heq⟩, hlast, hagain, hequal⟩
  · intro more
    have hmore : { d with interfaces := d.interfaces ++ more }.name = some name := hname
    rw [getD_suffixed? rules hname, getD_suffixed? rules hmore, types_append, suffixes_append,
      List.foldl_append]
    exact prefix_foldl_addSuffix _ _

/-- `Foo(Command, Handler)` lacks both suffixes and gets them in order, and with a `BaseException` as a
    further interface it gets one more. -/
theorem suffixed?_exact_defaults :
    let d : Declaration := { name := some "Foo".toList, parent := some "Command".toList,
                             interfaces := ["Handler".toList] }
    (∃ renamed, d.suffixed? SuffixRule.defaults = some renamed ∧
      (∃ added : List Text, added ≠ [] ∧ added.Sublist ["Command".toList, "Handler".toList] ∧
        renamed = "Foo".toList ++ added.flatten) ∧ "Handler".toList <:+ renamed ∧
      { d with name := some renamed }.suffixed? SuffixRule.defaults ≠ none) ∧
    "FooCommandHandler".toList <+:
      ({ d with interfaces := d.interfaces ++ ["BaseException".toList] }.suffixed?
        SuffixRule.defaults).getD "Foo".toList := by
  intro d
  obtain ⟨-, hrenamed, hmore⟩ := suffixed?_exact SuffixRule.defaults d "Foo".toList rfl
  have hfound : d.suffixed? SuffixRule.defaults = some "FooCommandHandler".toList := by decide
  refine ⟨?_, ?_⟩
  · obtain ⟨renamed, h, hadded, -, hagain, -⟩ :=
      hrenamed ⟨"Command".toList, by decide, by decide⟩
    rw [hfound, Option.some.injEq] at h
    subst h
    refine ⟨_, hfound, hadded, by decide, ?_⟩
    rw [ne_eq, hagain]
    decide
  · have := hmore ["BaseException".toList]
    rwa [hfound] at this

end Declaration

/-! ## Identifiers -/

namespace Text

/-- Only characters with which an identifier may go on. -/
def allIdent (t : Text) : Bool := t.all isIdentContinue

theorem allIdent_iff {t : Text} : t.allIdent = true ↔ ∀ c ∈ t, isIdentContinue c = true :=
  List.all_eq_true

theorem isIdentContinue_of_isIdentStart {c : Char} (h : isIdentStart c = true) :
    isIdentContinue c = true := by
  rw [isIdentContinue, h, Bool.true_or]

/-- What follows an identifier leaves it one exactly if all characters can stand in an identifier. -/
theorem isIdentifier_append_iff {t u : Text} (ht : t.isIdentifier = true) :
    (t ++ u).isIdentifier = true ↔ (t ++ u).allIdent = true := by
  cases t with
  | nil => cases ht
  | cons c t =>
    rw [isIdentifier, Bool.and_eq_true] at ht
    rw [List.cons_append, isIdentifier, allIdent, List.all_cons, Bool.and_eq_true, Bool.and_eq_true,
      and_iff_right ht.1, and_iff_right (isIdentContinue_of_isIdentStart ht.1)]

theorem allIdent_of_isIdentifier {t : Text} (h : t.isIdentifier = true) : t.allIdent = true := by
  have := isIdentifier_append_iff (u := []) h
  rw [List.append_nil] at this
  exact this.mp h

end Text

namespace SuffixRule

theorem allIdent_defaults : ∀ r ∈ defaults, r.suffix.allIdent = true := by decide

/-- Behind the stars in front, an unnamed pattern keeps its characters, up to an interface ending. -/
theorem allIdent_deriveSuffix {pattern : Text}
    (h : Text.allIdent (pattern.dropWhile (· = '*')) = true) :
    (deriveSuffix pattern).allIdent = true := by
  rw [Text.allIdent_iff] at h ⊢
  intro c hc
  rw [deriveSuffix, Text.dropSuffix?] at hc
  split_ifs at hc
  · exact h c (List.mem_of_mem_take hc)
  · exact h c hc

end SuffixRule

namespace Declaration

/-- Every suffix that applies leaves its characters in the new name: it is appended, or the name ends
    with it already. -/
theorem forall_mem_foldl_addSuffix_iff {P : Char → Prop} {ss : List Text} {name : Text}
    (hname : ∀ c ∈ name, P c) :
    (∀ c ∈ ss.foldl addSuffix name, P c) ↔ ∀ s ∈ ss, ∀ c ∈ s, P c := by
  induction ss generalizing name with
  | nil => simpa using hname
  | cons s ss ih =>
    rw [List.foldl_cons, List.forall_mem_cons]
    by_cases hs : ∀ c ∈ s, P c
    · rw [and_iff_right hs]
      apply ih
      intro c hc
      by_cases hsuffix : s <:+ name
      · rw [addSuffix_of_suffix hsuffix] at hc
        exact hname c hc
      · rw [addSuffix_of_not_suffix hsuffix, List.mem_append] at hc
        exact hc.elim (hname c) (hs c)
    · refine iff_of_false (fun hall => hs fun c hc => hall c ?_) (fun h => hs h.1)
      exact (prefix_foldl_addSuffix ss _).subset ((suffix_addSuffix name s).subset hc)

end Declaration

/-! ## Suffixes that are read from a table -/

namespace Config

/-- The table of class suffixes in the table of this tool, of which the first spelling counts. -/
def suffixTable : Value → Value
  | .table es => (option? es ["class-suffix".toList, "class_suffix".toList]).getD (.table [])
  | v => v

/-- A suffix map in which named suffixes, and unnamed patterns behind the stars in front, have only
    characters with which an identifier may go on. -/
structure PlainMap (m : Value) : Prop where
  patterns : ∀ ts, m.texts? = some ts → ∀ p ∈ ts, Text.allIdent (p.dropWhile (· = '*')) = true
  entries : ∀ es, m = .table es → ∀ key entry, (key, .text entry) ∈ es →
    Text.allIdent (if SuffixRule.isUnnamed key then entry.dropWhile (· = '*') else entry) = true

theorem allIdent_of_suffixRulesOf {field : Text} {m : Value} {rules : List SuffixRule}
    (hplain : PlainMap m) (h : suffixRulesOf field m = .ok rules) {r : SuffixRule} (hr : r ∈ rules) :
    r.suffix.allIdent = true := by
  obtain ⟨-, ⟨es, entries, rfl, hentries, rfl⟩ | ⟨ts, hts, rfl⟩⟩ := suffixRulesOf_eq_ok h
  · obtain ⟨rfl, -⟩ := suffixEntries_eq_ok hentries
    obtain ⟨e, he, rfl⟩ := List.mem_map.mp ((SuffixRule.mem_putAll hr).resolve_left List.not_mem_nil)
    have hentry := hplain.entries _ rfl e.1 e.2 (List.mem_map.mpr ⟨e, he, rfl⟩)
    rw [SuffixRule.ofEntry]
    split_ifs at hentry ⊢
    · exact SuffixRule.allIdent_deriveSuffix hentry
    · exact hentry
  · obtain ⟨p, hp, rfl⟩ := List.mem_map.mp ((SuffixRule.mem_putAll hr).resolve_left List.not_mem_nil)
    exact SuffixRule.allIdent_deriveSuffix (hplain.patterns ts hts p hp)

theorem suffixPart_of_ofValue {v : Value} {c : Config} (h : ofValue v = .ok c) :
    suffixPart (suffixTable v) = .ok c.suffixRules := by
  cases v with
  | table es => exact (ofValue_table_eq_ok_iff.mp h).2.2.2.1
  | _ => cases h

/-- What holds of the default rules and of the rules of every suffix map holds of all rules. -/
theorem forall_mem_suffixRules {P : SuffixRule → Prop} {v : Value} {c : Config}
    (hdefaults : ∀ r ∈ SuffixRule.defaults, P r)
    (hmap : ∀ m ∈ suffixMaps (suffixTable v), ∀ field found, suffixRulesOf field m = .ok found →
      ∀ r ∈ found, P r)
    (h : ofValue v = .ok c) : ∀ r ∈ c.suffixRules, P r := by
  refine suffixPart_induction (P := fun rules => ∀ r ∈ rules, P r) hdefaults (by simp) hmap ?_
    (suffixPart_of_ofValue h)
  intro base extra hbase hextra r hr
  exact (SuffixRule.mem_merge hr).elim (hbase r) (hextra r)

/-- Plain suffix maps give plain suffixes. -/
theorem allIdent_of_ofValue {v : Value} {c : Config} (h : ofValue v = .ok c)
    (hplain : ∀ m ∈ suffixMaps (suffixTable v), PlainMap m) :
    ∀ r ∈ c.suffixRules, r.suffix.allIdent = true := by
  refine forall_mem_suffixRules SuffixRule.allIdent_defaults ?_ h
  intro m hm field found hfound r hr
  exact allIdent_of_suffixRulesOf (hplain m hm) hfound hr

/-- Without a suffix map, the rules are among the default ones. -/
theorem mem_defaults_of_ofValue {v : Value} {c : Config} (h : ofValue v = .ok c)
    (hnone : suffixMaps (suffixTable v) = []) : ∀ r ∈ c.suffixRules, r ∈ SuffixRule.defaults := by
  refine forall_mem_suffixRules (fun _ hr => hr) ?_ h
  intro m hm
  rw [hnone] at hm
  cases hm

end Config

/-! ## New names as identifiers -/

namespace Declaration

open Config in
/-- **When a new name is an identifier.** Let a configuration be read from a table, and let a class whose
    name is an identifier be renamed under it. The new name is an identifier exactly if the suffix of
    every rule that covers a type of the class has only characters with which an identifier may go on.
    It is one if the suffix maps of the table are plain, and without suffix maps it is no keyword
    either. -/
theorem isIdentifier_suffixed?_iff {v : Value} {c : Config} (hread : ofValue v = .ok c)
    {d : Declaration} {name renamed : Text} (hname : d.name = some name)
    (hid : name.isIdentifier = true) (h : d.suffixed? c.suffixRules = some renamed) :
    (renamed.isIdentifier = true ↔ ∀ r ∈ c.suffixRules, (∃ t ∈ d.types, r.covers t = true) →
      r.suffix.allIdent = true) ∧
    ((∀ m ∈ suffixMaps (suffixTable v), PlainMap m) → renamed.isIdentifier = true) ∧
    (suffixMaps (suffixTable v) = [] → renamed ∉ Syntax.Lexeme.keywords) := by
  have hfold := getD_suffixed? c.suffixRules hname
  rw [h, Option.getD_some] at hfold
  obtain ⟨added, -, -, happend⟩ := suffixed?_eq_append hname h
  have hchars : renamed.isIdentifier = true ↔
      ∀ s ∈ suffixes c.suffixRules d.types, s.allIdent = true := by
    rw [happend, Text.isIdentifier_append_iff hid, ← happend, hfold]
    simp only [Text.allIdent_iff]
    exact forall_mem_foldl_addSuffix_iff (Text.allIdent_iff.mp (Text.allIdent_of_isIdentifier hid))
  have hiff : renamed.isIdentifier = true ↔ ∀ r ∈ c.suffixRules,
      (∃ t ∈ d.types, r.covers t = true) → r.suffix.allIdent = true := by
    rw [hchars]
    constructor
    · intro hall r hr hcovers
      exact hall r.suffix (mem_suffixes.mpr ⟨r, hr, hcovers, rfl⟩)
    · intro hall s hs
      obtain ⟨r, hr, hcovers, rfl⟩ := mem_suffixes.mp hs
      exact hall r hr hcovers
  refine ⟨hiff, fun hplain => ?_, fun hnone hkeyword => ?_⟩
  · exact hiff.mpr fun r hr _ => allIdent_of_ofValue hread hplain r hr
  · -- the new name ends with a default suffix, which no keyword does
    obtain ⟨last, hlast, hends⟩ := suffixed?_getLast? hname h
    obtain ⟨r, hr, -, rfl⟩ := mem_suffixes.mp (List.mem_of_getLast? hlast)
    have hdefault := mem_defaults_of_ofValue hread hnone r hr
    have hnever : ∀ r ∈ SuffixRule.defaults, ∀ k ∈ Syntax.Lexeme.keywords, ¬ r.suffix <:+ k := by
      decide
    exact hnever r hdefault renamed hkeyword hends

/-- A class that a named suffix and the suffix of an unnamed pattern apply to, and one under the default
    rules. -/
theorem isIdentifier_suffixed?_iff_plain :
    let v : Value := .table [(.text "class-suffix", .table
      [(.text "parent_types_to_suffixes", .table
          [(.int 0, .text "**JobInterface"), (.text "[A-C]*", .text "_1")])])]
    let rules : List SuffixRule := [⟨"**JobInterface", "Job"⟩, ⟨"[A-C]*", "_1"⟩]
    let d : Declaration := { name := some "Foo".toList, parent := some "AJobInterface".toList }
    let e : Declaration := { name := some "Foo".toList, parent := some "BaseRule".toList }
    Config.ofValue v = .ok { suffixRules := rules } ∧
      d.suffixed? rules = some "FooJob_1".toList ∧ Text.isIdentifier "FooJob_1" = true ∧
      e.suffixed? SuffixRule.defaults = some "FooRule".toList ∧
      "FooRule".toList ∉ Syntax.Lexeme.keywords := by
  intro v rules d e
  have hread : Config.ofValue v = .ok { suffixRules := rules } := rfl
  have hdefault : Config.ofValue (.table []) = .ok {} := rfl
  have hd : d.suffixed? rules = some "FooJob_1".toList := by decide
  have he : e.suffixed? SuffixRule.defaults = some "FooRule".toList := by decide
  refine ⟨hread, hd, ?_, he, ?_⟩
  · exact (isIdentifier_suffixed?_iff hread rfl (by decide) hd).1.mpr (by decide)
  · exact (isIdentifier_suffixed?_iff hdefault rfl (by decide) he).2.2 rfl

/-- A new name is not always an identifier: under the pattern `*Repository*`, whose last star stays in
    the suffix, `Foo(UserRepository)` becomes `FooRepository*`. -/
theorem suffixed?_not_isIdentifier :
    ¬ ∀ v c, Config.ofValue v = .ok c → ∀ (d : Declaration) (name renamed : Text),
      d.name = some name → name.isIdentifier = true →
      d.suffixed? c.suffixRules = some renamed → ∀ ch ∈ renamed, Text.isIdentContinue ch = true := by
  intro h
  have hstar := h
    (.table [(.text "class-suffix", .table
      [(.text "parent_types_to_suffixes", .list [.text "*Repository*"])])])
    { suffixRules := [⟨"*Repository*", "Repository*"⟩] } rfl
    { name := some "Foo".toList, parent := some "UserRepository".toList } "Foo" "FooRepository*" rfl
    (by decide) (by decide) '*' (by decide)
  revert hstar
  decide

end Declaration

end HouseStyle
