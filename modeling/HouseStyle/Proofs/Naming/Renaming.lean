import HouseStyle.Proofs.Edit.Weave
import HouseStyle.Proofs.Naming.Suffixes

/-!
# Renaming classes only inserts suffixes

The edits that rename the classes of a file come from four stages: the classes of the tree, the name
token behind the `class` of each, the suffixes that the name lacks, and the application of edits in
order. If the tokens of a file stand where they say (`SourceFile.Aligned`), the stages fit together: no
two classes share a name token, so the edits do not conflict, and a name only grows at its end.

Main definitions:
* `Token.IsClassName`: the name token behind the `class` at a place.
* `SourceFile.Aligned`: the tokens and classes of a file are where they say.
* `Edit.Renames`: the edit appends suffixes to the name of a class.

Main results:
* `Token.nameAfterClass?_eq_some`, `Token.not_isClassName`: the name behind the last `class` at a place.
* `Token.IsClassName.apart`: different classes have name tokens that do not intersect.
* `Rule.renames_of_mem_namingEdits`: what every edit does.
* `Rule.applyAll_namingEdits`: the edits can be applied, and they only insert suffixes.
-/

namespace HouseStyle

/-! ## Name tokens -/

namespace Token

/-- Line ends of blank lines and comments may stand between `class` and the name. -/
def isGap (t : Token) : Bool := t.cls = .nl || t.cls = .comment

/-- The token with index `j` is the name `t` behind the `class` at a place, which has index `i`: only
    gaps stand between them. -/
structure IsClassName (tokens : List Token) (pos : Syntax.Position) (i j : Nat) (t : Token) :
    Prop where
  keyword : ∃ k, tokens[i]? = some k ∧ k.cls = .name ∧ k.text = "class".toList ∧
    k.line = pos.line ∧ k.col = pos.col
  lt : i < j
  gap : ∀ m, i < m → m < j → ∀ s : Token, tokens[m]? = some s → s.isGap
  name : tokens[j]? = some t ∧ t.cls = .name

theorem nextName?_eq_some {ts : List Token} {t : Token} (h : nextName? ts = some t) :
    ∃ j : Nat, (ts[j]? = some t ∧ t.cls = .name) ∧
      ∀ m < j, ∀ s : Token, ts[m]? = some s → s.isGap := by
  induction ts with
  | nil => cases h
  | cons s ts ih =>
    rw [nextName?] at h
    split_ifs at h with hgap hname
    · obtain ⟨j, hj, hbefore⟩ := ih h
      refine ⟨j + 1, hj, ?_⟩
      intro m hm r hr
      cases m with
      | zero => cases hr; exact hgap
      | succ m => exact hbefore m (by omega) r hr
    · cases h
      exact ⟨0, ⟨rfl, hname⟩, fun m hm => absurd hm (Nat.not_lt_zero m)⟩

/-- Behind gaps, the next name is found. -/
theorem nextName?_of_gap {ts : List Token} {j : Nat} {t : Token} (hname : ts[j]? = some t ∧ t.cls = .name)
    (hgap : ∀ m < j, ∀ s : Token, ts[m]? = some s → s.isGap) : nextName? ts = some t := by
  induction ts generalizing j with
  | nil => cases hname.1
  | cons s ts ih =>
    rw [nextName?]
    cases j with
    | zero =>
      obtain ⟨hs, hcls⟩ := hname
      cases hs
      simp [hcls]
    | succ j =>
      have hs : s.isGap := hgap 0 (Nat.succ_pos j) s rfl
      rw [isGap] at hs
      rw [if_pos hs]
      exact ih hname fun m hm r hr => hgap (m + 1) (Nat.succ_lt_succ hm) r hr

variable {tokens : List Token} {pos : Syntax.Position} {i j : Nat} {s t : Token}

theorem IsClassName.cons (h : IsClassName tokens pos i j t) (s : Token) :
    IsClassName (s :: tokens) pos (i + 1) (j + 1) t where
  keyword := h.keyword
  lt := Nat.succ_lt_succ h.lt
  gap := by
    intro m h1 h2 r hr
    cases m with
    | zero => omega
    | succ m => exact h.gap m (by omega) (by omega) r hr
  name := h.name

/-- A `class` behind the first token has its name there. -/
theorem IsClassName.tail (h : IsClassName (s :: tokens) pos (i + 1) j t) :
    ∃ l, IsClassName tokens pos i l t := by
  obtain ⟨l, rfl⟩ : ∃ l, j = l + 1 := ⟨j - 1, by have := h.lt; omega⟩
  refine ⟨l, h.keyword, Nat.lt_of_succ_lt_succ h.lt, ?_, h.name⟩
  intro m h1 h2 r hr
  exact h.gap (m + 1) (Nat.succ_lt_succ h1) (Nat.succ_lt_succ h2) r hr

/-- A `class` that is the first token has the next name behind it. -/
theorem IsClassName.head (h : IsClassName (s :: tokens) pos 0 j t) :
    (s.cls = .name ∧ s.text = "class".toList ∧ s.line = pos.line ∧ s.col = pos.col) ∧
      nextName? tokens = some t := by
  obtain ⟨l, rfl⟩ : ∃ l, j = l + 1 := ⟨j - 1, by have := h.lt; omega⟩
  obtain ⟨k, hk, hkey⟩ := h.keyword
  cases hk
  refine ⟨hkey, nextName?_of_gap h.name ?_⟩
  intro m hm r hr
  exact h.gap (m + 1) (Nat.succ_pos m) (Nat.succ_lt_succ hm) r hr

/-- Where none is found, no `class` at the place has a name behind it. -/
theorem not_isClassName (h : nameAfterClass? pos.line pos.col tokens = none) :
    ¬IsClassName tokens pos i j t := by
  intro hname
  induction tokens generalizing i j with
  | nil =>
    obtain ⟨k, hk, -⟩ := hname.keyword
    cases hk
  | cons s ts ih =>
    simp only [nameAfterClass?, Option.orElse_eq_orElse, Option.orElse_eq_or,
      Option.or_eq_none_iff] at h
    cases i with
    | zero =>
      obtain ⟨⟨hcls, htext, hline, hcol⟩, hnext⟩ := hname.head
      simp [hcls, htext, hline, hcol, hnext] at h
    | succ i =>
      obtain ⟨l, htail⟩ := hname.tail
      exact ih h.1 htail

/-- What is found is the name behind the last `class` at the place that has one. -/
theorem nameAfterClass?_eq_some (h : nameAfterClass? pos.line pos.col tokens = some t) :
    ∃ i j, IsClassName tokens pos i j t ∧
      ∀ k l r, IsClassName tokens pos k l r → k ≤ i := by
  induction tokens with
  | nil => cases h
  | cons s ts ih =>
    simp only [nameAfterClass?, Option.orElse_eq_orElse, Option.orElse_eq_or] at h
    cases hlater : nameAfterClass? pos.line pos.col ts with
    | some t' =>
      rw [hlater] at h
      cases h
      obtain ⟨i, j, hij, hlast⟩ := ih hlater
      refine ⟨i + 1, j + 1, hij.cons s, ?_⟩
      intro k l r hk
      cases k with
      | zero => exact Nat.zero_le _
      | succ k =>
        obtain ⟨l', htail⟩ := hk.tail
        exact Nat.succ_le_succ (hlast k l' r htail)
    | none =>
      rw [hlater, Option.none_or] at h
      split_ifs at h with hkey
      obtain ⟨j, hname, hgap⟩ := nextName?_eq_some h
      simp only [Bool.and_eq_true, decide_eq_true_eq] at hkey
      refine ⟨0, j + 1,
        ⟨⟨s, rfl, hkey.1.1.1, hkey.1.1.2, hkey.1.2, hkey.2⟩, Nat.succ_pos j, ?_, hname⟩, ?_⟩
      · intro m h1 h2 r hr
        obtain ⟨m, rfl⟩ : ∃ k, m = k + 1 := ⟨m - 1, by omega⟩
        exact hgap m (by omega) r hr
      · intro k l r hk
        cases k with
        | zero => exact Nat.le_refl 0
        | succ k =>
          obtain ⟨l', htail⟩ := hk.tail
          exact absurd htail (not_isClassName hlater)

/-- No name stands between a `class` and the name behind it. -/
theorem IsClassName.not_between {tokens : List Token} {pos : Syntax.Position} {i j k : Nat}
    {t s : Token} (h : IsClassName tokens pos i j t) (hs : tokens[k]? = some s)
    (hname : s.cls = .name) : ¬ (i < k ∧ k < j) := by
  rintro ⟨h1, h2⟩
  have hgap := h.gap k h1 h2 s hs
  simp [isGap, hname] at hgap

/-- Classes at different places have different name tokens. -/
theorem IsClassName.index_ne {tokens : List Token} {p q : Syntax.Position} {i j k l : Nat}
    {s t : Token} (hp : IsClassName tokens p i j s) (hq : IsClassName tokens q k l t)
    (hne : p ≠ q) : j ≠ l := by
  rintro rfl
  obtain ⟨a, ha, haname, -, haline, hacol⟩ := hp.keyword
  obtain ⟨b, hb, hbname, -, hbline, hbcol⟩ := hq.keyword
  have h1 := hp.not_between hb hbname
  have h2 := hq.not_between ha haname
  have h3 := hp.lt
  have h4 := hq.lt
  obtain rfl : i = k := by omega
  rw [ha] at hb
  cases hb
  apply hne
  rw [Syntax.Position.mk.injEq]
  exact ⟨haline.symm.trans hbline, hacol.symm.trans hbcol⟩

/-- Two tokens that do not intersect. -/
def Apart (a b : Token) : Prop :=
  a.line = b.line → a.col + a.text.length ≤ b.col ∨ b.col + b.text.length ≤ a.col

instance : DecidableRel Apart := fun a b =>
  inferInstanceAs (Decidable (a.line = b.line → _ ∨ _))

theorem Apart.symm {a b : Token} (h : Apart a b) : Apart b a := fun heq => (h heq.symm).symm

/-- If different names do not intersect, the names of classes at different places do not. -/
theorem IsClassName.apart {tokens : List Token} {p q : Syntax.Position} {i j k l : Nat}
    {s t : Token}
    (hpair : tokens.Pairwise fun a b => a.cls = .name → b.cls = .name → a.Apart b)
    (hp : IsClassName tokens p i j s) (hq : IsClassName tokens q k l t) (hne : p ≠ q) :
    s.Apart t := by
  rw [List.pairwise_iff_getElem] at hpair
  obtain ⟨hs, hsname⟩ := hp.name
  obtain ⟨ht, htname⟩ := hq.name
  obtain ⟨hj, rfl⟩ := List.getElem?_eq_some_iff.mp hs
  obtain ⟨hl, rfl⟩ := List.getElem?_eq_some_iff.mp ht
  rcases Nat.lt_or_gt_of_ne (hp.index_ne hq hne) with h | h
  · exact hpair j l hj hl h hsname htname
  · exact (hpair l j hl hj h htname hsname).symm

end Token

/-! ## What one edit does -/

/-- The edit appends suffixes of the rules to the name of the class at a place: its range is the name
    token behind the `class`, and what it adds is a concatenation of suffixes that is not empty. -/
structure Edit.Renames (rules : List SuffixRule) (tokens : List Token) (id : Text)
    (pos : Syntax.Position) (e : Edit) : Prop where
  token : ∃ i j t, Token.IsClassName tokens pos i j t ∧ t.text = id ∧ e.oldText = id ∧
    e.line = t.line ∧ e.col = t.col + 1 ∧ e.endCol = t.col + 1 + t.text.length
  added : ∃ added : List Text, (∀ s ∈ added, ∃ r ∈ rules, r.suffix = s) ∧ added.flatten ≠ [] ∧
    e.newText = e.oldText ++ added.flatten

namespace Declaration

theorem renames_of_edit? {rules : List SuffixRule} {tokens : List Token} {id : Text}
    {pos : Syntax.Position} {bases : List Syntax.Node} {e : Edit}
    (h : (Syntax.Node.declaration tokens id pos bases).edit? RuleId.naming rules = some e) :
    e.Renames rules tokens id pos := by
  obtain ⟨name, line, col, renamed, hname, hline, hcol, hsuffixed, rfl⟩ := edit?_eq_some_iff.mp h
  obtain ⟨added, hsub, hne, hrenamed⟩ := suffixed?_eq_append hname hsuffixed
  have hrule : ∀ s ∈ added, ∃ r ∈ rules, r.suffix = s := by
    intro s hs
    obtain ⟨r, hr, -, heq⟩ := mem_suffixes.mp (hsub.subset hs)
    exact ⟨r, hr, heq⟩
  simp only [Syntax.Node.declaration, Option.map_eq_some_iff] at hname hline hcol
  obtain ⟨t, ht, rfl⟩ := hname
  obtain ⟨_, ht', rfl⟩ := hline
  obtain ⟨_, ht'', rfl⟩ := hcol
  rw [ht] at ht' ht''
  cases ht'
  cases ht''
  obtain ⟨hfound, hid⟩ := Option.filter_eq_some_iff.mp ht
  rw [decide_eq_true_eq] at hid
  obtain ⟨i, j, hij, -⟩ := Token.nameAfterClass?_eq_some hfound
  exact ⟨⟨i, j, t, hij, hid, hid, rfl, rfl, rfl⟩, added, hrule, hne, hrenamed⟩

end Declaration

/-! ## Files whose tokens are where they say -/

/-- The place of a class. -/
def Syntax.Node.classPosition? : Node → Option Position
  | .classDef _ pos .. => some pos
  | _ => none

/-- The names among the tokens are what their lines have at their places, different names do not
    intersect, and different classes stand at different places. -/
structure SourceFile.Aligned (f : SourceFile) : Prop where
  text : ∀ t ∈ f.tokens.getD [], t.cls = .name → t.text ≠ [] ∧ 1 ≤ t.line ∧
    ∃ line ∈ f.text.newlineLines[t.line - 1]?, slice line t.col (t.col + t.text.length) = t.text
  apart : (f.tokens.getD []).Pairwise fun a b => a.cls = .name → b.cls = .name → a.Apart b
  classes : ∀ tree ∈ f.tree, (tree.walk.filterMap (·.classPosition?)).Nodup

namespace Edit

variable {rules : List SuffixRule} {tokens : List Token} {id : Text} {pos : Syntax.Position}
  {e : Edit}

theorem Renames.extending {f : SourceFile} (hf : f.Aligned)
    (h : e.Renames rules (f.tokens.getD []) id pos) : e.Extending := by
  obtain ⟨i, j, t, hij, rfl, hold, hline, hcol, hend⟩ := h.token
  obtain ⟨added, -, -, hnew⟩ := h.added
  obtain ⟨hne, -, -⟩ := hf.text t (List.mem_of_getElem? hij.name.1) hij.name.2
  have hpos := List.length_pos_iff.mpr hne
  refine ⟨⟨by omega, by rw [hold]; omega, by omega⟩, ?_⟩
  rw [hnew]
  exact List.prefix_append _ _

theorem Renames.fits {f : SourceFile} (hf : f.Aligned)
    (h : e.Renames rules (f.tokens.getD []) id pos) : e.Fits f.text.newlineLines := by
  obtain ⟨i, j, t, hij, rfl, hold, hline, hcol, hend⟩ := h.token
  obtain ⟨-, hpos, line, hget, hslice⟩ := hf.text t (List.mem_of_getElem? hij.name.1) hij.name.2
  have hindex : (e.line - 1).toNat = t.line - 1 := by omega
  refine ⟨line, target?_eq_some_iff.mpr ⟨by omega, by rw [hindex, hget]⟩, ?_⟩
  rw [show e.col - 1 = t.col by omega, show e.endCol - 1 = t.col + t.text.length by omega, hslice,
    hold]

theorem Renames.apart {f : SourceFile} (hf : f.Aligned) {id' : Text} {pos' : Syntax.Position}
    {e' : Edit} (h : e.Renames rules (f.tokens.getD []) id pos)
    (h' : e'.Renames rules (f.tokens.getD []) id' pos') (hne : pos ≠ pos') : Apart e e' := by
  obtain ⟨i, j, s, hs, -, -, hline, hcol, hend⟩ := h.token
  obtain ⟨k, l, t, ht, -, -, hline', hcol', hend'⟩ := h'.token
  intro heq
  rcases hs.apart hf.apart ht hne (by omega) with hle | hle
  · left; omega
  · right; omega

end Edit

namespace Rule

/-- The edit that renames the class that a node is. -/
def classEdit? (rules : List SuffixRule) (tokens : List Token) (n : Syntax.Node) : Option Edit :=
  (n.declaration? tokens).bind (·.edit? RuleId.naming rules)

theorem namingEdits_of_tree {rules : List SuffixRule} {f : SourceFile} {tree : Syntax.Node}
    (htree : f.tree = some tree) : namingEdits rules f =
      stableSort Edit.le (tree.walk.filterMap (classEdit? rules (f.tokens.getD []))) := by
  simp only [namingEdits, htree, Syntax.Node.declarations, List.filterMap_filterMap]
  rfl

theorem renames_of_classEdit? {rules : List SuffixRule} {tokens : List Token} {n : Syntax.Node}
    {e : Edit} (h : classEdit? rules tokens n = some e) :
    ∃ id pos bases keywords body decorators,
      n = .classDef id pos bases keywords body decorators ∧ e.Renames rules tokens id pos := by
  cases n with
  | classDef id pos bases keywords body decorators =>
    exact ⟨id, pos, bases, keywords, body, decorators, rfl, Declaration.renames_of_edit? h⟩
  | _ => cases h

/-- Every edit appends suffixes to the name of a class of the tree. -/
theorem renames_of_mem_namingEdits {rules : List SuffixRule} {f : SourceFile} {e : Edit}
    (h : e ∈ namingEdits rules f) : ∃ tree ∈ f.tree, ∃ id pos bases keywords body decorators,
      .classDef id pos bases keywords body decorators ∈ tree.walk ∧
        e.Renames rules (f.tokens.getD []) id pos := by
  cases htree : f.tree with
  | none => simp [namingEdits, htree] at h
  | some tree =>
    rw [namingEdits_of_tree htree, mem_stableSort, List.mem_filterMap] at h
    obtain ⟨n, hn, hedit⟩ := h
    obtain ⟨id, pos, bases, keywords, body, decorators, rfl, hren⟩ := renames_of_classEdit? hedit
    exact ⟨tree, rfl, id, pos, bases, keywords, body, decorators, hn, hren⟩

/-- The edits do not intersect, because different classes have different name tokens. -/
theorem pairwise_apart_namingEdits {f : SourceFile} (hf : f.Aligned) (rules : List SuffixRule) :
    (namingEdits rules f).Pairwise Edit.Apart := by
  cases htree : f.tree with
  | none => simp [namingEdits, htree]
  | some tree =>
    have hplaces := List.pairwise_filterMap.mp (hf.classes tree htree)
    rw [namingEdits_of_tree htree,
      (stableSort_perm Edit.le _).pairwise_iff Edit.Apart.symm, List.pairwise_filterMap]
    refine hplaces.imp ?_
    intro n m hnm e he e' he'
    obtain ⟨id, pos, _, _, _, _, rfl, hren⟩ := renames_of_classEdit? he
    obtain ⟨id', pos', _, _, _, _, rfl, hren'⟩ := renames_of_classEdit? he'
    exact hren.apart hf hren' (hnm pos rfl pos' rfl)

theorem stableSort_namingEdits (rules : List SuffixRule) (f : SourceFile) :
    stableSort Edit.le (namingEdits rules f) = namingEdits rules f := by
  apply stableSort_of_pairwise
  rw [namingEdits_eq]
  exact stableSort_pairwise Edit.le Edit.le_total Edit.le_trans _

/-- **Renaming applies, and it only inserts.** If the tokens and classes of a file are where they say,
    the edits that rename its classes are accepted. The result is the text with the added text of
    every edit behind the name of its class, where it is a concatenation of suffixes of the rules and
    not empty; the edits stand in order and do not intersect, so nothing else is inserted at a place,
    and all characters of the text are kept. -/
theorem applyAll_namingEdits (f : SourceFile) (hf : f.Aligned) (rules : List SuffixRule) :
    (∀ e ∈ namingEdits rules f, ∃ tree ∈ f.tree, ∃ id pos bases keywords body decorators,
      .classDef id pos bases keywords body decorators ∈ tree.walk ∧
        e.Renames rules (f.tokens.getD []) id pos) ∧
    (namingEdits rules f).Pairwise Edit.Before ∧
    Edit.applyAll f.text (namingEdits rules f) =
      .ok (f.text.weave (Edit.addedAt (namingEdits rules f))) := by
  have hapart := pairwise_apart_namingEdits hf rules
  have hext : ∀ e ∈ namingEdits rules f, e.Extending := by
    intro e he
    obtain ⟨_, _, _, _, _, _, _, _, _, hren⟩ := renames_of_mem_namingEdits he
    exact hren.extending hf
  have hfit : ∀ e ∈ namingEdits rules f, e.Fits f.text.newlineLines := by
    intro e he
    obtain ⟨_, _, _, _, _, _, _, _, _, hren⟩ := renames_of_mem_namingEdits he
    exact hren.fits hf
  refine ⟨fun e he => renames_of_mem_namingEdits he, ?_, ?_⟩
  · rw [← stableSort_namingEdits]
    exact Edit.pairwise_before_stableSort (fun e he => (hext e he).toWellShaped) hapart
  · rw [Edit.applyAll_eq_weave hext hfit hapart, stableSort_namingEdits]

/-- Two classes, one inside the other; the outer one lacks two suffixes. -/
theorem applyAll_namingEdits_nested :
    let text : Text := "class Foo(Command, Handler):\n    class Bar(Rule): pass\n"
    let f : SourceFile := SourceFile.ofText ⟨[], []⟩ [] text
    f.Aligned ∧ Edit.applyAll text (namingEdits SuffixRule.defaults f) =
      .ok "class FooCommandHandler(Command, Handler):\n    class BarRule(Rule): pass\n" := by
  intro text f
  have hf : f.Aligned := ⟨by decide +kernel, by decide +kernel, by decide +kernel⟩
  refine ⟨hf, ?_⟩
  rw [show text = f.text from rfl, (applyAll_namingEdits f hf SuffixRule.defaults).2.2]
  decide +kernel

end Rule

end HouseStyle
