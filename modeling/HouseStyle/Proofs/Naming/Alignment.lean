import HouseStyle.Proofs.Naming.Renaming
import HouseStyle.Proofs.Token.Dangling

/-!
# Tokens and classes are where they say

For every text, the names among its tokens stand in their lines, one after the other, and different
classes of its tree stand at different places. So the edits that rename the classes of a source always
fit, and they never conflict. How lines end does not matter to them, lone carriage returns apart.

Main results:
* `Syntax.Node.exists_classAt`: where the class of a node stands.
* `Syntax.Node.nodup_classPosition?`: different classes stand at different places.
* `SourceFile.aligned_ofText`: tokens and classes of every text are where they say.
* `Rule.exists_applyAll_namingEdits`: the edits that rename classes are always accepted.
* `Rule.namingEdits_unifyNewlines`: line ends do not matter to them.
-/

namespace HouseStyle

namespace Syntax

/-! ## Classes -/

/-- A class statement is a `class` and a name, which give the class its place and its name. -/
theorem Grammar.classStatement_eq_some {g : Grammar} {decorators : List Node} {ls rest : List Lexeme}
    {n : Node} (h : g.classStatement decorators ls = some (n, rest)) :
    ∃ kw name after bases keywords body, ls = kw :: name :: after ∧ kw.isClass ∧ name.cls = .name ∧
      n = .classDef name.text.normalize kw.pos bases keywords body decorators := by
  obtain ⟨kw, mid, hkw, hrun⟩ := Parser.bind_eq_some.mp h
  obtain ⟨hclass, rfl⟩ := Parser.exactly_eq_some.mp hkw
  obtain ⟨id, mid', hid, htail⟩ := Parser.bind_eq_some.mp hrun
  obtain ⟨name, after, hname, hpure⟩ := Parser.bind_eq_some.mp hid
  obtain ⟨hcls, rfl⟩ := Parser.ofClass_eq_some.mp hname
  obtain ⟨rfl, rfl⟩ := Parser.pure_eq_some.mp hpure
  have hbody : ∀ (bases keywords : List Node) (ls : List Lexeme),
      (do return .classDef name.text.normalize kw.pos bases keywords (← g.block) decorators :
        Parser Node) ls = some (n, rest) →
      ∃ bases keywords body,
        n = .classDef name.text.normalize kw.pos bases keywords body decorators := by
    intro bases keywords ls h
    obtain ⟨body, _, -, hpure⟩ := Parser.bind_eq_some.mp h
    exact ⟨bases, keywords, body, (Parser.pure_eq_some.mp hpure).1.symm⟩
  obtain ⟨bases, keywords, body, hn⟩ : ∃ bases keywords body,
      n = .classDef name.text.normalize kw.pos bases keywords body decorators := by
    obtain ⟨hasBases, _, -, htail⟩ := Parser.bind_eq_some.mp htail
    cases hasBases with
    | false => exact hbody [] [] _ htail
    | true =>
      obtain ⟨r, _, -, htail⟩ := Parser.bind_eq_some.mp htail
      obtain ⟨_, _, -, htail⟩ := Parser.bind_eq_some.mp htail
      exact hbody r.1 r.2 _ htail
  exact ⟨kw, name, after, bases, keywords, body, rfl, by simpa [Lexeme.isClass] using hclass, hcls, hn⟩

/-- The class of a tree stands at a place of the lexemes. -/
theorem Node.exists_classAt {text : Text} {tree n : Node} (h : ofText? text = some tree)
    (hn : n ∈ tree.walk) (hclass : n.isClass) : ∃ lexemes start,
      Lexeme.ofText? text = some lexemes ∧ Grammar.IsClassAt lexemes start n := by
  obtain ⟨lexemes, starts, hlexemes, hstarts, -⟩ := exists_classStarts h
  have hmem : n ∈ tree.classes :=
    List.mem_filter.mpr ⟨tree.walk_perm_preorder.mem_iff.mp hn, hclass⟩
  obtain ⟨i, hi, rfl⟩ := List.mem_iff_getElem.mp hmem
  exact ⟨lexemes, starts.get ⟨i, hstarts.length_eq ▸ hi⟩, hlexemes, hstarts.get _ hi⟩

/-- The place of the keyword with which lexemes start. -/
def firstPosition? (ls : List Lexeme) : Option Position := ls.head?.map (·.pos)

theorem Grammar.IsClassAt.classPosition? {all ls : List Lexeme} {n : Node} (h : IsClassAt all ls n) :
    n.classPosition? = firstPosition? ls := by
  obtain ⟨_, _, _, hreads⟩ := h.reads
  obtain ⟨kw, name, after, _, _, _, rfl, -, -, rfl⟩ := classStatement_eq_some hreads
  rfl

theorem keyword_of_isClass {l : Lexeme} (h : l.isClass) : l.cls = .keyword := by
  simp only [Lexeme.isClass, Bool.and_eq_true, decide_eq_true_eq] at h
  exact h.1

theorem text_of_isClass {l : Lexeme} (h : l.isClass) : l.text = "class".toList := by
  simp only [Lexeme.isClass, Bool.and_eq_true, decide_eq_true_eq] at h
  exact h.2

theorem nodup_firstPosition? {text : Text} {lexemes : List Lexeme}
    (h : Lexeme.ofText? text = some lexemes) : ((classStarts lexemes).map firstPosition?).Nodup := by
  have hbefore := Lexeme.pairwise_before_ofText? h
  clear h
  induction lexemes with
  | nil => exact List.nodup_nil
  | cons l ls ih =>
    obtain ⟨hl, hls⟩ := List.pairwise_cons.mp hbefore
    rw [classStarts]
    split_ifs with hclass
    · refine List.nodup_cons.mpr ⟨fun hmem => ?_, ih hls⟩
      obtain ⟨start, hstart, heq⟩ := List.mem_map.mp hmem
      obtain ⟨hsuffix, k, rest, rfl, hk⟩ := exists_of_mem_classStarts hstart
      have hbefore := hl k (hsuffix.subset List.mem_cons_self) (keyword_of_isClass hclass)
        (keyword_of_isClass hk)
      exact hbefore.ne (Option.some.inj heq).symm
    · exact ih hls

/-- Different classes stand at different places. -/
theorem Node.nodup_classPosition? {text : Text} {tree : Node} (h : ofText? text = some tree) :
    (tree.walk.filterMap (·.classPosition?)).Nodup := by
  obtain ⟨lexemes, starts, hlexemes, hstarts, hsub⟩ := exists_classStarts h
  have hmap : starts.map firstPosition? = tree.classes.map (·.classPosition?) := by
    rw [← List.forall₂_eq_eq_eq, List.forall₂_map_left_iff, List.forall₂_map_right_iff]
    exact hstarts.imp fun _ _ hclass => hclass.classPosition?.symm
  have hnodup : (tree.classes.map (·.classPosition?)).Nodup := by
    obtain ⟨l, hperm, hsublist⟩ := hsub
    rw [← hmap, ← (hperm.map firstPosition?).nodup_iff]
    exact (nodup_firstPosition? hlexemes).sublist (hsublist.map firstPosition?)
  have hfilter : tree.preorder.filterMap (·.classPosition?) =
      tree.classes.filterMap (·.classPosition?) := by
    rw [classes, List.filterMap_filter]
    congr 1
    funext n
    cases n <;> rfl
  rw [(tree.walk_perm_preorder.filterMap _).nodup_iff, hfilter, List.Nodup, List.pairwise_filterMap]
  refine (List.pairwise_map.mp hnodup).imp fun hne p hp q hq heq => hne ?_
  rw [hp, hq, heq]

end Syntax

/-! ## All texts -/

/-- The tokens and classes of every text are where they say. -/
theorem SourceFile.aligned_ofText (path : Path) (shown text : Text) :
    (SourceFile.ofText path shown text).Aligned := by
  have hclasses : ∀ tree ∈ (SourceFile.ofText path shown text).tree,
      (tree.walk.filterMap (·.classPosition?)).Nodup :=
    fun tree htree => Syntax.Node.nodup_classPosition? htree
  cases htokens : Token.ofText text with
  | error e =>
    have hnone : (SourceFile.ofText path shown text).tokens.getD [] = [] := by
      simp [SourceFile.ofText, htokens, Except.toOption]
    exact ⟨by simp [hnone], by simp [hnone], hclasses⟩
  | ok tokens =>
    have hsome : (SourceFile.ofText path shown text).tokens.getD [] = tokens := by
      simp [SourceFile.ofText, htokens, Except.toOption]
    rw [← hsome] at htokens
    refine ⟨fun t ht hname => ?_, (Token.pairwise_passed_ofText htokens).imp ?_, hclasses⟩
    · have hstands := Token.stands_of_mem_ofText htokens ht hname
      obtain ⟨line, hline, post, hpost⟩ := hstands.within
      refine ⟨hstands.ne_nil, hstands.line_pos, line, hline, ?_⟩
      refine (Edit.slice_eq_iff (Int.natCast_nonneg _) hstands.ne_nil).mpr
        ⟨line.take t.col, post, ?_, ?_⟩
      · rw [List.append_assoc, hpost, List.take_append_drop]
      · have hpos := List.length_pos_iff.mpr hstands.ne_nil
        have hlen := congrArg List.length hpost
        rw [List.length_append, List.length_drop] at hlen
        rw [List.length_take]
        omega
    · intro a b hpassed ha hb heq
      rcases hpassed ha hb with hlt | ⟨-, hle⟩
      · omega
      · exact .inl hle

/-! ## The edits that rename classes -/

namespace Rule

/-- The edits that rename the classes of a text are always accepted, and they change it unless there
    are none. -/
theorem exists_applyAll_namingEdits (rules : List SuffixRule) (path : Path) (shown text : Text) :
    ∃ updated, Edit.applyAll text (namingEdits rules (SourceFile.ofText path shown text)) = .ok updated ∧
      (updated = text ↔ namingEdits rules (SourceFile.ofText path shown text) = []) := by
  have halign := SourceFile.aligned_ofText path shown text
  have hapart := pairwise_apart_namingEdits halign rules
  have hedit : ∀ e ∈ namingEdits rules (SourceFile.ofText path shown text),
      e.Extending ∧ e.Fits text.newlineLines ∧ e.added ≠ [] := by
    intro e he
    obtain ⟨_, _, _, _, _, _, _, _, _, hren⟩ := renames_of_mem_namingEdits he
    obtain ⟨added, -, hne, hnew⟩ := hren.added
    exact ⟨hren.extending halign, hren.fits halign, by rwa [Edit.added, hnew, List.drop_left]⟩
  have happly := Edit.applyAll_eq_weave (fun e he => (hedit e he).1) (fun e he => (hedit e he).2.1)
    hapart
  exact ⟨_, happly, Edit.eq_self_iff_of_applyAll (fun e he => (hedit e he).1)
    (fun e he => (hedit e he).2.2) happly⟩

/-- The edits are read off the tree and the view of the tokens. -/
theorem namingEdits_congr (rules : List SuffixRule) {f f' : SourceFile} (htree : f.tree = f'.tree)
    (htokens : f.tokens.map (List.map Token.view) = f'.tokens.map (List.map Token.view)) :
    namingEdits rules f = namingEdits rules f' := by
  have hview : ∀ (tree : Syntax.Node) (tokens : List Token),
      tree.declarations (tokens.map Token.view) = tree.declarations tokens := by
    intro tree tokens
    unfold Syntax.Node.declarations
    congr 1
    funext n
    cases n with
    | classDef => simp only [Syntax.Node.declaration?, Syntax.Node.declaration,
        Token.nameAfterClass?_map_view]
    | _ => rfl
  have hsame : (f.tokens.getD []).map Token.view = (f'.tokens.getD []).map Token.view := by
    cases h : f.tokens <;> cases h' : f'.tokens <;> simp_all
  unfold namingEdits
  rw [htree]
  cases f'.tree with
  | none => rfl
  | some tree =>
    simp only
    rw [← hview tree (f.tokens.getD []), hsame, hview]

theorem namingEdits_of_tokens_eq_none (rules : List SuffixRule) {f : SourceFile} (h : f.tokens = none) :
    namingEdits rules f = [] := by
  rw [List.eq_nil_iff_forall_not_mem]
  intro e he
  obtain ⟨_, _, _, _, _, _, _, _, _, hren⟩ := renames_of_mem_namingEdits he
  obtain ⟨i, j, t, hij, -⟩ := hren.token
  have hget := hij.name.1
  simp [h] at hget

/-- The edits do not depend on how lines end. -/
theorem namingEdits_unifyNewlines (rules : List SuffixRule) (path path' : Path) (shown shown' : Text)
    {text : Text} (h : text.hasLoneReturn = false) :
    namingEdits rules (SourceFile.ofText path shown text.unifyNewlines) =
      namingEdits rules (SourceFile.ofText path' shown' text) := by
  have htokens : (Token.ofText text.unifyNewlines).toOption.map (List.map Token.view) =
      (Token.ofText text).toOption.map (List.map Token.view) := by
    have hview := Token.map_view_ofText h
    cases hx : Token.ofText text <;> cases hx' : Token.ofText text.unifyNewlines <;>
      rw [hx, hx'] at hview <;> simp_all [Except.map, Except.toOption]
  cases hx : Token.ofText text.unifyNewlines with
  | ok tokens => exact namingEdits_congr rules (Syntax.Node.ofText?_unifyNewlines hx) htokens
  | error e =>
    rw [hx] at htokens
    have hunified : (SourceFile.ofText path shown text.unifyNewlines).tokens = none := by
      simp [SourceFile.ofText, hx, Except.toOption]
    have htext : (SourceFile.ofText path' shown' text).tokens = none :=
      Option.map_eq_none_iff.mp htokens.symm
    rw [namingEdits_of_tokens_eq_none rules hunified, namingEdits_of_tokens_eq_none rules htext]

end Rule

end HouseStyle
