import HouseStyle.Complexity
import HouseStyle.Proofs.Syntax.Branches

/-!
# What is charged as an `elif`

If the `else` part of an `if` is one `if`, the complexity takes that as an `elif` if the two stand in one
column. As the lexer measures indentation, an `elif` is on the level of its `if` and an `if` under an
`else` is on a deeper one. Where the columns of both are their levels, that is, behind margins of spaces
and tabs, the charge is therefore the one of the word in the source. Behind a form feed or a joined line
it need not be.

Main definitions:
* `Node.elseIfs`: the places of all pairs of an `if` and the `if` that is its `else` part.

Main results:
* `Node.elseCost_eq_of_isIndentedAt`: the charge goes by the word, where both are indented.
* `Node.not_continues_iff_elif`: sources with a form feed and with a joined line, where it does not.
-/

namespace HouseStyle.Syntax.Node

/-! ## Pairs -/

/-- The places of an `if` and of the `if` that is its `else` part. -/
def elseIf? : Node → Option (Position × Position)
  | .branch pos _ _ [.branch pos' _ _ _] => some (pos, pos')
  | _ => none

/-- The places of all such pairs of a tree, breadth first. -/
def elseIfs (tree : Node) : List (Position × Position) := tree.walk.filterMap elseIf?

theorem exists_of_mem_elseIfs {text : Text} {pairs : List (Position × Position)} {pos pos' : Position}
    (h : (ofText? text).map elseIfs = some pairs) (hmem : (pos, pos') ∈ pairs) :
    ∃ tree test test' body body' last, ofText? text = some tree ∧
      branch pos test body [branch pos' test' body' last] ∈ tree.walk := by
  obtain ⟨tree, htree, rfl⟩ := Option.map_eq_some_iff.mp h
  obtain ⟨n, hn, hpair⟩ := List.mem_filterMap.mp hmem
  unfold elseIf? at hpair
  split at hpair
  · cases hpair
    exact ⟨tree, _, _, _, _, _, htree, hn⟩
  · cases hpair

/-! ## Charges -/

/-- **The charge of an `else` part goes by the word in the source.** In every source, the `if` that is
    the `else` part of an `if` is written `if` or `elif`. If both stand behind spaces and tabs only, in
    lines that no backslash joins to the ones before, it continues the outer one, without a charge for
    an `else` and without more nesting, if and only if it is written `elif`. -/
theorem elseCost_eq_of_isIndentedAt {text : Text} {tree test test' : Node} {pos pos' : Position}
    {body body' last : List Node} (h : ofText? text = some tree)
    (hmem : branch pos test body [branch pos' test' body' last] ∈ tree.walk) :
    let inner := branch pos' test' body' last
    (wordAt text pos' = "if".toList ∨ wordAt text pos' = "elif".toList) ∧
      (isIndentedAt text pos → isIndentedAt text pos' →
        (inner.continues pos.col ↔ wordAt text pos' = "elif".toList) ∧
        ∀ depth, elseCost depth pos.col [inner] =
          if wordAt text pos' = "elif".toList then cost depth none inner
          else 1 + cost (depth + 1) none inner) := by
  intro inner
  have hcost : ∀ depth, elseCost depth pos.col [inner] =
      if inner.continues pos.col then cost depth none inner else 1 + cost (depth + 1) none inner := by
    intro depth
    simp [elseCost, costAll]
  obtain ⟨level, word, hpos, hinner | ⟨deeper, hdeeper, hinner⟩⟩ := paired_of_ofText? h hmem
  · refine ⟨.inr hinner.word, fun hindented hindented' => ?_⟩
    have hcontinues : inner.continues pos.col := by
      simp [inner, continues, hpos.col hindented, hinner.col hindented']
    refine ⟨iff_of_true hcontinues hinner.word, fun depth => ?_⟩
    rw [hcost, if_pos hcontinues, if_pos hinner.word]
  · refine ⟨.inl hinner.word, fun hindented hindented' => ?_⟩
    have hcontinues : ¬ inner.continues pos.col := by
      simp only [inner, continues, hpos.col hindented, hinner.col hindented', decide_eq_true_eq]
      omega
    have hword : wordAt text pos' ≠ "elif".toList := by
      rw [hinner.word]
      decide
    refine ⟨iff_of_false hcontinues hword, fun depth => ?_⟩
    rw [hcost, if_neg hcontinues, if_neg hword]

/-- With tabs, an `elif` and an `if` under the `else` behind it. -/
theorem elseCost_eq_of_isIndentedAt_tabs :
    let text : Text := "if a:\n\tb\nelif c:\n\td\nelse:\n\tif e:\n\t\tf\n"
    (isIndentedAt text ⟨1, 0⟩ ∧ isIndentedAt text ⟨3, 0⟩ ∧ isIndentedAt text ⟨6, 1⟩) ∧
      (∃ tree test test' body body' last, ofText? text = some tree ∧
        branch ⟨1, 0⟩ test body [branch ⟨3, 0⟩ test' body' last] ∈ tree.walk ∧
        ∀ depth, elseCost depth 0 [branch ⟨3, 0⟩ test' body' last] =
          cost depth none (branch ⟨3, 0⟩ test' body' last)) ∧
      ∃ tree test test' body body' last, ofText? text = some tree ∧
        branch ⟨3, 0⟩ test body [branch ⟨6, 1⟩ test' body' last] ∈ tree.walk ∧
        ∀ depth, elseCost depth 0 [branch ⟨6, 1⟩ test' body' last] =
          1 + cost (depth + 1) none (branch ⟨6, 1⟩ test' body' last) := by
  intro text
  have hindented : isIndentedAt text ⟨1, 0⟩ ∧ isIndentedAt text ⟨3, 0⟩ ∧ isIndentedAt text ⟨6, 1⟩ := by
    decide +kernel
  have hpairs : (ofText? text).map elseIfs = some [(⟨1, 0⟩, ⟨3, 0⟩), (⟨3, 0⟩, ⟨6, 1⟩)] := by
    decide +kernel
  refine ⟨hindented, ?_, ?_⟩
  · obtain ⟨tree, test, test', body, body', last, htree, hmem⟩ :=
      exists_of_mem_elseIfs hpairs List.mem_cons_self
    have hword : wordAt text ⟨3, 0⟩ = "elif".toList := by decide +kernel
    obtain ⟨-, hcharge⟩ := elseCost_eq_of_isIndentedAt htree hmem
    refine ⟨tree, test, test', body, body', last, htree, hmem, fun depth => ?_⟩
    rw [(hcharge hindented.1 hindented.2.1).2 depth, if_pos hword]
  · obtain ⟨tree, test, test', body, body', last, htree, hmem⟩ :=
      exists_of_mem_elseIfs hpairs (List.mem_cons_of_mem _ (List.mem_singleton_self _))
    have hword : wordAt text ⟨6, 1⟩ ≠ "elif".toList := by decide +kernel
    obtain ⟨-, hcharge⟩ := elseCost_eq_of_isIndentedAt htree hmem
    refine ⟨tree, test, test', body, body', last, htree, hmem, fun depth => ?_⟩
    rw [(hcharge hindented.2.1 hindented.2.2).2 depth, if_neg hword]

/-- Neither direction holds in all sources. A form feed in front of an `if` moves it out of the column of
    its `elif`, and a joined line may move an `if` under an `else` into the column of the `if` before. -/
theorem not_continues_iff_elif :
    let formFeed : Text := "def f():\n\x0c    if a:\n        x\n    elif b:\n        y\n"
    let joined : Text :=
      "def f():\n    if a:\n        x\n    else:\n        \\\n    if b:\n            y\n"
    (∃ tree test test' body body' last, ofText? formFeed = some tree ∧
        branch ⟨2, 5⟩ test body [branch ⟨4, 4⟩ test' body' last] ∈ tree.walk ∧
        wordAt formFeed ⟨4, 4⟩ = "elif".toList ∧
        (branch ⟨4, 4⟩ test' body' last).continues 5 = false) ∧
      ∃ tree test test' body body' last, ofText? joined = some tree ∧
        branch ⟨2, 4⟩ test body [branch ⟨6, 4⟩ test' body' last] ∈ tree.walk ∧
        wordAt joined ⟨6, 4⟩ = "if".toList ∧ (branch ⟨6, 4⟩ test' body' last).continues 4 := by
  intro formFeed joined
  have hfeed : (ofText? formFeed).map elseIfs = some [(⟨2, 5⟩, ⟨4, 4⟩)] := by decide +kernel
  have hjoined : (ofText? joined).map elseIfs = some [(⟨2, 4⟩, ⟨6, 4⟩)] := by decide +kernel
  constructor
  · obtain ⟨tree, test, test', body, body', last, htree, hmem⟩ :=
      exists_of_mem_elseIfs hfeed (List.mem_singleton_self _)
    exact ⟨tree, test, test', body, body', last, htree, hmem, by decide +kernel, rfl⟩
  · obtain ⟨tree, test, test', body, body', last, htree, hmem⟩ :=
      exists_of_mem_elseIfs hjoined (List.mem_singleton_self _)
    exact ⟨tree, test, test', body, body', last, htree, hmem, by decide +kernel, rfl⟩

end HouseStyle.Syntax.Node
