import HouseStyle.Proofs.Detection.Checkers
import HouseStyle.Proofs.Fix.ByteExact
import HouseStyle.Proofs.Naming.Alignment

/-!
# Checking and fixing agree

A file is checked in the text that reading it gives, with unified line ends, and fixed in the text that
its bytes have behind a byte order mark. Both texts have the same tree, and up to spellings the same
tokens, if there is neither a mark nor a lone carriage return; then the names that are reported are
exactly the names that are edited. With either of them the two texts have different lines or different
starts, and the two commands part.

Main results:
* `Detection.filter_naming_detectFile`: the violations that stand for edits.
* `Detection.naming_iff_edits`: checking and fixing agree.
-/

namespace HouseStyle

/-- The source that reading a file with valid bytes gives. -/
theorem SourceFile.read_of_locate {tree : FileTree} {cwd path : Path} {names : List Text} {text : Text}
    (h : tree.locate cwd path = .ok (.file names (Utf8.encode text))) (root : Option Path) :
    (read tree cwd path root).1 =
      some (ofText path (shownPathOf tree cwd path root) text.unifyNewlines) := by
  simp only [read, FileTree.read, FileTree.fileAt_eq_ok_iff.mpr h, Except.map, Utf8.decodeLossy_encode]

/-- Without a byte order mark in front, all bytes are the body. -/
theorem Utf8.eq_splitMark_snd {bytes : Bytes} (h : ¬ mark <+: bytes) : bytes = (splitMark bytes).2 := by
  have hcut := splitMark_append bytes
  rcases splitMark_fst bytes with hfst | ⟨hfst, -⟩
  · exact absurd ⟨_, hfst ▸ hcut⟩ h
  · rw [hfst, List.nil_append] at hcut
    exact hcut.symm

/-! ## Violations and edits -/

namespace Detection

/-- The violation that an edit stands for. -/
def violationOf (c : Config) (path : Path) (e : Edit) : Violation :=
  (Rule.namingViolation path e).withOverride c

/-- Without plugins, the violations of the naming rule stand for the edits, one to one. -/
theorem filter_naming_detectFile {registry : Registry} (hregistry : registry.extra = []) (c : Config)
    (f : SourceFile) : (detectFile registry c f).filter (·.ruleId = RuleId.naming) =
      (if namingEnabled registry c then Rule.namingEdits c.suffixRules f else []).map
        (violationOf c f.path) := by
  have hother : ∀ n, ((Rule.check f (.complexity n)).map (Violation.withOverride c)).filter
      (·.ruleId = RuleId.naming) = [] := by
    intro n
    rw [List.filter_eq_nil_iff]
    intro v hv
    obtain ⟨w, hw, rfl⟩ := List.mem_map.mp hv
    rw [ruleId_withOverride, ruleId_of_mem_checkComplexity hw]
    decide
  have hnaming : ∀ rules, ((Rule.check f (.naming rules)).map (Violation.withOverride c)).filter
      (·.ruleId = RuleId.naming) = (Rule.namingEdits rules f).map (violationOf c f.path) := by
    intro rules
    rw [Rule.check, List.map_map, List.filter_eq_self.mpr]
    · rfl
    · intro v hv
      obtain ⟨e, -, rfl⟩ := List.mem_map.mp hv
      rw [Function.comp, ruleId_withOverride]
      rfl
  rw [detectFile, enabledRules_of_no_plugins hregistry, List.flatMap_append, List.filter_append]
  split_ifs <;> simp [hother, hnaming]

/-- The edits of a text without plugins are always accepted, and they change it unless there are none. -/
theorem exists_applyAll_collectEdits {registry : Registry} (hregistry : registry.extra = []) (c : Config)
    (path : Path) (text : Text) : ∃ edits updated,
      (if namingEnabled registry c then
        Rule.namingEdits c.suffixRules (SourceFile.ofText path path.text text) else []) = edits ∧
      collectEdits registry c (SourceFile.ofText path path.text text) = .ok edits ∧
      Edit.applyAll text edits = .ok updated ∧ (updated = text ↔ edits = []) := by
  rw [collectEdits_of_no_plugins hregistry]
  split_ifs
  · obtain ⟨updated, happly, hsame⟩ :=
      Rule.exists_applyAll_namingEdits c.suffixRules path path.text text
    exact ⟨_, updated, rfl, rfl, happly, hsame⟩
  · exact ⟨[], text, rfl, rfl, rfl, by simp⟩

theorem detect_singleton (registry : Registry) (c : Config) (f : SourceFile) :
    detect registry c [f] = detectFile registry c f := List.append_nil _

/-- **Checking and fixing agree**, for every file with valid bytes that has neither a byte order mark in
    front nor a lone carriage return, and every configuration without plugins. The violations of the
    naming rule that a check of the file finds stand for the edits that its fix tells, one to one and in
    order: with the same line, columns, old and new name. If the file can be written, the fix never fails,
    and it changes the file exactly if there is such a violation. -/
theorem naming_iff_edits (registry : Registry) (hregistry : registry.extra = []) (c : Config)
    (tree : FileTree) (cwd path : Path) (root : Option Path) (names : List Text) (text : Text)
    (hfile : tree.locate cwd path = .ok (.file names (Utf8.encode text)))
    (hmark : ¬ Utf8.mark <+: Utf8.encode text) (hreturn : text.hasLoneReturn = false) :
    ∃ f edits, (SourceFile.read tree cwd path root).1 = some f ∧
      (detect registry c [f]).filter (·.ruleId = RuleId.naming) = edits.map (violationOf c path) ∧
      (∃ o, (Fix.run registry c true cwd tree path).outcome = .ok o ∧ o.edits = edits ∧
        (o.changed ↔ ∃ v ∈ detect registry c [f], v.ruleId = RuleId.naming)) ∧
      (tree.faults.lookup names = none →
        (Fix.run registry c false cwd tree path).outcome = (Fix.run registry c true cwd tree path).outcome ∧
        ((Fix.run registry c false cwd tree path).tree.bytes? names ≠ some (Utf8.encode text) ↔
          ∃ v ∈ detect registry c [f], v.ruleId = RuleId.naming)) := by
  have hreadf := SourceFile.read_of_locate hfile root
  have hbody := Utf8.eq_splitMark_snd hmark
  obtain ⟨edits, updated, heq, hedits, happly, hsame⟩ :=
    exists_applyAll_collectEdits hregistry c path text
  have hfilter := filter_naming_detectFile hregistry c
    (SourceFile.ofText path (SourceFile.shownPathOf tree cwd path root) text.unifyNewlines)
  rw [Rule.namingEdits_unifyNewlines _ path path _ path.text hreturn, heq, ← detect_singleton] at hfilter
  obtain ⟨hleft, hverdict⟩ := Fix.left_verdict_of_applyAll hbody hedits happly
  rw [show (SourceFile.ofText path (SourceFile.shownPathOf tree cwd path root)
    text.unifyNewlines).path = path from rfl] at hfilter
  generalize SourceFile.ofText path (SourceFile.shownPathOf tree cwd path root) text.unifyNewlines = f
    at hreadf hfilter
  have hfound : (∃ v ∈ detect registry c [f], v.ruleId = RuleId.naming) ↔ updated ≠ text := by
    rw [Ne, hsame, ← List.map_eq_nil_iff (f := violationOf c path), ← hfilter, List.filter_eq_nil_iff]
    simp
  have hchanged : decide (text ≠ updated) = true ↔
      ∃ v ∈ detect registry c [f], v.ruleId = RuleId.naming := by
    rw [hfound, decide_eq_true_eq, ne_comm]
  obtain ⟨hdry, -⟩ := Fix.run_of_locate registry c hfile
  refine ⟨f, edits, hreadf, hfilter, ⟨_, hdry.trans hverdict, rfl, hchanged⟩, fun hfault => ?_⟩
  obtain ⟨houtcome, hafter⟩ := Fix.run_of_writing registry c hfile (Fix.writing_of_no_fault hfault _)
  refine ⟨(houtcome false).trans hdry.symm, ?_⟩
  rw [← hchanged, hafter, Ne, Option.some_inj]
  exact (Fix.changed_iff_left_ne hverdict).symm

/-- A file with Windows line ends and two classes, of which one lacks its suffix. -/
theorem naming_iff_edits_carriageReturn :
    let path : Path := ⟨[], ["a.py".toList]⟩
    let text : Text := "class A(Command): pass\r\nclass BRule(Rule): pass\r\n"
    let tree : FileTree := { files := [(path.names, Utf8.encode text)] }
    ∃ f, (SourceFile.read tree ⟨[], []⟩ path none).1 = some f ∧
      (Fix.run {} {} false ⟨[], []⟩ tree path).tree.bytes? path.names ≠ some (Utf8.encode text) ∧
      ∃ v ∈ detect {} {} [f], v.ruleId = RuleId.naming := by
  intro path text tree
  obtain ⟨f, edits, hread, hfilter, hrun, hwritten⟩ := naming_iff_edits {} rfl {} tree ⟨[], []⟩ path
    none path.names text (by decide +kernel) (by decide +kernel) (by decide +kernel)
  have hdiffers : (Fix.run {} {} false ⟨[], []⟩ tree path).tree.bytes? path.names ≠
      some (Utf8.encode text) := by decide +kernel
  exact ⟨f, hread, hdiffers, (hwritten rfl).2.mp hdiffers⟩

/-- A lone carriage return in a string: the check, which counts it as the end of a line, finds the class,
    and the fix does not. -/
theorem naming_ne_edits_loneReturn : ∃ (tree : FileTree) (path : Path) (text : Text),
    tree.locate ⟨[], []⟩ path = .ok (.file path.names (Utf8.encode text)) ∧
    (SourceFile.read tree ⟨[], []⟩ path none).1.map
      (fun f => (detect {} {} [f]).map (·.ruleId)) = some [RuleId.naming] ∧
    ((Fix.run {} {} true ⟨[], []⟩ tree path).outcome.map (·.edits)).toOption = some [] := by
  refine ⟨{ files := [(["a.py".toList],
    Utf8.encode "\"\"\"\r\"\"\"\nclass Foo(Command): pass\n")] },
    ⟨[], ["a.py".toList]⟩, "\"\"\"\r\"\"\"\nclass Foo(Command): pass\n", ?_, ?_, ?_⟩
  all_goals decide +kernel

end Detection

end HouseStyle
