import HouseStyle.Fix
import HouseStyle.Proofs.Edit.Bytes
import HouseStyle.Proofs.FileTree.Writing
import HouseStyle.Proofs.Naming.Renaming
import HouseStyle.Proofs.Token.Places

/-!
# Fixing a file is byte-exact

A run on a file reads its bytes, cuts a byte order mark off, decodes the body, and lets the fixers edit
the text. What it tells depends on these bytes alone (`Fix.verdict`), and so does what it leaves in the
file (`Fix.left`): the mark and the body with the byte ranges of the edits replaced, or the same bytes
as before, on every failure and when nothing changes. Only writing the file may fail beyond that.

Main definitions:
* `Registry.WellShaped`: the fixers of plugins know what they replace.
* `Fix.verdict`, `Fix.left`: what a run tells about bytes, and what it leaves of them.

Main results:
* `Detection.wellShaped_of_collectEdits`: then all fixers do, the built-in one included.
* `Fix.run_of_locate`, `Fix.run_of_writing`: a run in terms of the bytes of its file, and if writing does not
  fail.
* `Fix.run_byteExact`: what a run tells and leaves, for every file.
-/

namespace HouseStyle

/-! ## The edits of fixers -/

/-- The fixers of plugins know what they replace. -/
def Registry.WellShaped (registry : Registry) : Prop :=
  ∀ r ∈ registry.extra, ∀ edits, r.fixer = .edits edits → ∀ e ∈ edits, e.WellShaped

/-- Names are never empty, so that the edits which rename classes know what they replace. -/
theorem Rule.wellShaped_of_mem_namingEdits {rules : List SuffixRule} {path : Path}
    {shown text : Text} {e : Edit} (h : e ∈ namingEdits rules (SourceFile.ofText path shown text)) :
    e.WellShaped := by
  obtain ⟨_, _, _, _, _, _, _, _, _, hren⟩ := renames_of_mem_namingEdits h
  obtain ⟨i, j, t, hij, rfl, hold, hline, hcol, hend⟩ := hren.token
  obtain ⟨hget, hname⟩ := hij.name
  have hne : t.text ≠ [] := by
    simp only [SourceFile.ofText] at hget
    cases htokens : Token.ofText text with
    | error e => simp [htokens, Except.toOption] at hget
    | ok tokens =>
      rw [htokens] at hget
      exact (Token.stands_of_mem_ofText htokens (List.mem_of_getElem? hget) hname).ne_nil
  have hpos := List.length_pos_iff.mpr hne
  exact ⟨by omega, by rw [hold]; omega, by omega⟩

namespace Detection

theorem mem_of_editsOf {f : SourceFile} {rules : List Rule} {edits : List Edit}
    (h : editsOf f rules = .ok edits) {e : Edit} (he : e ∈ edits) :
    ∃ r ∈ rules, ∃ es, r.fix f = .ok es ∧ e ∈ es := by
  induction rules generalizing edits with
  | nil => cases h; cases he
  | cons r rs ih =>
    rw [editsOf] at h
    cases hr : r.fix f with
    | error x => rw [hr] at h; cases h
    | ok first =>
      cases hrs : editsOf f rs with
      | error x => rw [hr, hrs] at h; cases h
      | ok others =>
        rw [hr, hrs] at h
        cases h
        rcases List.mem_append.mp he with he | he
        · exact ⟨r, List.mem_cons_self, first, hr, he⟩
        · obtain ⟨r', hr', hes⟩ := ih hrs he
          exact ⟨r', List.mem_cons_of_mem r hr', hes⟩

theorem mem_enabledRules {registry : Registry} {c : Config} {r : Rule}
    (h : r ∈ enabledRules registry c) :
    (∃ n, r = .complexity n) ∨ (∃ rules, r = .naming rules) ∨ ∃ p ∈ registry.extra, r = .plugin p := by
  obtain ⟨q, hq, rfl⟩ := List.mem_map.mp h
  have hq := (List.mem_filter.mp hq).1
  rw [Registry.rules, mem_stableSort, List.mem_append, List.mem_map] at hq
  rcases hq with hq | ⟨p, hp, rfl⟩
  · simp only [Registry.builtIn, List.mem_cons, List.not_mem_nil, or_false] at hq
    rcases hq with rfl | rfl
    · exact .inl ⟨_, rfl⟩
    · exact .inr (.inl ⟨_, rfl⟩)
  · exact .inr (.inr ⟨p, hp, rfl⟩)

theorem wellShaped_of_collectEdits {registry : Registry} (hr : registry.WellShaped) {c : Config}
    {path : Path} {shown text : Text} {edits : List Edit}
    (h : collectEdits registry c (SourceFile.ofText path shown text) = .ok edits) :
    ∀ e ∈ edits, e.WellShaped := by
  intro e he
  obtain ⟨r, hmem, es, hes, he⟩ := mem_of_editsOf h he
  rcases mem_enabledRules hmem with ⟨n, rfl⟩ | ⟨rules, rfl⟩ | ⟨p, hp, rfl⟩
  · cases hes; cases he
  · cases hes
    exact Rule.wellShaped_of_mem_namingEdits he
  · rw [Rule.fix] at hes
    split at hes
    · cases hes; cases he
    · cases hes
    · next hfixer =>
      cases hes
      exact hr p hp _ hfixer e he

/-- The naming rule is enabled. -/
def namingEnabled (registry : Registry) (c : Config) : Bool :=
  (c.enabledIds (some registry.ruleIds)).contains RuleId.naming

theorem enabledRules_of_no_plugins {registry : Registry} (h : registry.extra = []) (c : Config) :
    enabledRules registry c =
      (if (c.enabledIds (some registry.ruleIds)).contains RuleId.complexity
        then [.complexity c.maximum] else []) ++
      if namingEnabled registry c then [.naming c.suffixRules] else [] := by
  obtain ⟨extra⟩ := registry
  cases h
  unfold enabledRules namingEnabled
  rw [show Registry.rules ⟨[]⟩ = Registry.builtIn from rfl]
  generalize c.enabledIds (some (Registry.ruleIds ⟨[]⟩)) = ids
  have hcomplexity : ∀ n, (Rule.complexity n).ruleId = RuleId.complexity := fun _ => rfl
  have hnaming : ∀ rules, (Rule.naming rules).ruleId = RuleId.naming := fun _ => rfl
  simp only [Registry.builtIn, List.filter_cons, List.filter_nil, hcomplexity, hnaming]
  split_ifs <;> rfl

/-- Without plugins, the naming rule is the only fixer. -/
theorem collectEdits_of_no_plugins {registry : Registry} (h : registry.extra = []) (c : Config)
    (f : SourceFile) : collectEdits registry c f =
      .ok (if namingEnabled registry c then Rule.namingEdits c.suffixRules f else []) := by
  rw [collectEdits, enabledRules_of_no_plugins h]
  split_ifs
  · exact congrArg Except.ok (List.append_nil _)
  · rfl
  · exact congrArg Except.ok (List.append_nil _)
  · rfl

end Detection

/-! ## Byte order marks -/

theorem Utf8.splitMark_append (bytes : Bytes) : (splitMark bytes).1 ++ (splitMark bytes).2 = bytes := by
  unfold splitMark
  split <;> rfl

/-- At most one mark is cut off. -/
theorem Utf8.splitMark_fst (bytes : Bytes) :
    (splitMark bytes).1 = mark ∨ (splitMark bytes).1 = [] ∧ ¬ mark <+: bytes := by
  unfold splitMark
  split
  · exact .inl rfl
  · next hno =>
    refine .inr ⟨rfl, ?_⟩
    rintro ⟨body, hbody⟩
    exact hno body hbody.symm

namespace Fix

variable (registry : Registry) (c : Config) (path : Path)

/-- What a run tells about a file with these bytes. -/
def verdict (bytes : Bytes) : Except Stop Outcome :=
  match ofBytes registry c path bytes with
  | .error (.notUtf8 _) => .ok { path }
  | .error (.conflict e) => .error (.conflict e)
  | .error (.unfinished e) => .error (.unfinished e)
  | .ok r => .ok { path, changed := r.changed, diff := r.diff, edits := r.edits }

/-- What a run leaves in a file with these bytes, unless it is a dry run. -/
def left (bytes : Bytes) : Bytes :=
  match ofBytes registry c path bytes with
  | .ok r => if r.changed then r.bytes else bytes
  | .error _ => bytes

/-- What writing gives when a file with these bytes has been fixed. -/
def writing (tree : FileTree) (names : List Text) (bytes : Bytes) : FileTree × Option WriteFault :=
  if left registry c path bytes = bytes then (tree, none)
  else tree.write names (left registry c path bytes)

/-! ## What is told and left, by the course of a run -/

theorem ofBytes_eq_notUtf8 {bytes : Bytes} (h : ∀ text, Utf8.encode text ≠ (Utf8.splitMark bytes).2) :
    ∃ e, ofBytes registry c path bytes = .error (.notUtf8 e) := by
  unfold ofBytes
  simp only
  cases hd : Utf8.decode (Utf8.splitMark bytes).2 with
  | error e => exact ⟨e, rfl⟩
  | ok text => exact absurd (Utf8.decode_eq_ok_iff.mp hd) (h text)

variable {registry c path}

theorem ofBytes_eq_ofText {bytes : Bytes} {text : Text}
    (h : Utf8.encode text = (Utf8.splitMark bytes).2) :
    ofBytes registry c path bytes = ofText registry c path (Utf8.splitMark bytes).1 text := by
  unfold ofBytes
  simp only [Utf8.decode_eq_ok_iff.mpr h]

/-- The bytes that a fixed text leaves are those of the text with the ranges of its edits replaced. -/
theorem encode_of_applyAll {text updated : Text} {edits : List Edit}
    (hw : ∀ e ∈ edits, e.WellShaped) (h : Edit.applyAll text edits = .ok updated) :
    Utf8.encode updated = Patch.applyAll (edits.map (Edit.patch text)) (Utf8.encode text) := by
  obtain ⟨hfit, hapart⟩ := Edit.fits_of_applyAll hw h
  rw [Edit.applyAll_of_fits hw hfit hapart] at h
  cases h
  exact Edit.encode_splice hw hfit

section Course

variable {bytes : Bytes} {text : Text} (htext : Utf8.encode text = (Utf8.splitMark bytes).2)
include htext

theorem left_verdict_of_unfinished {e : Rule.Unfinished}
    (he : Detection.collectEdits registry c (SourceFile.ofText path path.text text) = .error e) :
    left registry c path bytes = bytes ∧ verdict registry c path bytes = .error (.unfinished e) := by
  simp only [left, verdict, ofBytes_eq_ofText htext, ofText, he, and_self]

variable {edits : List Edit}
  (hedits : Detection.collectEdits registry c (SourceFile.ofText path path.text text) = .ok edits)
include hedits

theorem left_verdict_of_conflict {k : Edit.Conflict} (hk : Edit.applyAll text edits = .error k) :
    left registry c path bytes = bytes ∧ verdict registry c path bytes = .error (.conflict k) := by
  simp only [left, verdict, ofBytes_eq_ofText htext, ofText, hedits, hk, and_self]

theorem left_verdict_of_applyAll {updated : Text} (happly : Edit.applyAll text edits = .ok updated) :
    left registry c path bytes = (Utf8.splitMark bytes).1 ++ Utf8.encode updated ∧
    verdict registry c path bytes =
      .ok { path, changed := text ≠ updated, diff := Diff.unified path.text text updated, edits } := by
  simp only [left, verdict, ofBytes_eq_ofText htext, ofText, hedits, happly, and_true]
  by_cases hsame : text = updated
  · subst hsame
    simp [htext, Utf8.splitMark_append]
  · simp [hsame]

end Course

theorem left_of_verdict_error {bytes : Bytes} {stop : Stop}
    (h : verdict registry c path bytes = .error stop) : left registry c path bytes = bytes := by
  cases hr : ofBytes registry c path bytes with
  | error e => simp only [left, hr]
  | ok r =>
    simp only [verdict, hr] at h
    cases h

/-- A run tells of a change exactly if it leaves other bytes, because different texts have different
    bytes. -/
theorem changed_iff_left_ne {bytes : Bytes} {o : Outcome}
    (h : verdict registry c path bytes = .ok o) :
    o.changed = true ↔ left registry c path bytes ≠ bytes := by
  by_cases hutf : ∃ text, Utf8.encode text = (Utf8.splitMark bytes).2
  case neg =>
    obtain ⟨e, he⟩ := ofBytes_eq_notUtf8 registry c path (not_exists.mp hutf)
    unfold verdict at h
    rw [he] at h
    cases h
    simp [left, he]
  obtain ⟨text, htext⟩ := hutf
  cases hedits : Detection.collectEdits registry c (SourceFile.ofText path path.text text) with
  | error e =>
    rw [(left_verdict_of_unfinished htext hedits).2] at h
    cases h
  | ok edits =>
    cases happly : Edit.applyAll text edits with
    | error k =>
      rw [(left_verdict_of_conflict htext hedits happly).2] at h
      cases h
    | ok updated =>
      obtain ⟨hleft, hverdict⟩ := left_verdict_of_applyAll htext hedits happly
      rw [hverdict] at h
      cases h
      have hsame : (Utf8.splitMark bytes).1 ++ Utf8.encode updated = bytes ↔ text = updated := by
        conv_lhs => rhs; rw [← Utf8.splitMark_append bytes, ← htext]
        rw [List.append_cancel_left_eq, Utf8.encode_injective.eq_iff, eq_comm]
      rw [hleft, decide_eq_true_eq]
      exact not_congr hsame.symm

/-! ## Runs -/

variable (registry c) in
/-- A run depends on the tree only by the bytes of its file, and by what comes of writing it. -/
theorem run_of_locate {cwd : Path} {tree : FileTree} {names : List Text} {bytes : Bytes}
    (h : tree.locate cwd path = .ok (.file names bytes)) :
    (run registry c true cwd tree path).outcome = verdict registry c path bytes ∧
    (run registry c true cwd tree path).tree = tree ∧
    (run registry c false cwd tree path).tree = (writing registry c path tree names bytes).1 ∧
    (run registry c false cwd tree path).outcome =
      match (writing registry c path tree names bytes).2 with
      | none => verdict registry c path bytes
      | some fault => .error (.unwritten fault) := by
  unfold run writing
  rw [FileTree.fileAt_eq_ok_iff.mpr h]
  simp only
  cases hr : ofBytes registry c path bytes with
  | error e =>
    have hleft : left registry c path bytes = bytes := by simp only [left, hr]
    rw [if_pos hleft]
    cases e <;> simp [verdict, hr]
  | ok r =>
    have hverdict : verdict registry c path bytes =
        .ok { path, changed := r.changed, diff := r.diff, edits := r.edits } := by
      simp only [verdict, hr]
    have hchanged := changed_iff_left_ne hverdict
    cases hc : r.changed with
    | false =>
      have hleft : left registry c path bytes = bytes := by simp [left, hr, hc]
      simp [hverdict, hleft, hc]
    | true =>
      have hleft : left registry c path bytes = r.bytes := by simp [left, hr, hc]
      rw [if_neg (hchanged.mp hc), hleft, hverdict]
      cases hwrite : tree.write names r.bytes with
      | mk written fault => cases fault <;> simp [hc, hwrite]

variable (registry c path) in
/-- Writing gives the file other bytes or changes nothing. -/
theorem writing_cases (tree : FileTree) (names : List Text) (bytes : Bytes) :
    (writing registry c path tree names bytes).1 = tree ∨
    ∃ b, (writing registry c path tree names bytes).1 = tree.withBytes names b := by
  unfold writing
  split_ifs
  · exact .inl rfl
  · rcases tree.write_cases names (left registry c path bytes) with h | ⟨f, h | ⟨n, h⟩⟩ <;> rw [h]
    · exact .inr ⟨_, rfl⟩
    · exact .inl rfl
    · exact .inr ⟨_, rfl⟩

/-- Where writing does not fail, the file has what fixing leaves. -/
theorem bytes?_writing {tree : FileTree} {names : List Text} {bytes : Bytes}
    (hnone : (writing registry c path tree names bytes).2 = none)
    (hheld : tree.bytes? names = some bytes) :
    (writing registry c path tree names bytes).1.bytes? names = some (left registry c path bytes) := by
  unfold writing at *
  split_ifs at * with hsame
  · exact hheld.trans (congrArg some hsame.symm)
  · rcases tree.write_cases names (left registry c path bytes) with h | ⟨f, h | ⟨n, h⟩⟩
    · rw [h]
      simp [FileTree.bytes?_withBytes, tree.mem_namesOf_self, hheld]
    · rw [h] at hnone
      cases hnone
    · rw [h] at hnone
      cases hnone

theorem verdict_ne_unwritten (bytes : Bytes) (fault : WriteFault) :
    verdict registry c path bytes ≠ .error (.unwritten fault) := by
  unfold verdict
  split <;> simp

theorem writing_of_left_eq {tree : FileTree} {names : List Text} {bytes : Bytes}
    (h : left registry c path bytes = bytes) :
    writing registry c path tree names bytes = (tree, none) := by
  rw [writing, if_pos h]

theorem writing_of_no_fault {tree : FileTree} {names : List Text}
    (h : tree.faults.lookup names = none) (bytes : Bytes) :
    (writing registry c path tree names bytes).2 = none := by
  unfold writing
  split_ifs
  · rfl
  · rw [FileTree.write_of_no_fault h]

section Written

variable (registry c)
variable {cwd : Path} {tree : FileTree} {names : List Text} {bytes : Bytes}
  (h : tree.locate cwd path = .ok (.file names bytes))
include h

/-- If writing does not fail, a run and a dry run tell the same, and the run leaves what fixing leaves. -/
theorem run_of_writing (hnone : (writing registry c path tree names bytes).2 = none) :
    (∀ dryRun, (run registry c dryRun cwd tree path).outcome = verdict registry c path bytes) ∧
    (run registry c false cwd tree path).tree.bytes? names = some (left registry c path bytes) := by
  obtain ⟨hdry, -, htree, hreal⟩ := run_of_locate registry c h
  rw [hnone] at hreal
  exact ⟨Bool.forall_bool.mpr ⟨hreal, hdry⟩,
    htree ▸ bytes?_writing hnone (FileTree.bytes?_of_locate h)⟩

/-- A run says if writing fails. -/
theorem writing_snd_eq_none_iff : (writing registry c path tree names bytes).2 = none ↔
    ∀ fault, (run registry c false cwd tree path).outcome ≠ .error (.unwritten fault) := by
  obtain ⟨-, -, -, hreal⟩ := run_of_locate registry c h
  rw [hreal]
  cases (writing registry c path tree names bytes).2 with
  | none => exact iff_of_true rfl (verdict_ne_unwritten bytes)
  | some fault => exact iff_of_false (Option.some_ne_none fault) fun hwrite => hwrite fault rfl

end Written

/-- **Fixing a file is byte-exact, and on any failure nothing is written.** For every file and every
    registry whose plugins know what they replace: a dry run changes nothing and, if the file can be
    written, tells the same as a run. A run changes at most the bytes of its file. These stay as they are
    if the body, behind at most one mark, is no UTF-8, if a fixer fails, if the edits conflict, and if they
    do not change the text; else, if the file can be written, the byte range of every edit is replaced in
    the body by the encoding of its new text. The run tells of a change exactly if the bytes are others. -/
theorem run_byteExact (registry : Registry) (hr : registry.WellShaped) (c : Config) (cwd path : Path)
    (tree : FileTree) (names : List Text) (bytes : Bytes)
    (hfile : tree.locate cwd path = .ok (.file names bytes)) :
    ∃ mark body after, bytes = mark ++ body ∧
      (mark = Utf8.mark ∨ mark = [] ∧ ¬ Utf8.mark <+: bytes) ∧
      (run registry c true cwd tree path).tree = tree ∧
      (run registry c false cwd tree path).tree.bytes? names = some after ∧
      (∀ other ∉ tree.namesOf names,
        (run registry c false cwd tree path).tree.bytes? other = tree.bytes? other) ∧
      (run registry c false cwd tree path).tree.folders = tree.folders ∧
      (run registry c false cwd tree path).tree.links = tree.links ∧
      (tree.faults.lookup names = none →
        (run registry c true cwd tree path).outcome = (run registry c false cwd tree path).outcome) ∧
      ((∀ text, Utf8.encode text ≠ body) →
        after = bytes ∧ (run registry c false cwd tree path).outcome = .ok { path }) ∧
      (∀ text, Utf8.encode text = body →
        (∀ e, Detection.collectEdits registry c (SourceFile.ofText path path.text text) = .error e →
          after = bytes ∧ (run registry c false cwd tree path).outcome = .error (.unfinished e)) ∧
        ∀ edits,
          Detection.collectEdits registry c (SourceFile.ofText path path.text text) = .ok edits →
          (∀ k, Edit.applyAll text edits = .error k →
            after = bytes ∧ (run registry c false cwd tree path).outcome = .error (.conflict k)) ∧
          ∀ updated, Edit.applyAll text edits = .ok updated →
            (updated = text → after = bytes) ∧
            (tree.faults.lookup names = none →
              after = mark ++ Patch.applyAll (edits.map (Edit.patch text)) body ∧
              (run registry c false cwd tree path).outcome =
                .ok { path, changed := text ≠ updated
                      diff := Diff.unified path.text text updated, edits })) ∧
      ∀ o, (run registry c false cwd tree path).outcome = .ok o → (o.changed ↔ after ≠ bytes) := by
  obtain ⟨-, hdry, hreal, -⟩ := run_of_locate registry c hfile
  have hcases := writing_cases registry c path tree names bytes
  rw [← hreal] at hcases
  obtain ⟨after, hafter⟩ :
      ∃ after, (run registry c false cwd tree path).tree.bytes? names = some after := by
    have hheld := FileTree.bytes?_of_locate hfile
    rcases hcases with h | ⟨b, h⟩
    · exact ⟨bytes, by rw [h, hheld]⟩
    · refine ⟨b, ?_⟩
      rw [h, FileTree.bytes?_withBytes, if_pos (tree.mem_namesOf_self names), hheld]
      rfl
  have hframe : ∀ other ∉ tree.namesOf names,
      (run registry c false cwd tree path).tree.bytes? other = tree.bytes? other := by
    intro other hother
    rcases hcases with h | ⟨b, h⟩
    · rw [h]
    · rw [h, FileTree.bytes?_withBytes, if_neg hother]
  have hkept : (run registry c false cwd tree path).tree.folders = tree.folders ∧
      (run registry c false cwd tree path).tree.links = tree.links := by
    rcases hcases with h | ⟨b, h⟩ <;> rw [h] <;> exact ⟨rfl, rfl⟩
  -- where writing does not fail, in particular where nothing is written, the run is known
  have hcourse : (writing registry c path tree names bytes).2 = none →
      (∀ dryRun, (run registry c dryRun cwd tree path).outcome = verdict registry c path bytes) ∧
      after = left registry c path bytes := by
    intro hnone
    obtain ⟨houtcome, hleft⟩ := run_of_writing registry c hfile hnone
    exact ⟨houtcome, Option.some_inj.mp (hafter.symm.trans hleft)⟩
  have hstill : left registry c path bytes = bytes →
      after = bytes ∧ (run registry c false cwd tree path).outcome = verdict registry c path bytes := by
    intro hleft
    obtain ⟨houtcome, hsame⟩ := hcourse (by rw [writing_of_left_eq hleft])
    exact ⟨hsame.trans hleft, houtcome false⟩
  refine ⟨(Utf8.splitMark bytes).1, (Utf8.splitMark bytes).2, after, (Utf8.splitMark_append bytes).symm,
    Utf8.splitMark_fst bytes, hdry, hafter, hframe, hkept.1, hkept.2, fun hfault => ?_, fun hutf => ?_,
    fun text htext => ⟨fun e he => ?_, fun edits hedits => ⟨fun k hk => ?_, fun updated happly => ?_⟩⟩,
    fun o ho => ?_⟩
  · obtain ⟨houtcome, -⟩ := hcourse (writing_of_no_fault hfault bytes)
    rw [houtcome, houtcome]
  · obtain ⟨e, he⟩ := ofBytes_eq_notUtf8 registry c path hutf
    have hverdict : verdict registry c path bytes = .ok { path } := by simp only [verdict, he]
    rw [← hverdict]
    exact hstill (by simp only [left, he])
  · obtain ⟨hleft, hverdict⟩ := left_verdict_of_unfinished htext he
    rw [← hverdict]
    exact hstill hleft
  · obtain ⟨hleft, hverdict⟩ := left_verdict_of_conflict htext hedits hk
    rw [← hverdict]
    exact hstill hleft
  · obtain ⟨hleft, hverdict⟩ := left_verdict_of_applyAll htext hedits happly
    refine ⟨?_, fun hfault => ?_⟩
    · rintro rfl
      exact (hstill (by rw [hleft, htext, Utf8.splitMark_append])).1
    · obtain ⟨houtcome, hsame⟩ := hcourse (writing_of_no_fault hfault bytes)
      refine ⟨?_, (houtcome false).trans hverdict⟩
      rw [hsame, hleft, ← htext,
        encode_of_applyAll (Detection.wellShaped_of_collectEdits hr hedits) happly]
  · have hnone : (writing registry c path tree names bytes).2 = none := by
      rw [writing_snd_eq_none_iff registry c hfile, ho]
      simp
    obtain ⟨houtcome, rfl⟩ := hcourse hnone
    exact changed_iff_left_ne ((houtcome false).symm.trans ho)

/-- A file with a mark, a character of two bytes and carriage returns: the class is renamed, and a plugin
    replaces the character. -/
theorem run_byteExact_marked :
    let path : Path := ⟨[], ["a.py".toList]⟩
    let text : Text := "x = 'ä'\r\nclass A(Command): pass\r\n"
    let bytes := Utf8.mark ++ Utf8.encode text
    let tree : FileTree := { files := [(path.names, bytes)] }
    let plugin : PluginRule :=
      { className := "Umlaut"
        info := { ruleId := "P01", title := [], description := [], severity := "warn" }
        fixer := .edits [⟨"P01", 1, 6, 7, "ä", "öö"⟩] }
    let registry : Registry := ⟨[plugin]⟩
    registry.WellShaped ∧ tree.locate ⟨"/", []⟩ path = .ok (.file path.names bytes) ∧
      (run registry {} false ⟨"/", []⟩ tree path).tree.bytes? path.names =
        some (Utf8.mark ++ Utf8.encode "x = 'öö'\r\nclass ACommand(Command): pass\r\n") := by
  intro path text bytes tree plugin registry
  have hr : registry.WellShaped := by
    intro r hr edits hedits e he
    cases List.mem_singleton.mp hr
    cases hedits
    cases List.mem_singleton.mp he
    exact ⟨by decide, by decide, by decide⟩
  have hfile : tree.locate ⟨"/", []⟩ path = .ok (.file path.names bytes) := by decide +kernel
  refine ⟨hr, hfile, ?_⟩
  obtain ⟨mark, body, after, hbytes, hmark, -, hafter, -, -, -, -, -, hcourse, -⟩ :=
    run_byteExact registry hr {} ⟨"/", []⟩ path tree path.names bytes hfile
  have hcut : mark = Utf8.mark ∧ Utf8.encode text = body := by
    rcases hmark with rfl | ⟨-, hno⟩
    · exact ⟨rfl, List.append_cancel_left hbytes⟩
    · exact absurd (List.prefix_append _ _) hno
  have hedits : Detection.collectEdits registry {} (SourceFile.ofText path path.text text) =
      .ok [⟨"N01", 2, 7, 8, "A", "ACommand"⟩, ⟨"P01", 1, 6, 7, "ä", "öö"⟩] := by decide +kernel
  have happly : Edit.applyAll text [⟨"N01", 2, 7, 8, "A", "ACommand"⟩, ⟨"P01", 1, 6, 7, "ä", "öö"⟩] =
      .ok "x = 'öö'\r\nclass ACommand(Command): pass\r\n" := by decide +kernel
  obtain ⟨hpatched, -⟩ := (((hcourse text hcut.2).2 _ hedits).2 _ happly).2 rfl
  rw [hafter, hpatched, hcut.1, ← hcut.2]
  decide +kernel

end Fix

end HouseStyle
