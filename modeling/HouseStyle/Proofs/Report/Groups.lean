import HouseStyle.Proofs.Json.Reader
import HouseStyle.Proofs.Path.Shown
import HouseStyle.Proofs.Sorting
import HouseStyle.Proofs.Terminal.Console
import HouseStyle.Proofs.Text.Numerals
import HouseStyle.Report.Terminal
import Mathlib.Data.Char
import Mathlib.Data.List.Lex
import Mathlib.Data.List.Pairwise
import Mathlib.Data.List.Perm.Basic
import Mathlib.Data.Prod.Lex

/-!
# Violations under their headers

On a console the violations stand under the paths of their files. Every violation of the report stands
there once, the headers and the violations under a header are in order, and violations that the order does
not tell apart stand as they were found.

Main definitions:
* `Report.placeKey`: what violations under a header are sorted by.
* `Report.LaidOut`: violations under headers, in order.
* `Violation.IsIn`: the path of a violation.

Main results:
* `Report.laidOut_groups`: the groups of a report are laid out so.
* `Report.groups_eq_of_perm`: the order of the violations is irrelevant where their keys are different.
* `Report.prints_laidOut`: what is printed on a console.
* `Report.shown_identifies`: different files are shown under different paths.
-/

namespace HouseStyle

/-- The elements of a list, taken by the keys that they have, are the elements of the list. -/
theorem perm_flatMap_filter {α : Type} (key : α → Text) {keys : List Text} (hnodup : keys.Nodup)
    {xs : List α} (h : ∀ x ∈ xs, key x ∈ keys) :
    (keys.flatMap fun k => xs.filter fun x => key x = k).Perm xs := by
  induction keys generalizing xs with
  | nil =>
    rw [List.eq_nil_iff_forall_not_mem.mpr fun x hx => List.not_mem_nil (h x hx)]
    exact .nil
  | cons k keys ih =>
    obtain ⟨hk, hnodup⟩ := List.nodup_cons.mp hnodup
    -- The other keys take what is left when the elements of `k` are gone.
    let left := xs.filter fun x => !decide (key x = k)
    have hleft : ∀ x ∈ left, key x ∈ keys := by
      intro x hx
      obtain ⟨hx, hne⟩ := List.mem_filter.mp hx
      exact (List.mem_cons.mp (h x hx)).resolve_left (by simpa using hne)
    have hsame : (keys.flatMap fun k' => xs.filter fun x => key x = k') =
        keys.flatMap fun k' => left.filter fun x => key x = k' := by
      refine List.flatMap_congr fun k' hk' => ?_
      rw [List.filter_filter]
      refine List.filter_congr fun x _ => ?_
      by_cases hx : key x = k'
      · have hne : key x ≠ k := fun heq => hk (heq ▸ hx ▸ hk')
        simp [hx, hx ▸ hne]
      · simp [hx]
    rw [List.flatMap_cons, hsame]
    exact ((ih hnodup hleft).append_left _).trans
      (List.filter_append_perm (fun x => decide (key x = k)) xs)

namespace Report

/-! ## The order under a header -/

/-- What violations under a header are sorted by: the line, or 10^9 without one, the column, or 0
    without one, and the rule id. -/
def placeKey (v : Violation) : Int ×ₗ Int ×ₗ Text := toLex (lineKey v, toLex (colKey v, v.ruleId))

theorem inOrder_iff {v w : Violation} : inOrder v w = true ↔ placeKey v ≤ placeKey w := by
  rw [placeKey, placeKey, Prod.Lex.toLex_le_toLex, Prod.Lex.toLex_le_toLex, inOrder]
  dsimp only
  split_ifs with hline hcol
  · simp only [decide_eq_true_eq]
    omega
  · simp only [decide_eq_true_eq]
    omega
  · rw [Text.le_iff, not_not.mp hline, not_not.mp hcol]
    simp

theorem inOrder_total (v w : Violation) : inOrder v w = true ∨ inOrder w v = true := by
  rw [inOrder_iff, inOrder_iff]
  exact le_total (placeKey v) (placeKey w)

theorem inOrder_trans (u v w : Violation) (huv : inOrder u v = true) (hvw : inOrder v w = true) :
    inOrder u w = true := by
  rw [inOrder_iff] at *
  exact le_trans huv hvw

/-! ## Groups -/

/-- Violations stand under headers: the headers are in strict order, every violation stands once and under
    its own header, and under a header they are in order, where those of one key stand in the order of the
    report. -/
structure LaidOut (r : Report) (groups : List (Text × List Violation)) : Prop where
  headers : (groups.map (·.1)).Pairwise (· < ·)
  nonempty : ∀ g ∈ groups, g.2 ≠ []
  under : ∀ g ∈ groups, ∀ v ∈ g.2, r.header v = g.1
  once : (groups.flatMap (·.2)).Perm r.violations
  sorted : ∀ g ∈ groups, g.2.Pairwise fun v w => placeKey v ≤ placeKey w
  stable : ∀ g ∈ groups, ∀ k, (g.2.filter fun v => placeKey v = k) =
    r.violations.filter fun v => r.header v = g.1 ∧ placeKey v = k

theorem mem_headers {r : Report} {h : Text} : h ∈ r.headers ↔ ∃ v ∈ r.violations, r.header v = h := by
  rw [headers, mem_stableSort, mem_distinct, List.mem_map]

theorem pairwise_headers (r : Report) : r.headers.Pairwise (· < ·) := by
  have hnodup : ((distinct (r.violations.map r.header)).map fun h => h).Nodup := by
    rw [List.map_id']
    exact nodup_distinct _
  have hsorted := stableSort_pairwise_lt (fun h : Text => h) hnodup
  rwa [List.map_id'] at hsorted

theorem map_fst_groups (r : Report) : r.groups.map (·.1) = r.headers := by
  rw [groups, List.map_map]
  exact List.map_id' r.headers

theorem mem_groups {r : Report} {g : Text × List Violation} (hg : g ∈ r.groups) :
    g.1 ∈ r.headers ∧ g.2 = stableSort inOrder (r.violations.filter fun v => r.header v = g.1) := by
  obtain ⟨h, hh, rfl⟩ := List.mem_map.mp hg
  exact ⟨hh, rfl⟩

theorem header_of_mem_groups {r : Report} {g : Text × List Violation} (hg : g ∈ r.groups)
    {v : Violation} (hv : v ∈ g.2) : r.header v = g.1 := by
  rw [(mem_groups hg).2, mem_stableSort, List.mem_filter] at hv
  exact of_decide_eq_true hv.2

theorem flatMap_groups_perm (r : Report) : (r.groups.flatMap (·.2)).Perm r.violations := by
  have hheaders : ∀ v ∈ r.violations, r.header v ∈ r.headers :=
    fun v hv => mem_headers.mpr ⟨v, hv, rfl⟩
  have hnodup : r.headers.Nodup := r.pairwise_headers.imp fun h => ne_of_lt h
  rw [groups, List.flatMap_map]
  refine .trans ?_ (perm_flatMap_filter r.header hnodup hheaders)
  exact List.Perm.flatMap_left r.headers fun h _ => stableSort_perm inOrder _

/-- The groups of a report are in order. -/
theorem laidOut_groups (r : Report) : r.LaidOut r.groups where
  headers := by
    rw [map_fst_groups]
    exact r.pairwise_headers
  nonempty := by
    intro g hg hnil
    obtain ⟨hheader, hgroup⟩ := mem_groups hg
    obtain ⟨v, hv, hvh⟩ := mem_headers.mp hheader
    have hmem : v ∈ g.2 := by
      rw [hgroup, mem_stableSort, List.mem_filter]
      exact ⟨hv, decide_eq_true hvh⟩
    rw [hnil] at hmem
    cases hmem
  under := fun g hg v hv => header_of_mem_groups hg hv
  once := r.flatMap_groups_perm
  sorted := by
    intro g hg
    rw [(mem_groups hg).2]
    exact (stableSort_pairwise inOrder inOrder_total inOrder_trans _).imp fun h => inOrder_iff.mp h
  stable := by
    intro g hg k
    rw [(mem_groups hg).2, filter_stableSort inOrder, List.filter_filter]
    · refine List.filter_congr fun v _ => ?_
      rw [Bool.decide_and, Bool.and_comm]
    · intro v w hv hw
      rw [inOrder_iff, of_decide_eq_true hv, of_decide_eq_true hw]

/-- Where no two violations have one header and one key, the order of the violations is irrelevant. -/
theorem groups_eq_of_perm {r : Report} {vs : List Violation} (hperm : vs.Perm r.violations)
    (hkeys : (r.violations.map fun v => (r.header v, placeKey v)).Nodup) :
    ({ r with violations := vs } : Report).groups = r.groups := by
  have hheaders : ({ r with violations := vs } : Report).headers = r.headers := by
    refine (pairwise_headers _).eq_of_mem_iff r.pairwise_headers fun h => ?_
    rw [mem_headers, mem_headers]
    exact exists_congr fun v => and_congr_left' hperm.mem_iff
  rw [groups, groups, hheaders]
  refine List.map_congr_left fun h _ => Prod.ext rfl ?_
  refine (stableSort_eq_of_perm inOrder inOrder_total inOrder_trans (hperm.symm.filter _) ?_).symm
  intro v hv w hw hvw hwv
  obtain ⟨hv, hvh⟩ := List.mem_filter.mp hv
  obtain ⟨hw, hwh⟩ := List.mem_filter.mp hw
  rw [inOrder_iff] at hvw hwv
  refine List.inj_on_of_nodup_map hkeys hv hw (Prod.ext ?_ (le_antisymm hvw hwv))
  exact (of_decide_eq_true hvh).trans (of_decide_eq_true hwh).symm

end Report

/-! ## Printing -/

namespace Report

/-- No suggestion has an opening bracket, with which every tag of markup starts. -/
def NoMarkup (r : Report) : Prop := ∀ v ∈ r.violations, ∀ s ∈ v.suggestion, '[' ∉ s

/-- A report prints a panel and texts, and suggestions as markup. -/
theorem mem_prints {r : Report} {p : Print} (hp : p ∈ r.prints) :
    (∃ body, p = .panel body r.caption) ∨ (∃ t, p = .text t) ∨
      ∃ v ∈ r.violations, ∃ s ∈ v.suggestion, s ≠ [] ∧ p = .markup (suggestionText s) := by
  rw [prints, List.cons_append, List.mem_cons, List.mem_append] at hp
  rcases hp with rfl | hp | hp
  · exact .inl ⟨_, rfl⟩
  · obtain ⟨g, hg, hp⟩ := List.mem_flatMap.mp hp
    rw [groupPrints, List.cons_append, List.mem_cons, List.mem_append] at hp
    rcases hp with rfl | hp | hp
    · exact .inr (.inl ⟨_, rfl⟩)
    · obtain ⟨v, hv, hp⟩ := List.mem_flatMap.mp hp
      have hmem : v ∈ r.violations :=
        r.flatMap_groups_perm.mem_iff.mp (List.mem_flatMap.mpr ⟨g, hg, hv⟩)
      rcases List.mem_cons.mp hp with rfl | hp
      · exact .inr (.inl ⟨_, rfl⟩)
      · cases hs : v.suggestion with
        | none =>
          rw [hs] at hp
          cases hp
        | some s =>
          rw [hs] at hp
          dsimp only at hp
          split_ifs at hp with hempty
          · cases hp
          · rw [List.isEmpty_iff] at hempty
            exact .inr (.inr ⟨v, hmem, s, hs, hempty, List.mem_singleton.mp hp⟩)
    · exact .inr (.inl ⟨_, List.mem_singleton.mp hp⟩)
  · rw [List.mem_pair] at hp
    rcases hp with rfl | rfl
    · exact .inr (.inl ⟨_, rfl⟩)
    · exact .inr (.inl ⟨_, rfl⟩)

/-- The caption has no tag. -/
theorem not_mem_caption (r : Report) : '[' ∉ r.caption := by
  have hnumber : '[' ∉ Text.ofInt r.filesChecked := Text.not_mem_ofInt (by decide) (by decide) _
  unfold caption
  simp [hnumber]

theorem not_mem_suggestionText {s : Text} (h : '[' ∉ s) : '[' ∉ suggestionText s := by
  unfold suggestionText
  rw [List.mem_append, not_or]
  exact ⟨by decide, h⟩

/-- Without opening brackets in suggestions, every print of a report has lines. -/
theorem lines_prints {r : Report} (h : r.NoMarkup) {console : Console} (hlaws : console.Laws) :
    ∀ p ∈ r.prints, ∃ ls, console.lines p = .ok ls := by
  intro p hp
  rcases mem_prints hp with ⟨body, rfl⟩ | ⟨t, rfl⟩ | ⟨v, hv, s, hs, -, rfl⟩
  · exact hlaws.panel body _ r.not_mem_caption
  · exact hlaws.text t
  · exact hlaws.untagged _ (not_mem_suggestionText (h v hv s hs))

/-- **The report on a console.** If no suggestion has an opening bracket, everything that the report
    prints is printed, on every console with the laws: a panel, the violations under their headers, laid out
    in order, and a verdict with their number. Where no two violations have one header, line, column and
    rule id, the same is printed whatever the order of the violations is. -/
theorem prints_laidOut {r : Report} (h : r.NoMarkup) :
    (∀ console : Console, console.Laws →
      ∃ lines, List.Forall₂ (fun p ls => console.lines p = .ok ls) r.prints lines ∧
        r.terminal console = (lines.flatten, none)) ∧
    (∃ groups, r.LaidOut groups ∧ r.prints =
      .panel (toolName ++ " v" ++ toolVersion) ("Checked " ++ Text.ofInt r.filesChecked ++ " files") ::
        (groups.flatMap fun g => .text g.1 :: g.2.flatMap violationPrints ++ [.text ""]) ++
        [.text (Text.copies 60 '─'),
          .text (if r.violations.length = 0 then "No problems found"
            else "Found " ++ Text.decimal r.violations.length ++ " problem(s)")]) ∧
    (∀ vs : List Violation, vs.Perm r.violations →
      (r.violations.map fun v => (r.header v, placeKey v)).Nodup →
      ({ r with violations := vs } : Report).prints = r.prints) := by
  refine ⟨fun console hlaws => ?_, ⟨r.groups, r.laidOut_groups, ?_⟩, ?_⟩
  · obtain ⟨lines, hlines, hrun⟩ := Print.run_of_lines (lines_prints h hlaws)
    exact ⟨lines, hlines, by rw [terminal, hrun]⟩
  · rw [prints, verdict]
    simp only [List.isEmpty_iff, ← List.length_eq_zero_iff]
    rfl
  · intro vs hperm hkeys
    have hverdict : ({ r with violations := vs } : Report).verdict = r.verdict := by
      rw [verdict, verdict]
      simp only [List.isEmpty_iff, ← List.length_eq_zero_iff, hperm.length_eq]
    rw [prints, prints, groups_eq_of_perm hperm hkeys, hverdict]
    rfl

/-- Two files, one violation without a place, and a tie of line and column that the rule ids break. -/
theorem prints_laidOut_mixed :
    let inFile (file : String) (line : Option Int) (rule : String) : Violation :=
      ⟨rule.toList, "warn", "m", some "s", some ⟨some (Path.ofText file.toList), line, none, none, none⟩⟩
    let free : Violation := ⟨"A", "info", "m", none, none⟩
    let vs := [inFile "/p/b" (some 0) "A", free, inFile "/p/a" (some 7) "B", inFile "/p/a" (some 7) "A"]
    let r : Report := ⟨Path.ofText "/p".toList, Path.ofText "/p".toList, 2, vs, {}⟩
    r.groups = [("<unknown>".toList, [free]),
      ("a".toList, [inFile "/p/a" (some 7) "A", inFile "/p/a" (some 7) "B"]),
      ("b".toList, [inFile "/p/b" (some 0) "A"])] ∧
    (∃ lines, r.terminal (Terminal.console 40) = (lines, none)) ∧
    ({ r with violations := vs.reverse } : Report).prints = r.prints := by
  intro inFile free vs r
  have hmarkup : r.NoMarkup := by
    unfold NoMarkup
    decide
  have hkeys : (r.violations.map fun v => (r.header v, placeKey v)).Nodup := by decide
  obtain ⟨hprinted, -, horder⟩ := prints_laidOut hmarkup
  obtain ⟨lines, -, hlines⟩ := hprinted _ (Terminal.laws_console 40)
  exact ⟨by decide, ⟨_, hlines⟩, horder vs.reverse vs.reverse_perm hkeys⟩

end Report

/-! ## Files -/

/-- The violation has a path, and it is this one. -/
def Violation.IsIn (v : Violation) (p : Path) : Prop := v.location.bind (·.path) = some p

namespace Report

theorem shownPath?_of_isIn {v : Violation} {p : Path} (h : v.IsIn p) (r : Report) :
    r.shownPath? v = some (r.tree.shown r.cwd r.root p) := by
  obtain ⟨place, hplace, hpath⟩ := Option.bind_eq_some_iff.mp h
  rw [shownPath?, hplace]
  simp [hpath]

theorem field?_path_violationJson (r : Report) (v : Violation) :
    (r.violationJson v).field? "path" = some (.ofText? (r.shownPath? v)) := rfl

/-- **Shown paths identify files.** In a file tree without symbolic links, the path that is shown for an
    absolute path, seen from the root, leads to where the path leads, and it is relative exactly if that is
    the root or something below it. So two violations whose paths lead to different places have different
    paths in the JSON report and stand under different headers on a console. -/
theorem shown_identifies {r : Report} (hlinks : r.tree.links = []) {p q : Path} (hp : p.IsRead)
    (hpabs : p.isAbsolute = true) (hq : q.IsRead) (hqabs : q.isAbsolute = true) :
    Path.resolve? r.cwd (r.root.join (Path.ofText (r.tree.shown r.cwd r.root p))) =
      Path.resolve? r.cwd p ∧
    ((Path.ofText (r.tree.shown r.cwd r.root p)).isAbsolute = false ↔ Path.Inside r.cwd r.root p) ∧
    (Path.resolve? r.cwd p ≠ Path.resolve? r.cwd q → ∀ v w, v.IsIn p → w.IsIn q →
      (r.violationJson v).field? "path" ≠ (r.violationJson w).field? "path" ∧
      ∀ g ∈ r.groups, ∀ g' ∈ r.groups, v ∈ g.2 → w ∈ g'.2 → g.1 ≠ g'.1) := by
  have hshownp := FileTree.shown_eq hlinks r.cwd r.root p
  have hshownq := FileTree.shown_eq hlinks r.cwd r.root q
  rw [hshownp]
  refine ⟨Path.resolve?_shown r.cwd r.root hp hpabs, Path.isAbsolute_shown r.cwd r.root hp hpabs, ?_⟩
  intro hne v w hv hw
  have hshown : Path.shown r.cwd r.root p ≠ Path.shown r.cwd r.root q := by
    intro heq
    apply hne
    rw [← Path.resolve?_shown r.cwd r.root hp hpabs, heq, Path.resolve?_shown r.cwd r.root hq hqabs]
  have hpathv := (shownPath?_of_isIn hv r).trans (congrArg some hshownp)
  have hpathw := (shownPath?_of_isIn hw r).trans (congrArg some hshownq)
  constructor
  · rw [field?_path_violationJson, field?_path_violationJson, hpathv, hpathw]
    simpa [JsonValue.ofText?] using hshown
  · intro g hg g' hg' hvg hwg' heq
    rw [← header_of_mem_groups hg hvg, ← header_of_mem_groups hg' hwg', header, header, hpathv,
      hpathw] at heq
    exact hshown heq

/-- A root that is given with `..`, a file below it that is given in a roundabout way, and a file in a
    folder whose name starts as the root does. -/
theorem shown_identifies_siblings :
    let p := Path.ofText "/../a/b/./c/../d.py".toList
    let q := Path.ofText "/a/bc/d.py".toList
    let v : Violation := ⟨"A", "warn", "m", none, some { path := p }⟩
    let w : Violation := ⟨"A", "warn", "m", none, some { path := q }⟩
    let r : Report := ⟨Path.ofText "/w".toList, Path.ofText "/x/../a/b".toList, 2, [v, w], {}⟩
    Path.resolve? r.cwd (r.root.join (Path.ofText "d.py".toList)) = Path.resolve? r.cwd p ∧
    Path.Inside r.cwd r.root p ∧ ¬Path.Inside r.cwd r.root q ∧
    (r.violationJson v).field? "path" ≠ (r.violationJson w).field? "path" := by
  intro p q v w r
  have hp : p.IsRead := Path.isRead_ofText _
  have hq : q.IsRead := Path.isRead_ofText _
  have hshown : r.tree.shown r.cwd r.root p = "d.py".toList := by decide
  have hlinks : r.tree.links = [] := rfl
  obtain ⟨hleads, hinside, hother⟩ := shown_identifies hlinks hp (by decide) hq (by decide)
  obtain ⟨-, houtside, -⟩ := shown_identifies hlinks hq (by decide) hp (by decide)
  refine ⟨hshown ▸ hleads, hinside.mp (by decide), mt houtside.mpr (by decide), ?_⟩
  exact (hother (by decide) v w rfl rfl).1

end Report

end HouseStyle
