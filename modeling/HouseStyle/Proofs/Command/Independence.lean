import HouseStyle.Command.Run
import HouseStyle.Proofs.Fix.Frame
import HouseStyle.Proofs.Terminal.Console
import HouseStyle.Proofs.Text.Numerals

/-!
# Files are fixed independently

The task `fix` goes through the listed files one after the other, and each run may write its file. In a tree
without links a run depends on its own file only, and no file is listed twice; so the files before it do not
matter, and the tree in the end is the one in which every listed file has what a run on it alone leaves. A
dry run tells the same and writes nothing. The first file that cannot be written ends the task.

Main definitions:
* `Command.altered`, `Command.diffs`: the files that runs on them alone alter, and their diffs.
* `Command.FixedEach`: what going through files leaves of a state.

Main results:
* `Command.fixEach_singleton`, `Command.FixedEach.append`: going through one file, and through files one part
  after the other.
* `Command.fixEach_spec`, `Command.fixEach_of_unwritten`: going through files, to the end and up to a file
  that cannot be written.
* `Command.runTask_fix_independent`: the whole task.
-/

namespace HouseStyle

/-! ## Going through files -/

namespace Command

variable (project : Project) (cwd : Path)

/-- The files that runs on them alone alter. -/
def altered (tree : FileTree) (files : List Path) : List Path :=
  files.filter (Fix.alters project.registry project.config cwd tree)

/-- The diffs of these files, each with a line end. -/
def diffs (tree : FileTree) (files : List Path) : Text :=
  (altered project cwd tree files).flatMap fun p =>
    Fix.diffOf project.registry project.config cwd tree p ++ "\n"

theorem altered_append (tree : FileTree) (ps qs : List Path) :
    altered project cwd tree (ps ++ qs) = altered project cwd tree ps ++ altered project cwd tree qs :=
  List.filter_append ps qs

theorem diffs_append (tree : FileTree) (ps qs : List Path) :
    diffs project cwd tree (ps ++ qs) = diffs project cwd tree ps ++ diffs project cwd tree qs := by
  rw [diffs, altered_append, List.flatMap_append]
  rfl

/-- If the listed files have what runs on them alone leave and the others what they had, exactly the
    altered files have other bytes. -/
theorem bytes?_ne_iff_mem_altered {tree tree' : FileTree} {files : List Path}
    (hframe : ∀ names ∉ files.map (·.names), tree'.bytes? names = tree.bytes? names)
    (heach : ∀ p ∈ files, tree'.bytes? p.names =
      (Fix.run project.registry project.config false cwd tree p).tree.bytes? p.names)
    (names : List Text) : tree'.bytes? names ≠ tree.bytes? names ↔
      names ∈ (altered project cwd tree files).map (·.names) := by
  have hmem : ∀ {p}, p ∈ altered project cwd tree files ↔
      p ∈ files ∧ tree'.bytes? p.names ≠ tree.bytes? p.names := by
    intro p
    rw [altered, List.mem_filter, Fix.alters, decide_eq_true_eq]
    exact and_congr_right fun hp => by rw [heach p hp]
  rw [List.mem_map]
  constructor
  · intro hne
    have hlisted : names ∈ files.map (·.names) := by
      by_contra hno
      exact hne (hframe names hno)
    obtain ⟨p, hp, rfl⟩ := List.mem_map.mp hlisted
    exact ⟨p, hmem.mpr ⟨hp, hne⟩, rfl⟩
  · rintro ⟨p, hp, rfl⟩
    exact (hmem.mp hp).2

/-- Where the same is at the files, runs on them alone give the same. -/
theorem altered_congr {tree tree' : FileTree} (hlinks : tree.Unlinked) {ps : List Path}
    (hps : ∀ q ∈ ps, q.IsPlain) (h : ∀ q ∈ ps, Fix.SameAt cwd tree tree' q) :
    altered project cwd tree' ps = altered project cwd tree ps ∧
    diffs project cwd tree' ps = diffs project cwd tree ps := by
  have hsame : ∀ q ∈ ps, _ ∧ _ := fun q hq =>
    (Fix.alone_congr project.registry project.config hlinks (hps q hq) (h q hq)).2
  have hfiles : altered project cwd tree' ps = altered project cwd tree ps :=
    List.filter_congr fun q hq => (hsame q hq).1
  refine ⟨hfiles, ?_⟩
  rw [diffs, hfiles]
  refine List.flatMap_congr fun q hq => ?_
  rw [(hsame q (List.mem_filter.mp hq).1).2]

/-- What going through files has left of a state. -/
structure FixedEach (dryRun : Bool) (s u : FixState) (ps : List Path) : Prop where
  unlinked : u.tree.Unlinked
  folders : u.tree.folders = s.tree.folders
  frame : ∀ names ∉ ps.map (·.names), u.tree.bytes? names = s.tree.bytes? names
  sameAt : ∀ q : Path, q.IsPlain → q.names ∉ ps.map (·.names) → Fix.SameAt cwd s.tree u.tree q
  each : dryRun = false → ∀ p ∈ ps, u.tree.bytes? p.names =
    (Fix.run project.registry project.config false cwd s.tree p).tree.bytes? p.names
  changed : u.changed = s.changed + (altered project cwd s.tree ps).length
  output : u.output = s.output ++ if dryRun then diffs project cwd s.tree ps else []

theorem FixState.tree_of_add {dryRun : Bool} {p : Path} {t u : FixState} {r : Fix.Run}
    (h : t.add dryRun p r = .ok u) : u.tree = t.tree := by
  unfold FixState.add at h
  split at h
  · cases h
  · cases h
  · cases h
    rfl
  · split_ifs at h <;> cases h <;> rfl

/-- A dry run over files changes nothing, whatever the tree is. -/
theorem tree_fixEach_dry (s : FixState) (ps : List Path) :
    (fixEach true project cwd s ps).1.tree = s.tree := by
  induction ps generalizing s with
  | nil => rfl
  | cons p ps ih =>
    have hrun := Fix.tree_run_dry project.registry project.config cwd s.tree p
    rw [fixEach]
    generalize Fix.run project.registry project.config true cwd s.tree p = r at hrun ⊢
    cases hadd : FixState.add true p { s with tree := r.tree, records := s.records ++ r.records } r with
    | error c => exact hrun
    | ok u => exact (ih u).trans ((FixState.tree_of_add hadd).trans hrun)

variable {project} {cwd}

theorem fixEach_append {dryRun : Bool} {s u : FixState} {ps : List Path}
    (h : fixEach dryRun project cwd s ps = (u, none)) (qs : List Path) :
    fixEach dryRun project cwd s (ps ++ qs) = fixEach dryRun project cwd u qs := by
  induction ps generalizing s with
  | nil =>
    cases h
    rfl
  | cons p ps ih =>
    rw [fixEach] at h
    rw [List.cons_append, fixEach]
    split at h
    · cases h
    · exact ih h

/-- Going through files and then through other files. -/
theorem FixedEach.append {dryRun : Bool} {s u v : FixState} {ps qs : List Path}
    (hlinks : s.tree.Unlinked) (hqs : ∀ q ∈ qs, q.IsPlain)
    (hapart : ∀ q ∈ qs, q.names ∉ ps.map (·.names)) (h : FixedEach project cwd dryRun s u ps)
    (h' : FixedEach project cwd dryRun u v qs) : FixedEach project cwd dryRun s v (ps ++ qs) := by
  have hsame : ∀ q ∈ qs, Fix.SameAt cwd s.tree u.tree q := fun q hq => h.sameAt q (hqs q hq) (hapart q hq)
  obtain ⟨hfiles, htexts⟩ := altered_congr project cwd hlinks hqs hsame
  refine ⟨h'.unlinked, h'.folders.trans h.folders, ?_, ?_, ?_, ?_, ?_⟩
  · intro names hnames
    rw [List.map_append, List.mem_append, not_or] at hnames
    exact (h'.frame names hnames.2).trans (h.frame names hnames.1)
  · intro q hq hnames
    rw [List.map_append, List.mem_append, not_or] at hnames
    exact (h.sameAt q hq hnames.1).trans (h'.sameAt q hq hnames.2)
  · intro hreal p hp
    rcases List.mem_append.mp hp with hp | hp
    · have hnew : p.names ∉ qs.map (·.names) := by
        intro hmem
        obtain ⟨q, hq, hnames⟩ := List.mem_map.mp hmem
        exact hapart q hq (List.mem_map.mpr ⟨p, hp, hnames.symm⟩)
      exact (h'.frame p.names hnew).trans (h.each hreal p hp)
    · rw [h'.each hreal p hp]
      exact (Fix.run_congr _ _ hlinks (hqs p hp) (hsame p hp)).2
  · rw [h'.changed, h.changed, hfiles, altered_append, List.length_append, Nat.add_assoc]
  · rw [h'.output, h.output, htexts, diffs_append]
    cases dryRun <;> simp

section Each

variable (hregistry : project.registry.extra = [])
include hregistry

/-- One file: a change is counted, and its diff is shown in a dry run. -/
theorem add_spec (dryRun : Bool) {tree : FileTree} (hlinks : tree.Unlinked) {p : Path} (hp : p.IsPlain)
    (hwrite : Fix.CanWrite project.registry project.config cwd tree p) (t : FixState) :
    ∃ u, t.add dryRun p (Fix.run project.registry project.config dryRun cwd tree p) = .ok u ∧
      u.changed = t.changed + (altered project cwd tree [p]).length ∧
      u.output = t.output ++ if dryRun then diffs project cwd tree [p] else [] := by
  have hcases := Fix.outcome_cases project.registry project.config cwd hlinks hp hwrite dryRun
  have hfinished := Fix.outcome_ne_unfinished project.config cwd hregistry hwrite dryRun
  have hwritten := hwrite.outcome_ne project.registry project.config cwd dryRun
  unfold FixState.add
  cases hout : (Fix.run project.registry project.config dryRun cwd tree p).outcome with
  | error stop =>
    simp only [hout] at hcases hfinished hwritten
    cases stop with
    | unfinished e => exact absurd rfl (hfinished e)
    | unwritten f => exact absurd rfl (hwritten f)
    | conflict k => exact ⟨_, rfl, by simp [altered, hcases], by simp [diffs, altered, hcases]⟩
  | ok o =>
    simp only [hout] at hcases
    obtain ⟨hchanged, hdiff⟩ := hcases
    cases halters : Fix.alters project.registry project.config cwd tree p with
    | false =>
      exact ⟨t, by simp [hchanged, halters], by simp [altered, halters],
        by simp [diffs, altered, halters]⟩
    | true =>
      simp only [hchanged, halters, if_true]
      refine ⟨_, rfl, by simp [altered, halters], ?_⟩
      cases dryRun <;> simp [diffs, altered, halters, hdiff]

/-- Going through one file that can be written. -/
theorem fixEach_singleton (dryRun : Bool) {s : FixState} (hlinks : s.tree.Unlinked) {p : Path}
    (hp : p.IsPlain) (hwrite : Fix.CanWrite project.registry project.config cwd s.tree p) :
    ∃ u, fixEach dryRun project cwd s [p] = (u, none) ∧ FixedEach project cwd dryRun s u [p] := by
  have hframe := Fix.bytes?_run_of_ne project.registry project.config cwd hlinks hp dryRun
  have hsame := Fix.sameAt_run_of_ne project.registry project.config cwd hlinks hp dryRun
  have hkept := Fix.unlinked_run project.registry project.config cwd hlinks hp dryRun
  have hfolders := Fix.folders_run project.registry project.config cwd hlinks hp dryRun
  obtain ⟨u, hadd, hchanged, houtput⟩ := add_spec hregistry dryRun hlinks hp hwrite
    { s with
      tree := (Fix.run project.registry project.config dryRun cwd s.tree p).tree
      records := s.records ++ (Fix.run project.registry project.config dryRun cwd s.tree p).records }
  have htree : u.tree = (Fix.run project.registry project.config dryRun cwd s.tree p).tree :=
    FixState.tree_of_add hadd
  rw [← htree] at hframe hsame hkept hfolders
  refine ⟨u, ?_, hkept, hfolders, ?_, ?_, ?_, hchanged, houtput⟩
  · rw [fixEach]
    simp only [hadd]
    rfl
  · intro names hnames
    exact hframe names (mt List.mem_singleton.mpr hnames)
  · intro q hq hnames
    exact hsame q hq (mt List.mem_singleton.mpr hnames)
  · rintro rfl q hq
    rw [List.mem_singleton.mp hq, htree]

/-- Going through files that can be written. -/
theorem fixEach_spec (dryRun : Bool) {ps : List Path} (hps : ∀ p ∈ ps, p.IsPlain)
    (hnodup : (ps.map (·.names)).Nodup) {s : FixState} (hlinks : s.tree.Unlinked)
    (hwrite : ∀ p ∈ ps, Fix.CanWrite project.registry project.config cwd s.tree p) :
    ∃ u, fixEach dryRun project cwd s ps = (u, none) ∧ FixedEach project cwd dryRun s u ps := by
  induction ps generalizing s with
  | nil =>
    exact ⟨s, rfl, hlinks, rfl, fun _ _ => rfl, fun _ _ _ => ⟨rfl, rfl, rfl⟩, by simp, rfl,
      by cases dryRun <;> simp [diffs, altered]⟩
  | cons p ps ih =>
    obtain ⟨hp, hps⟩ := List.forall_mem_cons.mp hps
    obtain ⟨hfirst, hnodup⟩ := List.nodup_cons.mp hnodup
    obtain ⟨hwriteFirst, hwrite⟩ := List.forall_mem_cons.mp hwrite
    have hapart : ∀ q ∈ ps, q.names ∉ [p].map (·.names) := by
      intro q hq hmem
      exact hfirst (List.mem_singleton.mp hmem ▸ List.mem_map_of_mem hq)
    obtain ⟨u, hu, hone⟩ := fixEach_singleton hregistry dryRun hlinks hp hwriteFirst
    obtain ⟨v, hv, hothers⟩ := ih hps hnodup hone.unlinked fun q hq =>
      (Fix.alone_congr _ _ hlinks (hps q hq) (hone.sameAt q (hps q hq) (hapart q hq))).1.mpr (hwrite q hq)
    exact ⟨v, (fixEach_append hu ps).trans hv, hone.append hlinks hps hapart hothers⟩

/-- Up to the first file that cannot be written: it and the files in front of it have what runs on them alone
    leave, and nothing else has changed. -/
theorem fixEach_of_unwritten {before : List Path} {p : Path} (after : List Path)
    (hps : ∀ q ∈ before ++ [p], q.IsPlain) (hnodup : ((before ++ [p]).map (·.names)).Nodup)
    {s : FixState} (hlinks : s.tree.Unlinked)
    (hwrite : ∀ q ∈ before, Fix.CanWrite project.registry project.config cwd s.tree q)
    {fault : WriteFault} (hfault : (Fix.run project.registry project.config false cwd s.tree p).outcome =
      .error (.unwritten fault)) :
    ∃ u, fixEach false project cwd s (before ++ p :: after) = (u, some (.write p fault)) ∧
      (∀ q ∈ before ++ [p], u.tree.bytes? q.names =
        (Fix.run project.registry project.config false cwd s.tree q).tree.bytes? q.names) ∧
      ∀ names ∉ (before ++ [p]).map (·.names), u.tree.bytes? names = s.tree.bytes? names := by
  obtain ⟨hbefore, hp⟩ := List.forall_mem_append.mp hps
  replace hp := hp p List.mem_cons_self
  rw [List.map_append, List.nodup_append] at hnodup
  obtain ⟨hnodup, -, hapart⟩ := hnodup
  have hnew : p.names ∉ before.map (·.names) := fun hmem => hapart _ hmem _ List.mem_cons_self rfl
  obtain ⟨u, hfixed, hu⟩ := fixEach_spec hregistry false hbefore hnodup hlinks hwrite
  obtain ⟨houtcome, hleft⟩ := Fix.run_congr project.registry project.config hlinks hp
    (hu.sameAt p hp hnew)
  have hframe := Fix.bytes?_run_of_ne project.registry project.config cwd hu.unlinked hp false
  let r := Fix.run project.registry project.config false cwd u.tree p
  refine ⟨{ u with tree := r.tree, records := u.records ++ r.records }, ?_, ?_, ?_⟩
  · rw [fixEach_append hfixed, fixEach, FixState.add, houtcome false, hfault]
  · intro q hq
    rcases List.mem_append.mp hq with hq | hq
    · exact (hframe q.names fun h => hnew (h ▸ List.mem_map_of_mem hq)).trans (hu.each rfl q hq)
    · cases List.mem_singleton.mp hq
      exact hleft
  · intro names hnames
    rw [List.map_append, List.mem_append, not_or, List.map_singleton, List.mem_singleton] at hnames
    exact (hframe names hnames.2).trans (hu.frame names hnames.1)

end Each

/-! ## The whole task -/

theorem exists_of_bind_eq_ok {ε ε' α β : Type} {f : ε → ε'} {x : Except ε α}
    {g : α → Except ε' β} {r : β} (h : x.mapError f >>= g = .ok r) : ∃ a, x = .ok a ∧ g a = .ok r := by
  cases x with
  | error e => cases h
  | ok a => exact ⟨a, rfl, h⟩

variable {modules : PluginModules} {tree : FileTree}

/-- Without plugins the registry has the built-in rules only. -/
theorem Project.registry_of_find {start : Path} (h : Project.find modules tree cwd start = .ok project)
    (hplugins : project.config.plugins = []) : project.registry.extra = [] := by
  obtain ⟨config, -, h⟩ := exists_of_bind_eq_ok h
  obtain ⟨rules, hrules, h⟩ := exists_of_bind_eq_ok h
  obtain ⟨registry, hregistry, h⟩ := exists_of_bind_eq_ok h
  cases h
  rw [show config.plugins = [] from hplugins] at hrules
  cases hrules
  cases hregistry
  rfl

theorem isPlain_of_existing {arguments : List Text} {paths : List Path}
    (h : arguments.mapM (existing? tree cwd) = some paths) : ∀ p ∈ paths, p.IsPlain := by
  induction arguments generalizing paths with
  | nil => cases h; simp
  | cons a as ih =>
    simp only [List.mapM_cons, Option.bind_eq_bind, Option.bind_eq_some_iff, Option.pure_def,
      Option.some.injEq] at h
    obtain ⟨p, hp, ps, hps, rfl⟩ := h
    unfold existing? at hp
    simp only at hp
    split_ifs at hp
    cases hp
    exact List.forall_mem_cons.mpr ⟨tree.isPlain_realPath _ _, ih hps⟩

namespace Response

variable (consoles : Consoles) (tree)

theorem tree_ofProjectError (e : ProjectError) : (ofProjectError consoles tree e).tree = tree := by
  have hmessage : ∀ message, (configurationError consoles tree message).tree = tree := by
    intro message
    unfold configurationError
    split <;> rfl
  unfold ofProjectError
  split
  · exact hmessage _
  · rfl
  · exact hmessage _
  · exact hmessage _

theorem tree_ofPrints (status : Nat) (output : Text) (prints : List Print) :
    (ofPrints consoles tree status output prints).tree = tree := by
  unfold ofPrints
  split <;> rfl

end Response

theorem not_mem_summaryText {c : Char} (hdigit : Text.isAsciiDigit c = false)
    (hwords : ∀ words ∈ ["No changes needed.".toList, "Fixed ".toList, " file(s).".toList], c ∉ words)
    (changed : Nat) : c ∉ summaryText changed := by
  simp only [List.forall_mem_cons] at hwords
  obtain ⟨hnone, hfixed, hfiles, -⟩ := hwords
  unfold summaryText
  split_ifs
  · exact hnone
  · simp only [List.mem_append, not_or]
    exact ⟨⟨hfixed, Text.not_mem_decimal hdigit changed⟩, hfiles⟩

/-- How many files have changed is printed as it is written. -/
theorem lines_summary {console : Console} (h : console.Laws) (changed : Nat) :
    ∃ ls, console.lines (.text (summaryText changed)) = .ok ls ∧
      console.lines (.markup (summaryText changed)) = .ok ls := by
  have hopen : '[' ∉ summaryText changed := not_mem_summaryText (by decide) (by decide) changed
  have hcolon : ':' ∉ summaryText changed := not_mem_summaryText (by decide) (by decide) changed
  obtain ⟨ls, hls⟩ := h.text (summaryText changed)
  exact ⟨ls, hls, (h.isLiteral_of_not_mem hopen hcolon).trans hls⟩

/-- A dry run changes nothing, whatever the tree is. -/
theorem tree_fixFiles_dry (consoles : Consoles) (verbosity : Verbosity) (paths : List Path) :
    (fixFiles consoles verbosity true project tree cwd paths).tree = tree := by
  have htree := tree_fixEach_dry project cwd { tree } (tree.sources cwd paths)
  simp only [fixFiles, Response.withLog]
  cases (fixEach true project cwd { tree } (tree.sources cwd paths)).2 with
  | some c => exact htree
  | none => exact (Response.tree_ofPrints ..).trans htree

theorem fixFiles_of_fixEach {consoles : Consoles} (hconsole : consoles.output.Laws)
    (verbosity : Verbosity) {dryRun : Bool} {paths : List Path} {u : FixState}
    (h : fixEach dryRun project cwd { tree } (tree.sources cwd paths) = (u, none)) :
    let response := fixFiles consoles verbosity dryRun project tree cwd paths
    response.crash = none ∧ response.tree = u.tree ∧
      ∃ ls, consoles.output.lines (.text (summaryText u.changed)) = .ok ls ∧
        response.output = u.output ++ if dryRun && u.changed ≠ 0 then [] else ofLines ls := by
  obtain ⟨ls, htext, hmarkup⟩ := lines_summary hconsole u.changed
  simp only [fixFiles, h, fixSummary, Response.withLog]
  split_ifs
  · exact ⟨rfl, rfl, ls, htext, rfl⟩
  · simp only [Response.ofPrints, Print.run, hmarkup]
    exact ⟨trivial, trivial, ls, htext, by simp⟩

section Files

variable (consoles : Consoles) (verbosity : Verbosity) {paths : List Path}
  (hregistry : project.registry.extra = []) (hlinks : tree.Unlinked)
  (hplain : ∀ p ∈ tree.sources cwd paths, p.IsPlain)
  (hnodup : ((tree.sources cwd paths).map (·.names)).Nodup)
include hregistry hlinks hplain hnodup

/-- What the task leaves and prints if every listed file can be written. -/
theorem fixFiles_of_canWrite (hconsole : consoles.output.Laws) (dryRun : Bool)
    (hwrite : ∀ p ∈ tree.sources cwd paths, Fix.CanWrite project.registry project.config cwd tree p) :
    let response := fixFiles consoles verbosity dryRun project tree cwd paths
    let files := tree.sources cwd paths
    let changed := altered project cwd tree files
    ∃ u, FixedEach project cwd dryRun { tree } u files ∧ response.crash = none ∧ response.tree = u.tree ∧
      ∃ ls, consoles.output.lines (.text (summaryText changed.length)) = .ok ls ∧
        response.output = if dryRun && changed ≠ [] then diffs project cwd tree files else ofLines ls := by
  intro response files changed
  obtain ⟨u, hfixed, hu⟩ := fixEach_spec hregistry dryRun hplain hnodup (s := { tree }) hlinks hwrite
  obtain ⟨hcrash, htree, ls, hls, houtput⟩ := fixFiles_of_fixEach hconsole verbosity hfixed
  have hcount : u.changed = changed.length := hu.changed.trans (Nat.zero_add _)
  have hshown : u.output = if dryRun then diffs project cwd tree files else [] := hu.output
  have hnone : changed = [] → diffs project cwd tree files = [] := by
    intro h
    rw [diffs, show altered project cwd tree files = [] from h]
    rfl
  rw [hcount] at hls houtput
  refine ⟨u, hu, hcrash, htree, ls, hls, ?_⟩
  rw [houtput, hshown]
  cases dryRun <;> by_cases h : changed = [] <;> simp [h, hnone]

/-- What the task leaves if it comes to a file that cannot be written. -/
theorem fixFiles_of_unwritten {before after : List Path} {p : Path}
    (hfiles : tree.sources cwd paths = before ++ p :: after)
    (hwrite : ∀ q ∈ before, Fix.CanWrite project.registry project.config cwd tree q)
    {fault : WriteFault} (hfault : (Fix.run project.registry project.config false cwd tree p).outcome =
      .error (.unwritten fault)) :
    let response := fixFiles consoles verbosity false project tree cwd paths
    response.crash = some (.write p fault) ∧ response.status = 1 ∧
      (∀ q ∈ before ++ [p], response.tree.bytes? q.names =
        (Fix.run project.registry project.config false cwd tree q).tree.bytes? q.names) ∧
      ∀ names ∉ (before ++ [p]).map (·.names), response.tree.bytes? names = tree.bytes? names := by
  have hsplit : tree.sources cwd paths = (before ++ [p]) ++ after := by rw [hfiles, List.append_cons]
  rw [hsplit] at hplain hnodup
  rw [List.map_append] at hnodup
  obtain ⟨u, hfixed, hu⟩ := fixEach_of_unwritten hregistry after (List.forall_mem_append.mp hplain).1
    (List.nodup_append.mp hnodup).1 (s := { tree }) hlinks hwrite hfault
  simp only [fixFiles, hfiles, hfixed, Response.withLog]
  exact ⟨rfl, rfl, hu⟩

end Files

/-- **Files are fixed independently.** A dry run leaves every tree as it is, and so does `fix` if no argument
    is given, an argument does not exist or the configuration of the project cannot be loaded. For a project
    without plugins and a tree without links, no file is listed twice, and if every listed file can be
    written: files that are not listed are as before, and every listed one has what a run on it alone leaves,
    which is what it had if its edits conflict. The altered ones are exactly the files whose bytes differ, and
    their number is printed. A dry run shows the diffs of exactly these files in the same order. A file that
    cannot be written ends the task: it and the files in front of it have what runs on them alone leave, and
    nothing else has changed. -/
theorem runTask_fix_independent (consoles : Consoles) (modules : PluginModules) (verbosity : Verbosity)
    (tree : FileTree) (cwd : Path) (arguments : List Text) :
    let real := runTask consoles modules verbosity tree cwd (.fix arguments false)
    let dry := runTask consoles modules verbosity tree cwd (.fix arguments true)
    dry.tree = tree ∧
    (arguments.mapM (existing? tree cwd) ∈ [none, some []] → real.tree = tree) ∧
    ∀ start others, arguments.mapM (existing? tree cwd) = some (start :: others) →
      (∀ e, Project.find modules tree cwd start = .error e → real.tree = tree) ∧
      ∀ project, Project.find modules tree cwd start = .ok project → project.config.plugins = [] →
        tree.Unlinked → tree.WellNamed → consoles.output.Laws →
        let files := tree.sources cwd (start :: others)
        let alone := Fix.run project.registry project.config false cwd tree
        let changed := files.filter fun p => (alone p).tree.bytes? p.names ≠ tree.bytes? p.names
        (files.map (·.names)).Nodup ∧
        ((∀ p ∈ files, Fix.CanWrite project.registry project.config cwd tree p) →
          (real.crash = none ∧ dry.crash = none) ∧
          (∀ names ∉ files.map (·.names), real.tree.bytes? names = tree.bytes? names) ∧
          real.tree.folders = tree.folders ∧
          (∀ p ∈ files, real.tree.bytes? p.names = (alone p).tree.bytes? p.names) ∧
          (∀ p ∈ files, ∀ k, (alone p).outcome = .error (.conflict k) →
            real.tree.bytes? p.names = tree.bytes? p.names) ∧
          (∀ names, real.tree.bytes? names ≠ tree.bytes? names ↔ names ∈ changed.map (·.names)) ∧
          ∃ lines, consoles.output.lines (.text (if changed = [] then "No changes needed."
              else "Fixed ".toList ++ Text.decimal changed.length ++ " file(s).")) = .ok lines ∧
            real.output = ofLines lines ∧
            dry.output = if changed = [] then ofLines lines else changed.flatMap fun p =>
              Fix.diffOf project.registry project.config cwd tree p ++ "\n") ∧
        ∀ before p after fault, files = before ++ p :: after →
          (∀ q ∈ before, Fix.CanWrite project.registry project.config cwd tree q) →
          (alone p).outcome = .error (.unwritten fault) →
          real.crash = some (.write p fault) ∧ real.status = 1 ∧
          (∀ q ∈ before ++ [p], real.tree.bytes? q.names = (alone q).tree.bytes? q.names) ∧
          ∀ names ∉ (before ++ [p]).map (·.names), real.tree.bytes? names = tree.bytes? names := by
  intro real dry
  refine ⟨?_, ?_, fun start others hexist => ⟨?_, ?_⟩⟩
  · unfold dry runTask
    simp only
    split
    · unfold withProject
      split
      · exact tree_fixFiles_dry ..
      · exact Response.tree_ofProjectError ..
    · rfl
  · intro hnone
    unfold real runTask
    rcases List.mem_pair.mp hnone with h | h <;> simp only [h] <;> rfl
  · intro e he
    unfold real runTask withProject
    simp only [hexist, he, Response.tree_ofProjectError]
  · intro project hfind hplugins hlinks hnames hconsole files alone changed
    have hregistry := Project.registry_of_find hfind hplugins
    have hpaths := isPlain_of_existing hexist
    have hplain : ∀ p ∈ files, p.IsPlain := fun p hp =>
      FileTree.isPlain_of_mem_sources hlinks.symbolic hnames hpaths hp
    have hnodup : (files.map (·.names)).Nodup :=
      FileTree.nodup_names_sources hlinks.symbolic hnames hpaths
    have hrun : ∀ dryRun, runTask consoles modules verbosity tree cwd (.fix arguments dryRun) =
        fixFiles consoles verbosity dryRun project tree cwd (start :: others) := by
      intro dryRun
      unfold runTask withProject
      simp only [hexist, hfind]
    refine ⟨hnodup, fun hwrite => ?_, fun before p after fault hfiles hbefore hfault => ?_⟩
    · obtain ⟨u, hu, hcrash, htree, ls, hls, houtput⟩ :=
        fixFiles_of_canWrite consoles verbosity hregistry hlinks hplain hnodup hconsole false hwrite
      obtain ⟨-, -, hcrash', -, ls', hls', houtput'⟩ :=
        fixFiles_of_canWrite consoles verbosity hregistry hlinks hplain hnodup hconsole true hwrite
      obtain rfl : ls = ls' := Except.ok.inj (hls.symm.trans hls')
      rw [← hrun] at hcrash htree houtput hcrash' houtput'
      have hframe : ∀ names ∉ files.map (·.names), real.tree.bytes? names = tree.bytes? names :=
        fun names hnew => (congrArg (·.bytes? names) htree).trans (hu.frame names hnew)
      have heach : ∀ p ∈ files, real.tree.bytes? p.names = (alone p).tree.bytes? p.names :=
        fun p hp => (congrArg (·.bytes? p.names) htree).trans (hu.each rfl p hp)
      refine ⟨⟨hcrash, hcrash'⟩, hframe, (congrArg (·.folders) htree).trans hu.folders, heach, ?_,
        bytes?_ne_iff_mem_altered project cwd hframe heach, ls, ?_, houtput, ?_⟩
      · intro p hp k hk
        exact (heach p hp).trans (Fix.bytes?_run_of_conflict _ _ _ hlinks (hplain p hp) hk)
      · rw [← hls, summaryText]
        simp only [List.length_eq_zero_iff]
        rfl
      · rw [houtput']
        simp only [Bool.true_and, decide_eq_true_eq, ite_not]
        rfl
    · obtain ⟨hcrash, hstatus, heach, hframe⟩ :=
        fixFiles_of_unwritten consoles verbosity hregistry hlinks hplain hnodup hfiles hbefore
          hfault
      rw [← hrun] at hcrash hstatus heach hframe
      exact ⟨hcrash, hstatus, heach, hframe⟩

/-- Two files, of which one has a class to rename. -/
theorem runTask_fix_independent_two :
    let here : Path := ⟨"/", []⟩
    let a : Path := ⟨"/", ["a.py".toList]⟩
    let b : Path := ⟨"/", ["b.py".toList]⟩
    let tree : FileTree :=
      { files := [(a.names, Utf8.encode "class A(Command): pass\n"), (b.names, Utf8.encode "x = 1\n")] }
    let real := runTask (Terminal.consoles 80) [] .normal tree here (.fix ["b.py", "a.py"] false)
    let dry := runTask (Terminal.consoles 80) [] .normal tree here (.fix ["b.py", "a.py"] true)
    tree.Unlinked ∧ tree.WellNamed ∧ real.tree.bytes? b.names = some (Utf8.encode "x = 1\n") ∧
      real.tree.bytes? a.names = some (Utf8.encode "class ACommand(Command): pass\n") ∧
      real.output = "Fixed 1 file(s).\n".toList ∧ dry.tree = tree := by
  intro here a b tree real dry
  have hlinks : tree.Unlinked := ⟨rfl, rfl⟩
  have hnames : tree.WellNamed := by unfold FileTree.WellNamed; decide
  have hexist : ["b.py".toList, "a.py".toList].mapM (existing? tree here) = some [b, a] := by
    decide +kernel
  let project : Project := { root := here, config := {}, registry := {}, records := [] }
  have hproject : Project.find [] tree here b = .ok project := rfl
  have hfiles : tree.sources here [b, a] = [a, b] := by decide +kernel
  have halone : (Fix.run {} {} false here tree a).tree.bytes? a.names =
      some (Utf8.encode "class ACommand(Command): pass\n") := by decide +kernel
  have hsame : (Fix.run {} {} false here tree b).tree.bytes? b.names = some (Utf8.encode "x = 1\n") := by
    decide +kernel
  obtain ⟨hdry, -, hrun⟩ :=
    runTask_fix_independent (Terminal.consoles 80) [] .normal tree here ["b.py", "a.py"]
  obtain ⟨-, hwritten, -⟩ := (hrun b [a] hexist).2 project hproject rfl hlinks hnames
    (Terminal.laws_console 80)
  rw [hfiles] at hwritten
  obtain ⟨-, -, -, heach, -, -, lines, hlines, houtput, -⟩ :=
    hwritten fun p _ => Fix.canWrite_of_no_faults {} {} here rfl p
  have hchanged : [a, b].filter (fun p =>
      (Fix.run {} {} false here tree p).tree.bytes? p.names ≠ tree.bytes? p.names) = [a] := by
    decide +kernel
  refine ⟨hlinks, hnames, ?_, ?_, ?_, hdry⟩
  · exact (heach b (List.mem_cons_of_mem _ List.mem_cons_self)).trans hsame
  · exact (heach a List.mem_cons_self).trans halone
  · rw [hchanged] at hlines
    cases hlines
    rw [houtput]
    decide +kernel

/-- Without these conditions files are not independent: with an argument that does not exist no file is
    fixed; through a link a file is changed that is not listed; and behind a file that cannot be written
    no file is fixed. -/
theorem runTask_fix_not_independent :
    let here : Path := ⟨"/", []⟩
    let a : Path := ⟨"/", ["a.py".toList]⟩
    let b : Path := ⟨"/", ["b.py".toList]⟩
    let hidden := ["hidden".toList]
    let old := Utf8.encode "class A(Command): pass\n"
    let new := Utf8.encode "class ACommand(Command): pass\n"
    let fix (tree : FileTree) (arguments : List Text) : Response :=
      runTask (Terminal.consoles 80) [] .normal tree here (.fix arguments false)
    let single : FileTree := { files := [(a.names, old)] }
    let symbolic : FileTree := { files := [(hidden, old)], links := [(a.names, ⟨[], hidden⟩)] }
    let hard : FileTree := { files := [(a.names, old), (hidden, old)], hardLinks := [[a.names, hidden]] }
    let faulty : FileTree :=
      { files := [(a.names, old), (b.names, old)], faults := [(a.names, .denied)] }
    (single.sources here [a, b] = [a] ∧ (Fix.run {} {} false here single a).tree.bytes? a.names = some new ∧
      (fix single ["a.py", "b.py"]).tree.bytes? a.names = some old) ∧
    (symbolic.sources here [here] = [a] ∧ (fix symbolic ["."]).tree.bytes? hidden = some new) ∧
    (hard.sources here [here] = [a] ∧ (fix hard ["."]).tree.bytes? hidden = some new) ∧
    (faulty.sources here [here] = [a, b] ∧
      (Fix.run {} {} false here faulty b).tree.bytes? b.names = some new ∧
      (fix faulty ["."]).tree.bytes? b.names = some old) := by
  decide +kernel

end Command

end HouseStyle
