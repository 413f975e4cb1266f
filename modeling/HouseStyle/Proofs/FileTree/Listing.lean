import HouseStyle.Proofs.FileTree.Writing
import HouseStyle.Proofs.Sorting

/-!
# The files that are listed

The sources that paths stand for are listed by plain paths (`Path.IsPlain`), which start at the top and
never go up. Where there are no symbolic links, a plain path is the only one with its names and leads to
the file of these names or to no file, so no file is listed twice.

Main definitions:
* `Path.IsPlain`: paths from the top without `..`.
* `FileTree.Searched`: the names by which a search finds a file.
* `FileTree.Unlinked`: trees without links.
* `FileTree.WellNamed`: trees in which no file has `..` among its names.

Main results:
* `FileTree.isPlain_realPath`, `FileTree.realPath_eq_resolve`: real paths.
* `FileTree.mem_below`: what a search of a folder finds.
* `FileTree.names_of_locate_plain`: where plain paths lead.
* `FileTree.isPlain_of_mem_sources`, `FileTree.nodup_names_sources`: the list of sources.
-/

namespace HouseStyle

/-! ## Plain paths -/

namespace Path

/-- The path starts at the top with one slash, and it never goes up. -/
structure IsPlain (p : Path) : Prop where
  anchor : p.anchor = "/".toList
  names : "..".toList ∉ p.names

theorem IsPlain.eq_of_names {p q : Path} (hp : p.IsPlain) (hq : q.IsPlain)
    (h : p.names = q.names) : p = q := by
  cases p
  cases q
  rw [Path.mk.injEq]
  exact ⟨hp.anchor.trans hq.anchor.symm, h⟩

theorem IsPlain.join {p : Path} (hp : p.IsPlain) (cwd : Path) : cwd.join p = p := by
  rw [Path.join, isAbsolute, hp.anchor]
  rfl

theorem not_mem_resolveStep {names : List Text} {n : Text} (h : "..".toList ∉ names) :
    "..".toList ∉ resolveStep names n := by
  rw [resolveStep]
  split_ifs with hn
  · exact fun hmem => h (List.dropLast_subset names hmem)
  · rw [List.mem_append, List.mem_singleton, not_or]
    exact ⟨h, Ne.symm hn⟩

theorem not_mem_foldl_resolveStep {names : List Text} (h : "..".toList ∉ names)
    (ns : List Text) : "..".toList ∉ ns.foldl resolveStep names := by
  induction ns generalizing names with
  | nil => exact h
  | cons n ns ih => exact ih (not_mem_resolveStep h)

/-- Resolved paths are plain. -/
theorem isPlain_resolve (cwd p : Path) : (resolve cwd p).IsPlain :=
  ⟨rfl, not_mem_foldl_resolveStep (by simp) _⟩

/-- Without `..` every name is one step down. -/
theorem foldl_resolveStep_eq (start : List Text) {ns : List Text} (h : "..".toList ∉ ns) :
    ns.foldl resolveStep start = start ++ ns := by
  induction ns generalizing start with
  | nil => simp
  | cons n ns ih =>
    rw [List.mem_cons, not_or] at h
    rw [List.foldl_cons, ih _ h.2, resolveStep, if_neg (Ne.symm h.1)]
    simp

end Path

/-! ## Real paths -/

namespace FileTree

/-- Real paths are plain. -/
theorem isPlain_realPath (tree : FileTree) (cwd p : Path) : (tree.realPath cwd p).IsPlain :=
  ⟨rfl, Path.not_mem_foldl_resolveStep (by simp) _⟩

theorem foldl_realStep {tree : FileTree} (hlinks : tree.links = []) (openLinks : List (List Text))
    (expand : List (List Text) → List Text → List Text → RealNames) (names path : List Text) :
    path.foldl (tree.realStep openLinks expand) (names, true) =
      (path.foldl Path.resolveStep names, true) := by
  induction path generalizing names with
  | nil => rfl
  | cons n ns ih =>
    have hstep : tree.realStep openLinks expand (names, true) n = (Path.resolveStep names n, true) := by
      simp [realStep, target?, hlinks]
    rw [List.foldl_cons, List.foldl_cons, hstep, ih]

/-- Without symbolic links, the real path is the resolved one. -/
theorem realPath_eq_resolve {tree : FileTree} (hlinks : tree.links = []) (cwd p : Path) :
    tree.realPath cwd p = Path.resolve cwd p := by
  have hplain := (Path.isPlain_resolve cwd p).names
  rw [Path.resolve] at hplain
  rw [realPath, realNames, foldl_realStep hlinks, Path.resolve, Path.foldl_resolveStep_eq [] hplain,
    List.nil_append]

/-! ## Searching a folder -/

/-- A search finds a file by these names: it is a source, and no folder on the way is skipped. -/
inductive Searched : List Text → Prop
  | file {n : Text} (h : isSourceName n = true) : Searched [n]
  | folder {d : Text} {ns : List Text} (hd : d ∉ skippedFolders) (h : Searched ns) : Searched (d :: ns)

theorem searched_singleton_iff {n : Text} : Searched [n] ↔ isSourceName n = true := by
  constructor
  · intro h
    cases h with
    | file h => exact h
    | folder _ h => cases h
  · exact .file

theorem searched_cons_cons_iff {d n : Text} {ns : List Text} :
    Searched (d :: n :: ns) ↔ d ∉ skippedFolders ∧ Searched (n :: ns) := by
  constructor
  · intro h
    cases h with
    | folder hd h => exact ⟨hd, h⟩
  · exact fun h => .folder h.1 h.2

namespace Folder

theorem mem_searchEach_cons {n : Text} {g : Folder} {rest : List (Text × Folder)} {x : List Text} :
    x ∈ searchEach ((n, g) :: rest) ↔
      (n ∉ skippedFolders ∧ ∃ ns ∈ g.search, n :: ns = x) ∨ x ∈ searchEach rest := by
  rw [searchEach, List.mem_append]
  refine or_congr_left ?_
  split_ifs with h
  · simp [List.contains_iff_mem.mp h]
  · simp [mt List.contains_iff_mem.mpr h]

/-- What a change adds to a folder is found behind the name of the folder, unless this is skipped. -/
theorem mem_searchEach_change {name : Text} {f : Folder → Folder} {P : List Text → Prop}
    (hf : ∀ g ns, ns ∈ (f g).search ↔ ns ∈ g.search ∨ P ns) (folders : List (Text × Folder))
    (x : List Text) : x ∈ searchEach (change name f folders) ↔
      x ∈ searchEach folders ∨ (name ∉ skippedFolders ∧ ∃ ns, P ns ∧ name :: ns = x) := by
  induction folders with
  | nil =>
    have hempty : ∀ ns, ns ∉ empty.search := by simp [empty, search, searchEach]
    rw [change, mem_searchEach_cons]
    simp only [hf, hempty, false_or, searchEach, List.not_mem_nil, or_false]
  | cons entry rest ih =>
    obtain ⟨n, g⟩ := entry
    rw [change]
    split_ifs with h
    · subst h
      rw [mem_searchEach_cons, mem_searchEach_cons]
      simp only [hf, or_and_right, exists_or, and_or_left]
      exact or_right_comm
    · rw [mem_searchEach_cons, mem_searchEach_cons, ih, or_assoc]

/-- A search finds the added file, if it finds it at all, and what it found before. -/
theorem mem_search_add (ns : List Text) (g : Folder) (x : List Text) :
    x ∈ (add ns g).search ↔ x ∈ g.search ∨ (Searched ns ∧ ns = x) := by
  induction ns generalizing g x with
  | nil =>
    rw [add]
    exact (or_iff_left fun h => nomatch h.1).symm
  | cons d ns ih =>
    obtain ⟨files, folders⟩ := g
    cases ns with
    | nil =>
      rw [add, search, search, searched_singleton_iff]
      simp only [List.mem_append, List.mem_map, List.mem_filter, List.mem_cons, or_and_right,
        exists_or, exists_eq_left, and_assoc]
      exact or_assoc.trans (or_comm)
    | cons n ns =>
      rw [add, search, search, List.mem_append, List.mem_append, mem_searchEach_change ih,
        searched_cons_cons_iff, or_assoc, and_assoc]
      simp only [and_assoc, exists_and_left, exists_eq_left']

end Folder

/-- The sources below a folder are the files below it that a search finds. -/
theorem mem_below {tree : FileTree} {folder ns : List Text} :
    ns ∈ tree.below folder ↔ ns ∈ tree.filesBelow folder ∧ Searched ns := by
  rw [below]
  induction tree.filesBelow folder with
  | nil => simp [Folder.empty, Folder.search, Folder.searchEach]
  | cons f fs ih =>
    rw [List.foldr_cons, Folder.mem_search_add, ih, List.mem_cons, or_and_right, or_comm]
    refine or_congr_left ⟨?_, ?_⟩
    · rintro ⟨h, rfl⟩
      exact ⟨rfl, h⟩
    · rintro ⟨rfl, h⟩
      exact ⟨h, rfl⟩

/-! ## Sources -/

/-- There are neither symbolic nor hard links. -/
structure Unlinked (tree : FileTree) : Prop where
  symbolic : tree.links = []
  hard : tree.hardLinks = []

/-- No file has `..` among its names: this is the way up and no name. -/
def WellNamed (tree : FileTree) : Prop := ∀ f ∈ tree.files, "..".toList ∉ f.1

/-- Without symbolic links, a plain path leads to the file of its names, if it leads to a file. -/
theorem names_of_locate_plain {tree : FileTree} (hlinks : tree.links = []) {cwd p : Path}
    (hp : p.IsPlain) {names : List Text} {b : Bytes} (h : tree.locate cwd p = .ok (.file names b)) :
    names = p.names := by
  rw [names_of_locate hlinks h, hp.join, Path.foldl_resolveStep_eq [] hp.names, List.nil_append]

theorem leaves_eq {tree : FileTree} (hlinks : tree.links = []) : tree.leaves = tree.files.map (·.1) := by
  rw [leaves, hlinks]
  exact List.append_nil _

theorem isPlain_of_mem_sourcesOf {tree : FileTree} (hlinks : tree.links = []) (htree : tree.WellNamed)
    {cwd p q : Path} (hp : p.IsPlain) (hq : q ∈ tree.sourcesOf cwd p) : q.IsPlain := by
  unfold sourcesOf at hq
  split at hq
  · split_ifs at hq
    · cases List.mem_singleton.mp hq
      exact hp
    · cases hq
  · obtain ⟨ns, hns, rfl⟩ := List.mem_map.mp hq
    obtain ⟨names, hnames, hbelow⟩ := List.mem_filterMap.mp (mem_below.mp hns).1
    rw [leaves_eq hlinks] at hnames
    obtain ⟨f, hf, rfl⟩ := List.mem_map.mp hnames
    split_ifs at hbelow
    cases hbelow
    refine ⟨hp.anchor, ?_⟩
    rw [List.mem_append, not_or]
    exact ⟨hp.names, fun hmem => htree f hf (List.mem_of_mem_drop hmem)⟩
  · cases hq

theorem isPlain_of_mem_sources {tree : FileTree} (hlinks : tree.links = []) (htree : tree.WellNamed)
    {cwd : Path} {paths : List Path} (hpaths : ∀ p ∈ paths, p.IsPlain) {q : Path}
    (hq : q ∈ tree.sources cwd paths) : q.IsPlain := by
  rw [sources, mem_stableSort, mem_distinct, List.mem_flatMap] at hq
  obtain ⟨p, hp, hq⟩ := hq
  exact isPlain_of_mem_sourcesOf hlinks htree (hpaths p hp) hq

/-- No file is listed twice. -/
theorem nodup_names_sources {tree : FileTree} (hlinks : tree.links = []) (htree : tree.WellNamed)
    {cwd : Path} {paths : List Path} (hpaths : ∀ p ∈ paths, p.IsPlain) :
    ((tree.sources cwd paths).map (·.names)).Nodup := by
  have hnodup : (tree.sources cwd paths).Nodup :=
    (stableSort_perm Path.le _).nodup_iff.mpr (nodup_distinct _)
  refine hnodup.map_on fun p hp q hq h => ?_
  exact (isPlain_of_mem_sources hlinks htree hpaths hp).eq_of_names
    (isPlain_of_mem_sources hlinks htree hpaths hq) h

end FileTree

end HouseStyle
