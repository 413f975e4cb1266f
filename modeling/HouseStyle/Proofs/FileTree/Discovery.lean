import HouseStyle.Proofs.FileTree.Listing
import Mathlib.Data.List.Pairwise
import Mathlib.Order.Defs.Unbundled

/-!
# Discovery of source files

The sources that paths stand for are the files with the extension of a source that are listed themselves
or lie below a listed folder. On the way from the folder to the file no folder is skipped; the listed
folder itself and those above it may have any name. Since every source is found once and the result is
in strict order, it depends on the set of paths only.

Main definitions:
* `FileTree.IsProper`: no symbolic links, no entry that is a file and a folder, no `..` among names.
* `IsSourceName`: the names of source files.
* `FileTree.Finds`: the files that a search from paths finds.
* `Path.IsSortedUnion`: a list that has the paths of two others in order.

Main results:
* `FileTree.IsProper.locate_iff`: a plain path leads to the entry of its names.
* `FileTree.IsProper.mem_sourcesOf_iff`, `FileTree.IsProper.mem_sources_iff`: what is found.
* `FileTree.IsProper.pairwise_sources`: the order of what is found.
* `FileTree.sources_exact`: the result of a search.
-/

namespace HouseStyle

/-! ## The order of paths -/

namespace Path

instance (p : Path) : Decidable p.IsPlain :=
  decidable_of_iff (p.anchor = "/".toList ∧ "..".toList ∉ p.names)
    ⟨fun h => ⟨h.1, h.2⟩, fun h => ⟨h.anchor, h.names⟩⟩

theorem leNames_iff {as bs : List Text} : leNames as bs = true ↔ ¬bs < as := by
  induction as generalizing bs with
  | nil => simp [leNames]
  | cons a as ih =>
    cases bs with
    | nil => simp [leNames]
    | cons b bs =>
      rw [leNames, List.cons_lt_cons_iff]
      split_ifs with hab
      · subst hab
        simp [ih]
      · rw [Text.le_iff]
        simp [Ne.symm hab]

theorem le_total (p q : Path) : le p q = true ∨ le q p = true := by
  rw [le, le, leNames_iff, leNames_iff]
  exact List.le_total p.parts q.parts

theorem le_trans (p q r : Path) (hpq : le p q = true) (hqr : le q r = true) : le p r = true := by
  rw [le, leNames_iff] at *
  exact List.le_trans hpq hqr

/-- Strict order, part by part. -/
def Before (p q : Path) : Prop := p.parts < q.parts

instance : Std.Irrefl Before := ⟨fun p => List.lt_irrefl p.parts⟩

instance : Std.Antisymm Before := ⟨fun _ _ hpq hqp => absurd hqp (List.lt_asymm hpq)⟩

theorem IsPlain.parts_eq {p : Path} (hp : p.IsPlain) : p.parts = "/".toList :: p.names := by
  rw [parts, hp.anchor]
  rfl

/-- Plain paths in order are in strict order, unless they are equal. -/
theorem IsPlain.before {p q : Path} (hp : p.IsPlain) (hq : q.IsPlain) (hle : le p q = true)
    (hne : p ≠ q) : Before p q := by
  by_contra hlt
  rw [le, leNames_iff] at hle
  have hparts : p.parts = q.parts := List.le_antisymm hle hlt
  rw [hp.parts_eq, hq.parts_eq, List.cons_inj_right] at hparts
  exact hne (hp.eq_of_names hq hparts)

/-- The list has the paths of two lists and no others, in strict order. -/
structure IsSortedUnion (a b union : List Path) : Prop where
  sorted : union.Pairwise Before
  mem_iff : ∀ q, q ∈ union ↔ q ∈ a ∨ q ∈ b

end Path

/-! ## The names of sources -/

/-- The name of a source file: something in front of the extension `.py` or `.pyi`, which may be written
    with capital letters. -/
def IsSourceName (name : Text) : Prop :=
  ∃ stem ext : Text, name = stem ++ '.' :: ext ∧ stem ≠ [] ∧
    (ext.map Char.toLower = "py".toList ∨ ext.map Char.toLower = "pyi".toList)

namespace Text

/-- Apart from the sign for the unit kelvin, letters have the small letter that the library gives them. -/
theorem lowerAsciiChar_eq (c : Char) : lowerAsciiChar c = c.toLower ∨ c = '\u212a' := by
  have hupper : isAsciiUpper c = true ↔ c.val ≥ 'A'.val ∧ c.val ≤ 'Z'.val := by
    rw [isAsciiUpper, Bool.and_eq_true, decide_eq_true_eq, decide_eq_true_eq]
    rfl
  have hletters : ∀ n : Nat, n < 26 → Char.ofNat (65 + n + 32) = (Char.ofNat (65 + n)).toLower := by
    decide
  rw [lowerAsciiChar]
  split_ifs with hu hk
  · left
    rw [isAsciiUpper, Bool.and_eq_true, decide_eq_true_eq, decide_eq_true_eq] at hu
    have hc := hletters (c.toNat - 65) (by omega)
    rwa [show 65 + (c.toNat - 65) = c.toNat by omega, Char.ofNat_toNat] at hc
  · exact Or.inr hk
  · rw [hupper] at hu
    delta Char.toLower
    rw [dif_neg hu]
    exact Or.inl rfl

theorem lowerAsciiChar_eq_iff {c d : Char} (hd : d ∈ "pyi".toList) :
    lowerAsciiChar c = d ↔ c.toLower = d := by
  rcases lowerAsciiChar_eq c with h | rfl
  · rw [h]
  · have hletter : d = 'p' ∨ d = 'y' ∨ d = 'i' := by simpa using hd
    rcases hletter with rfl | rfl | rfl <;> decide

theorem lowerAscii_eq_iff {t u : Text} (hu : ∀ d ∈ u, d ∈ "pyi".toList) :
    t.lowerAscii = u ↔ t.map Char.toLower = u := by
  induction u generalizing t with
  | nil => cases t <;> simp [lowerAscii]
  | cons d u ih =>
    obtain ⟨hd, hu⟩ := List.forall_mem_cons.mp hu
    cases t with
    | nil => simp [lowerAscii]
    | cons c t =>
      rw [lowerAscii, List.map_cons, List.map_cons, List.cons_eq_cons, List.cons_eq_cons,
        lowerAsciiChar_eq_iff hd]
      exact and_congr_right fun _ => ih hu

end Text

namespace Path

theorem extension_append {stem ext : Text} (hstem : stem ≠ []) (hext : ext ≠ []) (hdot : '.' ∉ ext) :
    extension (stem ++ '.' :: ext) = '.' :: ext := by
  have hall : ∀ c ∈ ext.reverse, decide (c ≠ '.') = true := by
    intro c hc
    rw [decide_eq_true_eq]
    exact fun h => hdot (h ▸ List.mem_reverse.mp hc)
  have htail : (stem ++ '.' :: ext).reverse.takeWhile (· ≠ '.') = ext.reverse := by
    rw [List.reverse_append, List.reverse_cons, List.append_assoc,
      List.takeWhile_append_of_pos hall]
    simp
  have hlong : ¬(stem.length + (ext.length + 1) - ext.length ≤ 1) := by
    have := List.length_pos_iff.mpr hstem
    omega
  rw [extension, htail]
  simp [hext, hlong]

theorem extension_cases (name : Text) :
    extension name = [] ∨ ∃ ext, extension name = '.' :: ext := by
  rw [extension]
  split_ifs
  · exact Or.inl rfl
  · exact Or.inr ⟨_, rfl⟩

/-- An extension stands behind the last dot, and something stands in front of that dot. -/
theorem exists_of_extension_eq {name ext : Text} (h : extension name = '.' :: ext) :
    ∃ stem, stem ≠ [] ∧ name = stem ++ '.' :: ext := by
  have hcut := List.takeWhile_append_dropWhile (p := fun c => decide (c ≠ '.')) (l := name.reverse)
  have hhead := List.head?_dropWhile_not (fun c => decide (c ≠ '.')) name.reverse
  rw [extension] at h
  generalize name.reverse.takeWhile (fun c => decide (c ≠ '.')) = tail at h hcut
  generalize name.reverse.dropWhile (fun c => decide (c ≠ '.')) = rest at hhead hcut
  have hname : name = rest.reverse ++ tail.reverse := by
    rw [← List.reverse_append, hcut, List.reverse_reverse]
  split_ifs at h with hshort
  obtain rfl := (List.cons_eq_cons.mp h).2
  simp only [Bool.or_eq_true, decide_eq_true_eq, not_or, hname, List.length_append,
    List.length_reverse, Nat.add_sub_cancel] at hshort
  cases rest with
  | nil => simp at hshort
  | cons c stem =>
    have hc : c = '.' := by simpa using hhead
    refine ⟨stem.reverse, fun hnil => ?_, by simp [hname, hc]⟩
    rw [List.reverse_eq_nil_iff.mp hnil] at hshort
    simp at hshort

end Path

theorem isSourceName_iff {name : Text} : FileTree.isSourceName name = true ↔ IsSourceName name := by
  have hext : ∀ ext : Text,
      (Text.lowerAscii ('.' :: ext) = ".py".toList ∨ Text.lowerAscii ('.' :: ext) = ".pyi".toList) ↔
        (ext.map Char.toLower = "py".toList ∨ ext.map Char.toLower = "pyi".toList) := by
    intro ext
    rw [show Text.lowerAscii ('.' :: ext) = '.' :: ext.lowerAscii from rfl,
      ← Text.lowerAscii_eq_iff (by simp), ← Text.lowerAscii_eq_iff (by simp)]
    exact or_congr (List.cons_inj_right '.') (List.cons_inj_right '.')
  simp only [FileTree.isSourceName, Bool.or_eq_true, decide_eq_true_eq]
  constructor
  · intro h
    rcases Path.extension_cases name with hnil | ⟨ext, hcons⟩
    · rw [hnil] at h
      simp [Text.lowerAscii] at h
    · rw [hcons, hext] at h
      obtain ⟨stem, hstem, hname⟩ := Path.exists_of_extension_eq hcons
      exact ⟨stem, ext, hname, hstem, h⟩
  · rintro ⟨stem, ext, rfl, hstem, h⟩
    have hne : ext ≠ [] := by
      rintro rfl
      simp at h
    have hdot : '.' ∉ ext := by
      intro hmem
      have hlower := List.mem_map_of_mem (f := Char.toLower) hmem
      rcases h with h | h <;> rw [h] at hlower <;> revert hlower <;> decide
    rw [Path.extension_append hstem hne hdot, hext]
    exact h

/-! ## Entries of a tree -/

namespace FileTree

/-- There are no symbolic links, no file has `..` among its names, and no file is a folder too. -/
structure IsProper (tree : FileTree) : Prop where
  links : tree.links = []
  wellNamed : tree.WellNamed
  apart : ∀ f ∈ tree.files, tree.hasFolder f.1 = false

theorem hasFile_iff {tree : FileTree} {names : List Text} :
    tree.hasFile names = true ↔ ∃ f ∈ tree.files, f.1 = names := by
  rw [hasFile, bytes?, List.lookup_isSome_iff]
  exact exists_congr fun f => and_congr_right fun _ => beq_iff_eq.trans eq_comm

theorem hasFolder_above_folder {tree : FileTree} {above names : List Text} (hbegins : above <+: names)
    (h : tree.hasFolder names = true) : tree.hasFolder above = true := by
  simp only [hasFolder, Bool.or_eq_true, List.any_eq_true, Bool.and_eq_true, List.isEmpty_iff,
    List.isPrefixOf_iff_prefix, decide_eq_true_eq] at h ⊢
  rcases h with (rfl | ⟨f, hf, hbelow⟩) | ⟨f, hf, hbelow, hne⟩
  · exact Or.inl (Or.inl (List.prefix_nil.mp hbegins))
  · exact Or.inl (Or.inr ⟨f, hf, hbegins.trans hbelow⟩)
  · refine Or.inr ⟨f, hf, hbegins.trans hbelow, ?_⟩
    rintro rfl
    exact hne (hbelow.eq_of_length_le hbegins.length_le)

theorem hasFolder_above_file {tree : FileTree} {above names : List Text} (hbegins : above <+: names)
    (hne : above ≠ names) (h : tree.hasFile names = true) : tree.hasFolder above = true := by
  obtain ⟨f, hf, rfl⟩ := hasFile_iff.mp h
  simp only [hasFolder, Bool.or_eq_true, List.any_eq_true, Bool.and_eq_true,
    List.isPrefixOf_iff_prefix, decide_eq_true_eq]
  exact Or.inr ⟨f.1, List.mem_append_left _ (List.mem_map_of_mem hf), hbegins, hne⟩

theorem IsProper.place?_folder {tree : FileTree} (htree : tree.IsProper) {names : List Text}
    (h : tree.hasFolder names = true) : tree.place? names = some (.folder names) := by
  rw [place?]
  cases hb : tree.bytes? names with
  | none => simp [h]
  | some b =>
    obtain ⟨f, hf, rfl⟩ := hasFile_iff.mp (show tree.hasFile names = true by rw [hasFile, hb]; rfl)
    rw [htree.apart f hf] at h
    cases h

/-- What is above an entry is a folder. -/
theorem IsProper.place?_above {tree : FileTree} (htree : tree.IsProper) {above names : List Text}
    {place : Place} (hbegins : above <+: names) (hne : above ≠ names)
    (h : tree.place? names = some place) : tree.place? above = some (.folder above) := by
  apply htree.place?_folder
  cases hb : tree.bytes? names with
  | none =>
    refine hasFolder_above_folder hbegins ?_
    by_contra hf
    simp [place?, hb, hf] at h
  | some b => exact hasFolder_above_file hbegins hne (by rw [hasFile, hb]; rfl)

theorem IsProper.stretch_iff {tree : FileTree} (htree : tree.IsProper) {start ns : List Text}
    (hns : "..".toList ∉ ns) {place : Place} :
    tree.stretch start ns = .done (.ok place) ↔ tree.place? (start ++ ns) = some place := by
  induction ns generalizing start with
  | nil =>
    rw [stretch, List.append_nil]
    cases tree.place? start <;> simp
  | cons n ns ih =>
    rw [List.mem_cons, not_or] at hns
    have hstep : Path.resolveStep start n ++ ns = start ++ n :: ns := by
      rw [Path.resolveStep, if_neg (Ne.symm hns.1), List.append_assoc, List.singleton_append]
    have habove : tree.place? (start ++ n :: ns) = some place →
        tree.place? start = some (.folder start) :=
      htree.place?_above (List.prefix_append start _) (by simp)
    rw [← hstep] at habove ⊢
    rw [stretch, target?, htree.links]
    cases hp : tree.place? start with
    | none => simpa [hp] using habove
    | some p =>
      cases p with
      | file names b => simpa [hp] using habove
      | folder names => exact ih hns.2

/-- A plain path leads to the entry of its names. -/
theorem IsProper.locate_iff {tree : FileTree} (htree : tree.IsProper) {cwd p : Path} (hp : p.IsPlain)
    {place : Place} : tree.locate cwd p = .ok place ↔ tree.place? p.names = some place := by
  rw [locate, hp.join, follow_eq_ok_iff htree.links, htree.stretch_iff hp.names, List.nil_append]

theorem IsProper.locate_file {tree : FileTree} (htree : tree.IsProper) (cwd : Path) {p : Path}
    (hp : p.IsPlain) (h : tree.hasFile p.names = true) :
    ∃ b, tree.locate cwd p = .ok (.file p.names b) := by
  obtain ⟨b, hb⟩ := Option.isSome_iff_exists.mp h
  exact ⟨b, (htree.locate_iff hp).mpr (by rw [place?, hb])⟩

/-! ## What a search finds -/

/-- The file lies below a folder, and no folder on the way has a name that is skipped. -/
def SearchedFrom (folder q : Path) : Prop :=
  ∃ (between : List Text) (name : Text), q = ⟨folder.anchor, folder.names ++ between ++ [name]⟩ ∧
    ∀ n ∈ between, n ∉ skippedFolders

/-- A search from paths finds a file: it is a source, and it is one of the paths or is searched from
    one of them. -/
structure Finds (tree : FileTree) (paths : List Path) (q : Path) : Prop where
  file : tree.hasFile q.names = true
  source : IsSourceName q.name
  reached : q ∈ paths ∨ ∃ d ∈ paths, SearchedFrom d q

theorem searched_iff {names : List Text} : Searched names ↔
    ∃ between name, names = between ++ [name] ∧ IsSourceName name ∧
      ∀ n ∈ between, n ∉ skippedFolders := by
  constructor
  · intro h
    induction h with
    | file h => exact ⟨[], _, rfl, isSourceName_iff.mp h, by simp⟩
    | @folder d ns hd _ ih =>
      obtain ⟨between, name, rfl, hsource, hskip⟩ := ih
      exact ⟨d :: between, name, rfl, hsource, List.forall_mem_cons.mpr ⟨hd, hskip⟩⟩
  · rintro ⟨between, name, rfl, hsource, hskip⟩
    induction between with
    | nil => exact .file (isSourceName_iff.mpr hsource)
    | cons d between ih =>
      obtain ⟨hd, hskip⟩ := List.forall_mem_cons.mp hskip
      exact .folder hd (ih hskip)

theorem place?_eq_folder {tree : FileTree} {start names : List Text}
    (h : tree.place? start = some (.folder names)) : names = start := by
  unfold place? at h
  split at h
  · cases h
  · split_ifs at h
    cases h
    rfl

theorem mem_filesBelow_iff {tree : FileTree} (hlinks : tree.links = []) {folder ns : List Text} :
    ns ∈ tree.filesBelow folder ↔ tree.hasFile (folder ++ ns) = true := by
  rw [filesBelow, leaves_eq hlinks, List.filterMap_map, List.mem_filterMap, hasFile_iff]
  refine exists_congr fun f => and_congr_right fun _ => ?_
  rw [Function.comp]
  constructor
  · intro h
    split_ifs at h with hbegins
    cases h
    exact (List.prefix_iff_eq_append.mp (List.isPrefixOf_iff_prefix.mp hbegins)).symm
  · intro h
    have hbegins : folder.isPrefixOf f.1 = true := by
      rw [h, List.isPrefixOf_iff_prefix]
      exact List.prefix_append _ _
    rw [if_pos hbegins, h, List.drop_left]

/-- The sources that one path stands for. -/
theorem IsProper.mem_sourcesOf_iff {tree : FileTree} (htree : tree.IsProper) {cwd p q : Path}
    (hp : p.IsPlain) : q ∈ tree.sourcesOf cwd p ↔
      tree.hasFile q.names = true ∧ IsSourceName q.name ∧ (q = p ∨ SearchedFrom p q) := by
  constructor
  · intro hq
    rw [sourcesOf] at hq
    split at hq
    · next names b hlocate =>
      split_ifs at hq with hsource
      · obtain rfl := List.mem_singleton.mp hq
        refine ⟨?_, isSourceName_iff.mp hsource, Or.inl rfl⟩
        rw [hasFile, ← names_of_locate_plain htree.links hp hlocate, bytes?_of_locate hlocate]
        rfl
      · cases hq
    · next names hlocate =>
      obtain rfl := place?_eq_folder ((htree.locate_iff hp).mp hlocate)
      obtain ⟨ns, hns, rfl⟩ := List.mem_map.mp hq
      obtain ⟨hfile, hsearched⟩ := mem_below.mp hns
      obtain ⟨between, name, rfl, hsource, hskip⟩ := searched_iff.mp hsearched
      refine ⟨(mem_filesBelow_iff htree.links).mp hfile, ?_, Or.inr ⟨between, name, ?_, hskip⟩⟩
      · simpa [Path.name] using hsource
      · rw [List.append_assoc]
    · cases hq
  · rintro ⟨hfile, hsource, rfl | hbelow⟩
    · obtain ⟨b, hlocate⟩ := htree.locate_file cwd hp hfile
      rw [sourcesOf, hlocate]
      simp [isSourceName_iff.mpr hsource]
    · obtain ⟨between, name, rfl, hskip⟩ := hbelow
      have hfolder : tree.hasFolder p.names = true :=
        hasFolder_above_file ⟨between ++ [name], (List.append_assoc _ _ _).symm⟩ (by simp) hfile
      rw [sourcesOf, (htree.locate_iff hp).mpr (htree.place?_folder hfolder)]
      refine List.mem_map.mpr
        ⟨between ++ [name], mem_below.mpr ⟨(mem_filesBelow_iff htree.links).mpr ?_, ?_⟩, ?_⟩
      · rwa [← List.append_assoc]
      · exact searched_iff.mpr ⟨between, name, rfl, by simpa [Path.name] using hsource, hskip⟩
      · rw [List.append_assoc]

theorem mem_sources {tree : FileTree} {cwd : Path} {paths : List Path} {q : Path} :
    q ∈ tree.sources cwd paths ↔ ∃ p ∈ paths, q ∈ tree.sourcesOf cwd p := by
  rw [sources, mem_stableSort, mem_distinct, List.mem_flatMap]

/-- The sources that paths stand for are the files that a search finds. -/
theorem IsProper.mem_sources_iff {tree : FileTree} (htree : tree.IsProper) {cwd : Path}
    {paths : List Path} (hpaths : ∀ p ∈ paths, p.IsPlain) {q : Path} :
    q ∈ tree.sources cwd paths ↔ tree.Finds paths q := by
  rw [mem_sources]
  constructor
  · rintro ⟨p, hp, hq⟩
    obtain ⟨hfile, hsource, hreached⟩ := (htree.mem_sourcesOf_iff (hpaths p hp)).mp hq
    refine ⟨hfile, hsource, hreached.imp ?_ fun h => ⟨p, hp, h⟩⟩
    rintro rfl
    exact hp
  · rintro ⟨hfile, hsource, hlisted | ⟨d, hd, hbelow⟩⟩
    · exact ⟨q, hlisted, (htree.mem_sourcesOf_iff (hpaths q hlisted)).mpr
        ⟨hfile, hsource, Or.inl rfl⟩⟩
    · exact ⟨d, hd, (htree.mem_sourcesOf_iff (hpaths d hd)).mpr ⟨hfile, hsource, Or.inr hbelow⟩⟩

/-- The sources are listed in strict order, so each of them is listed once. -/
theorem IsProper.pairwise_sources {tree : FileTree} (htree : tree.IsProper) {cwd : Path}
    {paths : List Path} (hpaths : ∀ p ∈ paths, p.IsPlain) :
    (tree.sources cwd paths).Pairwise Path.Before := by
  have hplain : ∀ q ∈ tree.sources cwd paths, q.IsPlain :=
    fun q hq => isPlain_of_mem_sources htree.links htree.wellNamed hpaths hq
  have hsorted : (tree.sources cwd paths).Pairwise fun p q => Path.le p q = true :=
    stableSort_pairwise Path.le Path.le_total Path.le_trans _
  have hnodup : (tree.sources cwd paths).Nodup :=
    (stableSort_perm Path.le _).nodup_iff.mpr (nodup_distinct _)
  exact (hsorted.and hnodup).imp_of_mem fun hp hq h => (hplain _ hp).before (hplain _ hq) h.1 h.2

/-- **Discovery of sources.** From plain paths a search finds, in strict order, exactly the files with the
    extension of a source that are listed themselves or lie below a listed folder, with no skipped folder
    in between. So the order and the repetition of the paths do not matter, and the search from the paths
    of two lists finds the sorted union of what the searches from each list find. -/
theorem sources_exact {tree : FileTree} (htree : tree.IsProper) (cwd : Path) {paths : List Path}
    (hpaths : ∀ p ∈ paths, p.IsPlain) :
    (tree.sources cwd paths).Pairwise Path.Before ∧
    (∀ q, q ∈ tree.sources cwd paths ↔ tree.Finds paths q) ∧
    (∀ paths', (∀ p, p ∈ paths' ↔ p ∈ paths) → tree.sources cwd paths' = tree.sources cwd paths) ∧
    (∀ others, (∀ p ∈ others, p.IsPlain) → ∀ union,
      Path.IsSortedUnion (tree.sources cwd paths) (tree.sources cwd others) union ↔
        union = tree.sources cwd (paths ++ others)) := by
  refine ⟨htree.pairwise_sources hpaths, fun q => htree.mem_sources_iff hpaths, ?_, ?_⟩
  · intro paths' hsame
    have hpaths' : ∀ p ∈ paths', p.IsPlain := fun p hp => hpaths p ((hsame p).mp hp)
    refine (htree.pairwise_sources hpaths').eq_of_mem_iff (htree.pairwise_sources hpaths) fun q => ?_
    rw [mem_sources, mem_sources]
    exact exists_congr fun p => and_congr_left' (hsame p)
  · intro others hothers union
    have hall : ∀ p ∈ paths ++ others, p.IsPlain := List.forall_mem_append.mpr ⟨hpaths, hothers⟩
    have hunion : Path.IsSortedUnion (tree.sources cwd paths) (tree.sources cwd others)
        (tree.sources cwd (paths ++ others)) := by
      refine ⟨htree.pairwise_sources hall, fun q => ?_⟩
      rw [mem_sources, mem_sources, mem_sources]
      simp only [List.mem_append, or_and_right, exists_or]
    constructor
    · intro h
      refine h.sorted.eq_of_mem_iff hunion.sorted fun q => ?_
      rw [h.mem_iff, hunion.mem_iff]
    · rintro rfl
      exact hunion

/-- A folder, a source in a skipped folder of it that is listed by itself, and the folder once more. The
    other file of the skipped folder is not found, though its folder is not skipped where it is listed. -/
theorem sources_exact_skipped :
    let tree : FileTree :=
      { files := [(["p", "b.txt"], []), (["p", "venv", "c.PYI"], []), (["p", "venv", "d.py"], []),
          (["p", "a.py"], []), (["p", ".py"], []), (["p-x", "a.py"], [])] }
    let cwd : Path := ⟨"/", []⟩
    let paths : List Path := [⟨"/", ["p"]⟩, ⟨"/", ["p", "venv", "c.PYI"]⟩, ⟨"/", ["p"]⟩]
    let others : List Path := [⟨"/", ["p", "venv"]⟩]
    tree.IsProper ∧ (∀ p ∈ paths, p.IsPlain) ∧ (∀ p ∈ others, p.IsPlain) ∧
      tree.sources cwd paths = [⟨"/", ["p", "a.py"]⟩, ⟨"/", ["p", "venv", "c.PYI"]⟩] ∧
      ¬tree.Finds paths ⟨"/", ["p", "venv", "d.py"]⟩ ∧
      tree.sources cwd paths.reverse = tree.sources cwd paths ∧
      Path.IsSortedUnion (tree.sources cwd paths) (tree.sources cwd others)
        [⟨"/", ["p", "a.py"]⟩, ⟨"/", ["p", "venv", "c.PYI"]⟩, ⟨"/", ["p", "venv", "d.py"]⟩] := by
  intro tree cwd paths others
  have htree : tree.IsProper := ⟨rfl, by rw [WellNamed]; decide, by decide⟩
  have hpaths : ∀ p ∈ paths, p.IsPlain := by decide
  have hothers : ∀ p ∈ others, p.IsPlain := by decide
  have hfound : tree.sources cwd paths = [⟨"/", ["p", "a.py"]⟩, ⟨"/", ["p", "venv", "c.PYI"]⟩] := by
    decide
  obtain ⟨-, hfinds, hsame, hunion⟩ := sources_exact htree cwd hpaths
  refine ⟨htree, hpaths, hothers, hfound, ?_, ?_, ?_⟩
  · rw [← hfinds, hfound]
    decide
  · exact hsame _ fun p => List.mem_reverse
  · rw [hunion others hothers]
    decide

end FileTree

end HouseStyle
