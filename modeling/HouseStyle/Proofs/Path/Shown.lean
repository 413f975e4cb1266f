import HouseStyle.Proofs.FileTree.Listing

/-!
# Shown paths

Reports show a file by its path from the root of the project, if it lies there, and otherwise by the path
as it is given. Read again and seen from the root, a shown path leads to the file that it was shown for, so
different files are never shown under one path.

Main definitions:
* `Path.IsRead`: the paths that are read from texts.
* `Path.Inside`: a path leads to a folder or to something below it.

Main results:
* `Path.ofText_text`: a path is read from its own text.
* `Path.resolve_join`: a path without `..` seen from a folder is resolved behind the folder.
* `Path.resolve?_shown`, `Path.isAbsolute_shown`: where a shown path leads, and when it is absolute.
-/

namespace HouseStyle

/-! ## Cutting and joining -/

namespace Text

theorem splitOn_eq (sep : Char) (t : Text) : splitOn sep t = List.splitOn sep t := by
  rw [List.splitOn_eq_splitOnP]
  induction t with
  | nil => rfl
  | cons c t ih =>
    rw [splitOn, ih, List.splitOnP_cons_eq_if_modifyHead]
    by_cases hc : c = sep
    · simp [hc]
    · simp only [hc, if_false, beq_iff_eq]
      cases h : t.splitOnP (· == sep) with
      | nil => exact absurd h (List.splitOnP_ne_nil _ _)
      | cons p ps => rfl

theorem joinWith_eq (sep : Text) (ps : List Text) : joinWith sep ps = List.intercalate sep ps := by
  induction ps with
  | nil => rfl
  | cons p ps ih =>
    cases ps with
    | nil => simp [joinWith]
    | cons q qs =>
      rw [joinWith, ih, List.intercalate_cons_cons]
      exact List.cons_ne_nil q qs

theorem splitOn_joinWith {sep : Char} {ps : List Text} (h : ∀ p ∈ ps, sep ∉ p) (hne : ps ≠ []) :
    splitOn sep (joinWith [sep] ps) = ps := by
  rw [splitOn_eq, joinWith_eq]
  exact List.splitOn_intercalate sep h hne

theorem not_mem_of_mem_splitOn {sep : Char} {t p : Text} (hp : p ∈ splitOn sep t) : sep ∉ p := by
  induction t generalizing p with
  | nil =>
    rw [List.mem_singleton.mp hp]
    exact List.not_mem_nil
  | cons c t ih =>
    rw [splitOn] at hp
    split_ifs at hp with hc
    · rcases List.mem_cons.mp hp with rfl | hp
      · exact List.not_mem_nil
      · exact ih hp
    · cases hparts : splitOn sep t with
      | nil =>
        rw [hparts] at hp
        rw [List.mem_singleton.mp hp, List.mem_singleton]
        exact Ne.symm hc
      | cons q qs =>
        rw [hparts] at hp ih
        rcases List.mem_cons.mp hp with rfl | hp
        · rw [List.mem_cons, not_or]
          exact ⟨Ne.symm hc, ih List.mem_cons_self⟩
        · exact ih (List.mem_cons_of_mem _ hp)

end Text

namespace Path

/-! ## Paths and their texts -/

/-- The path has an anchor and names as they are read from texts: no name is empty or a dot, and none
    has a slash. -/
structure IsRead (p : Path) : Prop where
  anchor : p.anchor ∈ [[], "/".toList, "//".toList]
  names : ∀ n ∈ p.names, n ≠ [] ∧ n ≠ ".".toList ∧ '/' ∉ n

theorem isRead_ofText (t : Text) : (ofText t).IsRead := by
  constructor
  · rw [ofText, anchorOf]
    split <;> simp
  · intro n hn
    simp only [ofText, List.mem_filter, Bool.and_eq_true, decide_eq_true_eq] at hn
    exact ⟨hn.2.1, hn.2.2, Text.not_mem_of_mem_splitOn hn.1⟩

theorem filter_splitOn_joinWith {names : List Text}
    (h : ∀ n ∈ names, n ≠ [] ∧ n ≠ ".".toList ∧ '/' ∉ n) :
    (Text.splitOn '/' (Text.joinWith "/" names)).filter (fun n => n ≠ [] && n ≠ ".".toList) =
      names := by
  by_cases hne : names = []
  · subst hne
    rfl
  · rw [show "/".toList = ['/'] from rfl, Text.splitOn_joinWith (fun m hm => (h m hm).2.2) hne,
      List.filter_eq_self]
    intro m hm
    simpa using ⟨(h m hm).1, (h m hm).2.1⟩

/-- No name starts with a slash, so the slashes in front of a text are those of the anchor. -/
theorem takeWhile_slash {anchor : Text} (hanchor : ∀ c ∈ anchor, c = '/') {names : List Text}
    (h : ∀ n ∈ names, n ≠ [] ∧ n ≠ ".".toList ∧ '/' ∉ n) :
    (anchor ++ Text.joinWith "/" names).takeWhile (· = '/') = anchor := by
  have hnames : (Text.joinWith "/" names).takeWhile (· = '/') = [] := by
    cases names with
    | nil => rfl
    | cons n ns =>
      obtain ⟨hne, -, hslash⟩ := h n List.mem_cons_self
      cases n with
      | nil => exact absurd rfl hne
      | cons c n =>
        have hc : c ≠ '/' := fun heq => hslash (heq ▸ List.mem_cons_self)
        cases ns <;> simp [Text.joinWith, hc]
  rw [List.takeWhile_append_of_pos fun c hc => decide_eq_true (hanchor c hc), hnames, List.append_nil]

/-- A path is read from its own text. -/
theorem ofText_text {p : Path} (hp : p.IsRead) : ofText p.text = p := by
  obtain ⟨anchor, names⟩ := p
  obtain ⟨hanchor, hnames⟩ := hp
  simp only [List.mem_cons, List.not_mem_nil, or_false] at hanchor hnames
  have hslashes : ∀ c ∈ anchor, c = '/' := by
    rcases hanchor with rfl | rfl | rfl <;> simp
  have hcount := takeWhile_slash hslashes hnames
  have hread := filter_splitOn_joinWith hnames
  have hslash : ∀ t : Text, Text.splitOn '/' ('/' :: t) = [] :: Text.splitOn '/' t := by
    intro t
    rw [Text.splitOn, if_pos rfl]
  rw [text]
  split_ifs with hdot
  · simp only [Bool.and_eq_true, List.isEmpty_iff] at hdot
    obtain ⟨rfl, rfl⟩ := hdot
    rfl
  · dsimp only
    rw [ofText, anchorOf, hcount, Path.mk.injEq]
    rcases hanchor with rfl | rfl | rfl
    · exact ⟨rfl, hread⟩
    · exact ⟨rfl, by simpa [hslash] using hread⟩
    · exact ⟨rfl, by simpa [hslash] using hread⟩

/-! ## Resolving -/

theorem mem_foldl_resolveStep {n : Text} {start ns : List Text}
    (h : n ∈ ns.foldl resolveStep start) : n ∈ start ∨ n ∈ ns := by
  induction ns generalizing start with
  | nil => exact Or.inl h
  | cons m ns ih =>
    rcases ih h with hstep | hrest
    · rw [resolveStep] at hstep
      split_ifs at hstep
      · exact Or.inl (List.dropLast_subset start hstep)
      · rcases List.mem_append.mp hstep with hstart | hm
        · exact Or.inl hstart
        · exact Or.inr (List.mem_cons.mpr (Or.inl (List.mem_singleton.mp hm)))
    · exact Or.inr (List.mem_cons_of_mem m hrest)

theorem join_of_isAbsolute {p : Path} (hp : p.isAbsolute = true) (folder : Path) :
    folder.join p = p := by
  rw [join, if_pos hp]

/-- Names without `..` that are seen from a folder stay behind the folder. -/
theorem resolve_join (cwd root : Path) {names : List Text} (h : "..".toList ∉ names) :
    resolve cwd (root.join ⟨[], names⟩) = ⟨"/", (resolve cwd root).names ++ names⟩ := by
  have hjoin : root.join ⟨[], names⟩ = ⟨root.anchor, root.names ++ names⟩ := rfl
  have hnames : (cwd.join (root.join ⟨[], names⟩)).names = (cwd.join root).names ++ names := by
    rw [hjoin, join, join]
    by_cases habs : root.isAbsolute = true
    · rw [if_pos habs, if_pos (show isAbsolute ⟨root.anchor, root.names ++ names⟩ = true from habs)]
    · rw [if_neg habs, if_neg (show ¬isAbsolute ⟨root.anchor, root.names ++ names⟩ = true from habs)]
      exact (List.append_assoc _ _ _).symm
  rw [resolve, hnames, List.foldl_append, foldl_resolveStep_eq _ h, resolve]

theorem resolve?_eq_some_iff {cwd p q : Path} :
    resolve? cwd p = some q ↔ p.hasNull = false ∧ resolve cwd p = q := by
  rw [resolve?]
  cases p.hasNull <;> simp

/-! ## Shown paths -/

/-- Both paths can be resolved, and the second leads to the folder that the first leads to or to something
    below it. -/
def Inside (cwd root p : Path) : Prop :=
  ∃ r q, resolve? cwd root = some r ∧ resolve? cwd p = some q ∧ r.names <+: q.names

theorem shown_of_inside {cwd root p : Path} (h : Inside cwd root p) :
    ∃ names, (resolve cwd root).names ++ names = (resolve cwd p).names ∧
      shown cwd root p = (⟨[], names⟩ : Path).text := by
  obtain ⟨r, q, hr, hq, names, hnames⟩ := h
  refine ⟨names, ?_, ?_⟩
  · rw [(resolve?_eq_some_iff.mp hr).2, (resolve?_eq_some_iff.mp hq).2, hnames]
  · obtain ⟨-, rfl⟩ := resolve?_eq_some_iff.mp hr
    obtain ⟨-, rfl⟩ := resolve?_eq_some_iff.mp hq
    have hbegins : (resolve cwd root).names.isPrefixOf (resolve cwd p).names = true :=
      List.isPrefixOf_iff_prefix.mpr ⟨names, hnames⟩
    have hrelative : relativeTo? (resolve cwd root) (resolve cwd p) = some ⟨[], names⟩ := by
      rw [relativeTo?, hbegins, ← hnames, List.drop_left]
      rfl
    unfold shown shownFrom
    rw [hr, hq]
    dsimp only
    rw [hrelative]
    rfl

theorem shown_of_not_inside {cwd root p : Path} (h : ¬Inside cwd root p) :
    shown cwd root p = p.text := by
  unfold shown shownFrom
  split
  · next r q hr hq =>
    have hbegins : ¬r.names.isPrefixOf q.names = true :=
      fun hbegins => h ⟨r, q, hr, hq, List.isPrefixOf_iff_prefix.mp hbegins⟩
    rw [relativeTo?, if_neg (by simp [hbegins])]
    rfl
  · rfl

/-- What is left of a resolved path behind a folder has names of the path. -/
theorem subset_of_resolve {cwd p : Path} (habs : p.isAbsolute = true) {above names : List Text}
    (h : above ++ names = (resolve cwd p).names) : names ⊆ p.names := by
  intro n hn
  have hmem : n ∈ (resolve cwd p).names := h ▸ List.mem_append_right above hn
  rw [resolve, join_of_isAbsolute habs] at hmem
  exact (mem_foldl_resolveStep hmem).resolve_left List.not_mem_nil

theorem isRead_relative {p : Path} (hp : p.IsRead) {names : List Text} (h : names ⊆ p.names) :
    (⟨[], names⟩ : Path).IsRead :=
  ⟨List.mem_cons_self, fun n hn => hp.names n (h hn)⟩

/-- Seen from the root, a shown path leads to where the path leads. -/
theorem resolve?_shown (cwd root : Path) {p : Path} (hp : p.IsRead) (habs : p.isAbsolute = true) :
    resolve? cwd (root.join (ofText (shown cwd root p))) = resolve? cwd p := by
  by_cases h : Inside cwd root p
  · obtain ⟨names, hnames, hshown⟩ := shown_of_inside h
    have hsub : names ⊆ p.names := subset_of_resolve habs hnames
    obtain ⟨r, q, hr, hq, -⟩ := h
    obtain ⟨hrootnull, -⟩ := resolve?_eq_some_iff.mp hr
    obtain ⟨hpnull, rfl⟩ := resolve?_eq_some_iff.mp hq
    rw [hshown, ofText_text (isRead_relative hp hsub), hq]
    refine resolve?_eq_some_iff.mpr ⟨?_, ?_⟩
    · rw [hasNull, List.any_eq_false] at hrootnull hpnull ⊢
      intro n hn
      rcases List.mem_append.mp hn with hroot | hrest
      · exact hrootnull n hroot
      · exact hpnull n (hsub hrest)
    · have hup : "..".toList ∉ names := fun hmem =>
        (isPlain_resolve cwd p).names (hnames ▸ List.mem_append_right _ hmem)
      rw [resolve_join cwd root hup, hnames]
      rfl
  · rw [shown_of_not_inside h, ofText_text hp, join_of_isAbsolute habs]

/-- A path is shown as an absolute one unless it leads to the root or something below it. -/
theorem isAbsolute_shown (cwd root : Path) {p : Path} (hp : p.IsRead) (habs : p.isAbsolute = true) :
    (ofText (shown cwd root p)).isAbsolute = false ↔ Inside cwd root p := by
  by_cases h : Inside cwd root p
  · obtain ⟨names, hnames, hshown⟩ := shown_of_inside h
    rw [hshown, ofText_text (isRead_relative hp (subset_of_resolve habs hnames))]
    exact iff_of_true rfl h
  · rw [shown_of_not_inside h, ofText_text hp, habs]
    exact iff_of_false Bool.noConfusion h

end Path

/-- Without symbolic links, reports show a path as it is shown from where the paths resolve. -/
theorem FileTree.shown_eq {tree : FileTree} (hlinks : tree.links = []) (cwd root p : Path) :
    tree.shown cwd root p = Path.shown cwd root p := by
  rw [shown, Path.shown, realPath?, realPath?, realPath_eq_resolve hlinks, realPath_eq_resolve hlinks]
  rfl

end HouseStyle
