import HouseStyle.Proofs.Syntax.Lexing

/-!
# Indentation and columns

The lexer keeps a stack of levels of indentation. A keyword with which a statement starts belongs to
the innermost level. If nothing but spaces and tabs stand before it in its line, and no backslash joins
the line to the one before, its column is that level, with tabs counted as one column. A form feed or a
joined line in the indentation breaks this: the lexer counts anew behind a form feed and takes the blanks
in front of the first backslash where lines are joined, and columns do neither.

Main definitions:
* `wordAt`, `isIndentedAt`: what a source has at a position and before it.
* `Begins`: a word at a position that belongs to a level.
* `Layout`: lexemes whose changes of indentation go with a stack of levels.
* `Lexeme.State.Leveled`: the invariant of the lexer.

Main results:
* `Lexeme.State.Leveled.startLine`, `Lexeme.State.Leveled.pushLexeme` and others: every step keeps the
  invariant and adds lexemes with this layout.
* `Lexeme.layout_ofText?`: the lexemes of a source.
-/

namespace HouseStyle.Syntax

open Lexeme Lexeme.State

/-! ## Positions of a source -/

/-- The text before a position and the text from there on, if the text as a whole is at `here`. -/
def cutAt (pos : Position) : Position → Text → Text × Text
  | _, [] => ([], [])
  | here, c :: t =>
    if here = pos then ([], c :: t)
    else (cutAt pos (advance here [c]) t).map (c :: ·) id

/-- The word of a source at a position. -/
def wordAt (source : Text) (pos : Position) : Text :=
  (cutAt pos ⟨1, 0⟩ source.unifyNewlines).2.takeWhile isNameChar

/-- Spaces and tabs up to the start of a line, where the line before is no backslash behind blanks. The
    text is in reverse order. -/
def isMargin : Text → Bool
  | [] => true
  | '\n' :: '\\' :: t => !(t.takeWhile (· ≠ '\n')).all isSpace
  | '\n' :: _ => true
  | c :: t => (c = ' ' || c = '\t') && isMargin t

/-- In its line only spaces and tabs stand before the position, and the line before is no backslash
    behind blanks, which would join the two. -/
def isIndentedAt (source : Text) (pos : Position) : Bool :=
  isMargin (cutAt pos ⟨1, 0⟩ source.unifyNewlines).1.reverse

theorem cutAt_advance (here : Position) (pre rest : Text) :
    cutAt (advance here pre) here (pre ++ rest) = (pre, rest) := by
  induction pre generalizing here with
  | nil => cases rest <;> simp [cutAt, advance]
  | cons c pre ih =>
    have hne : here ≠ advance here (c :: pre) := (before_advance here (List.cons_ne_nil c pre)).ne
    have hstep : advance here (c :: pre) = advance (advance here [c]) pre := advance_append here [c] pre
    rw [List.cons_append, cutAt, if_neg hne, hstep, ih]
    rfl

/-- A line feed at the end of the source changes nothing before it. -/
theorem cutAt_source {T U pre rest : Text} (hT : T = U ∨ T = U ++ ['\n']) (hcut : T = pre ++ rest)
    (hrest : rest ≠ []) : ∃ rest', cutAt (advance ⟨1, 0⟩ pre) ⟨1, 0⟩ U = (pre, rest') ∧
      rest'.takeWhile isNameChar = rest.takeWhile isNameChar := by
  rcases hT with rfl | rfl
  · exact ⟨rest, by rw [hcut, cutAt_advance], rfl⟩
  · obtain ⟨front, last, rfl⟩ := (List.eq_nil_or_concat rest).resolve_left hrest
    rw [List.concat_eq_append, ← List.append_assoc] at hcut
    obtain ⟨rfl, hlast⟩ := List.append_inj' hcut rfl
    obtain rfl : '\n' = last := by simpa using hlast
    refine ⟨front, cutAt_advance _ _ _, ?_⟩
    rw [List.concat_eq_append, List.takeWhile_append]
    split_ifs with hall
    · rw [List.takeWhile_prefix _ |>.eq_of_length hall]
      simp [show isNameChar '\n' = false by decide]
    · rfl

/-! ## Layout -/

/-- The innermost of the levels above the level zero. -/
def innermost (levels : List Level) : Level := levels.head?.getD ⟨0, 0⟩

/-- The word stands at the position. If it is indented, its column is the level, tabs counted as one
    column. -/
structure Begins (source : Text) (level : Level) (word : Text) (pos : Position) : Prop where
  word : wordAt source pos = word
  col : isIndentedAt source pos → pos.col = level.alt

/-- Lexemes in which changes of indentation go with a stack of levels, from the innermost on, and
    keywords with which statements start belong to the innermost level. `start` says that a statement
    may start at the front. -/
inductive Layout (source : Text) : List Level → (start : Bool) → List Lexeme → Prop
  | done {levels : List Level} {start : Bool} : Layout source levels start []
  | newline {levels : List Level} {start : Bool} {l : Lexeme} {ls : List Lexeme} :
      l.cls = .newline → Layout source levels true ls → Layout source levels start (l :: ls)
  | indent {levels : List Level} {level : Level} {l : Lexeme} {ls : List Lexeme} :
      l.cls = .indent → (innermost levels).alt < level.alt →
      Layout source (level :: levels) true ls → Layout source levels true (l :: ls)
  | dedent {levels : List Level} {level : Level} {l : Lexeme} {ls : List Lexeme} :
      l.cls = .dedent → Layout source levels true ls → Layout source (level :: levels) true (l :: ls)
  | first {levels : List Level} {l : Lexeme} {ls : List Lexeme} :
      l.isLayout = false → (l.cls = .keyword → Begins source (innermost levels) l.text l.pos) →
      Layout source levels false ls → Layout source levels true (l :: ls)
  | inside {levels : List Level} {l : Lexeme} {ls : List Lexeme} :
      l.isLayout = false → Layout source levels false ls → Layout source levels false (l :: ls)

namespace Lexeme

/-- A statement may start behind these lexemes. -/
def mayStart (found : List Lexeme) : Bool := found.head?.all isLayout

theorem mayStart_iff {found : List Lexeme} : mayStart found ↔ MayStart found := by
  rw [mayStart, Option.all_eq_true]
  rfl

namespace State

variable {source T pre : Text} {lexemes : List Lexeme} {s s' : State}

/-- The lexemes go on from those found so far with a layout that starts at the levels of the state. -/
def LaidOut (source : Text) (lexemes : List Lexeme) (s : State) : Prop :=
  ∃ tail, lexemes = s.found.reverse ++ tail ∧ Layout source s.levels (mayStart s.found) tail

/-- One step back, before a lexeme was found. -/
theorem LaidOut.of_cons {l : Lexeme} (h : LaidOut source lexemes s') (hfound : s'.found = l :: s.found)
    (hlayout : ∀ tail, Layout source s'.levels l.isLayout tail →
      Layout source s.levels (mayStart s.found) (l :: tail)) : LaidOut source lexemes s := by
  obtain ⟨tail, rfl, htail⟩ := h
  refine ⟨l :: tail, by simp [hfound], hlayout tail ?_⟩
  simpa [hfound, mayStart] using htail

/-- What is skipped leaves no lexeme. -/
theorem LaidOut.of_skip {t r : Text} (h : LaidOut source lexemes (s.skip t r)) :
    LaidOut source lexemes s := h

@[simp] theorem skip_pos (s : State) (text rest : Text) :
    (s.skip text rest).pos = advance s.pos text := rfl

@[simp] theorem skip_brackets (s : State) (text rest : Text) :
    (s.skip text rest).brackets = s.brackets := rfl

/-! ## The start of a line -/

theorem isMargin_append {b : Text} (hb : ∀ c ∈ b, c = ' ' ∨ c = '\t') (p : Text) :
    isMargin (p ++ b).reverse = isMargin p.reverse := by
  induction b generalizing p with
  | nil => rw [List.append_nil]
  | cons c b ih =>
    obtain ⟨hc, hb⟩ := List.forall_mem_cons.mp hb
    rw [List.append_cons, ih hb, List.reverse_append]
    rcases hc with rfl | rfl <;> rfl

/-- A backslash behind the blanks of a line joins the next line, which has no margin then. -/
theorem EndsBlank.isMargin_join (h : EndsBlank pre) : isMargin (pre ++ ['\\', '\n']).reverse = false := by
  obtain ⟨p, b, rfl, hp, hb⟩ := h
  have hline : (b.reverse ++ p.reverse).takeWhile (· ≠ '\n') = b.reverse := by
    have hfeed : ∀ c ∈ b.reverse, (c ≠ '\n' : Bool) := by
      intro c hc
      have hspace := hb c (List.mem_reverse.mp hc)
      rw [decide_eq_true_eq]
      rintro rfl
      cases hspace
    rw [List.takeWhile_append_of_pos hfeed]
    rcases hp with rfl | hp
    · simp
    · obtain ⟨q, rfl⟩ := List.getLast?_eq_some_iff.mp hp
      simp
  rw [List.reverse_append, List.reverse_append]
  show (!((b.reverse ++ p.reverse).takeWhile (· ≠ '\n')).all isSpace) = false
  rw [hline]
  simpa using hb

/-- Blanks in front of a text: as far as they are a margin, they are spaces and tabs, and their number is
    what the level has more than `alt`. -/
def Measured (alt fixed : Nat) (t rest : Text) (l : Level) : Prop :=
  ∃ b, t = b ++ rest ∧ ∀ p, EndsBlank p → isMargin (p ++ b).reverse →
    (∀ c ∈ b, c = ' ' ∨ c = '\t') ∧ (fixed = 0 → l.alt = alt + b.length)

theorem Measured.blank {alt fixed : Nat} {c : Char} {t rest : Text} {l : Level}
    (h : Measured (alt + 1) fixed t rest l) (hc : c = ' ' ∨ c = '\t') :
    Measured alt fixed (c :: t) rest l := by
  obtain ⟨b, rfl, hb⟩ := h
  refine ⟨c :: b, rfl, fun p hp hmargin => ?_⟩
  have hspace : isSpace c := by rcases hc with rfl | rfl <;> rfl
  rw [List.append_cons] at hmargin
  obtain ⟨hblank, halt⟩ := hb _ (hp.append (by simpa using hspace)) hmargin
  refine ⟨List.forall_mem_cons.mpr ⟨hc, hblank⟩, fun hfixed => ?_⟩
  rw [halt hfixed, List.length_cons]
  omega

/-- Behind what is no margin, nothing is said of the blanks. -/
theorem Measured.of_not_isMargin {alt alt' fixed fixed' : Nat} {a t rest : Text} {l : Level}
    (h : Measured alt' fixed' t rest l)
    (ha : ∀ p, EndsBlank p → EndsBlank (p ++ a) ∧ isMargin (p ++ a).reverse = false) :
    Measured alt fixed (a ++ t) rest l := by
  obtain ⟨b, rfl, hb⟩ := h
  refine ⟨a ++ b, by rw [List.append_assoc], fun p hp hmargin => ?_⟩
  obtain ⟨hpa, hfalse⟩ := ha p hp
  rw [← List.append_assoc] at hmargin
  rw [isMargin_append (hb _ hpa hmargin).1, hfalse] at hmargin
  cases hmargin

theorem measured_readIndent {padded : Bool} {col alt fixed : Nat} {t rest : Text} {l : Level}
    (h : readIndent padded col alt fixed t = some (l, rest)) : Measured alt fixed t rest l := by
  fun_induction readIndent padded col alt fixed t with
  | case1 _ _ _ _ ih => exact (ih h).blank (.inl rfl)
  | case2 _ _ _ _ ih => exact (ih h).blank (.inr rfl)
  | case3 _ _ _ _ ih =>
    -- a form feed
    refine (ih h).of_not_isMargin (a := ['\x0c']) fun p hp => ⟨hp.append (by simp [isSpace]), ?_⟩
    rw [List.reverse_append]
    rfl
  | case4 =>
    -- a backslash in front of the last line end
    cases h
    refine ⟨['\\'], rfl, fun p _ hmargin => ?_⟩
    rw [List.reverse_append] at hmargin
    cases hmargin
  | case5 => cases h
  | case6 _ _ _ _ _ ih =>
    -- a joined line
    refine (ih h).of_not_isMargin (a := ['\\', '\n']) fun p hp => ⟨?_, hp.isMargin_join⟩
    simpa using endsBlank_lineFeed (p ++ ['\\'])
  | case7 => cases h
  | case8 =>
    cases h
    refine ⟨[], rfl, fun p _ _ => ⟨by simp, fun hfixed => ?_⟩⟩
    simp [hfixed]

/-- Behind a margin, the blanks at the start of a line reach to the column of the level. -/
theorem Measured.exists_col {t rest : Text} {l : Level} (h : Measured 0 0 t rest l) :
    ∃ b, t = b ++ rest ∧ ∀ pre pos, EndsBlank pre → isMargin (pre ++ b).reverse → pos.col = 0 →
      (advance pos b).col = l.alt := by
  obtain ⟨b, hcut, hb⟩ := h
  refine ⟨b, hcut, fun pre pos hpre hmargin hpos => ?_⟩
  obtain ⟨hblank, halt⟩ := hb pre hpre hmargin
  have hascii : ∀ c ∈ b, c ≠ '\n' ∧ c.toNat < 0x80 := by
    intro c hc
    rcases hblank c hc with rfl | rfl <;> decide
  rw [advance_of_ascii hascii, hpos, halt rfl]

theorem readIndent_head {padded : Bool} {col alt fixed : Nat} {t rest : Text} {l : Level}
    (h : readIndent padded col alt fixed t = some (l, rest)) :
    ∀ c ∈ rest.head?, ¬ isSpace c ∧ c ≠ '\\' := by
  fun_induction readIndent padded col alt fixed t with
  | case1 _ _ _ _ ih => exact ih h
  | case2 _ _ _ _ ih => exact ih h
  | case3 _ _ _ _ ih => exact ih h
  | case4 =>
    cases h
    intro c hc
    cases hc
    decide
  | case5 => cases h
  | case6 _ _ _ _ _ ih => exact ih h
  | case7 => cases h
  | case8 _ _ _ t hspace htab hfeed hslash =>
    cases h
    intro c hc
    obtain ⟨r, rfl⟩ := List.head?_eq_some_iff.mp hc
    refine ⟨?_, fun heq => hslash r (by rw [heq])⟩
    simp only [isSpace, Bool.or_eq_true, decide_eq_true_eq, not_or]
    exact ⟨⟨fun heq => hspace r (by rw [heq]), fun heq => htab r (by rw [heq])⟩,
      fun heq => hfeed r (by rw [heq])⟩

theorem closeLevels_place (col : Nat) (levels : List Level) (s : State) :
    (closeLevels col levels s).rest = s.rest ∧ (closeLevels col levels s).pos = s.pos := by
  induction levels generalizing s with
  | nil => exact ⟨rfl, rfl⟩
  | cons l levels ih =>
    rw [closeLevels]
    split_ifs
    · exact ih _
    · exact ⟨rfl, rfl⟩

theorem LaidOut.of_closeLevels {col : Nat} {levels : List Level} (hmay : mayStart s.found)
    (h : LaidOut source lexemes (closeLevels col levels s)) :
    LaidOut source lexemes { s with levels } := by
  induction levels generalizing s with
  | nil => exact h
  | cons l levels ih =>
    rw [closeLevels] at h
    split_ifs at h
    · refine (ih rfl h).of_cons rfl fun tail htail => ?_
      rw [hmay]
      exact .dedent rfl htail
    · exact h

/-- What a change of indentation can do: nothing, go one level deeper, or go back to an outer level. -/
theorem indent_cases {l : Level} (h : s.indent l = some s') :
    (s' = s ∧ s.level = l) ∨
      (s' = { s.mark .indent with levels := l :: s.levels } ∧ s.level.alt < l.alt) ∨
      (s' = closeLevels l.col s.levels s ∧ s'.level = l) := by
  unfold State.indent at h
  simp only at h
  split_ifs at h with hcol halt hdeeper hbound hclosed <;> cases h
  · obtain ⟨col, alt⟩ := l
    obtain rfl : col = s.level.col := hcol
    obtain rfl : alt = s.level.alt := halt
    exact .inl ⟨rfl, rfl⟩
  · simp only [Bool.or_eq_true, decide_eq_true_eq, not_or, not_le] at hbound
    exact .inr (.inl ⟨rfl, hbound.2⟩)
  · exact .inr (.inr ⟨rfl, hclosed⟩)

/-- A change of indentation where a statement may start. -/
theorem LaidOut.of_indent {l : Level} (h : LaidOut source lexemes s') (hmay : mayStart s.found)
    (hs' : s.indent l = some s') : LaidOut source lexemes s := by
  obtain ⟨rfl, -⟩ | ⟨rfl, hdeeper⟩ | ⟨rfl, -⟩ := indent_cases hs'
  · exact h
  · refine h.of_cons rfl fun tail htail => ?_
    rw [hmay]
    exact .indent rfl hdeeper htail
  · exact h.of_closeLevels hmay

/-- A change of indentation leads to the level of the line. -/
theorem indent_eq_some {l : Level} (h : s.indent l = some s') :
    s'.level = l ∧ s'.rest = s.rest ∧ s'.pos = s.pos := by
  obtain ⟨rfl, hlevel⟩ | ⟨rfl, -⟩ | ⟨rfl, hlevel⟩ := indent_cases h
  · exact ⟨hlevel, rfl, rfl⟩
  · exact ⟨rfl, rfl, rfl⟩
  · exact ⟨hlevel, closeLevels_place _ _ _⟩

/-! ## The invariant -/

/-- The first lexeme of a line is at the front. Behind a margin its column is the level. -/
structure AtMargin (T : Text) (s : State) : Prop where
  head : ∀ c ∈ s.rest.head?, ¬ isSpace c ∧ c ≠ '\\' ∧ c ≠ '#' ∧ c ≠ '\n'
  col : ∀ pre, T = pre ++ s.rest → isMargin pre.reverse → s.pos.col = s.level.alt

/-- The lexer between two steps: outside brackets a statement may start with every line, and where one
    may start in a line with lexemes, the first of them is at the front. -/
structure Leveled (T : Text) (fresh blank : Bool) (s : State) : Prop where
  ready : Ready T fresh blank s
  col : fresh → s.pos.col = 0
  start : fresh ∨ blank → s.brackets = [] → MayStart s.found
  margin : fresh = false → blank = false → MayStart s.found → AtMargin T s

section Steps

variable {blank : Bool} {c : Char} {t : Text}

theorem Leveled.brackets {fresh : Bool} (h : Leveled T fresh blank s) (hmay : MayStart s.found) :
    s.brackets = [] := by
  obtain ⟨pre, hplaced, -⟩ := h.ready.placed
  exact (hplaced.start hmay).1

theorem Leveled.startLine (h : Leveled T true blank s) {padded blank' : Bool}
    (hs' : s.startLine padded = some (blank', s')) : Leveled T false blank' s' ∧
      (LaidOut source lexemes s' → LaidOut source lexemes s) := by
  have hready := h.ready.startLine hs'
  obtain ⟨⟨l, rest⟩, hread, hrun⟩ := Option.bind_eq_some_iff.mp hs'
  obtain ⟨b, hcut, hb⟩ := (measured_readIndent hread).exists_col
  have htake : s.rest.take (s.rest.length - rest.length) = b := by simp [hcut]
  simp only [htake, skip_brackets] at hrun
  split_ifs at hrun with hcond
  · -- a blank line, or a line inside brackets, where no statement may start
    cases hrun
    refine ⟨⟨hready, by simp, fun _ => h.start (.inl rfl), fun _ hblank hmay => ?_⟩, id⟩
    rw [hblank, h.brackets hmay] at hcond
    cases hcond
  · obtain ⟨s'', hindent, heq⟩ := Option.map_eq_some_iff.mp hrun
    cases heq
    simp only [Bool.or_eq_true, not_or, Bool.not_eq_true, Bool.not_eq_false'] at hcond
    have hmay : mayStart s.found := mayStart_iff.mpr (h.start (.inl rfl) (by simpa using hcond.2))
    obtain ⟨hlevel, hrest, hpos⟩ := indent_eq_some hindent
    refine ⟨⟨hready, by simp, by simp, fun _ _ _ => ⟨?_, ?_⟩⟩, fun h' => ?_⟩
    · rw [hrest, skip_rest]
      intro c hc
      obtain ⟨hspace, hslash⟩ := readIndent_head hread c hc
      obtain ⟨r, rfl⟩ := List.head?_eq_some_iff.mp hc
      refine ⟨hspace, hslash, ?_, ?_⟩
      all_goals
        rintro rfl
        cases hcond.1
    · intro pre hpre hmargin
      obtain ⟨pre', hplaced, hends⟩ := h.ready.placed
      have hpre' : pre = pre' ++ b := by
        have hcuts := hplaced.cut
        rw [hpre, hrest, hcut, skip_rest, ← List.append_assoc] at hcuts
        exact List.append_cancel_right hcuts
      rw [hpos, hlevel, skip_pos]
      exact hb pre' s.pos (hends rfl) (hpre' ▸ hmargin) (h.col rfl)
    · have hskip : LaidOut source lexemes (s.skip b rest) := h'.of_indent hmay hindent
      exact hskip.of_skip

/-- Nothing is skipped in front of the first lexeme of a line. -/
theorem AtMargin.skipSpaces (h : AtMargin T s) :
    s.skip (s.rest.takeWhile isSpace) (s.rest.dropWhile isSpace) = s := by
  have hspaces : s.rest.takeWhile isSpace = [] ∧ s.rest.dropWhile isSpace = s.rest := by
    cases hrest : s.rest with
    | nil => exact ⟨rfl, rfl⟩
    | cons c t =>
      have hc := (h.head c (by rw [hrest]; rfl)).1
      exact ⟨List.takeWhile_cons_of_neg hc, List.dropWhile_cons_of_neg hc⟩
  rw [hspaces.1, hspaces.2]
  rfl

theorem Leveled.skipSpaces (h : Leveled T false blank s) :
    Leveled T false blank (s.skip (s.rest.takeWhile isSpace) (s.rest.dropWhile isSpace)) where
  ready := h.ready.skipSpaces
  col := by simp
  start := h.start
  margin := fun _ hblank hmay => by
    have hmargin := h.margin rfl hblank hmay
    rwa [hmargin.skipSpaces]

/-- In a line with lexemes, joined lines, comments and the end come behind the first one. -/
theorem Leveled.not_mayStart (h : Leveled T false false s) (hrest : s.rest = c :: t)
    (hc : c = '\\' ∨ c = '#' ∨ c = '\n') : ¬ MayStart s.found := by
  intro hmay
  obtain ⟨-, hslash, hhash, hfeed⟩ := (h.margin rfl rfl hmay).head c (by rw [hrest]; rfl)
  rcases hc with hc | hc | hc
  exacts [hslash hc, hhash hc, hfeed hc]

theorem Leveled.skip (h : Leveled T false blank s) (hrest : s.rest = c :: t)
    (hc : c = '\\' ∨ c = '#' ∨ c = '\n') {g r : Text} (hready : Ready T false blank (s.skip g r)) :
    Leveled T false blank (s.skip g r) where
  ready := hready
  col := by simp
  start := h.start
  margin := by
    rintro - rfl hmay
    exact absurd hmay (h.not_mayStart hrest hc)

theorem Leveled.skipComment (h : Leveled T false blank s) (hrest : s.rest = '#' :: t) :
    Leveled T false blank (s.skip ('#' :: t.takeWhile (· ≠ '\n')) (t.dropWhile (· ≠ '\n'))) :=
  h.skip hrest (.inr (.inl rfl)) (h.ready.skipComment hrest)

theorem Leveled.join (h : Leveled T false blank s) (hrest : s.rest = '\\' :: '\n' :: t) :
    Leveled T false blank (s.skip ['\\', '\n'] t) :=
  h.skip hrest (.inl rfl) (h.ready.join hrest)

theorem Leveled.joinEnd (h : Leveled T false blank s) (hrest : s.rest = ['\\', '\n']) :
    Leveled T false blank (s.skip ['\\'] ['\n']) :=
  h.skip hrest (.inl rfl) (h.ready.joinEnd hrest)

theorem Leveled.skipLine (h : Leveled T false blank s) (hrest : s.rest = '\n' :: t)
    (hcond : blank || !s.brackets.isEmpty) : Leveled T true false (s.skip ['\n'] t) where
  ready := h.ready.skipLine hrest hcond
  col := fun _ => rfl
  start := by
    intro _ hbrackets
    rw [skip_brackets] at hbrackets
    refine h.start (.inr ?_) hbrackets
    simpa [hbrackets] using hcond
  margin := by simp

theorem Leveled.endLine (h : Leveled T false blank s) (hrest : s.rest = '\n' :: t)
    (hbrackets : s.brackets = []) : Leveled T true false ((s.mark .newline).skip ['\n'] t) ∧
      (LaidOut source lexemes ((s.mark .newline).skip ['\n'] t) → LaidOut source lexemes s) := by
  refine ⟨⟨h.ready.endLine hrest hbrackets, fun _ => rfl, fun _ _ => ?_, by simp⟩, ?_⟩
  · exact mayStart_iff.mp rfl
  · exact fun h' => h'.of_cons rfl fun tail htail => .newline rfl htail

end Steps

/-! ## Lexemes with a spelling -/

theorem pushOperator_eq_some {op rest : Text} (h : s.pushOperator op rest = some s') :
    s'.rest = rest ∧ s'.levels = s.levels ∧ s'.found = ⟨.op, op, s.pos⟩ :: s.found := by
  unfold State.pushOperator at h
  split at h
  · split_ifs at h
    · cases h
      exact ⟨rfl, rfl, rfl⟩
    · split at h
      · cases h
        exact ⟨rfl, rfl, rfl⟩
      · split at h
        · split_ifs at h
          cases h
          exact ⟨rfl, rfl, rfl⟩
        · cases h
  · cases h
    exact ⟨rfl, rfl, rfl⟩

/-- One lexeme is found; a keyword is the word at the front. -/
theorem pushLexeme_eq_some {c : Char} (h : s.pushLexeme c = some s') :
    s'.levels = s.levels ∧ ∃ l, s'.found = l :: s.found ∧ l.isLayout = false ∧
      (l.cls = .keyword → l.pos = s.pos ∧ l.text = s.rest.takeWhile isNameChar) := by
  unfold State.pushLexeme at h
  split at h
  · obtain ⟨rest, -, rfl⟩ := Option.map_eq_some_iff.mp h
    exact ⟨rfl, _, rfl, rfl, by simp⟩
  · split_ifs at h
    · unfold State.pushName at h
      simp only at h
      split_ifs at h <;> cases h
      · exact ⟨rfl, _, rfl, rfl, fun _ => ⟨rfl, rfl⟩⟩
      · exact ⟨rfl, _, rfl, rfl, by simp⟩
    · obtain ⟨rest, -, rfl⟩ := Option.map_eq_some_iff.mp h
      exact ⟨rfl, _, rfl, rfl, by simp⟩
    · split at h
      · obtain ⟨-, hlevels, hfound⟩ := pushOperator_eq_some h
        exact ⟨hlevels, _, hfound, rfl, by simp⟩
      · cases h

/-- The word at the front, where the first lexeme of a line is, belongs to the level. -/
theorem AtMargin.begins (h : AtMargin T s) (hplaced : Placed T pre s)
    (hT : T = source.unifyNewlines ∨ T = source.unifyNewlines ++ ['\n']) (hrest : s.rest ≠ []) :
    Begins source s.level (s.rest.takeWhile isNameChar) s.pos := by
  obtain ⟨rest', hcut, hword⟩ := cutAt_source hT hplaced.cut hrest
  rw [← hplaced.pos] at hcut
  refine ⟨by rw [wordAt, hcut, hword], fun hindented => h.col pre hplaced.cut ?_⟩
  rwa [isIndentedAt, hcut] at hindented

theorem Leveled.pushLexeme {blank : Bool} {c : Char} {t : Text} (h : Leveled T false blank s)
    (hT : T = source.unifyNewlines ∨ T = source.unifyNewlines ++ ['\n']) (hrest : s.rest = c :: t)
    (hfeed : c ≠ '\n') (hhash : c ≠ '#') (hs' : s.pushLexeme c = some s') :
    Leveled T false blank s' ∧ (LaidOut source lexemes s' → LaidOut source lexemes s) := by
  have hready := h.ready.pushLexeme hrest hfeed hhash hs'
  obtain ⟨hlevels, l, hfound, hl, hkeyword⟩ := pushLexeme_eq_some hs'
  have hblank : blank = false := by
    by_contra hblank
    rcases (h.ready.blank rfl (by simpa using hblank)).head hrest with hc | hc
    exacts [hfeed hc, hhash hc]
  have hnot : ¬ MayStart s'.found := by
    intro hmay
    rw [hmay l (by rw [hfound]; rfl)] at hl
    cases hl
  refine ⟨⟨hready, by simp, by simp [hblank], fun _ _ hmay => absurd hmay hnot⟩, ?_⟩
  refine fun h' => h'.of_cons hfound fun tail htail => ?_
  rw [hl, hlevels] at htail
  cases hstart : mayStart s.found with
  | false => exact .inside hl htail
  | true =>
    refine .first hl (fun hcls => ?_) htail
    obtain ⟨pre, hplaced, -⟩ := h.ready.placed
    have hmargin := h.margin rfl hblank (mayStart_iff.mp hstart)
    rw [(hkeyword hcls).1, (hkeyword hcls).2]
    exact hmargin.begins hplaced hT (by rw [hrest]; exact List.cons_ne_nil c t)

/-! ## Runs -/

/-- Every run, step by step. -/
theorem run_laidOut {padded : Bool} {fuel : Nat} {fresh blank : Bool}
    (hT : T = source.unifyNewlines ∨ T = source.unifyNewlines ++ ['\n']) (h : Leveled T fresh blank s)
    (hrun : run padded fuel fresh blank s = some lexemes) : LaidOut source lexemes s := by
  induction fuel generalizing fresh blank s with
  | zero => cases hrun
  | succ fuel ih =>
    cases fresh with
    | true =>
      obtain ⟨⟨blank', s'⟩, hstart, hrun⟩ := Option.bind_eq_some_iff.mp hrun
      obtain ⟨hnext, hback⟩ := h.startLine hstart
      exact hback (ih hnext hrun)
    | false =>
      have hskip := h.skipSpaces
      rw [run] at hrun
      simp only at hrun
      refine LaidOut.of_skip (t := s.rest.takeWhile isSpace) (r := s.rest.dropWhile isSpace) ?_
      generalize s.skip (s.rest.takeWhile isSpace) (s.rest.dropWhile isSpace) = s' at hskip hrun ⊢
      split at hrun
      · split_ifs at hrun
        cases hrun
        refine ⟨[⟨.stop, [], s'.pos⟩], by simp [mark], ?_⟩
        cases mayStart s'.found
        · exact .inside rfl .done
        · exact .first rfl (by simp) .done
      · rename_i hrest
        exact (ih (hskip.skipComment hrest) hrun).of_skip
      · rename_i hrest
        split_ifs at hrun with hcond
        · exact (ih (hskip.skipLine hrest hcond) hrun).of_skip
        · simp only [Bool.or_eq_true, not_or, Bool.not_eq_true, Bool.not_eq_false'] at hcond
          obtain ⟨hnext, hback⟩ := hskip.endLine hrest (by simpa using hcond.2)
          exact hback (ih hnext hrun)
      · rename_i hrest
        split at hrun
        · split_ifs at hrun
          exact (ih (hskip.joinEnd hrest) hrun).of_skip
        · exact (ih (hskip.join hrest) hrun).of_skip
        · cases hrun
      · rename_i hhash hfeed _ hrest
        obtain ⟨s'', hpush, hrun⟩ := Option.bind_eq_some_iff.mp hrun
        obtain ⟨hnext, hback⟩ := hskip.pushLexeme hT hrest hfeed hhash hpush
        exact hback (ih hnext hrun)

theorem leveled_start (T : Text) : Leveled T true false { rest := T, pos := ⟨1, 0⟩ } where
  ready := ready_start T
  col := fun _ => rfl
  start := fun _ _ => mayStart_iff.mp rfl
  margin := by simp

end State

/-- The lexemes of a source. -/
theorem layout_ofText? {source : Text} {lexemes : List Lexeme} (h : ofText? source = some lexemes) :
    Layout source [] true lexemes := by
  rw [ofText?] at h
  split_ifs at h
  simp only at h
  generalize hT : (if source.unifyNewlines.getLast? = some '\n' then source.unifyNewlines
    else source.unifyNewlines ++ ['\n']) = T at h
  have hsource : T = source.unifyNewlines ∨ T = source.unifyNewlines ++ ['\n'] := by
    rw [← hT]
    split_ifs <;> simp
  obtain ⟨tail, rfl, hlayout⟩ := State.run_laidOut hsource (State.leveled_start T) h
  exact hlayout

end Lexeme

end HouseStyle.Syntax
