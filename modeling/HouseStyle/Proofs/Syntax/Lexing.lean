import HouseStyle.Proofs.Syntax.Classes
import HouseStyle.Proofs.Text.Utf8
import HouseStyle.Proofs.Token.Places

/-!
# Where lexemes stand

A lexeme stands where its position says, and the positions of keywords increase. If a keyword is the
first lexeme of a statement, nothing but blanks stands before it in its line, and the name behind it
comes after blanks and joined lines only. The lexer is followed step by step: what has been read is the
text up to the current position.

Main definitions:
* `Lexeme.State.EndsBlank`: a text whose last line has blanks only.
* `Lexeme.Joined`: the first keyword of a statement and the name behind it.
* `Lexeme.State.Placed`: what holds of the lexemes and the text read so far.
* `Lexeme.State.Ready`: the invariant of the lexer between two steps.

Main results:
* `Lexeme.State.Ready.pushLexeme`, `Lexeme.State.Ready.startLine` and others: every step keeps the
  invariant.
* `Lexeme.joined_ofText?`, `Lexeme.pairwise_before_ofText?`: all lexemes of a source.
-/

namespace HouseStyle.Syntax

/-! ## Positions -/

/-- The first position comes before the second. -/
def Position.Before (p q : Position) : Prop := p.line < q.line ∨ (p.line = q.line ∧ p.col < q.col)

theorem Position.Before.trans {p q r : Position} (h : p.Before q) (h' : q.Before r) : p.Before r := by
  unfold Position.Before at *
  omega

theorem Position.Before.ne {p q : Position} (h : p.Before q) : p ≠ q := by
  rintro rfl
  unfold Position.Before at h
  omega

namespace Lexeme

open Token (IsPlain Passes IsDigitClass isDigitClass_decimal isDigitClass_radix)

namespace State

theorem advance_append (pos : Position) (a b : Text) :
    advance pos (a ++ b) = advance (advance pos a) b := List.foldl_append

theorem advance_of_ascii {b : Text} (hb : ∀ c ∈ b, c ≠ '\n' ∧ c.toNat < 0x80) (pos : Position) :
    advance pos b = ⟨pos.line, pos.col + b.length⟩ := by
  induction b generalizing pos with
  | nil => rfl
  | cons c b ih =>
    obtain ⟨⟨hc, hascii⟩, hb⟩ := List.forall_mem_cons.mp hb
    have hstep : advance pos [c] = ⟨pos.line, pos.col + 1⟩ := by
      simp [advance, hc, Utf8.width, hascii]
    rw [← List.singleton_append, advance_append, hstep, ih hb, List.length_append, List.length_singleton,
      Nat.add_assoc]

theorem before_advance (pos : Position) {t : Text} (ht : t ≠ []) : pos.Before (advance pos t) := by
  have hstep : ∀ (pos : Position) (c : Char), pos.Before (advance pos [c]) := by
    intro pos c
    have hwidth := Utf8.width_pos c
    simp only [advance, List.foldl_cons, List.foldl_nil]
    split_ifs
    · exact .inl (Nat.lt_succ_self _)
    · exact .inr ⟨rfl, Nat.lt_add_of_pos_right hwidth⟩
  induction t generalizing pos with
  | nil => exact absurd rfl ht
  | cons c t ih =>
    rw [← List.singleton_append, advance_append]
    by_cases hnil : t = []
    · rw [hnil]
      exact hstep pos c
    · exact (hstep pos c).trans (ih _ hnil)

theorem before_advance_of_before {p q : Position} (h : p.Before q) (t : Text) :
    p.Before (advance q t) := by
  by_cases hnil : t = []
  · rwa [hnil]
  · exact h.trans (before_advance q hnil)

/-- Behind its last line feed the text has blanks only. -/
def EndsBlank (pre : Text) : Prop :=
  ∃ p b, pre = p ++ b ∧ (p = [] ∨ p.getLast? = some '\n') ∧ ∀ c ∈ b, isSpace c

theorem endsBlank_nil : EndsBlank [] := ⟨[], [], rfl, .inl rfl, by simp⟩

theorem endsBlank_lineFeed (pre : Text) : EndsBlank (pre ++ ['\n']) :=
  ⟨pre ++ ['\n'], [], by simp, .inr (by simp), by simp⟩

theorem EndsBlank.append {pre b : Text} (h : EndsBlank pre) (hb : ∀ c ∈ b, isSpace c) :
    EndsBlank (pre ++ b) := by
  obtain ⟨p, b', rfl, hp, hb'⟩ := h
  refine ⟨p, b' ++ b, by simp, hp, ?_⟩
  intro c hc
  exact (List.mem_append.mp hc).elim (hb' c) (hb c)

/-- Nothing is left of the line. -/
def AtLineEnd (rest : Text) : Prop := rest = [] ∨ ∃ t, rest = '\n' :: t

@[simp] theorem skip_rest (s : State) (text rest : Text) : (s.skip text rest).rest = rest := rfl

@[simp] theorem skip_found (s : State) (text rest : Text) : (s.skip text rest).found = s.found := rfl

@[simp] theorem push_rest (s : State) (cls : LexemeClass) (text rest : Text) :
    (s.push cls text rest).rest = rest := rfl

@[simp] theorem push_found (s : State) (cls : LexemeClass) (text rest : Text) :
    (s.push cls text rest).found = ⟨cls, text, s.pos⟩ :: s.found := rfl

end State

/-! ## Numbers and strings -/

/-- The part of a number takes plain characters and leaves the rest. -/
def Leaves (f : Text → Option Text) : Prop := ∀ ⦃t r⦄, f t = some r → Passes t r

theorem Leaves.bind {f g : Text → Option Text} (hf : Leaves f) (hg : Leaves g) :
    Leaves fun t => (f t).bind g := by
  intro t r h
  obtain ⟨m, hm, hr⟩ := Option.bind_eq_some_iff.mp h
  exact (hf hm).trans (hg hr)

theorem isPlain_of_isAsciiDigit {c : Char} (h : Text.isAsciiDigit c) : IsPlain c :=
  isDigitClass_decimal.plain c h

theorem leaves_digitTail {isDigit : Char → Bool} (hdigit : IsDigitClass isDigit) :
    Leaves (digitTail isDigit) := by
  intro t r h
  fun_induction digitTail isDigit t with
  | case1 => cases h; exact .refl _
  | case2 => cases h
  | case3 d t hd ih => exact .cons (by decide) (.cons (hdigit.plain d hd) (ih h))
  | case4 => cases h
  | case5 c t _ _ hc ih => exact .cons (hdigit.plain c hc) (ih h)
  | case6 => cases h; exact .refl _

theorem leaves_radixDigits {isDigit : Char → Bool} (hdigit : IsDigitClass isDigit) :
    Leaves (radixDigits isDigit) := by
  intro t r h
  rw [radixDigits.eq_def] at h
  split at h
  · split_ifs at h with hd
    exact .cons (by decide) (.cons (hdigit.plain _ hd) (leaves_digitTail hdigit h))
  · split_ifs at h with hd
    exact .cons (hdigit.plain _ hd) (leaves_digitTail hdigit h)
  · cases h

theorem leaves_zeroTail : Leaves zeroTail := by
  intro t r h
  fun_induction zeroTail t with
  | case1 => cases h
  | case2 t ih => exact .cons (by decide) (.cons (by decide) (ih h))
  | case3 => cases h; exact .cons (by decide) (.refl _)
  | case4 => cases h
  | case5 t ih => exact .cons (by decide) (ih h)
  | case6 => cases h; exact .refl _

theorem leaves_numberEnd : Leaves numberEnd := by
  intro t r h
  rw [numberEnd] at h
  split_ifs at h
  cases h
  exact .refl _

theorem leaves_imaginaryTail : Leaves imaginaryTail := by
  intro t r h
  rw [imaginaryTail.eq_def] at h
  split at h
  · exact .cons (by decide) (leaves_numberEnd h)
  · exact .cons (by decide) (leaves_numberEnd h)
  · exact leaves_numberEnd h

theorem leaves_digits : Leaves fun t => (digitTail Text.isAsciiDigit t).bind imaginaryTail :=
  (leaves_digitTail isDigitClass_decimal).bind leaves_imaginaryTail

theorem isPlain_of_sign {c : Char} (h : (c = '+' || c = '-') = true) : IsPlain c := by
  simp only [Bool.or_eq_true, decide_eq_true_eq] at h
  rcases h with rfl | rfl <;> decide

theorem leaves_exponentTail : Leaves exponentTail := by
  intro t r h
  cases t with
  | nil => cases h; exact .refl _
  | cons e t =>
    rw [exponentTail.eq_def] at h
    simp only at h
    split_ifs at h with he
    · have hmark : IsPlain e := by
        simp only [Bool.or_eq_true, decide_eq_true_eq] at he
        rcases he with rfl | rfl <;> decide
      split at h
      · split_ifs at h with hs hd hs'
        · have hsign := isPlain_of_sign hs
          exact .cons hmark (.cons hsign (.cons (isPlain_of_isAsciiDigit hd) (leaves_digits h)))
        · exact .cons hmark (.cons (isPlain_of_isAsciiDigit hs') (leaves_digits h))
        · exact leaves_numberEnd h
      · split_ifs at h with hd
        · cases h; exact .cons hmark (.cons (isPlain_of_isAsciiDigit hd) (.refl _))
        · exact leaves_numberEnd h
      · exact leaves_numberEnd h
    · exact leaves_imaginaryTail h

theorem leaves_fractionTail : Leaves fractionTail := by
  intro t r h
  cases t with
  | nil => cases h; exact .refl _
  | cons d t =>
    rw [fractionTail] at h
    split_ifs at h with hd
    · refine .cons (isPlain_of_isAsciiDigit hd) ?_
      exact (leaves_digitTail isDigitClass_decimal).bind leaves_exponentTail h
    · exact leaves_exponentTail h

theorem leaves_pointTail : Leaves pointTail := by
  intro t r h
  rw [pointTail.eq_def] at h
  split at h
  · exact .cons (by decide) (leaves_fractionTail h)
  · exact leaves_exponentTail h

theorem leaves_radixNumber (radix : Nat) : Leaves (radixNumber radix) := by
  refine (leaves_radixDigits (isDigitClass_radix radix)).bind fun t r h => ?_
  cases t with
  | nil => cases h; exact .refl _
  | cons c t =>
    simp only at h
    split_ifs at h
    exact leaves_numberEnd h

/-- The digits behind zeros in front, up to the point that has to come. -/
theorem leaves_zeros : Leaves fun t => (zeroTail t).bind fun z =>
    match z with
    | d :: y =>
      if Text.isAsciiDigit d then
        (digitTail Text.isAsciiDigit y).bind fun u =>
          match u with
          | e :: _ =>
            if e = '.' || e = 'e' || e = 'E' || e = 'j' || e = 'J' then pointTail u else none
          | [] => none
      else pointTail z
    | [] => some [] := by
  refine leaves_zeroTail.bind fun z r h => ?_
  cases z with
  | nil => cases h; exact .refl _
  | cons d y =>
    simp only at h
    split_ifs at h with hd
    · obtain ⟨u, hu, hr⟩ := Option.bind_eq_some_iff.mp h
      have hdigits := leaves_digitTail isDigitClass_decimal hu
      refine .cons (isPlain_of_isAsciiDigit hd) (hdigits.trans ?_)
      cases u with
      | nil => cases hr
      | cons e u =>
        simp only at hr
        split_ifs at hr
        exact leaves_pointTail hr
    · exact leaves_pointTail h

theorem leaves_numberTail (c : Char) : Leaves (numberTail c) := by
  intro t r h
  rw [numberTail.eq_def] at h
  split_ifs at h
  · cases t with
    | nil => cases h; exact .refl _
    | cons m t =>
      have hmark : ∀ {a b : Char}, IsPlain a → IsPlain b → (m = a || m = b) = true → IsPlain m := by
        intro a b ha hb hm
        simp only [Bool.or_eq_true, decide_eq_true_eq] at hm
        rcases hm with rfl | rfl
        exacts [ha, hb]
      simp only at h
      split_ifs at h with h16 h8 h2
      · exact .cons (hmark (by decide) (by decide) h16) (leaves_radixNumber 16 h)
      · exact .cons (hmark (by decide) (by decide) h8) (leaves_radixNumber 8 h)
      · exact .cons (hmark (by decide) (by decide) h2) (leaves_radixNumber 2 h)
      · exact leaves_zeros h
  · exact (leaves_digitTail isDigitClass_decimal).bind leaves_pointTail h

/-- A number starts with a digit or a point. -/
theorem passes_of_number? {t r : Text} (hstart : State.startsNumber t) (h : number? t = some r) :
    Passes t r := by
  rw [number?.eq_def] at h
  split at h
  · exact .cons (by decide) (leaves_fractionTail h)
  · rename_i c t hpoint
    have hdigit : Text.isAsciiDigit c := by
      rw [State.startsNumber] at hstart
      · exact hstart
      · rintro d u rfl rfl
        exact hpoint rfl
    obtain ⟨rest, hrest, hr⟩ := Option.bind_eq_some_iff.mp h
    simp only at hr
    split_ifs at hr
    cases hr
    exact .cons (isPlain_of_isAsciiDigit hdigit) (leaves_numberTail _ hrest)
  · cases h

theorem stringTail_suffix {quote : Char} {size seen : Nat} {t r : Text}
    (h : stringTail quote size seen t = some r) : r <:+ t := by
  fun_induction stringTail quote size seen t with
  | case1 => cases h
  | case2 => cases h
  | case3 => cases h; exact List.suffix_cons _ _
  | case4 _ t _ _ ih => exact (ih h).trans (List.suffix_cons _ t)
  | case5 => cases h
  | case6 _ _ r _ _ ih => exact (ih h).trans ((List.suffix_cons _ r).trans (List.suffix_cons _ _))
  | case7 _ _ t _ _ _ ih => exact (ih h).trans (List.suffix_cons _ t)

theorem string?_suffix {t r : Text} (h : string? t = some r) : r <:+ t := by
  rw [string?.eq_def] at h
  split at h
  · refine List.IsSuffix.trans ?_ (List.suffix_cons _ _)
    split at h
    · split_ifs at h
      · exact (stringTail_suffix h).trans ((List.suffix_cons _ _).trans (List.suffix_cons _ _))
      · cases h; exact List.suffix_cons _ _
      · exact stringTail_suffix h
    · split_ifs at h
      cases h
      exact List.nil_suffix
    · cases h
  · cases h

/-! ## The first lexemes of a statement

The lexemes found so far are in reverse order. -/

/-- A statement may start behind these lexemes. -/
def MayStart (found : List Lexeme) : Prop := ∀ l ∈ found.head?, l.isLayout

/-- The last lexeme is a keyword with which a statement starts. -/
def Opened (found : List Lexeme) (l : Lexeme) : Prop :=
  ∃ ls, found = l :: ls ∧ l.cls = .keyword ∧ MayStart ls

/-- The text has the lexeme at its position, with only blanks before it in its line and only a gap
    between it and what has to be read. -/
def Spaced (T : Text) (l : Lexeme) (rest : Text) : Prop :=
  ∃ pre gap, T = pre ++ l.text ++ gap ++ rest ∧ State.EndsBlank pre ∧
    l.pos = State.advance ⟨1, 0⟩ pre ∧ Token.Gap (gap ++ rest) rest

/-- The characters of a name up to the first that belongs to no name. -/
structure IsWord (text rest : Text) : Prop where
  takeWhile : (text ++ rest).takeWhile isNameChar = text
  start : ∃ c ∈ text.head?, isNameStart c

/-- The text has a lexeme and the name behind it at their positions, with only blanks before the first
    one in its line and only a gap between them. -/
structure Joined (T : Text) (a b : Lexeme) (pre gap post : Text) : Prop where
  cut : T = pre ++ a.text ++ gap ++ b.text ++ post
  blank : State.EndsBlank pre
  first : a.pos = State.advance ⟨1, 0⟩ pre
  second : b.pos = State.advance ⟨1, 0⟩ (pre ++ a.text ++ gap)
  gap : Token.Gap (gap ++ b.text ++ post) (b.text ++ post)
  word : IsWord b.text post

/-- What is known of the lexemes found so far. -/
structure Known (T : Text) (found : List Lexeme) : Prop where
  joined : ∀ a b ls, b :: ls <:+ found → Opened ls a → b.cls = .name →
    ∃ pre gap post, Joined T a b pre gap post
  order : found.Pairwise fun b a => a.cls = .keyword → b.cls = .keyword → a.pos.Before b.pos

/-- A lexeme that is neither keyword nor name adds nothing. -/
theorem Known.cons {T : Text} {found : List Lexeme} (h : Known T found) {l : Lexeme}
    (hkeyword : l.cls ≠ .keyword) (hname : l.cls ≠ .name) : Known T (l :: found) where
  joined := by
    intro a b ls hsuffix ha hb
    rcases List.suffix_cons_iff.mp hsuffix with heq | hsuffix
    · cases heq
      exact absurd hb hname
    · exact h.joined a b ls hsuffix ha hb
  order := List.pairwise_cons.mpr ⟨fun _ _ _ hl => absurd hl hkeyword, h.order⟩

namespace State

/-! ## The invariant -/

/-- What has been read is the text up to the position. Where a statement may start, no bracket is open
    and the line is blank so far; behind the first keyword of a statement, no bracket is open and only
    a gap has been read. Both hold until the end of the line is reached. -/
structure Placed (T pre : Text) (s : State) : Prop where
  cut : T = pre ++ s.rest
  pos : s.pos = advance ⟨1, 0⟩ pre
  start : MayStart s.found → s.brackets = [] ∧ (EndsBlank pre ∨ AtLineEnd s.rest)
  opened : ∀ l, Opened s.found l → s.brackets = [] ∧ (Spaced T l s.rest ∨ AtLineEnd s.rest)
  known : Known T s.found
  order : ∀ l ∈ s.found, l.cls = .keyword → l.pos.Before s.pos

variable {T pre : Text} {s : State}

theorem Placed.skip (h : Placed T pre s) {g rest : Text} (hrest : s.rest = g ++ rest)
    (hstart : MayStart s.found → EndsBlank (pre ++ g) ∨ AtLineEnd rest)
    (hopened : ∀ l, Opened s.found l → Spaced T l rest ∨ AtLineEnd rest) :
    Placed T (pre ++ g) (s.skip g rest) where
  cut := by rw [List.append_assoc, h.cut, hrest]; rfl
  pos := by rw [advance_append, ← h.pos]; rfl
  start := fun hmay => ⟨(h.start hmay).1, hstart hmay⟩
  opened := fun l hl => ⟨(h.opened l hl).1, hopened l hl⟩
  known := h.known
  order := fun l hl hkeyword => before_advance_of_before (h.order l hl hkeyword) g

/-- A gap inside a line. -/
theorem Placed.skipGap (h : Placed T pre s) {g rest : Text} (hrest : s.rest = g ++ rest)
    (hblank : EndsBlank pre → EndsBlank (pre ++ g)) (hgap : Token.Gap (g ++ rest) rest)
    (hend : AtLineEnd s.rest → AtLineEnd rest) : Placed T (pre ++ g) (s.skip g rest) := by
  refine h.skip hrest (fun hmay => (h.start hmay).2.imp hblank hend) fun l hl => ?_
  refine (h.opened l hl).2.imp ?_ hend
  rintro ⟨pre', gap, hT, hpre', hpos, hgap'⟩
  rw [hrest] at hT hgap'
  refine ⟨pre', gap ++ g, by simpa using hT, hpre', hpos, ?_⟩
  rw [List.append_assoc]
  exact hgap'.trans hgap

/-- A layout lexeme where the line is blank. -/
theorem Placed.mark (h : Placed T pre s) {cls : LexemeClass} (hkeyword : cls ≠ .keyword)
    (hname : cls ≠ .name) (hbrackets : s.brackets = []) (hblank : EndsBlank pre ∨ AtLineEnd s.rest) :
    Placed T pre (s.mark cls) where
  cut := h.cut
  pos := h.pos
  start := fun _ => ⟨hbrackets, hblank⟩
  opened := by
    rintro l ⟨ls, hfound, hl, -⟩
    cases hfound
    exact absurd hl hkeyword
  known := h.known.cons hkeyword hname
  order := by
    intro l hl hcls
    rcases List.mem_cons.mp hl with rfl | hl
    · exact absurd hcls hkeyword
    · exact h.order l hl hcls

/-- Only the levels of indentation change. -/
theorem Placed.withLevels (h : Placed T pre s) (levels : List Level) :
    Placed T pre { s with levels } := ⟨h.cut, h.pos, h.start, h.opened, h.known, h.order⟩

/-- A lexeme with a spelling is read. -/
theorem Placed.push (h : Placed T pre s) {cls : LexemeClass} {text rest : Text}
    (hrest : s.rest = text ++ rest) (hline : ¬ AtLineEnd s.rest) (htext : cls = .keyword → text ≠ [])
    (hcls : cls ≠ .newline ∧ cls ≠ .indent ∧ cls ≠ .dedent) (hword : cls = .name → IsWord text rest) :
    Placed T (pre ++ text) (s.push cls text rest) where
  cut := by rw [List.append_assoc, h.cut, hrest]; rfl
  pos := by rw [advance_append, ← h.pos]; rfl
  start := by
    intro hmay
    have := hmay _ rfl
    simp [isLayout, hcls] at this
  opened := by
    rintro l ⟨ls, hfound, hkeyword, hmay⟩
    rw [push_found] at hfound
    obtain ⟨rfl, rfl⟩ := List.cons.inj hfound
    obtain ⟨hbrackets, hblank⟩ := h.start hmay
    refine ⟨hbrackets, .inl ⟨pre, [], ?_, hblank.resolve_right hline, h.pos, .done _⟩⟩
    rw [List.append_nil, List.append_assoc, h.cut, hrest]
    rfl
  known := by
    refine ⟨?_, List.pairwise_cons.mpr ⟨fun l hl hkeyword _ => h.order l hl hkeyword, h.known.order⟩⟩
    intro a b ls hsuffix ha hb
    rcases List.suffix_cons_iff.mp hsuffix with heq | hsuffix
    · obtain ⟨rfl, rfl⟩ := List.cons.inj heq
      obtain ⟨-, hspaced⟩ := h.opened a ha
      obtain ⟨pre', gap, hT, hblank, hpos, hgap⟩ := hspaced.resolve_right hline
      have hpre : pre = pre' ++ a.text ++ gap := List.append_cancel_right (h.cut.symm.trans hT)
      rw [hrest] at hT hgap
      exact ⟨pre', gap, rest, by simpa using hT, hblank, hpos, hpre ▸ h.pos, by simpa using hgap,
        hword hb⟩
    · exact h.known.joined a b ls hsuffix ha hb
  order := by
    intro l hl hkeyword
    rcases List.mem_cons.mp hl with rfl | hl
    · exact before_advance _ (htext hkeyword)
    · exact before_advance_of_before (h.order l hl hkeyword) text

/-- Brackets are opened and closed by operators. -/
theorem Placed.withBrackets {l : Lexeme} {ls : List Lexeme} (h : Placed T pre s)
    (hfound : s.found = l :: ls) (hl : l.cls = .op) (brackets : Text) :
    Placed T pre { s with brackets } where
  cut := h.cut
  pos := h.pos
  start := by
    intro hmay
    have := hmay l (by simp [hfound])
    simp [isLayout, hl] at this
  opened := by
    rintro k ⟨ks, hfound', hk, -⟩
    rw [show s.found = k :: ks from hfound'] at hfound
    cases hfound
    simp [hl] at hk
  known := h.known
  order := h.order

/-! ## One step -/

theorem Placed.pushOperator (h : Placed T pre s) (hline : ¬ AtLineEnd s.rest) {op rest : Text}
    (hrest : s.rest = op ++ rest) {s' : State} (hs' : s.pushOperator op rest = some s') :
    Placed T (pre ++ op) s' := by
  have hpush : Placed T (pre ++ op) (s.push .op op rest) :=
    h.push hrest hline (by simp) (by simp) (by simp)
  have hbrackets := fun brackets => hpush.withBrackets rfl rfl brackets
  unfold State.pushOperator at hs'
  split at hs'
  · split_ifs at hs'
    · cases hs'
      exact hbrackets _
    · split at hs'
      · cases hs'
        exact hpush
      · split at hs'
        · split_ifs at hs'
          cases hs'
          exact hbrackets _
        · cases hs'
  · cases hs'
    exact hpush

theorem Placed.pushUpTo (h : Placed T pre s) (hline : ¬ AtLineEnd s.rest) {cls : LexemeClass}
    (hcls : cls = .string ∨ cls = .number) {rest : Text} (hrest : rest <:+ s.rest) :
    ∃ pre', Placed T pre' (s.pushUpTo cls rest) := by
  have hcut := Token.Stream.take_append_of_suffix hrest
  refine ⟨_, h.push hcut.symm hline ?_ ?_ ?_⟩
  all_goals rcases hcls with rfl | rfl <;> simp

theorem Placed.pushName (h : Placed T pre s) (hline : ¬ AtLineEnd s.rest) {c : Char} {t : Text}
    (hrest : s.rest = c :: t) (hc : isNameStart c) {s' : State} (hs' : s.pushName = some s') :
    ∃ pre', Placed T pre' s' := by
  have hcut : s.rest = s.rest.takeWhile isNameChar ++ s.rest.dropWhile isNameChar :=
    List.takeWhile_append_dropWhile.symm
  have hword : IsWord (s.rest.takeWhile isNameChar) (s.rest.dropWhile isNameChar) := by
    refine ⟨by rw [← hcut], c, ?_, hc⟩
    have hchar : isNameChar c := by
      simp only [isNameStart, Bool.or_eq_true] at hc
      simp only [isNameChar, Bool.or_eq_true]
      exact .inl hc
    simp [hrest, hchar]
  unfold State.pushName at hs'
  simp only at hs'
  have hne : s.rest.takeWhile isNameChar ≠ [] := by
    obtain ⟨d, hd, -⟩ := hword.start
    intro hnil
    simp [hnil] at hd
  split_ifs at hs' with hident hkeyword <;> cases hs'
  · exact ⟨_, h.push hcut hline (fun _ => hne) (by simp) (by simp)⟩
  · exact ⟨_, h.push hcut hline (by simp) (by simp) fun _ => hword⟩

/-- A lexeme with a spelling, whatever its class. -/
theorem Placed.pushLexeme (h : Placed T pre s) {c : Char} {t : Text} (hrest : s.rest = c :: t)
    (hc : c ≠ '\n') {s' : State} (hs' : s.pushLexeme c = some s') : ∃ pre', Placed T pre' s' := by
  have hline : ¬ AtLineEnd s.rest := by
    rw [hrest]
    rintro (hnil | ⟨t', ht'⟩)
    · cases hnil
    · exact hc (List.cons.inj ht').1
  unfold State.pushLexeme at hs'
  split at hs'
  · obtain ⟨rest, hstring, rfl⟩ := Option.map_eq_some_iff.mp hs'
    exact h.pushUpTo hline (.inl rfl) ((string?_suffix hstring).trans (List.drop_suffix _ _))
  · split_ifs at hs' with hname hstart
    · exact h.pushName hline hrest hname hs'
    · obtain ⟨rest, hnumber, rfl⟩ := Option.map_eq_some_iff.mp hs'
      exact h.pushUpTo hline (.inr rfl) (passes_of_number? hstart hnumber).suffix
    · split at hs'
      · rename_i op hop
        have hfound := List.find?_some hop
        obtain ⟨rest, hrest'⟩ := List.isPrefixOf_iff_prefix.mp hfound
        have hcut : s.rest = op ++ s.rest.drop op.length := by rw [← hrest', List.drop_left]
        exact ⟨_, h.pushOperator hline hcut hs'⟩
      · cases hs'

/-! ## The start of a line -/

/-- Behind what is read of a blank line there are blanks only, or the line ends. -/
theorem readIndent_eq_some {padded : Bool} {col alt fixed : Nat} {t rest : Text} {l : Level}
    (h : readIndent padded col alt fixed t = some (l, rest)) :
    ∃ b, t = b ++ rest ∧ ∀ pre, EndsBlank pre → EndsBlank (pre ++ b) ∨ rest = ['\n'] := by
  have hstep : ∀ {c : Char} {t : Text}, isSpace c →
      (∃ b, t = b ++ rest ∧ ∀ pre, EndsBlank pre → EndsBlank (pre ++ b) ∨ rest = ['\n']) →
      ∃ b, c :: t = b ++ rest ∧ ∀ pre, EndsBlank pre → EndsBlank (pre ++ b) ∨ rest = ['\n'] := by
    rintro c t hc ⟨b, rfl, hb⟩
    refine ⟨c :: b, rfl, fun pre hpre => ?_⟩
    rw [List.append_cons]
    exact hb _ (hpre.append (by simpa using hc))
  fun_induction readIndent padded col alt fixed t with
  | case1 _ _ _ t ih => exact hstep (by decide) (ih h)
  | case2 _ _ _ t ih => exact hstep (by decide) (ih h)
  | case3 _ _ _ t ih => exact hstep (by decide) (ih h)
  | case4 =>
    cases h
    exact ⟨['\\'], rfl, fun _ _ => .inr rfl⟩
  | case5 => cases h
  | case6 _ _ _ r _ ih =>
    obtain ⟨b, rfl, hb⟩ := ih h
    refine ⟨'\\' :: '\n' :: b, rfl, fun pre hpre => ?_⟩
    have hjoined := hb _ (endsBlank_lineFeed (pre ++ ['\\']))
    simpa using hjoined
  | case7 => cases h
  | case8 =>
    cases h
    exact ⟨[], rfl, fun pre hpre => .inl (by simpa using hpre)⟩

theorem Placed.closeLevels (h : Placed T pre s) (hbrackets : s.brackets = []) (hblank : EndsBlank pre)
    (col : Nat) (levels : List Level) : Placed T pre (closeLevels col levels s) := by
  induction levels generalizing s with
  | nil => exact h.withLevels []
  | cons l levels ih =>
    rw [State.closeLevels]
    split_ifs
    · exact ih (h.mark (by simp) (by simp) hbrackets (.inl hblank)) hbrackets
    · exact h.withLevels _

theorem Placed.indent (h : Placed T pre s) (hbrackets : s.brackets = []) (hblank : EndsBlank pre)
    {l : Level} {s' : State} (hs' : s.indent l = some s') : Placed T pre s' := by
  unfold State.indent at hs'
  simp only at hs'
  split_ifs at hs' <;> cases hs'
  · exact h
  · exact (h.mark (by simp) (by simp) hbrackets (.inl hblank)).withLevels _
  · exact h.closeLevels hbrackets hblank _ _

/-- Nothing but a comment is left of the line, and no statement has started. -/
def IsBlank (s : State) : Prop :=
  (AtLineEnd s.rest ∨ ∃ t, s.rest = '#' :: t) ∧ ∀ l, ¬ Opened s.found l

/-- Behind the blanks in front of a line, what is left is the line. -/
theorem Placed.startLine (h : Placed T pre s) (hblank : EndsBlank pre)
    (hopened : ∀ l, ¬ Opened s.found l) {padded blank : Bool} {s' : State}
    (hs' : s.startLine padded = some (blank, s')) :
    ∃ pre', Placed T pre' s' ∧ (blank → s'.IsBlank) := by
  obtain ⟨⟨l, rest⟩, hread, hs'⟩ := Option.bind_eq_some_iff.mp hs'
  obtain ⟨b, hcut, hb⟩ := readIndent_eq_some hread
  have htake : s.rest.take (s.rest.length - rest.length) = b := by simp [hcut]
  have hskip : Placed T (pre ++ b) (s.skip b rest) := by
    refine h.skip hcut (fun _ => (hb pre hblank).imp_right ?_) fun l hl => absurd hl (hopened l)
    rintro rfl
    exact .inr ⟨[], rfl⟩
  simp only [htake] at hs'
  split_ifs at hs' with hcond
  · cases hs'
    refine ⟨_, hskip, fun hline => ⟨?_, hopened⟩⟩
    split at hline
    · exact .inr ⟨_, rfl⟩
    · exact .inl (.inr ⟨_, rfl⟩)
    · cases hline
  · obtain ⟨s'', hindent, heq⟩ := Option.map_eq_some_iff.mp hs'
    cases heq
    simp only [Bool.or_eq_true, not_or, Bool.not_eq_true, Bool.not_eq_false'] at hcond
    have hpre : EndsBlank (pre ++ b) := by
      refine (hb pre hblank).resolve_right ?_
      rintro rfl
      cases hcond.1
    exact ⟨_, hskip.indent (by simpa using hcond.2) hpre hindent, by simp⟩

/-! ## All steps -/

theorem gap_of_isSpace {b : Text} (hb : ∀ c ∈ b, isSpace c) (rest : Text) :
    Token.Gap (b ++ rest) rest := by
  induction b with
  | nil => exact .done _
  | cons c b ih =>
    obtain ⟨hc, hb⟩ := List.forall_mem_cons.mp hb
    refine .blank ?_ (ih hb)
    simpa [isSpace, Token.Stream.isSpace, or_assoc, or_comm, or_left_comm] using hc

theorem AtLineEnd.dropWhile {rest : Text} (h : AtLineEnd rest) : rest.dropWhile isSpace = rest := by
  rcases h with rfl | ⟨t, rfl⟩ <;> rfl

theorem Placed.skipSpaces (h : Placed T pre s) : Placed T (pre ++ s.rest.takeWhile isSpace)
    (s.skip (s.rest.takeWhile isSpace) (s.rest.dropWhile isSpace)) := by
  have hspaces : ∀ c ∈ s.rest.takeWhile isSpace, isSpace c :=
    fun c => List.mem_takeWhile_imp
  refine h.skipGap List.takeWhile_append_dropWhile.symm (·.append hspaces) (gap_of_isSpace hspaces _) ?_
  intro hend
  rwa [hend.dropWhile]

theorem IsBlank.skipSpaces (h : s.IsBlank) :
    (s.skip (s.rest.takeWhile isSpace) (s.rest.dropWhile isSpace)).IsBlank := by
  refine ⟨?_, h.2⟩
  rcases h.1 with hend | ⟨t, ht⟩
  · exact .inl (by rwa [skip_rest, hend.dropWhile])
  · exact .inr ⟨t, by rw [skip_rest, ht]; rfl⟩

theorem IsBlank.head {c : Char} {t : Text} (h : s.IsBlank) (hrest : s.rest = c :: t) :
    c = '\n' ∨ c = '#' := by
  rw [IsBlank, hrest] at h
  rcases h.1 with (hnil | ⟨t, ht⟩) | ⟨t, ht⟩
  · cases hnil
  · exact .inl (List.cons.inj ht).1
  · exact .inr (List.cons.inj ht).1

theorem Placed.skipComment (h : Placed T pre s) {t : Text} (hrest : s.rest = '#' :: t) :
    ∃ pre', Placed T pre'
      (s.skip ('#' :: t.takeWhile (· ≠ '\n')) (t.dropWhile (· ≠ '\n'))) ∧
      AtLineEnd (t.dropWhile (· ≠ '\n')) := by
  have hend : AtLineEnd (t.dropWhile (· ≠ '\n')) := by
    cases hdrop : t.dropWhile (· ≠ '\n') with
    | nil => exact .inl rfl
    | cons c r =>
      have hc := List.head_dropWhile_not (p := (· ≠ '\n')) (l := t)
        (hdrop ▸ List.cons_ne_nil c r)
      simp only [hdrop, List.head_cons, decide_eq_false_iff_not, not_not] at hc
      exact .inr ⟨r, by rw [hc]⟩
  refine ⟨_, h.skip ?_ (fun _ => .inr hend) (fun _ _ => .inr hend), hend⟩
  rw [hrest, List.cons_append, List.takeWhile_append_dropWhile]

/-- The end of a line that has lexemes. -/
theorem Placed.endLine (h : Placed T pre s) {t : Text} (hrest : s.rest = '\n' :: t)
    (hbrackets : s.brackets = []) : Placed T (pre ++ ['\n']) ((s.mark .newline).skip ['\n'] t) := by
  have hmark : Placed T pre (s.mark .newline) :=
    h.mark (by simp) (by simp) hbrackets (.inr (.inr ⟨t, hrest⟩))
  refine hmark.skip hrest (fun _ => .inl (endsBlank_lineFeed pre)) ?_
  rintro l ⟨ls, hfound, hl, -⟩
  cases hfound
  cases hl

/-- The lexer between two steps: at the start of a line no statement is open, and a line called blank
    is blank. -/
structure Ready (T : Text) (fresh blank : Bool) (s : State) : Prop where
  placed : ∃ pre, Placed T pre s ∧ (fresh → EndsBlank pre)
  closed : fresh → ∀ l, ¬ Opened s.found l
  blank : fresh = false → blank → s.IsBlank

theorem Placed.ready {blank : Bool} (h : Placed T pre s) (hblank : blank → s.IsBlank) :
    Ready T false blank s := ⟨⟨pre, h, by simp⟩, by simp, fun _ => hblank⟩

theorem Placed.readyFresh {blank : Bool} (h : Placed T pre s) (hpre : EndsBlank pre)
    (hclosed : ∀ l, ¬ Opened s.found l) : Ready T true blank s :=
  ⟨⟨pre, h, fun _ => hpre⟩, fun _ => hclosed, by simp⟩

section Steps

variable {blank : Bool} {t : Text}

theorem Ready.startLine (h : Ready T true blank s) {padded blank' : Bool} {s' : State}
    (hs' : s.startLine padded = some (blank', s')) : Ready T false blank' s' := by
  obtain ⟨pre, hplaced, hpre⟩ := h.placed
  obtain ⟨pre', hplaced', hblank⟩ := hplaced.startLine (hpre rfl) (h.closed rfl) hs'
  exact hplaced'.ready hblank

theorem Ready.skipSpaces (h : Ready T false blank s) :
    Ready T false blank (s.skip (s.rest.takeWhile isSpace) (s.rest.dropWhile isSpace)) := by
  obtain ⟨pre, hplaced, -⟩ := h.placed
  exact hplaced.skipSpaces.ready fun hb => (h.blank rfl hb).skipSpaces

theorem Ready.skipComment (h : Ready T false blank s) (hrest : s.rest = '#' :: t) :
    Ready T false blank (s.skip ('#' :: t.takeWhile (· ≠ '\n')) (t.dropWhile (· ≠ '\n'))) := by
  obtain ⟨pre, hplaced, -⟩ := h.placed
  obtain ⟨pre', hcomment, hend⟩ := hplaced.skipComment hrest
  exact hcomment.ready fun hb => ⟨.inl hend, (h.blank rfl hb).2⟩

/-- The end of a line without lexemes, or inside brackets: no statement is open. -/
theorem Ready.skipLine (h : Ready T false blank s) (hrest : s.rest = '\n' :: t)
    (hcond : blank || !s.brackets.isEmpty) : Ready T true false (s.skip ['\n'] t) := by
  obtain ⟨pre, hplaced, -⟩ := h.placed
  have hclosed : ∀ l, ¬ Opened s.found l := by
    intro l hl
    have hbrackets := (hplaced.opened l hl).1
    simp only [hbrackets, List.isEmpty_nil, Bool.not_true, Bool.or_false] at hcond
    exact (h.blank rfl hcond).2 l hl
  have hnext : Placed T (pre ++ ['\n']) (s.skip ['\n'] t) :=
    hplaced.skip hrest (fun _ => .inl (endsBlank_lineFeed pre)) fun l hl => absurd hl (hclosed l)
  exact hnext.readyFresh (endsBlank_lineFeed pre) hclosed

theorem Ready.endLine (h : Ready T false blank s) (hrest : s.rest = '\n' :: t)
    (hbrackets : s.brackets = []) : Ready T true false ((s.mark .newline).skip ['\n'] t) := by
  obtain ⟨pre, hplaced, -⟩ := h.placed
  refine (hplaced.endLine hrest hbrackets).readyFresh (endsBlank_lineFeed pre) ?_
  rintro l ⟨ls, hfound, hl, -⟩
  cases hfound
  cases hl

theorem Ready.join (h : Ready T false blank s) (hrest : s.rest = '\\' :: '\n' :: t) :
    Ready T false blank (s.skip ['\\', '\n'] t) := by
  obtain ⟨pre, hplaced, -⟩ := h.placed
  have hfeed : EndsBlank (pre ++ ['\\', '\n']) := by
    simpa using endsBlank_lineFeed (pre ++ ['\\'])
  have hnext : Placed T (pre ++ ['\\', '\n']) (s.skip ['\\', '\n'] t) := by
    refine hplaced.skipGap hrest (fun _ => hfeed) (.joined rfl (.done _)) ?_
    rw [hrest]
    rintro (h | ⟨_, h⟩) <;> cases h
  refine hnext.ready fun hb => ?_
  rcases (h.blank rfl hb).head hrest with h | h <;> cases h

/-- A backslash in front of the last line end. -/
theorem Ready.joinEnd (h : Ready T false blank s) (hrest : s.rest = ['\\', '\n']) :
    Ready T false blank (s.skip ['\\'] ['\n']) := by
  obtain ⟨pre, hplaced, -⟩ := h.placed
  have hend : AtLineEnd ['\n'] := .inr ⟨[], rfl⟩
  have hnext : Placed T (pre ++ ['\\']) (s.skip ['\\'] ['\n']) :=
    hplaced.skip hrest (fun _ => .inr hend) fun _ _ => .inr hend
  exact hnext.ready fun hb => ⟨.inl hend, (h.blank rfl hb).2⟩

theorem Ready.pushLexeme (h : Ready T false blank s) {c : Char} (hrest : s.rest = c :: t)
    (hfeed : c ≠ '\n') (hhash : c ≠ '#') {s' : State} (hs' : s.pushLexeme c = some s') :
    Ready T false blank s' := by
  obtain ⟨pre, hplaced, -⟩ := h.placed
  obtain ⟨pre', hpushed⟩ := hplaced.pushLexeme hrest hfeed hs'
  refine hpushed.ready fun hb => ?_
  rcases (h.blank rfl hb).head hrest with h | h
  · exact absurd h hfeed
  · exact absurd h hhash

end Steps

/-- Every run, step by step. -/
theorem run_known {padded : Bool} {fuel : Nat} {fresh blank : Bool} {lexemes : List Lexeme}
    (h : Ready T fresh blank s) (hrun : run padded fuel fresh blank s = some lexemes) :
    Known T lexemes.reverse := by
  induction fuel generalizing fresh blank s with
  | zero => cases hrun
  | succ fuel ih =>
    cases fresh with
    | true =>
      obtain ⟨⟨blank', s'⟩, hstart, hrun⟩ := Option.bind_eq_some_iff.mp hrun
      exact ih (h.startLine hstart) hrun
    | false =>
      have hskip := h.skipSpaces
      rw [run] at hrun
      simp only at hrun
      generalize s.skip (s.rest.takeWhile isSpace) (s.rest.dropWhile isSpace) = s' at hskip hrun
      split at hrun
      · obtain ⟨pre, hplaced, -⟩ := hskip.placed
        split_ifs at hrun
        cases hrun
        rw [List.reverse_reverse]
        exact hplaced.known.cons (by simp) (by simp)
      · rename_i hrest
        exact ih (hskip.skipComment hrest) hrun
      · rename_i hrest
        split_ifs at hrun with hcond
        · exact ih (hskip.skipLine hrest hcond) hrun
        · simp only [Bool.or_eq_true, not_or, Bool.not_eq_true, Bool.not_eq_false'] at hcond
          exact ih (hskip.endLine hrest (by simpa using hcond.2)) hrun
      · rename_i hrest
        split at hrun
        · split_ifs at hrun
          exact ih (hskip.joinEnd hrest) hrun
        · exact ih (hskip.join hrest) hrun
        · cases hrun
      · rename_i hhash hfeed _ hrest
        obtain ⟨s'', hpush, hrun⟩ := Option.bind_eq_some_iff.mp hrun
        exact ih (hskip.pushLexeme hrest hfeed hhash hpush) hrun

/-- The lexer in front of a text. -/
theorem ready_start (T : Text) : Ready T true false { rest := T, pos := ⟨1, 0⟩ } := by
  have hclosed : ∀ l, ¬ Opened [] l := by
    rintro l ⟨ls, hfound, -⟩
    cases hfound
  have hplaced : Placed T [] { rest := T, pos := ⟨1, 0⟩ } := by
    refine ⟨rfl, rfl, fun _ => ⟨rfl, .inl endsBlank_nil⟩, fun l hl => absurd hl (hclosed l),
      ⟨?_, .nil⟩, by simp⟩
    intro a b ls hsuffix
    simp at hsuffix
  exact hplaced.readyFresh endsBlank_nil hclosed

end State

/-! ## Sources -/

theorem known_ofText? {text : Text} {lexemes : List Lexeme} (h : ofText? text = some lexemes) :
    ∃ T, (T = text.unifyNewlines ∨ T = text.unifyNewlines ++ ['\n']) ∧ Known T lexemes.reverse := by
  rw [ofText?] at h
  split_ifs at h with hnul
  simp only at h
  refine ⟨if text.unifyNewlines.getLast? = some '\n' then text.unifyNewlines
    else text.unifyNewlines ++ ['\n'], by split_ifs <;> simp, ?_⟩
  exact State.run_known (State.ready_start _) h

/-- The positions of keywords increase. -/
theorem pairwise_before_ofText? {text : Text} {lexemes : List Lexeme}
    (h : ofText? text = some lexemes) :
    lexemes.Pairwise fun a b => a.cls = .keyword → b.cls = .keyword → a.pos.Before b.pos := by
  obtain ⟨T, -, hknown⟩ := known_ofText? h
  exact List.pairwise_reverse.mp hknown.order

/-- The first keyword of a statement and the name behind it stand where they say. -/
theorem joined_ofText? {text : Text} {lexemes after : List Lexeme} {a b : Lexeme}
    (h : ofText? text = some lexemes) (hsuffix : a :: b :: after <:+ lexemes)
    (hstart : Grammar.AtStart lexemes (a :: b :: after)) (ha : a.cls = .keyword)
    (hb : b.cls = .name) : ∃ T pre gap post,
      (T = text.unifyNewlines ∨ T = text.unifyNewlines ++ ['\n']) ∧ Joined T a b pre gap post := by
  obtain ⟨T, hT, hknown⟩ := known_ofText? h
  obtain ⟨front, rfl⟩ := hsuffix
  have hmay : MayStart front.reverse := by
    intro l hl
    rw [List.head?_reverse] at hl
    rcases hstart with heq | ⟨k, hk, front', hfront⟩
    · rw [List.self_eq_append_left] at heq
      simp [heq] at hl
    · rw [List.append_cons] at hfront
      rw [← List.append_cancel_right hfront, List.getLast?_concat] at hl
      cases hl
      exact hk
  obtain ⟨pre, gap, post, hjoined⟩ := hknown.joined a b (a :: front.reverse) ⟨after.reverse, by simp⟩
    ⟨front.reverse, rfl, ha, hmay⟩ hb
  exact ⟨T, pre, gap, post, hT, hjoined⟩

end Lexeme

end HouseStyle.Syntax
