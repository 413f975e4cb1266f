import HouseStyle.Token
import Mathlib.Data.List.Find
import Mathlib.Data.List.TakeWhile

/-!
# Readers of parts of a line

The token at the front of a line is found by readers, which give what stands behind the part they
describe. Those of numbers and operators share three properties (`Token.IsReader`): they take at least
one character from the front, all of them plain, and they do not look at how the line ends. The first
one says that scanning goes on, the second one that no string or comment starts in what is taken, the
third one that `\n` and `\r\n` end a line alike.

Main definitions:
* `Token.IsLineEnd`: the two line ends.
* `Token.IsPlain`, `Token.Passes`: characters that start nothing, and passing over them.
* `Token.IsReader`: readers of parts of a line.

Main results:
* `Token.isReader_number?`, `Token.isReader_operator?`: numbers and operators.
* `Token.stringEnd?_append`, `Token.shortString?_append`: strings at the end of a line.
* `Token.Matched`, `Token.matched_of_match?`: what the front of a line can be.
* `Token.Matched.takes`: a token takes at least one character.
* `Token.match?_append_lineEnd`: the token at the front of a line is the same with either line end.
-/

namespace HouseStyle.Token

/-! ## Line ends -/

/-- A line feed, perhaps with a carriage return in front. -/
def IsLineEnd (e : Text) : Prop := e = ['\n'] ∨ e = ['\r', '\n']

/-- A text without carriage returns and line feeds. -/
def IsInLine (t : Text) : Prop := '\r' ∉ t ∧ '\n' ∉ t

theorem IsLineEnd.exists_cons {e : Text} (h : IsLineEnd e) :
    ∃ c r, e = c :: r ∧ (c = '\n' ∨ c = '\r') := by
  rcases h with rfl | rfl
  · exact ⟨'\n', [], rfl, .inl rfl⟩
  · exact ⟨'\r', ['\n'], rfl, .inr rfl⟩

theorem IsInLine.of_cons {c : Char} {t : Text} (h : IsInLine (c :: t)) :
    c ≠ '\r' ∧ c ≠ '\n' ∧ IsInLine t := by
  obtain ⟨hr, hn⟩ := h
  rw [List.mem_cons, not_or] at hr hn
  exact ⟨Ne.symm hr.1, Ne.symm hn.1, hr.2, hn.2⟩

theorem IsInLine.of_suffix {s t : Text} (h : IsInLine t) (hs : s <:+ t) : IsInLine s :=
  ⟨fun hmem => h.1 (hs.subset hmem), fun hmem => h.2 (hs.subset hmem)⟩

/-! ## Plain characters -/

/-- A quote of a string. -/
def IsQuote (q : Char) : Prop := q = '\'' ∨ q = '"'
deriving Decidable

/-- A character that starts neither a string nor a comment and joins no lines. -/
def IsPlain (c : Char) : Prop := ¬ IsQuote c ∧ c ≠ '#' ∧ c ≠ '\\'
deriving Decidable

/-- The second text is what stands behind some plain characters. -/
def Passes (t r : Text) : Prop := ∃ w, t = w ++ r ∧ ∀ c ∈ w, IsPlain c

namespace Passes

variable {t r s : Text}

theorem refl (t : Text) : Passes t t := ⟨[], rfl, by simp⟩

theorem cons {c : Char} (hc : IsPlain c) (h : Passes t r) : Passes (c :: t) r := by
  obtain ⟨w, rfl, hw⟩ := h
  exact ⟨c :: w, rfl, List.forall_mem_cons.mpr ⟨hc, hw⟩⟩

theorem trans (h : Passes t r) (h' : Passes r s) : Passes t s := by
  obtain ⟨w, rfl, hw⟩ := h
  obtain ⟨v, rfl, hv⟩ := h'
  exact ⟨w ++ v, (List.append_assoc w v s).symm, List.forall_mem_append.mpr ⟨hw, hv⟩⟩

theorem append (h : Passes t r) (e : Text) : Passes (t ++ e) (r ++ e) := by
  obtain ⟨w, rfl, hw⟩ := h
  exact ⟨w, List.append_assoc w r e, hw⟩

theorem suffix (h : Passes t r) : r <:+ t := h.imp fun _ hw => hw.1.symm

end Passes

/-- A class of characters without quotes, `#` and backslashes. -/
theorem isPlain_of_class {p : Char → Bool}
    (hp : p '\'' = false ∧ p '"' = false ∧ p '#' = false ∧ p '\\' = false) {c : Char} (hc : p c) :
    IsPlain c := by
  obtain ⟨hsingle, hdouble, hhash, hback⟩ := hp
  refine ⟨?_, ?_, ?_⟩
  · rintro (rfl | rfl)
    · simp [hsingle] at hc
    · simp [hdouble] at hc
  · rintro rfl
    simp [hhash] at hc
  · rintro rfl
    simp [hback] at hc

theorem isPlain_of_mem {t : Text} (ht : '\'' ∉ t ∧ '"' ∉ t ∧ '#' ∉ t ∧ '\\' ∉ t) {c : Char} (hc : c ∈ t) :
    IsPlain c := by
  refine isPlain_of_class (p := t.contains) ?_ (List.contains_iff_mem.mpr hc)
  simpa [← Bool.not_eq_true, List.contains_iff_mem] using ht

theorem passes_dropWhile {p : Char → Bool} (hp : ∀ c, p c → IsPlain c) (t : Text) :
    Passes t (t.dropWhile p) :=
  ⟨t.takeWhile p, List.takeWhile_append_dropWhile.symm, fun c hc => hp c (List.mem_takeWhile_imp hc)⟩

/-! ## Readers -/

/-- Takes at least one character from the front, only plain ones, and does not look at how the line
    ends. -/
structure IsReader (f : Text → Option Text) : Prop where
  takes : ∀ {t r}, f t = some r → Passes t r ∧ r.length < t.length
  local_ : ∀ (u : Text) {e : Text}, IsLineEnd e → f (u ++ e) = (f u).map (· ++ e)

namespace IsReader

variable {f g : Text → Option Text}

/-- One part and then another. -/
theorem bind (hf : IsReader f) (hg : IsReader g) : IsReader fun t => (f t).bind g where
  takes h := by
    obtain ⟨s, hs, hr⟩ := Option.bind_eq_some_iff.mp h
    obtain ⟨h1, h2⟩ := hf.takes hs
    obtain ⟨h3, h4⟩ := hg.takes hr
    exact ⟨h1.trans h3, by omega⟩
  local_ u e he := by
    simp only [hf.local_ u he]
    cases f u with
    | none => rfl
    | some s => exact hg.local_ s he

/-- One part or another. -/
theorem orElse (hf : IsReader f) (hg : IsReader g) : IsReader fun t => f t <|> g t where
  takes {t r} h := by
    simp only [Option.orElse_eq_orElse, Option.orElse_eq_or, Option.or_eq_some_iff] at h
    rcases h with h | ⟨-, h⟩
    · exact hf.takes h
    · exact hg.takes h
  local_ u e he := by
    simp only [hf.local_ u he, hg.local_ u he]
    cases f u <;> rfl

/-- One part and perhaps another. -/
theorem maybe (hf : IsReader f) (hg : IsReader g) :
    IsReader fun t => (f t).map fun r => (g r).getD r where
  takes h := by
    obtain ⟨s, hs, rfl⟩ := Option.map_eq_some_iff.mp h
    obtain ⟨h1, h2⟩ := hf.takes hs
    cases hr : g s with
    | none => exact ⟨h1, h2⟩
    | some r =>
      obtain ⟨h3, h4⟩ := hg.takes hr
      exact ⟨h1.trans h3, by simp only [Option.getD_some]; omega⟩
  local_ u e he := by
    simp only [hf.local_ u he]
    cases f u with
    | none => rfl
    | some s =>
      simp only [Option.map_some, hg.local_ s he]
      cases g s <;> rfl

end IsReader

/-! ## Numbers -/

/-- Digits are plain; neither line ends nor underscores are digits. -/
structure IsDigitClass (isDigit : Char → Bool) : Prop where
  plain : ∀ c, isDigit c → IsPlain c
  lineFeed : isDigit '\n' = false
  carriageReturn : isDigit '\r' = false
  underscore : isDigit '_' = false

theorem digitsTail_cons (isDigit : Char → Bool) {c : Char} (t : Text) (hc : c ≠ '_') :
    digitsTail isDigit (c :: t) = if isDigit c then digitsTail isDigit t else c :: t := by
  rw [digitsTail]
  simp [hc]

theorem digitsTail_passes {isDigit : Char → Bool} (hd : IsDigitClass isDigit) (t : Text) :
    Passes t (digitsTail isDigit t) := by
  fun_induction digitsTail isDigit t with
  | case1 d t h ih => exact .cons (by decide) (.cons (hd.plain d h) ih)
  | case2 d t _ => exact .refl _
  | case3 c t _ h ih => exact .cons (hd.plain c h) ih
  | case4 c t _ _ => exact .refl _
  | case5 => exact .refl _

theorem digitsTail_append {isDigit : Char → Bool} (hd : IsDigitClass isDigit) (u : Text)
    {e : Text} (he : IsLineEnd e) :
    digitsTail isDigit (u ++ e) = digitsTail isDigit u ++ e := by
  obtain ⟨c, r, rfl, hc⟩ := he.exists_cons
  have hcd : isDigit c = false := by
    rcases hc with rfl | rfl
    exacts [hd.lineFeed, hd.carriageReturn]
  have hc_ : c ≠ '_' := by rcases hc with rfl | rfl <;> decide
  fun_induction digitsTail isDigit u with
  | case1 d t h ih => simpa [digitsTail, h] using ih
  | case2 d t h => simp [digitsTail, h]
  | case3 a t _ h ih =>
    have ha : a ≠ '_' := by
      rintro rfl
      rw [hd.underscore] at h
      cases h
    rw [List.cons_append, digitsTail_cons isDigit _ ha, if_pos h, ih]
  | case4 a t hne h =>
    by_cases ha : a = '_'
    · subst ha
      cases t with
      | nil => simp [digitsTail, hcd]
      | cons b t => exact absurd rfl (hne b t rfl)
    · rw [List.cons_append, digitsTail_cons isDigit _ ha, if_neg h]
  | case5 => rw [List.nil_append, digitsTail_cons isDigit _ hc_, hcd]; rfl

theorem isReader_digits? {isDigit : Char → Bool} (hd : IsDigitClass isDigit) :
    IsReader (digits? isDigit) where
  takes {t r} h := by
    cases t with
    | nil => cases h
    | cons c t =>
      rw [digits?] at h
      split_ifs at h with hc
      cases h
      have hs := digitsTail_passes hd t
      exact ⟨.cons (hd.plain c hc) hs, Nat.lt_succ_of_le hs.suffix.length_le⟩
  local_ u e he := by
    cases u with
    | nil =>
      obtain ⟨c, r, rfl, hc⟩ := he.exists_cons
      have hcd : isDigit c = false := by
        rcases hc with rfl | rfl
        exacts [hd.lineFeed, hd.carriageReturn]
      simp [digits?, hcd]
    | cons c u =>
      rw [List.cons_append, digits?, digits?]
      split_ifs
      · rw [digitsTail_append hd u he]; rfl
      · rfl

theorem isReader_oneOf? {a b : Char} (ha : IsPlain a ∧ a ≠ '\n' ∧ a ≠ '\r')
    (hb : IsPlain b ∧ b ≠ '\n' ∧ b ≠ '\r') : IsReader (oneOf? a b) where
  takes {t r} h := by
    cases t with
    | nil => cases h
    | cons c t =>
      rw [oneOf?] at h
      split_ifs at h with hc
      cases h
      have hplain : IsPlain c := by
        simp only [Bool.or_eq_true, decide_eq_true_eq] at hc
        rcases hc with rfl | rfl
        exacts [ha.1, hb.1]
      exact ⟨.cons hplain (.refl _), by simp⟩
  local_ u e he := by
    cases u with
    | nil =>
      obtain ⟨c, r, rfl, hc⟩ := he.exists_cons
      rcases hc with rfl | rfl <;>
        simp [oneOf?, ha.2.1.symm, ha.2.2.symm, hb.2.1.symm, hb.2.2.symm]
    | cons c u =>
      rw [List.cons_append, oneOf?, oneOf?]
      split_ifs <;> rfl

theorem isReader_markedDigits? {isDigit : Char → Bool} (hd : IsDigitClass isDigit) :
    IsReader (markedDigits? isDigit) := by
  have hcases : markedDigits? isDigit =
      fun t => ((oneOf? '_' '_' t).bind (digits? isDigit)) <|> digits? isDigit t := by
    funext t
    cases t with
    | nil => rfl
    | cons c t =>
      by_cases hc : c = '_'
      · subst hc
        simp [markedDigits?, oneOf?, digits?, hd.underscore]
      · simp [markedDigits?, oneOf?, hc]
  rw [hcases]
  exact ((isReader_oneOf? (by decide) (by decide)).bind (isReader_digits? hd)).orElse
    (isReader_digits? hd)

theorem isDigitClass_decimal : IsDigitClass Text.isAsciiDigit :=
  ⟨fun _ => isPlain_of_class (by decide), by decide, by decide, by decide⟩

theorem isReader_decimals? : IsReader decimals? := isReader_digits? isDigitClass_decimal

theorem isReader_exponent? : IsReader exponent? :=
  (isReader_oneOf? (by decide) (by decide)).bind
    (((isReader_oneOf? (by decide) (by decide)).bind isReader_decimals?).orElse isReader_decimals?)

theorem isReader_float? : IsReader float? := by
  have hpoint : IsReader (oneOf? '.' '.') := isReader_oneOf? (by decide) (by decide)
  have hpointed : IsReader fun t =>
      ((decimals? t).bind fun r => (oneOf? '.' '.' r).map fun r => (decimals? r).getD r)
        <|> ((oneOf? '.' '.' t).bind decimals?) :=
    (isReader_decimals?.bind (hpoint.maybe isReader_decimals?)).orElse
      (hpoint.bind isReader_decimals?)
  exact (hpointed.maybe isReader_exponent?).orElse (isReader_decimals?.bind isReader_exponent?)

theorem isReader_imaginary? : IsReader imaginary? := by
  have hmark : IsReader (oneOf? 'j' 'J') := isReader_oneOf? (by decide) (by decide)
  exact (isReader_decimals?.bind hmark).orElse (isReader_float?.bind hmark)

theorem isDigitClass_radix (radix : Nat) : IsDigitClass (Syntax.Lexeme.isRadixDigit radix) :=
  ⟨fun _ => isPlain_of_class ⟨rfl, rfl, rfl, rfl⟩, rfl, rfl, rfl⟩

theorem isReader_radix? {lower upper : Char} (hl : IsPlain lower ∧ lower ≠ '\n' ∧ lower ≠ '\r')
    (hu : IsPlain upper ∧ upper ≠ '\n' ∧ upper ≠ '\r') (radix : Nat) :
    IsReader (radix? lower upper radix) := by
  have hcases : radix? lower upper radix = fun t => (oneOf? '0' '0' t).bind fun r =>
      (oneOf? lower upper r).bind (markedDigits? (Syntax.Lexeme.isRadixDigit radix)) := by
    funext t
    cases t with
    | nil => rfl
    | cons c t =>
      by_cases hc : c = '0'
      · subst hc; rfl
      · simp [radix?, oneOf?, hc]
  rw [hcases]
  exact (isReader_oneOf? (by decide) (by decide)).bind
    ((isReader_oneOf? hl hu).bind (isReader_markedDigits? (isDigitClass_radix radix)))

theorem isReader_zerosOrDecimals? :
    IsReader fun t => if t.head? = some '0' then digits? (· = '0') t else decimals? t := by
  have hzero : IsReader (digits? (· = '0')) := isReader_digits?
    ⟨fun _ => isPlain_of_class (p := (· = '0')) (by decide), by decide, by decide, by decide⟩
  refine ⟨fun {t r} h => ?_, fun u e he => ?_⟩
  · split_ifs at h
    · exact hzero.takes h
    · exact isReader_decimals?.takes h
  · have hhead : (u ++ e).head? = some '0' ↔ u.head? = some '0' := by
      cases u with
      | nil =>
        obtain ⟨c, r, rfl, hc⟩ := he.exists_cons
        rcases hc with rfl | rfl <;> simp
      | cons c u => simp
    simp only [hhead]
    split_ifs
    · exact hzero.local_ u he
    · exact isReader_decimals?.local_ u he

theorem isReader_number? : IsReader number? := by
  have hwhole : IsReader whole? :=
    (isReader_radix? (by decide) (by decide) 16).orElse
      ((isReader_radix? (by decide) (by decide) 2).orElse
        ((isReader_radix? (by decide) (by decide) 8).orElse isReader_zerosOrDecimals?))
  exact isReader_imaginary?.orElse (isReader_float?.orElse hwhole)

/-! ## Operators and words -/

/-- What stands at the front of a line does not reach into its end. -/
theorem prefix_append_lineEnd_iff {w u e : Text} (hw : IsInLine w) (he : IsLineEnd e) :
    w <+: u ++ e ↔ w <+: u := by
  constructor
  · intro h
    induction u generalizing w with
    | nil =>
      cases w with
      | nil => exact List.nil_prefix
      | cons a w =>
        obtain ⟨c, r, rfl, hc⟩ := he.exists_cons
        obtain ⟨hr, hn, -⟩ := hw.of_cons
        have hac : a = c := (List.cons_prefix_cons.mp h).1
        rcases hc with rfl | rfl
        exacts [absurd hac hn, absurd hac hr]
    | cons b u ih =>
      cases w with
      | nil => exact List.nil_prefix
      | cons a w =>
        rw [List.cons_append, List.cons_prefix_cons] at h
        exact List.cons_prefix_cons.mpr ⟨h.1, ih hw.of_cons.2.2 h.2⟩
  · exact fun h => h.trans (List.prefix_append u e)

theorem operators_inLine : ∀ o ∈ Syntax.Lexeme.operators, IsInLine o ∧ o ≠ [] := by
  unfold IsInLine
  decide

/-- An operator consists of plain characters. -/
theorem passes_of_operator {o t : Text} (ho : o ∈ Syntax.Lexeme.operators) (h : o <+: t) :
    Passes t (t.drop o.length) := by
  have hplain : ∀ o ∈ Syntax.Lexeme.operators, '\'' ∉ o ∧ '"' ∉ o ∧ '#' ∉ o ∧ '\\' ∉ o := by decide
  obtain ⟨r, rfl⟩ := h
  rw [List.drop_left]
  exact ⟨o, rfl, fun _ => isPlain_of_mem (hplain o ho)⟩

theorem isReader_operator? : IsReader operator? where
  takes {t r} h := by
    obtain ⟨o, ho, rfl⟩ := Option.map_eq_some_iff.mp h
    have hmem := List.mem_of_find?_eq_some ho
    have hprefix := List.find?_some ho
    rw [Bool.and_eq_true, List.isPrefixOf_iff_prefix] at hprefix
    have hpos := List.length_pos_iff.mpr (operators_inLine o hmem).2
    have hlen := hprefix.2.length_le
    exact ⟨passes_of_operator hmem hprefix.2, by rw [List.length_drop]; omega⟩
  local_ u e he := by
    have hsame : (Syntax.Lexeme.operators.find? fun o => o != "<>".toList && o.isPrefixOf (u ++ e))
        = Syntax.Lexeme.operators.find? fun o => o != "<>".toList && o.isPrefixOf u := by
      apply List.find?_congr
      intro o ho
      congr 1
      rw [Bool.eq_iff_iff, List.isPrefixOf_iff_prefix, List.isPrefixOf_iff_prefix]
      exact prefix_append_lineEnd_iff (operators_inLine o ho).1 he
    rw [operator?, operator?, hsame]
    cases hfind : Syntax.Lexeme.operators.find? fun o => o != "<>".toList && o.isPrefixOf u with
    | none => rfl
    | some o =>
      have hprefix := List.find?_some hfind
      rw [Bool.and_eq_true, List.isPrefixOf_iff_prefix] at hprefix
      simp only [Option.map_some]
      rw [List.drop_append_of_le_length hprefix.2.length_le]

/-- The result of a reader that gives a shape, with the end of the line put behind it. -/
def withEnd (e : Text) (x : Option (Shape × Text)) : Option (Shape × Text) :=
  x.map fun y => (y.1, y.2 ++ e)

theorem dropWhile_append_lineEnd {p : Char → Bool} (hn : p '\n' = false) (hr : p '\r' = false)
    (u : Text) {e : Text} (he : IsLineEnd e) : (u ++ e).dropWhile p = u.dropWhile p ++ e := by
  induction u with
  | nil =>
    obtain ⟨c, r, rfl, hc⟩ := he.exists_cons
    rcases hc with rfl | rfl <;> simp [hn, hr]
  | cons c u ih =>
    rw [List.cons_append, List.dropWhile_cons, List.dropWhile_cons, ih]
    split_ifs <;> rfl

theorem word?_append (u : Text) {e : Text} (he : IsLineEnd e) : word? (u ++ e) = withEnd e (word? u) := by
  have hn : Text.isWordChar '\n' = false := by decide
  have hr : Text.isWordChar '\r' = false := by decide
  cases u with
  | nil =>
    obtain ⟨c, r, rfl, hc⟩ := he.exists_cons
    rcases hc with rfl | rfl <;> simp [word?, hn, hr, withEnd]
  | cons c u =>
    have hdrop := dropWhile_append_lineEnd hn hr (c :: u) he
    rw [List.cons_append] at hdrop
    rw [List.cons_append, word?, word?, hdrop]
    split_ifs <;> rfl

theorem word?_eq_some {t b : Text} {shape : Shape} (h : word? t = some (shape, b)) :
    ∃ c r, t = c :: r ∧ Text.isWordChar c ∧ b = t.dropWhile Text.isWordChar ∧
      shape = .plain (if Text.isIdentStart c then .name else .op) := by
  cases t with
  | nil => cases h
  | cons c t =>
    rw [word?] at h
    by_cases hc : Text.isWordChar c
    case neg => simp [hc] at h
    rw [if_pos hc] at h
    cases h
    exact ⟨c, t, rfl, hc, rfl, rfl⟩

theorem word?_takes {t b : Text} {shape : Shape} (h : word? t = some (shape, b)) :
    Passes t b ∧ b.length < t.length := by
  have hplain : ∀ c, Text.isWordChar c → IsPlain c := fun _ => isPlain_of_class (by decide)
  obtain ⟨c, r, rfl, hc, rfl, -⟩ := word?_eq_some h
  rw [List.dropWhile_cons, if_pos hc]
  have hs := passes_dropWhile hplain r
  exact ⟨.cons (hplain c hc) hs, Nat.lt_succ_of_le hs.suffix.length_le⟩

/-! ## Strings -/

theorem IsQuote.inLine {q : Char} (h : IsQuote q) : q ≠ '\n' ∧ q ≠ '\r' := by
  rcases h with rfl | rfl <;> decide

theorem IsQuote.isInLine {q : Char} (h : IsQuote q) (n : Nat) : IsInLine (List.replicate n q) := by
  have hq := h.inLine
  constructor <;> intro hmem
  · exact hq.2 (List.eq_of_mem_replicate hmem).symm
  · exact hq.1 (List.eq_of_mem_replicate hmem).symm

theorem stringEnd?_lineEnd {q : Char} (hq : IsQuote q) (triple : Bool) (skip : Nat) {e : Text}
    (he : IsLineEnd e) : stringEnd? q triple skip e = none := by
  have hq' := hq.inLine
  rcases he with rfl | rfl
  · rcases skip with _ | k <;> simp [stringEnd?, hq'.1.symm]
  · rcases skip with _ | _ | k <;> simp [stringEnd?, hq'.1.symm, hq'.2.symm]

theorem stringEnd?_append {q : Char} (hq : IsQuote q) (triple : Bool) (skip : Nat) {u e : Text}
    (hu : IsInLine u) (he : IsLineEnd e) :
    stringEnd? q triple skip (u ++ e) = (stringEnd? q triple skip u).map (· ++ e) := by
  induction u generalizing skip with
  | nil =>
    rw [List.nil_append, stringEnd?_lineEnd hq triple skip he]
    rfl
  | cons c u ih =>
    replace hu := hu.of_cons.2.2
    cases skip with
    | succ k => exact ih k hu
    | zero =>
      have htwo : (u ++ e).take 2 = [q, q] ↔ u.take 2 = [q, q] := by
        have hiff := prefix_append_lineEnd_iff (u := u) (hq.isInLine 2) he
        rw [List.prefix_iff_eq_take, List.prefix_iff_eq_take] at hiff
        exact ⟨fun h => (hiff.mp h.symm).symm, fun h => (hiff.mpr h.symm).symm⟩
      by_cases hback : c = '\\'
      · subst hback
        cases u with
        | nil =>
          rcases he with rfl | rfl <;> simp [stringEnd?, hq.inLine.1.symm]
        | cons d u =>
          have hd := hu.of_cons.2.1
          have hnext := ih 1 hu
          simp only [List.cons_append, stringEnd?] at hnext
          simp [stringEnd?, hd, hnext]
      · rw [List.cons_append, stringEnd?, stringEnd?]
        simp only [hback, htwo, if_false]
        split_ifs with hquote htriple hclosed
        · rfl
        · have hlen : 2 ≤ u.length := by
            have := congrArg List.length hclosed
            rw [List.length_take] at this
            simp at this
            omega
          rw [List.drop_append_of_le_length hlen]
          rfl
        · exact ih 0 hu
        · exact ih 0 hu

theorem stringEnd?_suffix {q : Char} {triple : Bool} {skip : Nat} {t r : Text}
    (h : stringEnd? q triple skip t = some r) : r <:+ t := by
  fun_induction stringEnd? q triple skip t with
  | case1 => cases h
  | case2 c t k ih => exact (ih h).trans (List.suffix_cons c t)
  | case3 => cases h
  | case4 t _ ih => exact (ih h).trans (List.suffix_cons _ t)
  | case5 t _ _ => cases h; exact List.suffix_cons _ _
  | case6 t _ _ _ => cases h; exact (List.drop_suffix 2 t).trans (List.suffix_cons _ t)
  | case7 t _ _ _ ih => exact (ih h).trans (List.suffix_cons _ t)
  | case8 c t _ _ ih => exact (ih h).trans (List.suffix_cons c t)

theorem shortString?_suffix {q : Char} {skip : Nat} {t r : Text}
    (h : shortString? q skip t = some r) : r <:+ t := by
  fun_induction shortString? q skip t with
  | case1 => cases h
  | case2 c t k ih => exact (ih h).trans (List.suffix_cons c t)
  | case3 => cases h
  | case4 t _ => cases h; exact List.suffix_cons _ _
  | case5 t _ _ _ => cases h; exact (List.tail_suffix t).trans (List.suffix_cons _ t)
  | case6 t _ _ _ _ => cases h; exact (List.drop_suffix 2 t).trans (List.suffix_cons _ t)
  | case7 t _ _ _ _ ih => exact (ih h).trans (List.suffix_cons _ t)
  | case8 c t _ _ _ ih => exact (ih h).trans (List.suffix_cons c t)

/-- Two results of a reader on a line with different ends: they leave the same part of the line, or
    both take all of it, or both fail. -/
def EndsAlike (u e e' : Text) (x x' : Option Text) : Prop :=
  (∃ v, v <:+ u ∧ x = some (v ++ e) ∧ x' = some (v ++ e')) ∨ (x = some [] ∧ x' = some []) ∨
    (x = none ∧ x' = none)

/-- A short string at the end of a line is closed, goes on behind a backslash, or is no string. -/
theorem shortString?_append {q : Char} (hq : IsQuote q) {u e e' : Text} (hu : IsInLine u)
    (he : IsLineEnd e) (he' : IsLineEnd e') (skip : Nat) :
    EndsAlike u e e' (shortString? q skip (u ++ e)) (shortString? q skip (u ++ e')) := by
  have hq' := hq.inLine
  have hnone : ∀ {e : Text}, IsLineEnd e → ∀ k, shortString? q k e = none := by
    rintro e (rfl | rfl) k
    · rcases k with _ | k <;> simp [shortString?]
    · rcases k with _ | _ | k <;> simp [shortString?, hq'.2.symm]
  induction u generalizing skip with
  | nil => exact .inr (.inr ⟨hnone he skip, hnone he' skip⟩)
  | cons c u ih =>
    obtain ⟨-, hcn, hrest⟩ := hu.of_cons
    have hstep : ∀ k, EndsAlike (c :: u) e e' (shortString? q k (u ++ e))
        (shortString? q k (u ++ e')) := by
      intro k
      rcases ih hrest k with ⟨v, hv, h⟩ | h
      · exact .inl ⟨v, hv.trans (List.suffix_cons c u), h⟩
      · exact .inr h
    cases skip with
    | succ k => exact hstep k
    | zero =>
      by_cases hquote : c = q
      · exact .inl ⟨u, List.suffix_cons c u, by simp [shortString?, hquote, hq'.1],
          by simp [shortString?, hquote, hq'.1]⟩
      by_cases hback : c = '\\'
      · subst hback
        cases u with
        | nil =>
          have hjoined : ∀ {e : Text}, IsLineEnd e → shortString? q 0 ('\\' :: e) = some [] := by
            rintro e (rfl | rfl) <;> simp [shortString?, hquote]
          exact .inr (.inl ⟨hjoined he, hjoined he'⟩)
        | cons d u =>
          obtain ⟨hdr, hdn, -⟩ := hrest.of_cons
          have hskip : ∀ e : Text, shortString? q 0 ('\\' :: d :: u ++ e) =
              shortString? q 1 (d :: u ++ e) := by
            intro e
            simp [shortString?, hquote, hdr, hdn]
          rw [hskip, hskip]
          exact hstep 1
      · have hgo : ∀ e : Text, shortString? q 0 (c :: u ++ e) = shortString? q 0 (u ++ e) := by
          intro e
          simp [shortString?, hcn, hquote, hback]
        rw [hgo, hgo]
        exact hstep 0

/-! ## Quotes in front of strings -/

/-- A mark leads to a quote. -/
theorem stringMark?_eq_some {t : Text} {n : Nat} (h : Syntax.Lexeme.stringMark? t = some n) :
    ∃ q, t[n]? = some q ∧ IsQuote q := by
  unfold Syntax.Lexeme.stringMark? at h
  rw [List.head?_eq_getElem?] at h
  simp only [Bool.or_eq_true, Bool.and_eq_true, decide_eq_true_eq] at h
  have hquote : ∀ k : Nat, t[k]? = some '\'' ∨ t[k]? = some '"' → ∃ q, t[k]? = some q ∧ IsQuote q :=
    fun k hk => hk.elim (fun hq => ⟨_, hq, .inl rfl⟩) fun hq => ⟨_, hq, .inr rfl⟩
  split_ifs at h with h0 h1 h2 <;> cases h
  · exact hquote 0 h0
  · exact hquote 1 h1.1
  · exact hquote 2 h2.1

theorem stringMark?_append (u : Text) {e : Text} (he : IsLineEnd e) :
    Syntax.Lexeme.stringMark? (u ++ e) = Syntax.Lexeme.stringMark? u := by
  rcases u with _ | ⟨a, _ | ⟨b, _ | ⟨c, u⟩⟩⟩
  · rcases he with rfl | rfl <;> simp [Syntax.Lexeme.stringMark?]
  · rcases he with rfl | rfl <;> simp [Syntax.Lexeme.stringMark?]
  · rcases he with rfl | rfl <;> simp [Syntax.Lexeme.stringMark?]
  · simp [Syntax.Lexeme.stringMark?]

theorem quote?_eq_some {t : Text} {n : Nat} {q : Char} (h : quote? t = some (n, q)) :
    t[n]? = some q ∧ IsQuote q := by
  obtain ⟨m, hm, hq⟩ := Option.bind_eq_some_iff.mp h
  obtain ⟨c, hc, heq⟩ := Option.map_eq_some_iff.mp hq
  cases heq
  obtain ⟨d, hd, hquote⟩ := stringMark?_eq_some hm
  rw [hc] at hd
  cases hd
  exact ⟨hc, hquote⟩

theorem quote?_append (u : Text) {e : Text} (he : IsLineEnd e) : quote? (u ++ e) = quote? u := by
  rw [quote?, quote?, stringMark?_append u he]
  cases hm : Syntax.Lexeme.stringMark? u with
  | none => rfl
  | some n =>
    obtain ⟨q, hq, -⟩ := stringMark?_eq_some hm
    have hlt := (List.getElem?_eq_some_iff.mp hq).1
    simp [List.getElem?_append_left hlt]

/-- The marks in front of a string are letters. -/
theorem passes_of_stringMark? {t : Text} {n : Nat} (h : Syntax.Lexeme.stringMark? t = some n) :
    Passes t (t.drop n) := by
  refine ⟨t.take n, (List.take_append_drop n t).symm, fun c hc => ?_⟩
  have hmarks : ∀ m ∈ Syntax.Lexeme.stringMarks, '\'' ∉ m ∧ '"' ∉ m ∧ '#' ∉ m ∧ '\\' ∉ m := by decide
  have hlower : IsPlain c.toLower → IsPlain c := by
    rintro ⟨hquote, hhash, hback⟩
    refine ⟨?_, ?_, ?_⟩
    · rintro (rfl | rfl)
      · exact hquote (by decide)
      · exact hquote (by decide)
    · rintro rfl
      exact hhash rfl
    · rintro rfl
      exact hback rfl
  have hmem : c.toLower ∈ (t.take n).map Char.toLower := List.mem_map_of_mem hc
  unfold Syntax.Lexeme.stringMark? at h
  simp only [Bool.and_eq_true, List.contains_iff_mem] at h
  split_ifs at h with h0 h1 h2 <;> cases h
  · simp at hc
  · exact hlower (isPlain_of_mem (hmarks _ h1.2) hmem)
  · exact hlower (isPlain_of_mem (hmarks _ h2.2) hmem)

theorem longQuote?_of_quote? {t : Text} {n : Nat} {q : Char} (h : quote? t = some (n, q)) :
    longQuote? t =
      if (t.drop n).take 3 = [q, q, q] then some (.longString q, t.drop (n + 3)) else none := by
  rw [longQuote?, h]
  rfl

theorem shortQuote?_of_quote? {t : Text} {n : Nat} {q : Char} (h : quote? t = some (n, q)) :
    shortQuote? t = (shortString? q 0 (t.drop (n + 1))).map (.shortString q, ·) := by
  rw [shortQuote?, h]
  rfl

theorem longQuote?_eq_some {t b : Text} {q : Char} (h : longQuote? t = some (.longString q, b)) :
    ∃ n, quote? t = some (n, q) ∧ (t.drop n).take 3 = [q, q, q] ∧ b = t.drop (n + 3) := by
  obtain ⟨⟨n, q'⟩, hquote, -⟩ := Option.bind_eq_some_iff.mp h
  rw [longQuote?_of_quote? hquote] at h
  split_ifs at h with hthree
  cases h
  exact ⟨n, hquote, hthree, rfl⟩

theorem shortQuote?_eq_some {t b : Text} {q : Char} (h : shortQuote? t = some (.shortString q, b)) :
    ∃ n, quote? t = some (n, q) ∧ shortString? q 0 (t.drop (n + 1)) = some b := by
  obtain ⟨⟨n, q'⟩, hquote, -⟩ := Option.bind_eq_some_iff.mp h
  rw [shortQuote?_of_quote? hquote] at h
  obtain ⟨r, hr, heq⟩ := Option.map_eq_some_iff.mp h
  cases heq
  exact ⟨n, hquote, hr⟩

theorem longQuote?_append (u : Text) {e : Text} (he : IsLineEnd e) :
    longQuote? (u ++ e) = withEnd e (longQuote? u) := by
  rw [longQuote?, longQuote?, quote?_append u he]
  cases hq : quote? u with
  | none => rfl
  | some x =>
    obtain ⟨n, q⟩ := x
    obtain ⟨hget, hquote⟩ := quote?_eq_some hq
    have hlt := (List.getElem?_eq_some_iff.mp hget).1
    have hthree : (u.drop n ++ e).take 3 = [q, q, q] ↔ (u.drop n).take 3 = [q, q, q] := by
      have hiff := prefix_append_lineEnd_iff (u := u.drop n) (hquote.isInLine 3) he
      rw [List.prefix_iff_eq_take, List.prefix_iff_eq_take] at hiff
      exact ⟨fun h => (hiff.mp h.symm).symm, fun h => (hiff.mpr h.symm).symm⟩
    simp only [Option.bind_some, List.drop_append_of_le_length hlt.le, hthree]
    split_ifs with h
    · have hlen := congrArg List.length h
      rw [List.length_take, List.length_drop] at hlen
      rw [List.drop_append_of_le_length (by simp at hlen; omega)]
      rfl
    · rfl

/-! ## One token -/

/-- The shapes that reach over the end of a line. -/
def Shape.TakesLineEnd (shape : Shape) : Prop :=
  shape = .plain .newline ∨ shape = .continuation ∨ ∃ q, shape = .shortString q

/-- Two results of `match?` on a line with different ends: the same shape with the same part of the
    line left, or taking all of the line, or nothing. -/
def MatchesAlike (u e e' : Text) (x x' : Option (Shape × Text)) : Prop :=
  (∃ shape v, v <:+ u ∧ x = some (shape, v ++ e) ∧ x' = some (shape, v ++ e')) ∨
  (∃ shape, shape.TakesLineEnd ∧ IsLineEnd e ∧ IsLineEnd e' ∧ x = some (shape, []) ∧
    x' = some (shape, [])) ∨
  (x = none ∧ x' = none)

theorem shortQuote?_append {u e e' : Text} (hu : IsInLine u) (he : IsLineEnd e)
    (he' : IsLineEnd e') : MatchesAlike u e e' (shortQuote? (u ++ e)) (shortQuote? (u ++ e')) := by
  rw [shortQuote?, shortQuote?, quote?_append u he, quote?_append u he']
  cases hq : quote? u with
  | none => exact .inr (.inr ⟨rfl, rfl⟩)
  | some x =>
    obtain ⟨n, q⟩ := x
    obtain ⟨hget, hquote⟩ := quote?_eq_some hq
    have hlt := (List.getElem?_eq_some_iff.mp hget).1
    simp only [Option.bind_some, List.drop_append_of_le_length (Nat.succ_le_of_lt hlt)]
    have hdrop := List.drop_suffix (n + 1) u
    rcases shortString?_append hquote (hu.of_suffix hdrop) he he' 0 with
      ⟨v, hv, hx, hx'⟩ | ⟨hx, hx'⟩ | ⟨hx, hx'⟩
    · exact .inl ⟨.shortString q, v, hv.trans hdrop, by rw [hx]; rfl, by rw [hx']; rfl⟩
    · exact .inr (.inl ⟨.shortString q, .inr (.inr ⟨q, rfl⟩), he, he', by rw [hx]; rfl,
        by rw [hx']; rfl⟩)
    · exact .inr (.inr ⟨by rw [hx]; rfl, by rw [hx']; rfl⟩)

namespace MatchesAlike

variable {u e e' : Text}

theorem orElse {x x' y y' : Option (Shape × Text)} (hx : MatchesAlike u e e' x x')
    (hy : MatchesAlike u e e' y y') : MatchesAlike u e e' (x <|> y) (x' <|> y') := by
  rcases hx with ⟨shape, v, hv, rfl, rfl⟩ | ⟨shape, hs, he, he', rfl, rfl⟩ | ⟨rfl, rfl⟩
  · exact .inl ⟨shape, v, hv, rfl, rfl⟩
  · exact .inr (.inl ⟨shape, hs, he, he', rfl, rfl⟩)
  · exact hy

theorem of_withEnd {x : Option (Shape × Text)} (hx : ∀ {shape v}, x = some (shape, v) → v <:+ u) :
    MatchesAlike u e e' (withEnd e x) (withEnd e' x) := by
  cases x with
  | none => exact .inr (.inr ⟨rfl, rfl⟩)
  | some y => exact .inl ⟨y.1, y.2, hx rfl, rfl, rfl⟩

theorem of_isReader {f : Text → Option Text} (hf : IsReader f) (shape : Shape)
    (he : IsLineEnd e) (he' : IsLineEnd e') :
    MatchesAlike u e e' ((f (u ++ e)).map (shape, ·)) ((f (u ++ e')).map (shape, ·)) := by
  rw [hf.local_ u he, hf.local_ u he']
  cases hx : f u with
  | none => exact .inr (.inr ⟨rfl, rfl⟩)
  | some r => exact .inl ⟨shape, r, (hf.takes hx).1.suffix, rfl, rfl⟩

end MatchesAlike

theorem match?_cons {c : Char} {t : Text} (hback : c ≠ '\\') (hhash : c ≠ '#') :
    match? (c :: t) = (longQuote? (c :: t) <|> (number? (c :: t)).map (.plain .number, ·)
      <|> (lineFeed? (c :: t)).map (.plain .newline, ·)
      <|> (operator? (c :: t)).map (.plain .op, ·) <|> shortQuote? (c :: t) <|> word? (c :: t)) := by
  rw [match?]
  · exact List.cons_ne_nil c t
  · intro r h
    exact hback (List.cons.inj h).1
  · intro r h
    exact hhash (List.cons.inj h).1

theorem lineFeed?_cons_eq_none {c : Char} {t : Text} (hn : c ≠ '\n') (hr : c ≠ '\r') :
    lineFeed? (c :: t) = none := by
  rw [lineFeed?]
  · rintro r h
    exact hn (List.cons.inj h).1
  · rintro r h
    exact hr (List.cons.inj h).1

theorem lineFeed?_takes {t r : Text} (h : lineFeed? t = some r) :
    Passes t r ∧ r.length < t.length := by
  unfold lineFeed? at h
  split at h
  · cases h
    exact ⟨.cons (by decide) (.refl _), by simp⟩
  · cases h
    exact ⟨.cons (by decide) (.cons (by decide) (.refl _)), by simp only [List.length_cons]; omega⟩
  · cases h

theorem longQuote?_takes {t b : Text} {shape : Shape} (h : longQuote? t = some (shape, b)) :
    b <:+ t ∧ b.length < t.length := by
  obtain ⟨⟨n, q⟩, hq, h⟩ := Option.bind_eq_some_iff.mp h
  have hlt := (List.getElem?_eq_some_iff.mp (quote?_eq_some hq).1).1
  simp only at h
  split_ifs at h
  cases h
  exact ⟨List.drop_suffix _ _, by rw [List.length_drop]; omega⟩

theorem shortQuote?_takes {t b : Text} {shape : Shape} (h : shortQuote? t = some (shape, b)) :
    b <:+ t ∧ b.length < t.length := by
  obtain ⟨⟨n, q⟩, hq, h⟩ := Option.bind_eq_some_iff.mp h
  have hlt := (List.getElem?_eq_some_iff.mp (quote?_eq_some hq).1).1
  obtain ⟨r, hr, heq⟩ := Option.map_eq_some_iff.mp h
  cases heq
  have hs := shortString?_suffix hr
  have hlen := hs.length_le
  rw [List.length_drop] at hlen
  exact ⟨hs.trans (List.drop_suffix _ _), by omega⟩

/-- What `match?` can find at the front of a text: the shape and what stands behind. -/
inductive Matched : Text → Shape → Text → Prop where
  | blank : Matched [] .blank []
  | joined {r b : Text} (h : lineFeed? r = some b) : Matched ('\\' :: r) .continuation b
  | comment (r : Text) :
    Matched ('#' :: r) (.plain .comment) (r.dropWhile fun c => c ≠ '\r' && c ≠ '\n')
  | long {t b : Text} {q : Char} (h : longQuote? t = some (.longString q, b)) :
    Matched t (.longString q) b
  | number {t b : Text} (h : number? t = some b) : Matched t (.plain .number) b
  | lineEnd {t b : Text} (h : lineFeed? t = some b) : Matched t (.plain .newline) b
  | operator {t b : Text} (h : operator? t = some b) : Matched t (.plain .op) b
  | short {t b : Text} {q : Char} (hlong : longQuote? t = none)
    (h : shortQuote? t = some (.shortString q, b)) : Matched t (.shortString q) b
  | word {t b : Text} {cls : TokenClass} (h : word? t = some (.plain cls, b)) :
    Matched t (.plain cls) b

theorem longQuote?_shape {t b : Text} {shape : Shape} (h : longQuote? t = some (shape, b)) :
    ∃ q, shape = .longString q ∧ IsQuote q := by
  obtain ⟨⟨n, q⟩, hq, h⟩ := Option.bind_eq_some_iff.mp h
  simp only at h
  split_ifs at h
  cases h
  exact ⟨q, rfl, (quote?_eq_some hq).2⟩

theorem shortQuote?_shape {t b : Text} {shape : Shape} (h : shortQuote? t = some (shape, b)) :
    ∃ q, shape = .shortString q ∧ IsQuote q := by
  obtain ⟨⟨n, q⟩, hq, h⟩ := Option.bind_eq_some_iff.mp h
  obtain ⟨r, -, heq⟩ := Option.map_eq_some_iff.mp h
  cases heq
  exact ⟨q, rfl, (quote?_eq_some hq).2⟩

theorem matched_of_match? {t b : Text} {shape : Shape} (h : match? t = some (shape, b)) :
    Matched t shape b := by
  cases t with
  | nil =>
    cases h
    exact .blank
  | cons c t =>
    by_cases hback : c = '\\'
    · subst hback
      obtain ⟨r, hr, heq⟩ := Option.map_eq_some_iff.mp h
      cases heq
      exact .joined hr
    by_cases hhash : c = '#'
    · subst hhash
      cases h
      exact .comment t
    rw [match?_cons hback hhash] at h
    simp only [Option.orElse_eq_orElse, Option.orElse_eq_or, Option.or_eq_some_iff,
      Option.map_eq_some_iff, Prod.mk.injEq] at h
    rcases h with h | ⟨hlong, ⟨r, h, rfl, rfl⟩ | ⟨-, ⟨r, h, rfl, rfl⟩ | ⟨-, ⟨r, h, rfl, rfl⟩ |
      ⟨-, h | ⟨-, h⟩⟩⟩⟩⟩
    · obtain ⟨q, rfl, -⟩ := longQuote?_shape h
      exact .long h
    · exact .number h
    · exact .lineEnd h
    · exact .operator h
    · obtain ⟨q, rfl, -⟩ := shortQuote?_shape h
      exact .short hlong h
    · obtain ⟨_, _, _, _, _, rfl⟩ := word?_eq_some h
      exact .word h

theorem Matched.eq_nil {t b : Text} (h : Matched t .blank b) : t = [] := by
  cases h
  rfl

/-- Only nothing is blank. -/
theorem Matched.ne_nil {t b : Text} {shape : Shape} (h : Matched t shape b) (hshape : shape ≠ .blank) :
    t ≠ [] := by
  rintro rfl
  cases h with
  | blank => exact hshape rfl
  | long h => cases h
  | number h => exact absurd (isReader_number?.takes h).2 (Nat.not_lt_zero _)
  | lineEnd h => cases h
  | operator h => exact absurd (isReader_operator?.takes h).2 (Nat.not_lt_zero _)
  | short _ h => cases h
  | word h => cases h

/-- A token takes at least one character. -/
theorem Matched.takes {t b : Text} {shape : Shape} (h : Matched t shape b) (ht : t ≠ []) :
    b <:+ t ∧ b.length < t.length := by
  cases h with
  | blank => exact absurd rfl ht
  | @joined r _ h =>
    obtain ⟨hs, hlt⟩ := lineFeed?_takes h
    exact ⟨hs.suffix.trans (List.suffix_cons _ r), Nat.lt_succ_of_lt hlt⟩
  | comment r =>
    have hs := List.dropWhile_suffix (l := r) fun c => decide (c ≠ '\r') && decide (c ≠ '\n')
    exact ⟨hs.trans (List.suffix_cons _ r), Nat.lt_succ_of_le hs.length_le⟩
  | long h => exact longQuote?_takes h
  | number h => exact (isReader_number?.takes h).imp_left Passes.suffix
  | lineEnd h => exact (lineFeed?_takes h).imp_left Passes.suffix
  | operator h => exact (isReader_operator?.takes h).imp_left Passes.suffix
  | short _ h => exact shortQuote?_takes h
  | word h => exact (word?_takes h).imp_left Passes.suffix

/-- Strings start with a quote. -/
theorem Matched.isQuote {t b : Text} {shape : Shape} {q : Char} (h : Matched t shape b)
    (hshape : shape = .longString q ∨ shape = .shortString q) : IsQuote q := by
  cases h with
  | long h =>
    obtain ⟨q', heq, hq⟩ := longQuote?_shape h
    rcases hshape with hshape | hshape <;> cases hshape
    cases heq
    exact hq
  | short _ h =>
    obtain ⟨q', heq, hq⟩ := shortQuote?_shape h
    rcases hshape with hshape | hshape <;> cases hshape
    cases heq
    exact hq
  | _ => rcases hshape with hshape | hshape <;> cases hshape

theorem match?_lineEnd {e : Text} (he : IsLineEnd e) : match? e = some (.plain .newline, []) := by
  rcases he with rfl | rfl <;> decide

/-- The token at the front of a line is the same with either line end. -/
theorem match?_append_lineEnd {u e e' : Text} (hu : IsInLine u) (he : IsLineEnd e)
    (he' : IsLineEnd e') : MatchesAlike u e e' (match? (u ++ e)) (match? (u ++ e')) := by
  cases u with
  | nil =>
    rw [List.nil_append, List.nil_append, match?_lineEnd he, match?_lineEnd he']
    exact .inr (.inl ⟨.plain .newline, .inl rfl, he, he', rfl, rfl⟩)
  | cons c u =>
    obtain ⟨hcr, hcn, hrest⟩ := hu.of_cons
    by_cases hback : c = '\\'
    · subst hback
      cases u with
      | nil =>
        have hjoined : ∀ {e : Text}, IsLineEnd e → match? ('\\' :: e) = some (.continuation, []) := by
          rintro e (rfl | rfl) <;> rfl
        exact .inr (.inl ⟨.continuation, .inr (.inl rfl), he, he', hjoined he, hjoined he'⟩)
      | cons d u =>
        obtain ⟨hdr, hdn, -⟩ := hrest.of_cons
        have hnone : ∀ e : Text, match? ('\\' :: d :: u ++ e) = none := by
          intro e
          show (lineFeed? (d :: (u ++ e))).map (Shape.continuation, ·) = none
          rw [lineFeed?_cons_eq_none hdn hdr]
          rfl
        exact .inr (.inr ⟨hnone e, hnone e'⟩)
    by_cases hhash : c = '#'
    · subst hhash
      have hcomment : ∀ {e : Text}, IsLineEnd e → match? ('#' :: u ++ e) =
          some (.plain .comment, (u.dropWhile fun c => c ≠ '\r' && c ≠ '\n') ++ e) := by
        intro e he
        have hdrop := dropWhile_append_lineEnd (p := fun c => c ≠ '\r' && c ≠ '\n') (by decide)
          (by decide) u he
        rw [← hdrop]
        rfl
      exact .inl ⟨_, _, (List.dropWhile_suffix _).trans (List.suffix_cons _ u), hcomment he,
        hcomment he'⟩
    rw [List.cons_append, List.cons_append, match?_cons hback hhash, match?_cons hback hhash,
      lineFeed?_cons_eq_none hcn hcr, lineFeed?_cons_eq_none hcn hcr]
    refine .orElse ?_ (.orElse ?_ (.orElse (.inr (.inr ⟨rfl, rfl⟩)) (.orElse ?_ (.orElse ?_ ?_))))
    · rw [← List.cons_append, ← List.cons_append, longQuote?_append _ he, longQuote?_append _ he']
      exact .of_withEnd fun h => (longQuote?_takes h).1
    · exact .of_isReader isReader_number? _ he he'
    · exact .of_isReader isReader_operator? _ he he'
    · exact shortQuote?_append hu he he'
    · rw [← List.cons_append, ← List.cons_append, word?_append _ he, word?_append _ he']
      exact .of_withEnd fun h => (word?_takes h).1.suffix

end HouseStyle.Token
