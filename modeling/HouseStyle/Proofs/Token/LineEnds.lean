import HouseStyle.Declaration
import HouseStyle.Syntax.Statement
import HouseStyle.Proofs.Token.Scanning
import Mathlib.Data.List.Forall2

/-!
# Line ends do not matter to names

A text whose line ends are `\n` and `\r\n` has the same tokens when all of them are `\n`, up to the
spelling of tokens that are no names: line ends are spelled differently, and strings may hold some. So
the streams are compared by a view that forgets these spellings. Two lines with the same front are
scanned alike, line by line the views stay the same, and the names behind `class` are read off the view.

Main definitions:
* `Text.hasLoneReturn`: some carriage return is not part of `\r\n`.
* `Token.view`, `Token.Stream.Alike`: a token without such a spelling, and streams with the same view.
* `Token.Ends`: two ends of the same line.

Main results:
* `Text.sameLines_unifyNewlines`: the lines of a text before and after unifying line ends.
* `Token.Stream.scan_alike`, `Token.Stream.step_alike`, `Token.Stream.run_alike`: scanning.
* `Token.map_view_ofText`: the tokens of a text before and after unifying line ends.
-/

namespace HouseStyle

namespace Token

/-! ## Lines -/

/-- The ends of two lines: line ends, or nothing at the end of the text. -/
inductive Ends : Text → Text → Prop where
  | nothing : Ends [] []
  | lineEnds {e e' : Text} (he : IsLineEnd e) (he' : IsLineEnd e') : Ends e e'

/-- Two lines with the same front. -/
def SameLine (t t' : Text) : Prop :=
  ∃ u e e', IsInLine u ∧ Ends e e' ∧ t = u ++ e ∧ t' = u ++ e'

theorem Ends.symm {e e' : Text} (h : Ends e e') : Ends e' e := by
  cases h with
  | nothing => exact .nothing
  | lineEnds he he' => exact .lineEnds he' he

end Token

namespace Text

open Token

/-- Some carriage return is not part of `\r\n`. -/
def hasLoneReturn : Text → Bool
  | [] => false
  | '\r' :: '\n' :: t => hasLoneReturn t
  | c :: t => c = '\r' || hasLoneReturn t

theorem newlineLines_lineFeed (t : Text) : newlineLines ('\n' :: t) = ['\n'] :: newlineLines t := by
  rw [newlineLines, if_pos rfl]

theorem sameLines_cons {c : Char} {t t' : Text} (hr : c ≠ '\r')
    (h : List.Forall₂ SameLine t.newlineLines t'.newlineLines) :
    List.Forall₂ SameLine (newlineLines (c :: t)) (newlineLines (c :: t')) := by
  rw [newlineLines, newlineLines]
  by_cases hn : c = '\n'
  · rw [if_pos hn, if_pos hn]
    exact .cons ⟨[], _, _, ⟨by simp, by simp⟩, .lineEnds (.inl rfl) (.inl rfl), rfl, rfl⟩ h
  rw [if_neg hn, if_neg hn]
  generalize newlineLines t = lines at h ⊢
  generalize newlineLines t' = lines' at h ⊢
  cases h with
  | nil =>
    have hc : IsInLine [c] := ⟨by simpa using hr.symm, by simpa using Ne.symm hn⟩
    exact .cons ⟨[c], _, _, hc, .nothing, rfl, rfl⟩ .nil
  | cons hl hls =>
    obtain ⟨u, e, e', hu, he, rfl, rfl⟩ := hl
    have hcu : IsInLine (c :: u) :=
      ⟨by simpa using ⟨hr.symm, hu.1⟩, by simpa using ⟨Ne.symm hn, hu.2⟩⟩
    exact .cons ⟨c :: u, e, e', hcu, he, rfl, rfl⟩ hls

/-- Unifying line ends changes nothing but the ends of lines, if there is no lone carriage return. -/
theorem sameLines_unifyNewlines {t : Text} (h : t.hasLoneReturn = false) :
    List.Forall₂ SameLine t.newlineLines t.unifyNewlines.newlineLines := by
  fun_induction unifyNewlines t with
  | case1 => exact .nil
  | case2 t ih =>
    have hlines : newlineLines ('\r' :: '\n' :: t) = ['\r', '\n'] :: newlineLines t := by
      rw [newlineLines, newlineLines_lineFeed]
      rfl
    rw [hlines, newlineLines_lineFeed]
    exact .cons ⟨[], _, _, ⟨by simp, by simp⟩, .lineEnds (.inr rfl) (.inl rfl), rfl, rfl⟩ (ih h)
  | case3 c t hne ih =>
    rw [hasLoneReturn] at h
    · rw [Bool.or_eq_false_iff, decide_eq_false_iff_not] at h
      rw [if_neg h.1]
      exact sameLines_cons h.1 (ih h.2)
    · exact hne

theorem not_mem_unifyNewlines (t : Text) : '\r' ∉ t.unifyNewlines := by
  fun_induction unifyNewlines t with
  | case1 => simp
  | case2 t ih => simpa using ih
  | case3 c t _ ih =>
    rw [List.mem_cons, not_or]
    refine ⟨?_, ih⟩
    split_ifs with hc
    · decide
    · exact Ne.symm hc

theorem unifyNewlines_of_not_mem {t : Text} (h : '\r' ∉ t) : t.unifyNewlines = t := by
  fun_induction unifyNewlines t with
  | case1 => rfl
  | case2 t => simp at h
  | case3 c t _ ih =>
    rw [List.mem_cons, not_or] at h
    rw [if_neg (Ne.symm h.1), ih h.2]

theorem unifyNewlines_unifyNewlines (t : Text) : t.unifyNewlines.unifyNewlines = t.unifyNewlines :=
  unifyNewlines_of_not_mem (not_mem_unifyNewlines t)

theorem unifyNewlines_append_returnFeed (t : Text) :
    (t ++ ['\r', '\n']).unifyNewlines = t.unifyNewlines ++ ['\n'] := by
  fun_induction unifyNewlines t with
  | case1 => rfl
  | case2 t ih => simpa [unifyNewlines] using ih
  | case3 c t hne ih =>
    rw [List.cons_append, unifyNewlines, ih]
    · rfl
    · intro r hr hfeed
      cases t with
      | nil => cases hfeed
      | cons d t => exact hne t hr (by rw [(List.cons.inj hfeed).1])

theorem mem_unifyNewlines_iff {c : Char} (hr : c ≠ '\r') (hn : c ≠ '\n') (t : Text) :
    c ∈ t.unifyNewlines ↔ c ∈ t := by
  fun_induction unifyNewlines t with
  | case1 => rfl
  | case2 t ih => simp [ih, hr, hn]
  | case3 d t _ ih =>
    rw [List.mem_cons, List.mem_cons, ih]
    split_ifs with hd
    · simp [hd, hr, hn]
    · rfl

end Text

namespace Token

/-! ## Views -/

/-- A token without its spelling, unless it is a name. -/
def view (t : Token) : Token := if t.cls = .name then t else { t with text := [] }

/-- An open string without its text. -/
def OpenString.view (o : OpenString) : OpenString := { o with text := [] }

theorem view_cls (t : Token) : t.view.cls = t.cls := by
  unfold view
  split_ifs <;> rfl

theorem view_of_name {t : Token} (h : t.cls = .name) : t.view = t := if_pos h

theorem nextName?_map_view (ts : List Token) : nextName? (ts.map view) = nextName? ts := by
  induction ts with
  | nil => rfl
  | cons t ts ih =>
    simp only [List.map_cons, nextName?, view_cls, ih]
    split_ifs with hgap hname
    · rfl
    · rw [view_of_name hname]
    · rfl

/-- The name behind a `class` is read off the view. -/
theorem nameAfterClass?_map_view (line col : Nat) (ts : List Token) :
    nameAfterClass? line col (ts.map view) = nameAfterClass? line col ts := by
  induction ts with
  | nil => rfl
  | cons t ts ih =>
    simp only [List.map_cons, nameAfterClass?, ih, nextName?_map_view]
    by_cases hname : t.cls = .name
    · rw [view_of_name hname]
    · simp [view_cls, hname]

namespace Stream

/-- Streams that differ in the spellings of tokens that are no names. Open strings have quotes. -/
structure Alike (s s' : Stream) : Prop where
  depth : s.depth = s'.depth
  continued : s.continued = s'.continued
  indents : s.indents = s'.indents
  openString : s.openString.map OpenString.view = s'.openString.map OpenString.view
  shortOpen : s.shortOpen = s'.shortOpen
  found : s.found.map view = s'.found.map view
  quote : ∀ o ∈ s.openString, IsQuote o.quote

variable {s s' : Stream}

/-- Tokens of the same class at the same place are added alike, if they are not names with different
    spellings. -/
theorem Alike.add (h : Alike s s') {cls : TokenClass} {text text' : Text}
    (htext : cls = .name → text = text') (line col : Nat) :
    Alike (s.add cls text line col) (s'.add cls text' line col) := by
  have hview : (⟨cls, text, line, col⟩ : Token).view = (⟨cls, text', line, col⟩ : Token).view := by
    by_cases hname : cls = .name
    · rw [htext hname]
    · rw [view, view, if_neg hname, if_neg hname]
  refine { h with found := ?_ }
  rw [Stream.add, Stream.add, List.map_cons, List.map_cons, hview, h.found]

theorem Alike.addPlain (h : Alike s s') {cls : TokenClass} {text text' : Text}
    (htext : cls = .newline ∨ text = text') (line col : Nat) :
    Alike (s.addPlain cls text line col) (s'.addPlain cls text' line col) := by
  cases cls with
  | newline =>
    rw [Stream.addPlain, Stream.addPlain, h.depth]
    exact h.add (fun hname => by split_ifs at hname) line col
  | op =>
    obtain rfl : text = text' := htext.resolve_left (by simp)
    have hadd : Alike (s.add .op text line col) (s'.add .op text line col) :=
      h.add (fun _ => rfl) line col
    exact { hadd with depth := by rw [Stream.addPlain, Stream.addPlain, h.depth] }
  | _ =>
    obtain rfl : text = text' := htext.resolve_left (by simp)
    exact h.add (fun _ => rfl) line col

/-! ## One line -/

/-- Streams that have a string open at the end of the line. -/
theorem Alike.opened (h : Alike s s') {quote : Char} {triple : Bool} {text text' : Text}
    {line col : Nat} (hquote : IsQuote quote) {short short' : Bool} (hshort : short = short') :
    Alike { s with openString := some ⟨quote, triple, text, line, col⟩, shortOpen := short }
      { s' with openString := some ⟨quote, triple, text', line, col⟩, shortOpen := short' } :=
  { h with
    openString := rfl
    shortOpen := hshort
    quote := by
      rintro _ ⟨⟩
      exact hquote }

end Stream

/-- The token at the front of a line is the same with either end. -/
theorem match?_append_ends {u e e' : Text} (hu : IsInLine u) (h : Ends e e') :
    MatchesAlike u e e' (match? (u ++ e)) (match? (u ++ e')) := by
  cases h with
  | lineEnds he he' => exact match?_append_lineEnd hu he he'
  | nothing =>
    rw [List.append_nil]
    cases hm : match? u with
    | none => exact .inr (.inr ⟨rfl, rfl⟩)
    | some x =>
      have hsuffix : x.2 <:+ u := by
        by_cases hne : u = []
        · subst hne
          cases hm
          exact List.suffix_rfl
        · exact ((matched_of_match? hm).takes hne).1
      exact .inl ⟨x.1, x.2, hsuffix, by simp, by simp⟩

theorem stringEnd?_append_ends {q : Char} (hq : IsQuote q) (triple : Bool) {u e e' : Text}
    (hu : IsInLine u) (h : Ends e e') :
    stringEnd? q triple 0 (u ++ e) = (stringEnd? q triple 0 u).map (· ++ e) := by
  cases h with
  | lineEnds he _ => exact stringEnd?_append hq triple 0 hu he
  | nothing => simp

theorem dropWhile_append_ends {p : Char → Bool} (hn : p '\n' = false) (hr : p '\r' = false)
    (u : Text) {e e' : Text} (h : Ends e e') :
    (u ++ e).dropWhile p = u.dropWhile p ++ e ∧ (u ++ e).takeWhile p = u.takeWhile p := by
  have hdrop : (u ++ e).dropWhile p = u.dropWhile p ++ e := by
    cases h with
    | lineEnds he _ => exact dropWhile_append_lineEnd hn hr u he
    | nothing => simp
  refine ⟨hdrop, ?_⟩
  have hcut := List.takeWhile_append_dropWhile (p := p) (l := u ++ e)
  rw [hdrop, ← List.append_assoc] at hcut
  have hfront := List.append_cancel_right hcut
  exact List.append_cancel_right (hfront.trans List.takeWhile_append_dropWhile.symm)

/-- What is taken from the front of a line, given what is left of it. -/
theorem take_append_of_append (u v e : Text) :
    (u ++ e).take ((u ++ e).length - (v ++ e).length) = u.take (u.length - v.length) := by
  rw [List.length_append, List.length_append, Nat.add_sub_add_right,
    List.take_append_of_le_length (Nat.sub_le _ _)]

theorem getLast?_append_lineEnd (u : Text) {e : Text} (he : IsLineEnd e) :
    (u ++ e).getLast? = some '\n' := by
  rcases he with rfl | rfl <;> simp

namespace Stream

variable {s s' : Stream}

@[simp] theorem scan_nil (fuel line col : Nat) (s : Stream) : scan fuel line col [] s = s := by
  cases fuel <;> rfl

theorem scan_lineEnd {fuel : Nat} (hfuel : 0 < fuel) (line col : Nat) {e : Text} (he : IsLineEnd e)
    (s : Stream) : scan fuel line col e s = s.addPlain .newline e line col := by
  obtain ⟨fuel, rfl⟩ : ∃ n, fuel = n + 1 := ⟨fuel - 1, by omega⟩
  rcases he with rfl | rfl
  · exact scan_nil _ _ _ _
  · exact scan_nil _ _ _ _

theorem scan_alike {fuel fuel' line col : Nat} {u e e' : Text} (hu : IsInLine u) (he : Ends e e')
    (hfuel : (u ++ e).length < fuel) (hfuel' : (u ++ e').length < fuel') (hs : Alike s s') :
    Alike (scan fuel line col (u ++ e) s) (scan fuel' line col (u ++ e') s') := by
  induction fuel generalizing fuel' col u s s' with
  | zero => omega
  | succ fuel ih =>
    obtain ⟨fuel', rfl⟩ : ∃ n, fuel' = n + 1 := ⟨fuel' - 1, by omega⟩
    cases u with
    | nil =>
      cases he with
      | nothing => simpa using hs
      | lineEnds he he' =>
        rw [List.nil_append, List.nil_append, scan_lineEnd (Nat.succ_pos _) _ _ he,
          scan_lineEnd (Nat.succ_pos _) _ _ he']
        exact hs.addPlain (.inl rfl) line col
    | cons c u =>
      obtain ⟨hdrop, htake⟩ := dropWhile_append_ends (p := isSpace) rfl rfl (c :: u) he
      obtain ⟨hdrop', htake'⟩ := dropWhile_append_ends (p := isSpace) rfl rfl (c :: u) he.symm
      have hsuffix := List.dropWhile_suffix (l := c :: u) isSpace
      have hlen := hsuffix.length_le
      rw [List.cons_append, List.cons_append, scan, scan, ← List.cons_append, ← List.cons_append,
        hdrop, htake, hdrop', htake']
      simp only [List.length_append, List.length_cons] at hfuel hfuel' hlen
      generalize (c :: u).dropWhile isSpace = w at hsuffix hlen ⊢
      generalize col + ((c :: u).takeWhile isSpace).length = start
      have hw := hu.of_suffix hsuffix
      -- what is left of the line is scanned alike by the induction hypothesis
      have hgo : ∀ {v : Text} {col : Nat} {s s' : Stream}, v <:+ w → v.length < w.length →
          Alike s s' → Alike (scan fuel line col (v ++ e) s) (scan fuel' line col (v ++ e') s') := by
        intro v col s s' hv hlt h
        refine ih (hw.of_suffix hv) ?_ ?_ h <;> rw [List.length_append] <;> omega
      have hmatch := match?_append_ends hw he
      rcases hmatch with ⟨shape, v, hv, hm, hm'⟩ | ⟨shape, hshape, hend, hend', hm, hm'⟩ | ⟨hm, hm'⟩
      · have hmatched := matched_of_match? hm
        have hlt : shape ≠ .blank → v.length < w.length := by
          intro hshape
          have hne : w ++ e ≠ [] := by
            intro hnil
            rw [hnil] at hm
            exact hshape (Prod.mk.inj (Option.some.inj hm)).1.symm
          have h := (hmatched.takes hne).2
          rw [List.length_append, List.length_append] at h
          omega
        rw [hm, hm']
        simp only [take_append_of_append]
        cases shape with
        | blank => exact hs
        | continuation => exact { hs with continued := rfl }
        | longString q =>
          have hq := hmatched.isQuote (.inl rfl)
          have hv' := hw.of_suffix hv
          simp only [stringEnd?_append_ends hq true hv' he, stringEnd?_append_ends hq true hv' he.symm]
          cases hclosed : stringEnd? q true 0 v with
          | none => exact hs.opened hq hs.shortOpen
          | some after =>
            have hafter := stringEnd?_suffix hclosed
            simp only [Option.map_some, take_append_of_append]
            exact hgo (hafter.trans hv) (hafter.length_le.trans_lt (hlt (by simp)))
              (hs.add (fun _ => rfl) line start)
        | shortString q =>
          simp only
          split_ifs
          · exact hs.opened (hmatched.isQuote (.inr rfl)) rfl
          · exact hgo hv (hlt (by simp)) (hs.add (fun _ => rfl) line start)
        | plain cls => exact hgo hv (hlt (by simp)) (hs.addPlain (.inr rfl) line start)
      · have hmatched := matched_of_match? hm
        rw [hm, hm']
        simp only [List.length_nil, Nat.sub_zero, List.take_length]
        rcases hshape with rfl | rfl | ⟨q, rfl⟩
        · simpa using hs.addPlain (.inl rfl) line start
        · exact { hs with continued := rfl }
        · simp only [getLast?_append_lineEnd w hend, getLast?_append_lineEnd w hend', if_true]
          exact hs.opened (hmatched.isQuote (.inr rfl)) rfl
      · rw [hm, hm']
        refine ih hu.of_cons.2.2 ?_ ?_ (hs.add (fun _ => rfl) line col) <;>
          rw [List.length_append] <;> omega

/-! ## All lines -/

/-- Two results that are streams alike, or the same fault. -/
def AlikeResults : Except TokenFault Stream → Except TokenFault Stream → Prop
  | .ok s, .ok s' => Alike s s'
  | .error e, .error e' => e = e'
  | _, _ => False

theorem closeBlocks_alike (column line col : Nat) (blocks : List Nat) (h : Alike s s') :
    Alike (closeBlocks column line col blocks s) (closeBlocks column line col blocks s') := by
  induction blocks generalizing s s' with
  | nil => exact { h with indents := rfl }
  | cons i is ih =>
    rw [closeBlocks, closeBlocks]
    split_ifs
    · exact ih (h.add (fun _ => rfl) line col)
    · exact { h with indents := rfl }

theorem indent_alike (line : Nat) (blanks : Text) (h : Alike s s') :
    AlikeResults (s.indent line blanks) (s'.indent line blanks) := by
  simp only [indent, h.indents]
  split_ifs
  · exact { h.add (fun _ => rfl) line 0 with indents := rfl }
  · exact rfl
  · exact closeBlocks_alike _ _ _ _ h

/-- A comment ends where the front of its line does. -/
theorem dropEnd_append {w e e' : Text} (hw : IsInLine w) (he : Ends e e') :
    ((w ++ e).reverse.dropWhile fun c => c = '\r' || c = '\n').reverse = w := by
  have hend : ∀ c ∈ e.reverse, (decide (c = '\r') || decide (c = '\n')) = true := by
    cases he with
    | nothing => simp
    | lineEnds he _ => rcases he with rfl | rfl <;> simp
  have hfront : w.reverse.dropWhile (fun c => c = '\r' || c = '\n') = w.reverse := by
    cases hrev : w.reverse with
    | nil => rfl
    | cons c r =>
      have hmem : c ∈ w := List.mem_reverse.mp (hrev ▸ List.mem_cons_self)
      have hr : c ≠ '\r' := fun h => hw.1 (h ▸ hmem)
      have hn : c ≠ '\n' := fun h => hw.2 (h ▸ hmem)
      simp [hr, hn]
  rw [List.reverse_append, List.dropWhile_append_of_pos hend, hfront, List.reverse_reverse]

theorem startLine_alike (line : Nat) {u e e' : Text} (hu : IsInLine u) (he : Ends e e')
    (h : Alike s s') : AlikeResults (s.startLine line (u ++ e)) (s'.startLine line (u ++ e')) := by
  obtain ⟨hdrop, htake⟩ := dropWhile_append_ends (p := isSpace) rfl rfl u he
  obtain ⟨hdrop', htake'⟩ := dropWhile_append_ends (p := isSpace) rfl rfl u he.symm
  have hsuffix := List.dropWhile_suffix (l := u) isSpace
  have hlen := hsuffix.length_le
  simp only [startLine, hdrop, htake, hdrop', htake']
  generalize u.dropWhile isSpace = w at hsuffix hlen ⊢
  generalize u.takeWhile isSpace = blanks
  have hw := hu.of_suffix hsuffix
  cases w with
  | nil =>
    have hadd : ∀ e e' : Text, Alike (s.add .nl e line blanks.length)
      (s'.add .nl e' line blanks.length) := fun e e' => h.add (by simp) line _
    cases he with
    | nothing => exact h
    | lineEnds he he' =>
      rcases he with rfl | rfl <;> rcases he' with rfl | rfl <;> exact hadd _ _
  | cons c w =>
    obtain ⟨hr, hn, -⟩ := hw.of_cons
    by_cases hhash : c = '#'
    · subst hhash
      simp only [List.cons_append]
      rw [← List.cons_append, ← List.cons_append, dropEnd_append hw he, dropEnd_append hw he.symm]
      exact (h.add (by simp) line _).add (by simp) line _
    · simp only [List.cons_append, hr, hn, decide_false, Bool.or_self, Bool.false_eq_true, if_false]
      rw [← List.cons_append, ← List.cons_append]
      have hindent := indent_alike line blanks h
      generalize s.indent line blanks = x at hindent ⊢
      generalize s'.indent line blanks = x' at hindent ⊢
      match x, x', hindent with
      | .ok _, .ok _, hindent =>
        exact scan_alike hw he (by simp at hlen ⊢; omega) (by simp at hlen ⊢; omega) hindent
      | .error _, .error _, hindent => exact hindent

theorem endsJoined_append {u : Text} (hu : IsInLine u) {e : Text} (he : IsLineEnd e) :
    endsJoined (u ++ e) = ['\\'].isSuffixOf u := by
  cases hrev : u.reverse with
  | nil => rcases he with rfl | rfl <;> simp [endsJoined, List.isSuffixOf, hrev, List.isPrefixOf]
  | cons c r =>
    have hr : c ≠ '\r' := fun h => hu.1 (List.mem_reverse.mp (hrev ▸ h ▸ List.mem_cons_self))
    rcases he with rfl | rfl <;> simp [endsJoined, List.isSuffixOf, hrev, List.isPrefixOf, hr.symm]

theorem endsJoined_alike {u e e' : Text} (hu : IsInLine u) (he : Ends e e') :
    endsJoined (u ++ e) = endsJoined (u ++ e') := by
  cases he with
  | nothing => rfl
  | lineEnds he he' => rw [endsJoined_append hu he, endsJoined_append hu he']

theorem stringLine_alike (line : Nat) {u e e' : Text} (hu : IsInLine u) (he : Ends e e')
    {o o' : OpenString} (ho : o.view = o'.view) (hquote : IsQuote o.quote) (h : Alike s s') :
    Alike (s.stringLine o line (u ++ e)) (s'.stringLine o' line (u ++ e')) := by
  obtain ⟨quote, triple, text, oline, ocol⟩ := o
  obtain ⟨quote', triple', text', oline', ocol'⟩ := o'
  cases ho
  simp only [stringLine, stringEnd?_append_ends hquote triple hu he,
    stringEnd?_append_ends hquote triple hu he.symm, endsJoined_alike hu he, h.shortOpen]
  cases hclosed : stringEnd? quote triple 0 u with
  | some after =>
    have hafter := stringEnd?_suffix hclosed
    have hlen := hafter.length_le
    simp only [Option.map_some, take_append_of_append]
    have hadd : Alike (s.add .string (text ++ u.take (u.length - after.length)) oline ocol)
        (s'.add .string (text' ++ u.take (u.length - after.length)) oline ocol) :=
      h.add (by simp) oline ocol
    refine scan_alike (hu.of_suffix hafter) he (by simp; omega) (by simp; omega) ?_
    exact { hadd with openString := rfl, shortOpen := rfl, quote := by simp }
  | none =>
    simp only [Option.map_none]
    split_ifs
    · exact { h.add (by simp) oline ocol with openString := rfl, quote := by simp }
    · exact h.opened hquote rfl

theorem step_alike (line : Nat) {t t' : Text} (ht : SameLine t t') (h : Alike s s') :
    AlikeResults (s.step line t) (s'.step line t') := by
  obtain ⟨u, e, e', hu, he, rfl, rfl⟩ := ht
  have hopen := h.openString
  rw [step, step]
  cases ho : s.openString with
  | none =>
    cases ho' : s'.openString with
    | some o' => rw [ho, ho'] at hopen; cases hopen
    | none =>
      simp only
      by_cases hfresh : (decide (s.depth = 0) && !s.continued) = true
      · rw [if_pos hfresh, if_pos (by rwa [← h.depth, ← h.continued])]
        exact startLine_alike line hu he h
      · rw [if_neg hfresh, if_neg (by rwa [← h.depth, ← h.continued])]
        exact scan_alike hu he (Nat.lt_succ_self _) (Nat.lt_succ_self _)
          { h with continued := rfl, openString := rfl, quote := by simp }
  | some o =>
    cases ho' : s'.openString with
    | none => rw [ho, ho'] at hopen; cases hopen
    | some o' =>
      rw [ho, ho'] at hopen
      exact stringLine_alike line hu he (Option.some.inj hopen) (h.quote o ho) h

theorem run_alike {line : Nat} {ts ts' : List Text} (ht : List.Forall₂ SameLine ts ts')
    (h : Alike s s') : AlikeResults (run line s ts) (run line s' ts') := by
  induction ht generalizing line s s' with
  | nil =>
    have hopen := h.openString
    have hclosed : ∀ (blocks : List Nat) {s s' : Stream}, Alike s s' →
        Alike (blocks.foldl (fun s _ => s.add .dedent [] line 0) s)
          (blocks.foldl (fun s _ => s.add .dedent [] line 0) s') := by
      intro blocks
      induction blocks with
      | nil => exact fun h => h
      | cons _ _ ih => exact fun h => ih (h.add (fun _ => rfl) line 0)
    rw [run, run]
    cases ho : s.openString with
    | some o =>
      cases ho' : s'.openString with
      | none => rw [ho, ho'] at hopen; cases hopen
      | some o' =>
        rw [ho, ho'] at hopen
        have hview := Option.some.inj hopen
        exact congrArg (fun o => TokenFault.openString o.line o.col) hview
    | none =>
      cases ho' : s'.openString with
      | some o' => rw [ho, ho'] at hopen; cases hopen
      | none =>
        simp only [← h.depth, ← h.continued, ← h.indents]
        split_ifs
        · rfl
        · exact (hclosed s.indents h).add (fun _ => rfl) line 0
  | @cons t t' _ _ ht _ ih =>
    have hstep := step_alike line ht h
    rw [run, run]
    generalize s.step line t = x at hstep ⊢
    generalize s'.step line t' = x' at hstep ⊢
    match x, x', hstep with
    | .ok _, .ok _, hstep => exact ih hstep
    | .error _, .error _, hstep => exact hstep

end Stream

/-- The tokens of a text before and after unifying line ends differ in spellings only. -/
theorem map_view_ofText {t : Text} (h : t.hasLoneReturn = false) :
    (ofText t).map (List.map view) = (ofText t.unifyNewlines).map (List.map view) := by
  have hstart : Stream.Alike {} {} := ⟨rfl, rfl, rfl, rfl, rfl, rfl, by simp⟩
  have hrun : Stream.AlikeResults (Stream.run 1 {} t.newlineLines)
      (Stream.run 1 {} t.unifyNewlines.newlineLines) :=
    Stream.run_alike (Text.sameLines_unifyNewlines h) hstart
  unfold ofText
  generalize Stream.run 1 {} t.newlineLines = x at hrun ⊢
  generalize Stream.run 1 {} t.unifyNewlines.newlineLines = x' at hrun ⊢
  match x, x', hrun with
  | .ok s, .ok s', hrun =>
    have hfound := hrun.found
    simp only [Except.map, List.map_reverse, hfound]
  | .error _, .error _, hrun => rw [show _ = _ from hrun]

end Token

end HouseStyle
