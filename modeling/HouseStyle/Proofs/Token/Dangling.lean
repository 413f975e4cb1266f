import HouseStyle.Proofs.Edit.Local
import HouseStyle.Proofs.Syntax.Indentation
import HouseStyle.Proofs.Token.LineEnds

/-!
# A backslash in front of the last line end

A backslash at the end of a line joins the next one. In front of the last line end it has nothing to
join. The tree takes it there if the source ends in `\r\n`; the token stream never does. So the tree
depends on how lines end, but only where there are no tokens: both views pass over the text in the same
steps, over strings and comments as a whole, and if one of them gets to that backslash, so does the
other.

Main definitions:
* `Token.Dangling`: the steps from a text to a backslash in front of its last line end.
* `Token.ShortLine`: what a line does to a short string that is open in front of it.
* `Token.Stream.Dangles`: the invariant of the token stream between two lines.

Main results:
* `Syntax.Lexeme.State.run_padded`: the lexer depends on the end only if it gets to such a backslash.
* `Token.Stream.Scans.dangling`, `Token.Stream.step_dangling`, `Token.ofText_dangling`: the token stream
  gets there as well, and fails.
* `Syntax.Node.ofText?_unifyNewlines`: the tree of a source that has tokens does not depend on how lines
  end.
-/

namespace HouseStyle

open Syntax.Lexeme (string? stringTail)

namespace Token

/-- Outside strings and comments, the text gets to a backslash in front of its last line end. -/
inductive Dangling : Text → Prop where
  | last : Dangling ['\\', '\n']
  | char {c : Char} {t : Text} (hquote : ¬ IsQuote c) (hhash : c ≠ '#') (h : Dangling t) :
    Dangling (c :: t)
  | comment {t : Text} (h : Dangling (t.dropWhile (· ≠ '\n'))) : Dangling ('#' :: t)
  | string {q : Char} {t r : Text} (hquote : IsQuote q) (hstring : string? (q :: t) = some r)
    (h : Dangling r) : Dangling (q :: t)

namespace Dangling

variable {c q : Char} {t r : Text}

theorem not_nil : ¬ Dangling [] := nofun

theorem of_plain (h : Dangling (c :: t)) (hc : IsPlain c) : Dangling t := by
  cases h with
  | last => exact absurd rfl hc.2.2
  | char _ _ h => exact h
  | comment _ => exact absurd rfl hc.2.1
  | string hquote _ _ => exact absurd hquote hc.1

theorem of_passes (h : Dangling t) (hp : Passes t r) : Dangling r := by
  obtain ⟨w, rfl, hw⟩ := hp
  induction w with
  | nil => exact h
  | cons c w ih =>
    obtain ⟨hc, hw⟩ := List.forall_mem_cons.mp hw
    exact ih hw (h.of_plain hc)

theorem of_comment (h : Dangling ('#' :: t)) : Dangling (t.dropWhile (· ≠ '\n')) := by
  cases h with
  | char _ hhash _ => exact absurd rfl hhash
  | comment h => exact h
  | string hquote _ _ => exact absurd hquote (by decide)

theorem of_quote (h : Dangling (q :: t)) (hq : IsQuote q) :
    ∃ r, string? (q :: t) = some r ∧ Dangling r := by
  cases h with
  | last => exact absurd hq (by decide)
  | char hquote _ _ => exact absurd hq hquote
  | comment _ => exact absurd hq (by decide)
  | string _ hstring h => exact ⟨_, hstring, h⟩

theorem of_backslash (h : Dangling ('\\' :: t)) : t = ['\n'] ∨ Dangling t := by
  cases h with
  | last => exact .inl rfl
  | char _ _ h => exact .inr h
  | string hquote _ _ => exact absurd hquote (by decide)

theorem of_lineFeed (h : Dangling ('\n' :: t)) : Dangling t := h.of_plain (by decide)

theorem passes (h : Dangling r) (hp : Passes t r) : Dangling t := by
  obtain ⟨w, rfl, hw⟩ := hp
  induction w with
  | nil => exact h
  | cons c w ih =>
    obtain ⟨hc, hw⟩ := List.forall_mem_cons.mp hw
    exact .char hc.1 hc.2.1 (ih hw)

end Dangling

end Token

/-! ## The lexer -/

namespace Syntax.Lexeme.State

open Token

variable {s s' : State} {c : Char}

theorem dangling_of_pushLexeme (hs' : s.pushLexeme c = some s') (h : Dangling s'.rest) :
    Dangling s.rest := by
  unfold State.pushLexeme at hs'
  split at hs'
  · rename_i n hmark
    obtain ⟨rest, hstring, rfl⟩ := Option.map_eq_some_iff.mp hs'
    obtain ⟨q, hget, hquote⟩ := stringMark?_eq_some hmark
    obtain ⟨hlt, hget⟩ := List.getElem?_eq_some_iff.mp hget
    refine Dangling.passes ?_ (passes_of_stringMark? hmark)
    rw [List.drop_eq_getElem_cons hlt, hget] at hstring ⊢
    exact .string hquote hstring h
  · split_ifs at hs' with hname hstart
    · unfold State.pushName at hs'
      simp only at hs'
      split_ifs at hs' <;> cases hs' <;>
        exact h.passes (passes_dropWhile (fun _ => isPlain_of_class (by decide)) _)
    · obtain ⟨rest, hnumber, rfl⟩ := Option.map_eq_some_iff.mp hs'
      exact h.passes (passes_of_number? hstart hnumber)
    · split at hs'
      · rename_i op hop
        have hprefix := List.find?_some hop
        rw [List.isPrefixOf_iff_prefix] at hprefix
        rw [(pushOperator_eq_some hs').1] at h
        exact h.passes (passes_of_operator (List.mem_of_find?_eq_some hop) hprefix)
      · cases hs'

theorem dangling_of_readIndent {padded : Bool} {col alt fixed : Nat} {t rest : Text} {l : Level}
    (hread : readIndent padded col alt fixed t = some (l, rest)) (h : Dangling rest) : Dangling t := by
  have hchar : ∀ {c : Char} {t : Text}, IsPlain c ∨ c = '\\' → Dangling t → Dangling (c :: t) := by
    rintro c t (hc | rfl) ht
    · exact .char hc.1 hc.2.1 ht
    · exact .char (by decide) (by decide) ht
  fun_induction readIndent padded col alt fixed t with
  | case1 _ _ _ _ ih => exact hchar (.inl (by decide)) (ih hread)
  | case2 _ _ _ _ ih => exact hchar (.inl (by decide)) (ih hread)
  | case3 _ _ _ _ ih => exact hchar (.inl (by decide)) (ih hread)
  | case4 => exact .last
  | case5 => cases hread
  | case6 _ _ _ _ _ ih => exact hchar (.inr rfl) (hchar (.inl (by decide)) (ih hread))
  | case7 => cases hread
  | case8 => cases hread; exact h

theorem readIndent_padded (padded : Bool) (col alt fixed : Nat) (t : Text) :
    readIndent padded col alt fixed t = readIndent false col alt fixed t ∨ Dangling t := by
  have hplain : ∀ {c : Char} {t : Text} {x y : Option (Level × Text)}, IsPlain c →
      x = y ∨ Dangling t → x = y ∨ Dangling (c :: t) :=
    fun hc h => h.imp_right (.char hc.1 hc.2.1)
  fun_induction readIndent padded col alt fixed t with
  | case1 _ _ _ _ ih => exact hplain (by decide) ih
  | case2 _ _ _ _ ih => exact hplain (by decide) ih
  | case3 _ _ _ _ ih => exact hplain (by decide) ih
  | case4 => exact .inr .last
  | case5 => exact .inl rfl
  | case6 _ _ _ r hr ih =>
    rw [readIndent]
    · exact (hplain (c := '\n') (by decide) ih).imp_right (.char (by decide) (by decide))
    · exact hr
  | case7 _ _ _ t hlast hjoin =>
    left
    rw [readIndent]
    · exact hlast
    · exact hjoin
  | case8 _ _ _ t hspace htab hfeed hback =>
    left
    rw [readIndent]
    · exact hspace
    · exact htab
    · exact hfeed
    · exact hback

theorem dangling_of_startLine {padded blank : Bool} (hs' : s.startLine padded = some (blank, s'))
    (h : Dangling s'.rest) : Dangling s.rest := by
  obtain ⟨⟨l, rest⟩, hread, hs'⟩ := Option.bind_eq_some_iff.mp hs'
  refine dangling_of_readIndent hread ?_
  simp only at hs'
  split_ifs at hs'
  · cases hs'
    exact h
  · obtain ⟨s'', hindent, heq⟩ := Option.map_eq_some_iff.mp hs'
    cases heq
    rwa [(indent_eq_some hindent).2.1] at h

theorem startLine_padded (padded : Bool) (s : State) :
    s.startLine padded = s.startLine false ∨ Dangling s.rest := by
  rw [startLine, startLine]
  exact (readIndent_padded padded 0 0 0 s.rest).imp_left fun heq => by rw [heq]

/-- **What an added line changes.** The lexer reads a source in the same way with and without an empty
    line behind it, unless it gets to a backslash in front of the last line end. -/
theorem run_padded (padded : Bool) (fuel : Nat) (fresh blank : Bool) (s : State) :
    run padded fuel fresh blank s = run false fuel fresh blank s ∨ Dangling s.rest := by
  induction fuel generalizing fresh blank s with
  | zero => exact .inl rfl
  | succ fuel ih =>
    cases fresh with
    | true =>
      rw [run, run]
      rcases startLine_padded padded s with heq | hdangling
      · rw [heq]
        cases hstart : s.startLine false with
        | none => exact .inl rfl
        | some x => exact (ih false x.1 x.2).imp_right (dangling_of_startLine hstart)
      · exact .inr hdangling
    | false =>
      have hspaces : Passes s.rest (s.rest.dropWhile isSpace) :=
        passes_dropWhile (fun _ => isPlain_of_class (by decide)) s.rest
      rw [run, run]
      simp only
      refine Or.imp_right (fun h => Dangling.passes h hspaces) ?_
      generalize hskip : s.skip (s.rest.takeWhile isSpace) (s.rest.dropWhile isSpace) = s'
      rw [show s.rest.dropWhile isSpace = s'.rest by rw [← hskip, skip_rest]]
      split
      · exact .inl rfl
      · rename_i hrest
        rw [hrest]
        exact (ih false blank _).imp_right .comment
      · rename_i hrest
        rw [hrest]
        split_ifs
        · exact (ih true false _).imp_right (.char (by decide) (by decide))
        · exact (ih true false _).imp_right (.char (by decide) (by decide))
      · rename_i hrest
        rw [hrest]
        split
        · exact .inr .last
        · refine (ih false blank _).imp_right fun h => ?_
          exact .char (by decide) (by decide) (.char (by decide) (by decide) h)
        · exact .inl rfl
      · cases hpush : s'.pushLexeme _ with
        | none => exact .inl rfl
        | some s'' => exact (ih false blank s'').imp_right (dangling_of_pushLexeme hpush)

end Syntax.Lexeme.State

namespace Token

/-! ## Strings in lines -/

theorem stringTail_cons (q : Char) (size seen : Nat) (c : Char) (t : Text) :
    stringTail q size seen (c :: t) =
      if size = 1 ∧ c = '\n' then none
      else if c = q then if seen + 1 = size then some t else stringTail q size (seen + 1) t
      else if c = '\\' then if t = [] then none else stringTail q size 0 t.tail
      else stringTail q size 0 t := by
  cases t <;> simp [stringTail]

theorem string?_cons {q : Char} (hq : IsQuote q) (t : Text) : string? (q :: t) =
    if t.take 2 = [q, q] then stringTail q 3 0 (t.drop 2) else stringTail q 1 0 t := by
  have hn := hq.inLine.1
  rcases t with _ | ⟨a, _ | ⟨b, t⟩⟩
  · simp [string?, stringTail]
  · by_cases ha : a = q
    · simp [string?, stringTail, ha, hn]
    · simp [string?, stringTail, ha]
  · by_cases ha : a = q
    · by_cases hb : b = q
      · simp [string?, ha, hb]
      · simp [string?, stringTail, ha, hb, hn]
    · simp [string?, ha]

/-- A line and what a short string does that is open in front of it: it is closed in the line, it goes
    on behind a backslash at the end of the line, or it is broken by the end of the line. -/
inductive ShortLine (q : Char) (u : Text) : Prop where
  | closed (v : Text) (hfirst : shortString? q 0 (u ++ ['\n']) = some (v ++ ['\n']))
    (hlater : stringEnd? q false 0 u = some v)
    (htail : ∀ rest, stringTail q 1 0 (u ++ '\n' :: rest) = some (v ++ '\n' :: rest))
  | joined (hback : ['\\'].isSuffixOf u) (hfirst : shortString? q 0 (u ++ ['\n']) = some [])
    (hlater : stringEnd? q false 0 u = none)
    (htail : ∀ rest, stringTail q 1 0 (u ++ '\n' :: rest) = stringTail q 1 0 rest)
  | broken (hfirst : shortString? q 0 (u ++ ['\n']) = none) (hlater : stringEnd? q false 0 u = none)
    (htail : ∀ rest, stringTail q 1 0 (u ++ '\n' :: rest) = none)

/-- Nothing happens in front of the line. -/
theorem ShortLine.prepend {q : Char} {u : Text} (h : ShortLine q u) (a : Text)
    (hfirst : shortString? q 0 (a ++ u ++ ['\n']) = shortString? q 0 (u ++ ['\n']))
    (hlater : stringEnd? q false 0 (a ++ u) = stringEnd? q false 0 u)
    (htail : ∀ rest, stringTail q 1 0 (a ++ u ++ rest) = stringTail q 1 0 (u ++ rest)) :
    ShortLine q (a ++ u) := by
  cases h with
  | closed v hfirst' hlater' htail' =>
    exact .closed v (hfirst.trans hfirst') (hlater.trans hlater') fun rest => (htail _).trans (htail' rest)
  | joined hback hfirst' hlater' htail' =>
    refine .joined ?_ (hfirst.trans hfirst') (hlater.trans hlater')
      fun rest => (htail _).trans (htail' rest)
    rw [List.isSuffixOf_iff_suffix] at hback ⊢
    exact hback.trans (List.suffix_append a u)
  | broken hfirst' hlater' htail' =>
    exact .broken (hfirst.trans hfirst') (hlater.trans hlater') fun rest => (htail _).trans (htail' rest)

theorem shortLine {q : Char} (hq : IsQuote q) : ∀ u : Text, IsInLine u → ShortLine q u
  | [], _ => .broken (by simp [shortString?]) rfl fun rest => by simp [stringTail_cons]
  | c :: u, hu => by
    obtain ⟨-, hn, hu'⟩ := hu.of_cons
    by_cases hquote : c = q
    · have hback : q ≠ '\\' := by rcases hq with rfl | rfl <;> decide
      subst hquote
      exact .closed u (by simp [shortString?, hn]) (by simp [stringEnd?, hback])
        fun rest => by simp [stringTail_cons, hn]
    by_cases hback : c = '\\'
    · subst hback
      cases u with
      | nil =>
        exact .joined (by simp [List.isSuffixOf]) (by simp [shortString?, hquote]) (by simp [stringEnd?])
          fun rest => by simp [stringTail_cons, hquote]
      | cons d u =>
        obtain ⟨hdr, hdn, hrest⟩ := hu'.of_cons
        exact (shortLine hq u hrest).prepend ['\\', d] (by simp [shortString?, hquote, hdn, hdr])
          (by simp [stringEnd?, hdn]) fun rest => by simp [stringTail_cons, hquote]
    · exact (shortLine hq u hu').prepend [c] (by simp [shortString?, hquote, hback, hn])
        (by simp [stringEnd?, hquote, hback]) fun rest => by simp [stringTail_cons, hquote, hback, hn]
termination_by u => u.length

/-- Quotes in front of another character do not count. -/
theorem stringTail_three_cons {q c : Char} (hc : c ≠ q) (seen : Nat) (t : Text) :
    stringTail q 3 seen (c :: t) = stringTail q 3 0 (c :: t) := by
  simp [stringTail_cons, hc]

/-- A quote that is not the first of three is passed over. -/
theorem stringTail_three_quote {q : Char} {t : Text} (h : t.take 2 ≠ [q, q]) :
    stringTail q 3 0 (q :: t) = stringTail q 3 0 t := by
  have hfirst : stringTail q 3 0 (q :: t) = stringTail q 3 1 t := by simp [stringTail_cons]
  rw [hfirst]
  rcases t with _ | ⟨a, t⟩
  · rfl
  by_cases ha : a = q
  · have hsecond : ∀ seen, seen < 2 → stringTail q 3 seen (a :: t) = stringTail q 3 (seen + 1) t := by
      intro seen hseen
      rw [stringTail_cons, if_neg (by simp), if_pos ha, if_neg (by omega)]
    rw [hsecond 1 (by omega), hsecond 0 (by omega)]
    rcases t with _ | ⟨b, t⟩
    · rfl
    · have hb : b ≠ q := fun hb => h (by simp [ha, hb])
      rw [stringTail_three_cons hb, stringTail_three_cons hb 1]
  · exact stringTail_three_cons ha 1 t

theorem take_two_ne {q : Char} (hq : IsQuote q) {u : Text} (h : u.take 2 ≠ [q, q]) (rest : Text) :
    (u ++ '\n' :: rest).take 2 ≠ [q, q] := by
  have hn := hq.inLine.1.symm
  rcases u with _ | ⟨a, _ | ⟨b, v⟩⟩
  · simp [hn]
  · simp [hn]
  · simpa using h

theorem exists_of_take_two {a b : Char} {u : Text} (h : u.take 2 = [a, b]) : ∃ v, u = a :: b :: v := by
  rcases u with _ | ⟨c, _ | ⟨d, v⟩⟩ <;> simp at h
  exact ⟨v, by rw [h.1, h.2]⟩

/-- A long string that is open in front of a line is closed in it, or open behind it. -/
theorem stringTail_three {q : Char} (hq : IsQuote q) (rest : Text) : ∀ u : Text, IsInLine u →
    stringTail q 3 0 (u ++ '\n' :: rest) =
      ((stringEnd? q true 0 u).map (· ++ '\n' :: rest)).or (stringTail q 3 0 rest)
  | [], _ => by simp [stringTail_cons, stringEnd?, hq.inLine.1.symm]
  | c :: u, hu => by
    obtain ⟨-, -, hu'⟩ := hu.of_cons
    have hstep := stringTail_three hq rest u hu'
    by_cases hquote : c = q
    · have hback : q ≠ '\\' := by rcases hq with rfl | rfl <;> decide
      subst hquote
      by_cases htwo : u.take 2 = [c, c]
      · obtain ⟨v, rfl⟩ := exists_of_take_two htwo
        simp [stringTail_cons, stringEnd?, hback]
      · rw [List.cons_append, stringTail_three_quote (take_two_ne hq htwo rest), hstep]
        simp [stringEnd?, hback, htwo]
    by_cases hback : c = '\\'
    · subst hback
      cases u with
      | nil => simp [stringTail_cons, stringEnd?, hquote]
      | cons d u =>
        obtain ⟨-, hdn, hrest⟩ := hu'.of_cons
        simp [stringTail_cons, stringEnd?, hquote, hdn, stringTail_three hq rest u hrest]
    · simp [stringTail_cons, stringEnd?, hquote, hback, hstep]
termination_by u => u.length

/-! ## Lines -/

/-- A line with its line feed. -/
def IsFullLine (l : Text) : Prop := ∃ u, IsInLine u ∧ l = u ++ ['\n']

theorem IsFullLine.of_suffix {l b : Text} (h : IsFullLine l) (hb : b <:+ l) : b = [] ∨ IsFullLine b := by
  obtain ⟨u, hu, rfl⟩ := h
  rcases List.suffix_concat_iff.mp hb with rfl | ⟨v, rfl, hv⟩
  · exact .inl rfl
  · exact .inr ⟨v, hu.of_suffix hv, rfl⟩

theorem IsFullLine.of_cons {c : Char} {t : Text} (h : IsFullLine (c :: t)) :
    (c = '\n' ∧ t = []) ∨ (c ≠ '\n' ∧ c ≠ '\r' ∧ IsFullLine t) := by
  obtain ⟨u, hu, heq⟩ := h
  cases u with
  | nil => exact .inl (List.cons.inj heq)
  | cons d u =>
    obtain ⟨hr, hn, hrest⟩ := hu.of_cons
    obtain ⟨rfl, rfl⟩ := List.cons.inj heq
    exact .inr ⟨hn, hr, u, hrest, rfl⟩

theorem IsFullLine.ne_nil {l : Text} (h : IsFullLine l) : l ≠ [] := by
  rintro rfl
  obtain ⟨u, -, heq⟩ := h
  simp at heq

theorem IsFullLine.getLast?_eq {l : Text} (h : IsFullLine l) : l.getLast? = some '\n' := by
  obtain ⟨u, -, rfl⟩ := h
  simp

/-- The end of a line is not in front of it. -/
theorem IsFullLine.getLast?_take_ne {l v : Text} (h : IsFullLine l) :
    (l.take (l.length - (v ++ ['\n']).length)).getLast? ≠ some '\n' := by
  obtain ⟨u, hu, rfl⟩ := h
  rw [take_append_of_append]
  exact fun hlast => hu.2 (List.mem_of_mem_take (List.mem_of_getLast? hlast))

/-- A line that starts with its end. -/
theorem IsFullLine.eq_of_lineFeed? {l b : Text} (h : IsFullLine l) (hb : lineFeed? l = some b) :
    l = ['\n'] ∧ b = [] := by
  cases l with
  | nil => cases hb
  | cons c t =>
    rcases h.of_cons with ⟨rfl, rfl⟩ | ⟨hn, hr, -⟩
    · cases hb
      exact ⟨rfl, rfl⟩
    · rw [lineFeed?_cons_eq_none hn hr] at hb
      cases hb

namespace Dangling

variable {rest : Text}

/-- A comment takes the rest of its line. -/
theorem of_commentLine {t : Text} (hline : IsFullLine ('#' :: t)) (h : Dangling ('#' :: t ++ rest)) :
    t.dropWhile (fun c => c ≠ '\r' && c ≠ '\n') = ['\n'] ∧ Dangling ('\n' :: rest) := by
  obtain ⟨hhash, -⟩ | ⟨-, -, w, hw, rfl⟩ := hline.of_cons
  · cases hhash
  have hfront : ∀ c ∈ w, c ≠ '\r' ∧ c ≠ '\n' :=
    fun c hc => ⟨fun hr => hw.1 (hr ▸ hc), fun hn => hw.2 (hn ▸ hc)⟩
  rw [List.cons_append] at h
  have hcomment := h.of_comment
  rw [List.append_assoc, List.dropWhile_append_of_pos fun c hc => by simp [hfront c hc]] at hcomment
  refine ⟨?_, by simpa using hcomment⟩
  rw [List.dropWhile_append_of_pos fun c hc => by simp [hfront c hc]]
  rfl

/-- The quote in front of a string in a line: the string is long or short, and it ends somewhere. -/
theorem of_quote? {body : Text} {n : Nat} {q : Char} (hbody : IsFullLine body)
    (hquote : quote? body = some (n, q)) (h : Dangling (body ++ rest)) : ∃ w r, IsInLine w ∧ Dangling r ∧
      (((body.drop n).take 3 = [q, q, q] ∧ body.drop (n + 3) = w ++ ['\n'] ∧
          stringTail q 3 0 (w ++ '\n' :: rest) = some r) ∨
        ((body.drop n).take 3 ≠ [q, q, q] ∧ body.drop (n + 1) = w ++ ['\n'] ∧
          stringTail q 1 0 (w ++ '\n' :: rest) = some r)) := by
  obtain ⟨hget, hq⟩ := quote?_eq_some hquote
  obtain ⟨hlt, hget⟩ := List.getElem?_eq_some_iff.mp hget
  obtain ⟨m, hmark, hm⟩ := Option.bind_eq_some_iff.mp hquote
  obtain ⟨_, -, heq⟩ := Option.map_eq_some_iff.mp hm
  obtain ⟨rfl, -⟩ := Prod.mk.inj heq
  have hcut : body.drop m = q :: body.drop (m + 1) := by rw [List.drop_eq_getElem_cons hlt, hget]
  have hfull := (hbody.of_suffix (List.drop_suffix m body)).resolve_left (by simp [hcut])
  have hdangling := h.of_passes ((passes_of_stringMark? hmark).append rest)
  rw [hcut] at hfull hdangling
  rw [List.cons_append] at hdangling
  obtain ⟨hn, -⟩ | ⟨-, -, w, hw, hdrop⟩ := hfull.of_cons
  · exact absurd hn hq.inLine.1
  obtain ⟨r, hstring, hr⟩ := hdangling.of_quote hq
  rw [hdrop, List.append_assoc, List.singleton_append, string?_cons hq] at hstring
  rw [hcut, hdrop]
  by_cases htwo : w.take 2 = [q, q]
  · obtain ⟨v, rfl⟩ := exists_of_take_two htwo
    refine ⟨v, r, hw.of_suffix ⟨[q, q], rfl⟩, hr, .inl ⟨by simp, ?_, by simpa using hstring⟩⟩
    rw [← List.drop_drop (i := 2) (j := m + 1), hdrop]
    rfl
  · have htwo' := take_two_ne hq htwo
    rw [if_neg (htwo' rest)] at hstring
    refine ⟨w, r, hw, hr, .inr ⟨?_, rfl, hstring⟩⟩
    have hthree := htwo' []
    simpa using hthree

/-- In front of a character that starts no token, nothing is open. -/
theorem of_match?_eq_none {c : Char} {t : Text} (hline : IsFullLine (c :: t))
    (hnone : match? (c :: t) = none) (h : Dangling (c :: t ++ rest)) : Dangling (t ++ rest) := by
  by_cases hback : c = '\\'
  · subst hback
    have hfeed : lineFeed? t = none := Option.map_eq_none_iff.mp hnone
    obtain ⟨hn, -⟩ | ⟨-, -, hline⟩ := hline.of_cons
    · cases hn
    rcases h.of_backslash with hlast | h
    · rcases List.append_eq_singleton_iff.mp hlast with ⟨rfl, -⟩ | ⟨rfl, -⟩
      · exact absurd rfl hline.ne_nil
      · cases hfeed
    · exact h
  by_cases hhash : c = '#'
  · subst hhash
    cases hnone
  by_cases hq : IsQuote c
  · have hquote : quote? (c :: t) = some (0, c) := by
      rcases hq with rfl | rfl <;> rfl
    rw [match?_cons hback hhash] at hnone
    simp only [Option.orElse_eq_orElse, Option.orElse_eq_or, Option.or_eq_none_iff] at hnone
    obtain ⟨hlong, -, -, -, hshort, -⟩ := hnone
    obtain ⟨w, r, hw, -, ⟨hthree, -, -⟩ | ⟨-, hdrop, htail⟩⟩ := of_quote? hline hquote h
    · rw [longQuote?_of_quote? hquote, if_pos hthree] at hlong
      cases hlong
    · rw [shortQuote?_of_quote? hquote, hdrop, Option.map_eq_none_iff] at hshort
      cases shortLine hq w hw with
      | closed v hfirst _ _ => simp [hfirst] at hshort
      | joined _ hfirst _ _ => simp [hfirst] at hshort
      | broken _ _ hbroken => simp [hbroken] at htail
  · exact h.of_plain ⟨hq, hhash, hback⟩

/-- A comment goes up to the end of its line; all other tokens but strings have plain characters only. -/
theorem of_matched {body b : Text} {cls : TokenClass} (hbody : IsFullLine body)
    (hm : Matched body (.plain cls) b) (h : Dangling (body ++ rest)) : Dangling (b ++ rest) := by
  cases hm with
  | comment t =>
    obtain ⟨hdrop, hrest⟩ := h.of_commentLine hbody
    rwa [hdrop]
  | number hb => exact h.of_passes ((isReader_number?.takes hb).1.append rest)
  | lineEnd hb => exact h.of_passes ((lineFeed?_takes hb).1.append rest)
  | operator hb => exact h.of_passes ((isReader_operator?.takes hb).1.append rest)
  | word hb => exact h.of_passes ((word?_takes hb).1.append rest)

/-- Behind a backslash at the end of a line, the text goes on or there is no text. -/
theorem of_continuation {body b : Text} (hbody : IsFullLine body) (hm : Matched body .continuation b)
    (h : Dangling (body ++ rest)) : rest = [] ∨ Dangling rest := by
  cases hm with
  | joined hfeed =>
    obtain ⟨hback, -⟩ | ⟨-, -, hline⟩ := hbody.of_cons
    · cases hback
    obtain ⟨rfl, -⟩ := hline.eq_of_lineFeed? hfeed
    exact h.of_backslash.imp (fun hlast => (List.cons.inj hlast).2) of_lineFeed

/-- Behind three quotes a long string is open. -/
theorem of_longQuote {body b : Text} {q : Char} (hbody : IsFullLine body)
    (hm : Matched body (.longString q) b) (h : Dangling (body ++ rest)) : ∃ w r, IsInLine w ∧
      b = w ++ ['\n'] ∧ stringTail q 3 0 (w ++ '\n' :: rest) = some r ∧ Dangling r := by
  cases hm with
  | long hlong =>
    obtain ⟨n, hquote, hthree, rfl⟩ := longQuote?_eq_some hlong
    obtain ⟨w, r, hw, hr, ⟨-, hdrop, htail⟩ | ⟨hne, -, -⟩⟩ := h.of_quote? hbody hquote
    · exact ⟨w, r, hw, hdrop, htail, hr⟩
    · exact absurd hthree hne

/-- A short string is closed in its first line, or it is open behind it. -/
theorem of_shortQuote {body b : Text} {q : Char} (hbody : IsFullLine body)
    (hm : Matched body (.shortString q) b) (h : Dangling (body ++ rest)) :
    (∃ v, b = v ++ ['\n'] ∧ Dangling (v ++ '\n' :: rest)) ∨
      (b = [] ∧ ∃ r, stringTail q 1 0 rest = some r ∧ Dangling r) := by
  have hq := hm.isQuote (.inr rfl)
  cases hm with
  | short hlong hshort =>
    obtain ⟨n, hquote, hb⟩ := shortQuote?_eq_some hshort
    obtain ⟨w, r, hw, hr, ⟨hthree, -, -⟩ | ⟨-, hdrop, htail⟩⟩ := h.of_quote? hbody hquote
    · rw [longQuote?_of_quote? hquote, if_pos hthree] at hlong
      cases hlong
    rw [hdrop] at hb
    cases shortLine hq w hw with
    | closed v hfirst _ hclosed =>
      cases hfirst.symm.trans hb
      cases (hclosed rest).symm.trans htail
      exact .inl ⟨v, rfl, hr⟩
    | joined _ hfirst _ hjoined =>
      cases hfirst.symm.trans hb
      exact .inr ⟨rfl, r, (hjoined rest).symm.trans htail, hr⟩
    | broken _ _ hbroken => cases (hbroken rest).symm.trans htail

end Dangling

namespace Stream

variable {rest : Text} {s s' : Stream}

/-- The state between two lines of a text that gets to a backslash in front of its last line end: the
    rest gets there, from its start or from behind the string that is open, or the backslash has just
    been read. -/
inductive Dangles (s : Stream) (rest : Text) : Prop where
  | closed (hopen : s.openString = none) (hshort : s.shortOpen = false) (h : Dangling rest)
  | joined (hopen : s.openString = none) (hcontinued : s.continued) (hrest : rest = [])
  | opened {o : OpenString} {r : Text} (hopen : s.openString = some o) (hshort : s.shortOpen = !o.triple)
    (hquote : IsQuote o.quote) (htail : stringTail o.quote (if o.triple then 3 else 1) 0 rest = some r)
    (h : Dangling r)

/-- A line is scanned up to a backslash at its end, or to its end, or up to a string that is open
    there. -/
theorem Scans.dangling {l : Text} (hl : IsFullLine l) {line col : Nat} {t : Text}
    (hscans : Scans line col t s s') (ht : t <:+ l) (hopen : s.openString = none)
    (hshort : s.shortOpen = false) (h : Dangling (t ++ rest)) : Dangles s' rest := by
  have hplain : ∀ c, isSpace c → IsPlain c := fun _ => isPlain_of_class (by decide)
  -- what a token other than a blank starts is a full line
  have hfull : ∀ {t b : Text} {shape : Shape}, Matched t shape b → shape ≠ .blank → t <:+ l →
      IsFullLine t :=
    fun hm hshape ht => (hl.of_suffix ht).resolve_left (hm.ne_nil hshape)
  induction hscans with
  | done => exact .closed hopen hshort h
  | @blank _ t _ _ hblank =>
    have hdangling := h.of_passes ((passes_dropWhile hplain t).append rest)
    rw [hblank] at hdangling
    exact .closed hopen hshort hdangling
  | @spaces _ t _ _ _ _ ih =>
    exact ih ((List.dropWhile_suffix isSpace).trans ht) hopen hshort
      (h.of_passes ((passes_dropWhile hplain t).append rest))
  | @error _ c t _ _ hnone _ ih =>
    refine ih ((List.suffix_cons c t).trans ht) hopen hshort ?_
    by_cases hc : isSpace c
    · exact h.of_plain (hplain c hc)
    · rw [List.dropWhile_cons_of_neg hc] at hnone
      exact h.of_match?_eq_none ((hl.of_suffix ht).resolve_left (List.cons_ne_nil c t)) hnone
  | joined hm =>
    exact (h.of_continuation (hfull hm (by simp) ht) hm).elim (.joined hopen rfl)
      (.closed hopen hshort)
  | @long _ t _ after q _ _ hm hend _ ih =>
    have hq := hm.isQuote (.inl rfl)
    obtain ⟨w, r, hw, rfl, htail, hr⟩ := h.of_longQuote (hfull hm (by simp) ht) hm
    have hafter := (stringEnd?_suffix hend).trans (hm.takes (hm.ne_nil (by simp))).1
    rw [stringEnd?_append hq true 0 hw (.inl rfl)] at hend
    obtain ⟨v, hclosed, rfl⟩ := Option.map_eq_some_iff.mp hend
    rw [stringTail_three hq rest w hw, hclosed] at htail
    cases htail
    exact ih (hafter.trans ht) hopen hshort (by simpa using hr)
  | @longOpen _ _ _ q _ hm hend =>
    have hq := hm.isQuote (.inl rfl)
    obtain ⟨w, r, hw, rfl, htail, hr⟩ := h.of_longQuote (hfull hm (by simp) ht) hm
    rw [stringEnd?_append hq true 0 hw (.inl rfl), Option.map_eq_none_iff] at hend
    rw [stringTail_three hq rest w hw, hend] at htail
    exact .opened rfl hshort hq htail hr
  | short hm hend _ ih =>
    obtain ⟨v, rfl, hv⟩ | ⟨rfl, -, -, -⟩ := h.of_shortQuote (hfull hm (by simp) ht) hm
    · exact ih ((hm.takes (hm.ne_nil (by simp))).1.trans ht) hopen hshort (by simpa using hv)
    · exact absurd (by simpa using (hfull hm (by simp) ht).getLast?_eq) hend
  | shortOpen hm hend =>
    have hline := hfull hm (by simp) ht
    obtain ⟨v, rfl, -⟩ | ⟨rfl, r, htail, hr⟩ := h.of_shortQuote hline hm
    · exact absurd hend hline.getLast?_take_ne
    · exact .opened rfl rfl (hm.isQuote (.inr rfl)) htail hr
  | plain hm _ ih =>
    exact ih ((hm.takes (hm.ne_nil (by simp))).1.trans ht) (by simpa using hopen)
      (by simpa using hshort) (h.of_matched (hfull hm (by simp) ht) hm)

theorem startLine_dangling {l : Text} (hl : IsFullLine l) {line : Nat} (hopen : s.openString = none)
    (hshort : s.shortOpen = false) (h : Dangling (l ++ rest)) (hs' : s.startLine line l = .ok s') :
    Dangles s' rest := by
  have hbody := List.dropWhile_suffix (l := l) isSpace
  have hspaces : Passes l (l.dropWhile isSpace) :=
    passes_dropWhile (fun _ => isPlain_of_class (by decide)) l
  have hdangling := h.of_passes (hspaces.append rest)
  unfold startLine at hs'
  simp only at hs'
  split at hs'
  · rename_i hnil
    cases hs'
    rw [hnil] at hdangling
    exact .closed hopen hshort hdangling
  · rename_i t hcomment
    cases hs'
    rw [hcomment] at hbody hdangling
    have hfull := (hl.of_suffix hbody).resolve_left (List.cons_ne_nil _ t)
    exact .closed hopen hshort (hdangling.of_commentLine hfull).2.of_lineFeed
  · rename_i c t _ hfirst
    rw [hfirst] at hbody hdangling
    have hfull := (hl.of_suffix hbody).resolve_left (List.cons_ne_nil c t)
    have hlen := hbody.length_le
    split_ifs at hs' with hend
    · cases hs'
      obtain ⟨rfl, rfl⟩ | ⟨hn, hr, -⟩ := hfull.of_cons
      · exact .closed hopen hshort hdangling.of_lineFeed
      · simp [hn, hr] at hend
    · cases hindent : s.indent line (l.takeWhile isSpace) with
      | error e =>
        rw [hindent] at hs'
        cases hs'
      | ok s'' =>
        rw [hindent, hfirst] at hs'
        cases hs'
        have hquiet : Quiet [] s s'' := quiet_indent hindent
        exact (scans_scan (Nat.lt_succ_of_le hlen)).dangling hl hbody (hquiet.openString.trans hopen)
          (hquiet.shortOpen.trans hshort) hdangling

theorem stringLine_dangling {l : Text} (hl : IsFullLine l) {line : Nat} {o : OpenString} {r : Text}
    (hshort : s.shortOpen = !o.triple) (hquote : IsQuote o.quote)
    (htail : stringTail o.quote (if o.triple then 3 else 1) 0 (l ++ rest) = some r) (h : Dangling r) :
    Dangles (s.stringLine o line l) rest := by
  obtain ⟨u, hu, rfl⟩ := hl
  rw [List.append_assoc, List.singleton_append] at htail
  have hend := stringEnd?_append hquote o.triple 0 hu (.inl rfl)
  -- behind the closing quotes, the rest of the line is scanned
  have hclose : ∀ v, stringEnd? o.quote o.triple 0 u = some v → r = v ++ '\n' :: rest →
      Dangles (s.stringLine o line (u ++ ['\n'])) rest := by
    rintro v hv rfl
    obtain ⟨a, ha⟩ := stringEnd?_suffix hv
    have hsuffix : v ++ ['\n'] <:+ u ++ ['\n'] := ⟨a, by rw [← ha, List.append_assoc]⟩
    rw [stringLine, hend, hv]
    exact (scans_scan (Nat.lt_succ_of_le hsuffix.length_le)).dangling ⟨u, hu, rfl⟩ hsuffix rfl rfl
      (by simpa using h)
  -- without them, the string stays open
  have hstay : stringEnd? o.quote o.triple 0 u = none →
      (s.shortOpen && !endsJoined (u ++ ['\n'])) = false →
      stringTail o.quote (if o.triple then 3 else 1) 0 rest = some r →
      Dangles (s.stringLine o line (u ++ ['\n'])) rest := by
    intro hnone hjoined htail'
    rw [stringLine, hend, hnone]
    simp only [Option.map_none, hjoined]
    exact .opened rfl hshort hquote htail' h
  cases htriple : o.triple with
  | true =>
    rw [htriple] at htail hshort hclose hstay
    rw [if_pos rfl, stringTail_three hquote rest u hu] at htail
    cases hclosed : stringEnd? o.quote true 0 u with
    | some v =>
      rw [hclosed] at htail
      exact hclose v hclosed (Option.some.inj htail).symm
    | none =>
      rw [hclosed] at htail
      exact hstay hclosed (by rw [hshort]; rfl) htail
  | false =>
    rw [htriple] at htail hshort hclose hstay
    cases shortLine hquote u hu with
    | closed v _ hlater hv =>
      exact hclose v hlater (Option.some.inj (htail.symm.trans (hv rest)))
    | joined hback _ hlater hv =>
      refine hstay hlater ?_ ((hv rest).symm.trans htail)
      rw [endsJoined_append hu (.inl rfl), hback]
      simp
    | broken _ _ hbroken => cases htail.symm.trans (hbroken rest)

theorem step_dangling {l : Text} (hl : IsFullLine l) {line : Nat} (h : Dangles s (l ++ rest))
    (hs' : s.step line l = .ok s') : Dangles s' rest := by
  rw [step] at hs'
  cases h with
  | closed hopen hshort h =>
    rw [hopen] at hs'
    simp only at hs'
    split_ifs at hs'
    · exact startLine_dangling hl hopen hshort h hs'
    · cases hs'
      exact (scans_scan (Nat.lt_succ_self _)).dangling hl List.suffix_rfl rfl hshort h
  | joined _ _ hrest => exact absurd (List.append_eq_nil_iff.mp hrest).1 hl.ne_nil
  | opened hopen hshort hquote htail h =>
    rw [hopen] at hs'
    cases hs'
    exact stringLine_dangling hl hshort hquote htail h

/-- A backslash in front of the last line end has no line to join. -/
theorem run_dangling {lines : List Text} (hlines : ∀ l ∈ lines, IsFullLine l) {line : Nat}
    (h : Dangles s lines.flatten) : ∃ e, run line s lines = .error e := by
  induction lines generalizing line s with
  | nil =>
    cases h with
    | closed _ _ h => exact absurd h Dangling.not_nil
    | joined hopen hcontinued _ => exact ⟨_, by simp [run, hopen, hcontinued]; rfl⟩
    | opened hopen _ _ _ _ => exact ⟨_, by rw [run, hopen]⟩
  | cons l ls ih =>
    obtain ⟨hl, hls⟩ := List.forall_mem_cons.mp hlines
    rw [run]
    cases hstep : s.step line l with
    | error e => exact ⟨e, rfl⟩
    | ok s' => exact ih hls (step_dangling hl h hstep)

end Stream

/-! ## Sources -/

theorem Dangling.lineFeed {t : Text} (h : Dangling t) : ['\n'] <:+ t := by
  induction h with
  | last => exact ⟨['\\'], rfl⟩
  | char _ _ _ ih => exact ih.trans (List.suffix_cons _ _)
  | comment _ ih => exact ih.trans ((List.dropWhile_suffix _).trans (List.suffix_cons _ _))
  | string _ hstring _ ih => exact ih.trans (Syntax.Lexeme.string?_suffix hstring)

/-- All lines of a text with unified line ends are full, if the last one is. -/
theorem isFullLine_of_mem_newlineLines {t l : Text} (hreturn : '\r' ∉ t) (hfeed : ['\n'] <:+ t)
    (hl : l ∈ t.newlineLines) : IsFullLine l := by
  obtain ⟨before, behind, hlines⟩ := List.append_of_mem hl
  have hflat : before.flatten ++ (l ++ behind.flatten) = t := by
    rw [← Text.flatten_newlineLines t, hlines, List.flatten_append, List.flatten_cons]
  obtain ⟨hne, ⟨u, hu, rfl⟩ | ⟨hn, hlast⟩⟩ := Text.isLine_of_suffix ⟨before, hlines.symm⟩
  · refine ⟨u, ⟨fun hr => hreturn ?_, hu⟩, rfl⟩
    rw [← hflat]
    simp [hr]
  · obtain ⟨p, rfl⟩ := hfeed
    rw [hlast, List.append_nil] at hflat
    have hend := congrArg List.getLast? hflat
    rw [List.getLast?_append_of_ne_nil _ hne, List.getLast?_concat] at hend
    exact absurd (List.mem_of_getLast? hend) hn

/-- **A source that ends behind a backslash has no tokens.** -/
theorem ofText_dangling {t : Text} (hreturn : '\r' ∉ t) (h : Dangling t) : ∃ e, ofText t = .error e := by
  have hlines : ∀ l ∈ t.newlineLines, IsFullLine l :=
    fun _ => isFullLine_of_mem_newlineLines hreturn h.lineFeed
  rw [← Text.flatten_newlineLines t] at h
  obtain ⟨e, he⟩ : ∃ e, Stream.run 1 {} t.newlineLines = .error e :=
    Stream.run_dangling hlines (.closed rfl rfl h)
  exact ⟨e, by rw [ofText, he]; rfl⟩

end Token

/-- The lexemes of a source do not depend on how its lines end, unless it ends behind a backslash. -/
theorem Syntax.Lexeme.ofText?_unifyNewlines (t : Text) :
    ofText? t.unifyNewlines = ofText? t ∨ Token.Dangling t.unifyNewlines := by
  have hnull : t.unifyNewlines.contains '\x00' = t.contains '\x00' := by
    rw [Bool.eq_iff_iff, List.contains_iff_mem, List.contains_iff_mem]
    exact Text.mem_unifyNewlines_iff (by decide) (by decide) t
  have hunified : "\r\n".toList.isSuffixOf t.unifyNewlines = false := by
    rw [Bool.eq_false_iff, Ne, List.isSuffixOf_iff_suffix]
    exact fun h => Text.not_mem_unifyNewlines t (h.subset (by decide))
  unfold ofText?
  simp only [Text.unifyNewlines_unifyNewlines, hnull, hunified]
  cases hpadded : "\r\n".toList.isSuffixOf t with
  | false => exact .inl rfl
  | true =>
    obtain ⟨p, rfl⟩ := List.isSuffixOf_iff_suffix.mp hpadded
    have hlast : (Text.unifyNewlines (p ++ "\r\n".toList)).getLast? = some '\n' := by
      rw [show "\r\n".toList = ['\r', '\n'] from rfl, Text.unifyNewlines_append_returnFeed]
      simp
    simp only [if_pos hlast]
    split_ifs
    · exact .inl rfl
    · exact (State.run_padded true _ true false _).imp_left Eq.symm

/-- **The tree of a source that has tokens does not depend on how its lines end.** -/
theorem Syntax.Node.ofText?_unifyNewlines {t : Text} {tokens : List Token}
    (h : Token.ofText t.unifyNewlines = .ok tokens) : ofText? t.unifyNewlines = ofText? t := by
  rcases Lexeme.ofText?_unifyNewlines t with hlexemes | hdangling
  · unfold ofText?
    rw [hlexemes, Text.unifyNewlines_unifyNewlines]
  · obtain ⟨e, he⟩ := Token.ofText_dangling (Text.not_mem_unifyNewlines t) hdangling
    rw [he] at h
    cases h

/-- Without tokens it may: behind the backslash, only one of two sources has an empty line. -/
example : (Syntax.Node.ofText? "x\\\r\n".toList).isSome ∧ Syntax.Node.ofText? "x\\\n".toList = none := by
  decide +kernel

end HouseStyle
