import HouseStyle.Proofs.Naming.Alignment

/-!
# A rename goes to the class it was computed for

The tree and the tokens read a text in two ways: they count lines and columns differently, and they are
joined only by the line and column of `class`. Without lone carriage returns both count the same lines.
A class statement starts its line, so that its column in bytes is its column in characters, and the name
behind `class` comes after a gap that both readers pass over alike. Hence the name token that is found
for a class is the name of its own statement.

Main definitions:
* `Text.EndsAscii`: a text whose last line has characters of one byte only.
* `Edit.RenamesStatement`: the edit renames the class that a class statement reads.

Main results:
* `Token.fromPlace_advance`, `Token.eq_of_fromPlace_eq`: positions of lexemes are places of tokens.
* `Token.Gap.eq_of_isSolid`: a gap has one end.
* `Token.IsClassName.eq_place`: the name token that is found for a class statement.
* `Rule.renamesStatement_of_mem_namingEdits`: every edit renames the class it was computed for.
-/

namespace HouseStyle

/-! ## Places of both readers -/

namespace Text

/-- Behind its last line feed the text has characters of one byte only. -/
def EndsAscii (q : Text) : Prop :=
  ∃ p b, q = p ++ b ∧ (p = [] ∨ p.getLast? = some '\n') ∧ ∀ c ∈ b, c ≠ '\n' ∧ c.toNat < 0x80

theorem endsAscii_lineFeed (q : Text) : EndsAscii (q ++ ['\n']) :=
  ⟨q ++ ['\n'], [], by simp, .inr (by simp), by simp⟩

theorem EndsAscii.append {q b : Text} (h : EndsAscii q) (hb : ∀ c ∈ b, c ≠ '\n' ∧ c.toNat < 0x80) :
    EndsAscii (q ++ b) := by
  obtain ⟨p, b', rfl, hp, hb'⟩ := h
  refine ⟨p, b' ++ b, by simp, hp, fun c hc => ?_⟩
  exact (List.mem_append.mp hc).elim (hb' c) (hb c)

theorem newlineLines_ne_nil {t : Text} (h : t ≠ []) : t.newlineLines ≠ [] := by
  intro hnil
  have hflat := flatten_newlineLines t
  rw [hnil] at hflat
  exact h hflat.symm

/-- A text that ends with a line feed has its lines before those behind it. -/
theorem newlineLines_append {p : Text} (hp : p = [] ∨ p.getLast? = some '\n') (r : Text) :
    (p ++ r).newlineLines = p.newlineLines ++ r.newlineLines := by
  induction p with
  | nil => rfl
  | cons c p ih =>
    by_cases hnil : p = []
    · subst hnil
      have hc : c = '\n' := by simpa using hp
      subst hc
      rfl
    · have hp' : p.getLast? = some '\n' := by
        rcases hp with h | h
        · cases h
        · rwa [List.getLast?_cons_of_ne_nil hnil] at h
      rw [List.cons_append, newlineLines, newlineLines, ih (.inr hp')]
      split_ifs with hc
      · rfl
      · cases hlines : newlineLines p with
        | nil => exact absurd hlines (newlineLines_ne_nil hnil)
        | cons l ls => rfl

/-- The first line reaches at least up to the character behind what holds no line feed. -/
theorem head_newlineLines {b : Text} (hb : ∀ c ∈ b, c ≠ '\n') (c : Char) (r : Text) :
    ∃ l ∈ (b ++ c :: r).newlineLines.head?, b.length < l.length := by
  induction b with
  | nil =>
    rw [List.nil_append, newlineLines]
    split_ifs
    · exact ⟨_, rfl, by simp⟩
    · split <;> exact ⟨_, rfl, by simp⟩
  | cons d b ih =>
    obtain ⟨hd, hb⟩ := List.forall_mem_cons.mp hb
    obtain ⟨l, hl, hlt⟩ := ih hb
    rw [List.cons_append, newlineLines, if_neg hd]
    cases hlines : newlineLines (b ++ c :: r) with
    | nil => simp [hlines] at hl
    | cons l' ls =>
      rw [hlines] at hl
      cases hl
      exact ⟨d :: l, rfl, by simpa using hlt⟩

end Text

namespace Syntax.Lexeme.State

/-- Behind a line feed, the lines are counted and the column is zero. -/
theorem advance_of_lineFeed {p : Text} (hp : p = [] ∨ p.getLast? = some '\n') (line : Nat) :
    advance ⟨line, 0⟩ p = ⟨line + p.newlineLines.length, 0⟩ := by
  have hline : ∀ (p : Text) (pos : Position), p.getLast? = some '\n' →
      advance pos p = ⟨pos.line + p.newlineLines.length, 0⟩ := by
    intro p
    induction p with
    | nil => intro pos h; cases h
    | cons c p ih =>
      intro pos h
      rw [← List.singleton_append, advance_append]
      by_cases hnil : p = []
      · subst hnil
        have hc : c = '\n' := by simpa using h
        subst hc
        rfl
      · rw [List.getLast?_cons_of_ne_nil hnil] at h
        rw [ih _ h, List.singleton_append, Text.newlineLines, Position.mk.injEq]
        refine ⟨?_, rfl⟩
        simp only [advance, List.foldl_cons, List.foldl_nil]
        split_ifs
        · simp only [List.length_cons]
          omega
        · cases hlines : Text.newlineLines p with
          | nil => exact absurd hlines (Text.newlineLines_ne_nil hnil)
          | cons l ls => rfl
  rcases hp with rfl | hp
  · rfl
  · exact hline p _ hp

theorem one_le_line_advance (q : Text) : 1 ≤ (advance ⟨1, 0⟩ q).line := by
  by_cases hnil : q = []
  · subst hnil
    exact le_rfl
  · rcases before_advance ⟨1, 0⟩ hnil with hlt | ⟨heq, -⟩
    · exact hlt.le
    · exact heq.le

theorem EndsBlank.endsAscii {q : Text} (h : EndsBlank q) : q.EndsAscii := by
  obtain ⟨p, b, rfl, hp, hb⟩ := h
  refine ⟨p, b, rfl, hp, fun c hc => ?_⟩
  have hspace := hb c hc
  simp only [isSpace, Bool.or_eq_true, decide_eq_true_eq] at hspace
  rcases hspace with (rfl | rfl) | rfl <;> decide

end Syntax.Lexeme.State

namespace Token

open Syntax.Lexeme.State

/-- From the position behind a text on, the lines have what follows it, if the columns of its last line
    are bytes and characters at once. -/
theorem fromPlace_advance {q : Text} (hq : q.EndsAscii) (r : Text) :
    fromPlace (q ++ r).newlineLines (advance ⟨1, 0⟩ q).line (advance ⟨1, 0⟩ q).col = r := by
  obtain ⟨p, b, rfl, hp, hb⟩ := hq
  rw [advance_append, advance_of_lineFeed hp, advance_of_ascii hb, List.append_assoc,
    Text.newlineLines_append hp, fromPlace]
  simp only [Nat.add_sub_cancel_left, Nat.zero_add, List.drop_left, Text.flatten_newlineLines]

/-- That position is inside of a line, if anything follows. -/
theorem within_advance {q : Text} (hq : q.EndsAscii) (c : Char) (r : Text) :
    ∃ l ∈ (q ++ c :: r).newlineLines[(advance ⟨1, 0⟩ q).line - 1]?,
      (advance ⟨1, 0⟩ q).col < l.length := by
  obtain ⟨p, b, rfl, hp, hb⟩ := hq
  obtain ⟨l, hl, hlt⟩ := Text.head_newlineLines (fun d hd => (hb d hd).1) c r
  rw [advance_append, advance_of_lineFeed hp, advance_of_ascii hb, List.append_assoc,
    Text.newlineLines_append hp]
  simp only [Nat.add_sub_cancel_left, Nat.zero_add]
  refine ⟨l, ?_, hlt⟩
  rwa [List.getElem?_append_right le_rfl, Nat.sub_self, ← List.head?_eq_getElem?]

/-- Places inside of lines are determined by what the lines have from there on. -/
theorem eq_of_fromPlace_eq {lines : List Text} {line col line' col' : Nat} {l l' : Text}
    (hline : 1 ≤ line) (hline' : 1 ≤ line') (hl : lines[line - 1]? = some l)
    (hl' : lines[line' - 1]? = some l') (hcol : col < l.length) (hcol' : col' < l'.length)
    (h : fromPlace lines line col = fromPlace lines line' col') : line = line' ∧ col = col' := by
  -- what is left at a line is longer than what is left at any later one
  have hcut : ∀ {i : Nat} {l : Text}, lines[i]? = some l →
      (lines.drop i).flatten.length = l.length + (lines.drop (i + 1)).flatten.length := by
    intro i l hl
    obtain ⟨hi, rfl⟩ := List.getElem?_eq_some_iff.mp hl
    rw [List.drop_eq_getElem_cons hi, List.flatten_cons, List.length_append]
  have hmono : ∀ {i j : Nat}, i ≤ j →
      (lines.drop j).flatten.length ≤ (lines.drop i).flatten.length := by
    intro i j hij
    obtain ⟨k, rfl⟩ := Nat.exists_eq_add_of_le hij
    rw [← List.drop_drop]
    conv_rhs => rw [← List.take_append_drop k (lines.drop i), List.flatten_append, List.length_append]
    exact Nat.le_add_left _ _
  have hlen := congrArg List.length h
  rw [fromPlace, fromPlace, List.length_drop, List.length_drop] at hlen
  have hc := hcut hl
  have hc' := hcut hl'
  rcases Nat.lt_trichotomy line line' with hlt | rfl | hlt
  · have := hmono (show line - 1 + 1 ≤ line' - 1 by omega)
    omega
  · omega
  · have := hmono (show line' - 1 + 1 ≤ line - 1 by omega)
    omega

/-! ## Gaps -/

/-- What a gap does not reach over. -/
def IsSolid (r : Text) : Prop := ∃ c ∈ r.head?, ¬ Stream.isSpace c ∧ c ≠ '\\'

/-- A gap has one end. -/
theorem Gap.eq_of_isSolid {t r r' : Text} (h : Gap t r) (h' : Gap t r') (hr : IsSolid r)
    (hr' : IsSolid r') : r = r' := by
  have hblank : ∀ {c : Char} {t : Text}, IsSolid (c :: t) → ¬ Stream.isSpace c ∧ c ≠ '\\' := by
    rintro c t ⟨d, hd, hsolid⟩
    cases hd
    exact hsolid
  induction h with
  | done t =>
    cases h' with
    | done => rfl
    | blank hc => exact absurd hc (hblank hr).1
    | joined => exact absurd rfl (hblank hr).2
  | @blank c t r hc _ ih =>
    cases h' with
    | done => exact absurd hc (hblank hr').1
    | blank _ h' => exact ih h' hr
    | joined => exact absurd hc (by decide)
  | @joined t b r hb _ ih =>
    cases h' with
    | done => exact absurd rfl (hblank hr').2
    | blank hc => exact absurd hc (by decide)
    | joined hb' h' =>
      rw [hb] at hb'
      cases hb'
      exact ih h' hr

/-- What a gap passes over keeps the last line to characters of one byte. -/
theorem Gap.exists_append {t r : Text} (h : Gap t r) :
    ∃ g, t = g ++ r ∧ ∀ q : Text, q.EndsAscii → (q ++ g).EndsAscii := by
  induction h with
  | done t => exact ⟨[], rfl, fun q hq => by rwa [List.append_nil]⟩
  | @blank c t r hc _ ih =>
    obtain ⟨g, rfl, hg⟩ := ih
    refine ⟨c :: g, rfl, fun q hq => ?_⟩
    have hascii : c ≠ '\n' ∧ c.toNat < 0x80 := by
      simp only [Stream.isSpace, Bool.or_eq_true, decide_eq_true_eq] at hc
      rcases hc with (rfl | rfl) | rfl <;> decide
    rw [List.append_cons]
    exact hg _ (hq.append (by simpa using hascii))
  | @joined t b r hb _ ih =>
    obtain ⟨g, rfl, hg⟩ := ih
    unfold lineFeed? at hb
    split at hb
    · cases hb
      refine ⟨'\\' :: '\n' :: g, rfl, fun q _ => ?_⟩
      simpa using hg _ (Text.endsAscii_lineFeed (q ++ ['\\']))
    · cases hb
      refine ⟨'\\' :: '\r' :: '\n' :: g, rfl, fun q _ => ?_⟩
      simpa using hg _ (Text.endsAscii_lineFeed (q ++ ['\\', '\r']))
    · cases hb

/-! ## The name of a class statement -/

theorem isNameChar_of_isWordChar {c : Char} (h : Text.isWordChar c) : Syntax.Lexeme.isNameChar c := by
  unfold Text.isWordChar at h
  unfold Syntax.Lexeme.isNameChar
  split_ifs at h with hascii
  · simp only [Bool.or_eq_true] at h ⊢
    rcases h with h | h
    exacts [.inl (.inr h), .inr h]
  · simp only [Bool.or_eq_true, decide_eq_true_eq]
    omega

theorem Stands.place {lines : List Text} {t : Token} (h : t.Stands lines) :
    (∃ l, lines[t.line - 1]? = some l ∧ t.col < l.length) ∧
      t.text <+: fromPlace lines t.line t.col := by
  obtain ⟨l, hl, hprefix⟩ := h.within
  have hlen := hprefix.length_le
  have hpos := List.length_pos_iff.mpr h.ne_nil
  rw [List.length_drop] at hlen
  refine ⟨⟨l, hl, by omega⟩, ?_⟩
  obtain ⟨hi, rfl⟩ := List.getElem?_eq_some_iff.mp hl
  rw [fromPlace, List.drop_eq_getElem_cons hi, List.flatten_cons,
    List.drop_append_of_le_length (by omega)]
  exact hprefix.trans (List.prefix_append _ _)

theorem Gap.append {t r : Text} (h : Gap t r) (x : Text) : Gap (t ++ x) (r ++ x) := by
  induction h with
  | done t => exact .done _
  | blank hc _ ih => exact .blank hc ih
  | @joined t b r hb _ ih =>
    refine .joined (b := b ++ x) ?_ ih
    unfold lineFeed? at hb ⊢
    split at hb <;> cases hb <;> rfl

/-- The word at the front of a text is solid. -/
theorem isSolid_of_isNameChar {c : Char} {t : Text} (h : Syntax.Lexeme.isNameChar c) :
    IsSolid (c :: t) := by
  refine ⟨c, rfl, fun hspace => ?_, ?_⟩
  · simp only [Stream.isSpace, Bool.or_eq_true, decide_eq_true_eq] at hspace
    rcases hspace with (rfl | rfl) | rfl <;> exact absurd h (by decide)
  · rintro rfl
    exact absurd h (by decide)

theorem IsSolid.append {r : Text} (h : IsSolid r) (x : Text) : IsSolid (r ++ x) := by
  obtain ⟨c, hc, hsolid⟩ := h
  exact ⟨c, by rw [List.head?_append, hc]; rfl, hsolid⟩

theorem Stands.isSolid {lines : List Text} {t : Token} (h : t.Stands lines) :
    IsSolid (fromPlace lines t.line t.col) := by
  obtain ⟨r, hr⟩ := h.place.2
  obtain ⟨c, w, hw⟩ := List.exists_cons_of_ne_nil h.ne_nil
  rw [← hr, hw]
  exact isSolid_of_isNameChar (isNameChar_of_isWordChar (h.word c (hw ▸ List.mem_cons_self)))

theorem EndsLine.isSolid {t : Text} (h : EndsLine t) : IsSolid t := by
  obtain ⟨c, hc, hend⟩ := h
  exact ⟨c, hc, by rcases hend with rfl | rfl | rfl <;> decide⟩

theorem EndsLine.not_isNameChar {c : Char} {t : Text} (h : EndsLine (c :: t)) :
    ¬ Syntax.Lexeme.isNameChar c := by
  obtain ⟨d, hd, hend⟩ := h
  cases hd
  rcases hend with rfl | rfl | rfl <;> decide

/-- Only a gap stands between the `class` of a statement and the token behind it. -/
theorem IsClassName.gap_behind {u : Text} {tokens : List Token} (htokens : ofText u = .ok tokens)
    {pos : Syntax.Position} {i j : Nat} {t : Token} (h : IsClassName tokens pos i j t) :
    ∃ b, tokens[i + 1]? = some b ∧
      Gap ((fromPlace u.newlineLines pos.line pos.col).drop 5) (fromPlace u.newlineLines b.line b.col) ∧
      ((b = t ∧ b.cls = .name) ∨ EndsLine (fromPlace u.newlineLines b.line b.col)) := by
  obtain ⟨k, hk, hname, htext, hline, hcol⟩ := h.keyword
  obtain ⟨ht, htname⟩ := h.name
  have hlt := h.lt
  obtain ⟨b, hb⟩ : ∃ b, tokens[i + 1]? = some b := by
    obtain ⟨hj, -⟩ := List.getElem?_eq_some_iff.mp ht
    exact ⟨_, List.getElem?_eq_getElem (by omega)⟩
  have hcls : (b = t ∧ b.cls = .name) ∨ b.cls = .nl ∨ b.cls = .comment := by
    by_cases hj : j = i + 1
    · rw [hj, hb] at ht
      cases ht
      exact .inl ⟨rfl, htname⟩
    · have hgap := h.gap (i + 1) (by omega) (by omega) b hb
      simp only [isGap, Bool.or_eq_true, decide_eq_true_eq] at hgap
      exact .inr hgap
  obtain ⟨hgap, hend⟩ := leads_ofText htokens hk hb hname (hcls.imp_left (·.2))
  rw [behind, htext, hline, hcol] at hgap
  refine ⟨b, hb, hgap, ?_⟩
  rcases hcls with hname | hother
  · exact .inl hname
  · exact .inr (hend.resolve_left (by rcases hother with h | h <;> simp [h]))

open Syntax in
/-- A line feed that was added at the end belongs to no name. -/
theorem exists_cut_of_joined {u T : Text} (hT : T = u ∨ T = u ++ ['\n']) {a b : Lexeme}
    {pre gap post : Text} (h : Lexeme.Joined T a b pre gap post) :
    ∃ x post', post = post' ++ x ∧ u = pre ++ a.text ++ gap ++ b.text ++ post' := by
  have hcut := h.cut
  rcases hT with rfl | rfl
  · exact ⟨[], post, by simp, hcut⟩
  · rcases List.eq_nil_or_concat post with rfl | ⟨post', d, rfl⟩
    · have hmem : '\n' ∈ b.text := by
        have hlast := congrArg List.getLast? hcut
        obtain ⟨c, hc, -⟩ := h.word.start
        have hne : b.text ≠ [] := by
          intro hnil
          simp [hnil] at hc
        rw [List.append_nil, List.getLast?_concat, List.getLast?_append_of_ne_nil _ hne] at hlast
        exact List.mem_of_getLast? hlast.symm
      rw [← h.word.takeWhile] at hmem
      exact absurd (List.mem_takeWhile_imp hmem) (by decide)
    · rw [List.concat_eq_append, ← List.append_assoc] at hcut
      exact ⟨[d], post', List.concat_eq_append, (List.append_inj' hcut rfl).1⟩

section ClassStatement

open Syntax

variable {u T : Text} {kw name : Lexeme} {pre gap post x : Text}

theorem exists_nameChar_of_joined (h : Lexeme.Joined T kw name pre gap post) :
    ∃ c w, name.text = c :: w ∧ Lexeme.isNameChar c := by
  obtain ⟨c, hc, -⟩ := h.word.start
  obtain ⟨w, hw⟩ := List.head?_eq_some_iff.mp hc
  refine ⟨c, w, hw, List.mem_takeWhile_imp (l := name.text ++ post) ?_⟩
  rw [h.word.takeWhile, hw]
  exact List.mem_cons_self

variable (hu : u = pre ++ kw.text ++ gap ++ name.text ++ post)
  (hjoined : Lexeme.Joined T kw name pre gap (post ++ x)) (hkw : kw.text = "class".toList)
include hu hjoined hkw

/-- The lexer's position of the name is the place inside of a line from which the lines have it. -/
theorem fromPlace_of_joined :
    fromPlace u.newlineLines name.pos.line name.pos.col = name.text ++ post ∧
      1 ≤ name.pos.line ∧
      ∃ l, u.newlineLines[name.pos.line - 1]? = some l ∧ name.pos.col < l.length := by
  obtain ⟨c, w, hname, -⟩ := exists_nameChar_of_joined hjoined
  have hq : (pre ++ kw.text ++ gap).EndsAscii := by
    obtain ⟨g, hg, hascii⟩ := hjoined.gap.exists_append
    rw [List.append_assoc] at hg
    rw [List.append_cancel_right hg]
    exact hascii _ (hjoined.blank.endsAscii.append (by simp [hkw]))
  have hplace := fromPlace_advance hq (name.text ++ post)
  have hwithin := within_advance hq c (w ++ post)
  rw [← List.cons_append, ← hname, ← List.append_assoc, ← hu, ← hjoined.second] at hwithin
  rw [← List.append_assoc, ← hu, ← hjoined.second] at hplace
  exact ⟨hplace, hjoined.second ▸ one_le_line_advance _, hwithin⟩

/-- Both readers pass over the same gap behind `class`: the token that is found is a word, and from its
    place on the lines have the name of the statement. -/
theorem IsClassName.fromPlace_eq {tokens : List Token} (htokens : ofText u = .ok tokens) {i j : Nat}
    {t : Token} (h : IsClassName tokens kw.pos i j t) :
    t.Stands u.newlineLines ∧ fromPlace u.newlineLines t.line t.col = name.text ++ post := by
  obtain ⟨c, w, hname, hc⟩ := exists_nameChar_of_joined hjoined
  have hbehind : (fromPlace u.newlineLines kw.pos.line kw.pos.col).drop 5 =
      gap ++ (name.text ++ post) := by
    rw [hu, hjoined.first, hkw]
    simp only [List.append_assoc]
    rw [fromPlace_advance hjoined.blank.endsAscii]
    rfl
  obtain ⟨b, hb, hgap, hcls⟩ := h.gap_behind htokens
  rw [hbehind] at hgap
  have hsolid : IsSolid (fromPlace u.newlineLines b.line b.col) := by
    rcases hcls with ⟨-, hbname⟩ | hend
    · exact (stands_of_mem_ofText htokens (List.mem_of_getElem? hb) hbname).isSolid
    · exact hend.isSolid
  have hsame : name.text ++ post = fromPlace u.newlineLines b.line b.col := by
    have hlexed := hjoined.gap
    rw [List.append_assoc, ← List.append_assoc name.text] at hlexed
    have hscanned := hgap.append x
    rw [List.append_assoc] at hscanned
    refine List.append_cancel_right (hlexed.eq_of_isSolid hscanned ?_ (hsolid.append x))
    rw [hname]
    exact isSolid_of_isNameChar hc
  -- a comment or line end cannot be what the name starts with
  have hnotend : ¬ EndsLine (fromPlace u.newlineLines b.line b.col) := by
    rw [← hsame, hname]
    exact fun hend => hend.not_isNameChar hc
  obtain ⟨rfl, hbname⟩ := hcls.resolve_right hnotend
  exact ⟨stands_of_mem_ofText htokens (List.mem_of_getElem? hb) hbname, hsame.symm⟩

omit hu hjoined in
/-- The name token that is found for a class statement stands at the name of the statement. -/
theorem IsClassName.eq_place {tokens : List Token} (htokens : ofText u = .ok tokens)
    (hT : T = u ∨ T = u ++ ['\n']) (hjoined : Lexeme.Joined T kw name pre gap post) {i j : Nat}
    {t : Token} (h : IsClassName tokens kw.pos i j t) :
    t.line = name.pos.line ∧ t.col = name.pos.col ∧ t.text <+: name.text := by
  obtain ⟨x, post', rfl, hu⟩ := exists_cut_of_joined hT hjoined
  obtain ⟨hstands, hfound⟩ := h.fromPlace_eq hu hjoined hkw htokens
  obtain ⟨hplace, hline, l', hl', hcol'⟩ := fromPlace_of_joined hu hjoined hkw
  obtain ⟨⟨l, hl, hcol⟩, r, hr⟩ := hstands.place
  obtain ⟨hsameLine, hsameCol⟩ := eq_of_fromPlace_eq hstands.line_pos hline hl hl' hcol hcol'
    (hfound.trans hplace.symm)
  refine ⟨hsameLine, hsameCol, ?_⟩
  have hword := hjoined.word.takeWhile
  rw [← List.append_assoc, ← hfound, ← hr, List.append_assoc,
    List.takeWhile_append_of_pos fun d hd => isNameChar_of_isWordChar (hstands.word d hd)] at hword
  exact ⟨_, hword⟩

end ClassStatement

end Token

/-! ## Edits -/

/-- The edit renames the class that the class statement at a place of the lexemes reads: it stands at
    the name behind `class`, and its new text is that name with the suffixes that the bases of the
    statement ask for. -/
structure Edit.RenamesStatement (rules : List SuffixRule) (lexemes : List Syntax.Lexeme)
    (kw name : Syntax.Lexeme) (after : List Syntax.Lexeme)
    (bases keywords body decorators : List Syntax.Node) (e : Edit) : Prop where
  suffix : kw :: name :: after <:+ lexemes
  isClass : kw.isClass ∧ name.cls = .name
  reads : ∃ height rest,
    (Syntax.Grammar.floor height).classStatement decorators (kw :: name :: after) =
      some (.classDef e.oldText kw.pos bases keywords body decorators, rest)
  place : e.line = name.pos.line ∧ e.col = name.pos.col + 1 ∧ e.endCol = e.col + e.oldText.length
  oldText : e.oldText = name.text.normalize ∧ e.oldText <+: name.text
  newText : Declaration.suffixed? rules
    { name := some e.oldText
      parent := (bases.filterMap Syntax.Node.typeName?).head?
      interfaces := (bases.filterMap Syntax.Node.typeName?).tail } = some e.newText

namespace Declaration

/-- What the edit of a declaration keeps of it. -/
theorem suffixed?_of_edit? {rules : List SuffixRule} {tokens : List Token} {id : Text}
    {pos : Syntax.Position} {bases : List Syntax.Node} {e : Edit}
    (h : (Syntax.Node.declaration tokens id pos bases).edit? RuleId.naming rules = some e) :
    suffixed? rules
      { name := some e.oldText
        parent := (bases.filterMap Syntax.Node.typeName?).head?
        interfaces := (bases.filterMap Syntax.Node.typeName?).tail } = some e.newText := by
  obtain ⟨name, line, col, renamed, hname, hline, hcol, hsuffixed, rfl⟩ := edit?_eq_some_iff.mp h
  rw [← hsuffixed]
  unfold suffixed?
  rw [hname]
  rfl

end Declaration

namespace Rule

theorem ofText_eq_ok_of_isClassName {path : Path} {shown text : Text} {pos : Syntax.Position}
    {i j : Nat} {t : Token}
    (h : Token.IsClassName ((SourceFile.ofText path shown text).tokens.getD []) pos i j t) :
    Token.ofText text = .ok ((SourceFile.ofText path shown text).tokens.getD []) := by
  cases htokens : Token.ofText text with
  | ok tokens => simp [SourceFile.ofText, htokens, Except.toOption]
  | error e =>
    have hget := h.name.1
    simp [SourceFile.ofText, htokens, Except.toOption] at hget

/-- **A rename goes to the class it was computed for.** In every text without lone carriage returns, each
    edit that renames a class stands at the name of a class statement: the one that reads the class of
    the tree from whose bases the new name was computed. -/
theorem renamesStatement_of_mem_namingEdits (rules : List SuffixRule) (path : Path) (shown text : Text)
    (hreturn : text.hasLoneReturn = false) (e : Edit)
    (he : e ∈ namingEdits rules (SourceFile.ofText path shown text)) :
    ∃ tree lexemes kw name after bases keywords body decorators,
      Syntax.Node.ofText? text = some tree ∧ Syntax.Lexeme.ofText? text = some lexemes ∧
      .classDef e.oldText kw.pos bases keywords body decorators ∈ tree.walk ∧
      e.Fits text.newlineLines ∧
      e.RenamesStatement rules lexemes kw name after bases keywords body decorators := by
  have hfits : e.Fits text.newlineLines := by
    obtain ⟨_, _, _, _, _, _, _, _, _, hren⟩ := renames_of_mem_namingEdits he
    exact hren.fits (SourceFile.aligned_ofText path shown text)
  rw [← namingEdits_unifyNewlines rules path path shown shown hreturn] at he
  cases htree : (SourceFile.ofText path shown text.unifyNewlines).tree with
  | none => simp [namingEdits, htree] at he
  | some tree =>
    rw [namingEdits_of_tree htree, mem_stableSort, List.mem_filterMap] at he
    obtain ⟨n, hn, hedit⟩ := he
    obtain ⟨id, pos, bases, keywords, body, decorators, rfl, hren⟩ := renames_of_classEdit? hedit
    have hnew := Declaration.suffixed?_of_edit? hedit
    obtain ⟨i, j, t, hij, rfl, hold, hline, hcol, hend⟩ := hren.token
    have htokens := ofText_eq_ok_of_isClassName hij
    have htree' : Syntax.Node.ofText? text = some tree :=
      (Syntax.Node.ofText?_unifyNewlines htokens).symm.trans htree
    obtain ⟨lexemes, start, hlexemes, hat⟩ := Syntax.Node.exists_classAt htree' hn rfl
    obtain ⟨height, decorators', rest, hreads⟩ := hat.reads
    obtain ⟨kw, name, after, bases', keywords', body', rfl, hkw, hname, heq⟩ :=
      Syntax.Grammar.classStatement_eq_some hreads
    rw [Syntax.Node.classDef.injEq] at heq
    obtain ⟨hid, rfl, rfl, rfl, rfl, rfl⟩ := heq
    obtain ⟨T, pre, gap, post, hT, hjoined⟩ := Syntax.Lexeme.joined_ofText? hlexemes hat.suffix
      hat.atStart (Syntax.keyword_of_isClass hkw) hname
    obtain ⟨hsameLine, hsameCol, hwritten⟩ :=
      hij.eq_place (Syntax.text_of_isClass hkw) htokens hT hjoined
    rw [← hold] at hn hid hwritten hreads
    refine ⟨tree, lexemes, kw, name, after, bases, keywords, body, decorators, htree', hlexemes, hn,
      hfits, hat.suffix, ⟨hkw, hname⟩, ⟨height, rest, hreads⟩, ⟨?_, ?_, ?_⟩, ⟨hid, hwritten⟩, hnew⟩
    · rw [hline, hsameLine]
    · rw [hcol, hsameCol]
    · rw [hend, hcol, hold]

/-- Two classes of the same name with Windows line ends; the rename goes to the one with a base. -/
theorem renamesStatement_of_mem_namingEdits_same :
    let text : Text := "class Foo: pass\r\nclass Foo(Command): pass\r\n"
    let e : Edit := ⟨RuleId.naming, 2, 7, 10, "Foo", "FooCommand"⟩
    text.hasLoneReturn = false ∧
      e ∈ namingEdits SuffixRule.defaults (SourceFile.ofText ⟨[], []⟩ [] text) ∧
      ∃ lexemes kw name after bases keywords body decorators,
        e.RenamesStatement SuffixRule.defaults lexemes kw name after bases keywords body decorators := by
  intro text e
  have hreturn : text.hasLoneReturn = false := by decide +kernel
  have he : e ∈ namingEdits SuffixRule.defaults (SourceFile.ofText ⟨[], []⟩ [] text) := by decide +kernel
  obtain ⟨_, lexemes, kw, name, after, bases, keywords, body, decorators, -, -, -, -, hrenames⟩ :=
    renamesStatement_of_mem_namingEdits SuffixRule.defaults ⟨[], []⟩ [] text hreturn e he
  exact ⟨hreturn, he, lexemes, kw, name, after, bases, keywords, body, decorators, hrenames⟩

/-- A lone carriage return is the end of a line for the tree only: the name that is computed for the
    class of the second line goes to the class of the third line, which has no base. -/
theorem namingEdits_misplaced_loneReturn :
    let text : Text := "\"\"\"\r\"\"\"\nclass Foo(Command): pass\nclass Foo: pass\n"
    namingEdits SuffixRule.defaults (SourceFile.ofText ⟨[], []⟩ [] text) =
        [⟨RuleId.naming, 3, 7, 10, "Foo", "FooCommand"⟩] ∧
      text.newlineLines[2]? = some "class Foo: pass\n".toList := by
  decide +kernel

end Rule

end HouseStyle
