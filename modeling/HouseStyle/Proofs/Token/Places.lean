import HouseStyle.Proofs.Token.Scanning
import Mathlib.Data.List.Chain
import Mathlib.Data.List.TakeWhile

/-!
# Where name tokens stand

A name token is what the text has at its place, and the token behind it comes after a gap of blanks
and joined lines only. The stream is followed line by line: a line is scanned from left to right, so
what has still to be read is always what the text has from the current place on.

Main definitions:
* `Token.fromPlace`: the text from a place on.
* `Token.Gap`: blanks and joined lines between two tokens.
* `Token.Stands`, `Token.Leads`: a name at its place, and two tokens that follow each other.
* `Token.Stream.Scans`: how a line is scanned, token by token.
* `Token.Stream.Scanning`, `Token.Stream.Between`: the invariant inside a line and between two lines.

Main results:
* `Token.Stream.Scanning.addPlain` and others, `Token.Stream.Scans.sound`: every token of a line keeps
  the invariant, and so does the line.
* `Token.stands_of_mem_ofText`, `Token.pairwise_passed_ofText`, `Token.leads_ofText`: all tokens of a
  text.
-/

namespace HouseStyle

/-! ## Lines -/

namespace Text

/-- The rest `t` of a line in front of `rest`: it ends with its only line feed, or it is the end of
    the text and has none. -/
def IsLine (t rest : Text) : Prop :=
  (∃ u, '\n' ∉ u ∧ t = u ++ ['\n']) ∨ ('\n' ∉ t ∧ rest = [])

/-- What is left of a line is the rest of the line, unless it is all read. -/
theorem IsLine.of_suffix {t rest b : Text} (h : IsLine t rest) (hb : b <:+ t) (hne : b ≠ []) :
    IsLine b rest := by
  rcases h with ⟨u, hu, rfl⟩ | ⟨ht, rfl⟩
  · rcases List.suffix_concat_iff.mp hb with rfl | ⟨v, rfl, hv⟩
    · exact absurd rfl hne
    · exact .inl ⟨v, fun hmem => hu (hv.subset hmem), rfl⟩
  · exact .inr ⟨fun hmem => ht (hb.subset hmem), rfl⟩

theorem IsLine.eq_nil {t rest b : Text} (h : IsLine t rest) (hb : '\n' :: b <:+ t) : b = [] := by
  rcases h with ⟨u, hu, rfl⟩ | ⟨ht, -⟩
  · rcases List.suffix_concat_iff.mp hb with hnil | ⟨v, hv, hsuffix⟩
    · cases hnil
    · cases v with
      | nil => exact (List.cons.inj hv).2
      | cons c v =>
        have hc := (List.cons.inj hv).1
        exact absurd (hsuffix.subset List.mem_cons_self) (hc ▸ hu)
  · exact absurd (hb.subset List.mem_cons_self) ht

/-- Every line of a text ends with its only line feed, except perhaps the last one. -/
theorem isLine_of_suffix {t l : Text} {ls : List Text} (h : l :: ls <:+ t.newlineLines) :
    l ≠ [] ∧ IsLine l ls.flatten := by
  induction t generalizing l ls with
  | nil => simp [newlineLines] at h
  | cons c t ih =>
    rw [newlineLines] at h
    split_ifs at h with hc
    · rcases List.suffix_cons_iff.mp h with heq | h
      · cases heq
        exact ⟨by simp, .inl ⟨[], by simp, rfl⟩⟩
      · exact ih h
    · cases hlines : newlineLines t with
      | nil =>
        rw [hlines] at h
        rcases List.suffix_cons_iff.mp h with heq | h
        · cases heq
          exact ⟨by simp, .inr ⟨by simpa using Ne.symm hc, rfl⟩⟩
        · simp at h
      | cons l' ls' =>
        rw [hlines] at h ih
        rcases List.suffix_cons_iff.mp h with heq | h
        · cases heq
          refine ⟨by simp, ?_⟩
          rcases (ih List.suffix_rfl).2 with ⟨u, hu, rfl⟩ | ⟨hl, hrest⟩
          · exact .inl ⟨c :: u, by simpa [hu] using Ne.symm hc, rfl⟩
          · exact .inr ⟨by simpa [hl] using Ne.symm hc, hrest⟩
        · exact ih (h.trans (List.suffix_cons _ _))

end Text

namespace Token

/-! ## Places and gaps -/

/-- What lines have from a place on: the line counts from one, the column from zero. -/
def fromPlace (lines : List Text) (line col : Nat) : Text :=
  (lines.drop (line - 1)).flatten.drop col

theorem fromPlace_add (lines : List Text) (line col k : Nat) :
    fromPlace lines line (col + k) = (fromPlace lines line col).drop k := by
  rw [fromPlace, fromPlace, List.drop_drop]

/-- From the place on, the line has `t` and the lines behind it have `rest`. -/
structure AtPlace (lines : List Text) (line col : Nat) (t rest : Text) : Prop where
  line_pos : 1 ≤ line
  within : ∃ l ∈ lines[line - 1]?, l.drop col = t
  fromPlace_eq : fromPlace lines line col = t ++ rest

theorem AtPlace.drop {lines : List Text} {line col : Nat} {u t rest : Text}
    (h : AtPlace lines line col (u ++ t) rest) : AtPlace lines line (col + u.length) t rest where
  line_pos := h.line_pos
  within := by
    obtain ⟨l, hl, hdrop⟩ := h.within
    exact ⟨l, hl, by rw [← List.drop_drop, hdrop, List.drop_left]⟩
  fromPlace_eq := by rw [fromPlace_add, h.fromPlace_eq, List.append_assoc, List.drop_left]

/-- Blanks and joined lines. -/
inductive Gap : Text → Text → Prop where
  | done (t : Text) : Gap t t
  | blank {c : Char} {t r : Text} (hc : Stream.isSpace c) (h : Gap t r) : Gap (c :: t) r
  | joined {t b r : Text} (hb : lineFeed? t = some b) (h : Gap b r) : Gap ('\\' :: t) r

theorem Gap.trans {t b r : Text} (h : Gap t b) (h' : Gap b r) : Gap t r := by
  induction h with
  | done => exact h'
  | blank hc _ ih => exact .blank hc (ih h')
  | joined hb _ ih => exact .joined hb (ih h')

theorem Gap.dropWhile (t rest : Text) : Gap (t ++ rest) (t.dropWhile Stream.isSpace ++ rest) := by
  induction t with
  | nil => exact .done _
  | cons c t ih =>
    rw [List.dropWhile_cons]
    split_ifs with hc
    · exact .blank hc ih
    · exact .done _

/-- What lines have behind a token. -/
def behind (lines : List Text) (a : Token) : Text :=
  (fromPlace lines a.line a.col).drop a.text.length

/-- The lines have the name at its place, inside of a line. -/
structure Stands (lines : List Text) (t : Token) : Prop where
  line_pos : 1 ≤ t.line
  ne_nil : t.text ≠ []
  within : ∃ l ∈ lines[t.line - 1]?, t.text <+: l.drop t.col
  word : ∀ c ∈ t.text, Text.isWordChar c

/-- A comment or the end of a line is next. -/
def EndsLine (t : Text) : Prop := ∃ c ∈ t.head?, c = '#' ∨ c = '\n' ∨ c = '\r'

/-- A name, comment or line end comes after a name with a gap between them. -/
def Leads (lines : List Text) (a b : Token) : Prop :=
  a.cls = .name → b.cls = .name ∨ b.cls = .nl ∨ b.cls = .comment →
    Gap (behind lines a) (fromPlace lines b.line b.col) ∧
      (b.cls = .name ∨ EndsLine (fromPlace lines b.line b.col))

/-- The token ends before a place. -/
def Passed (t : Token) (line col : Nat) : Prop :=
  t.line < line ∨ (t.line = line ∧ t.col + t.text.length ≤ col)

/-- What is known of the tokens up to a place: every name stands at its own place, names stand in order
    and before the place, and neighbours follow each other. The tokens are in reverse order. -/
structure Sound (lines : List Text) (line col : Nat) (found : List Token) : Prop where
  stands : ∀ t ∈ found, t.cls = .name → t.Stands lines ∧ t.Passed line col
  order : found.Pairwise fun b a => a.cls = .name → b.cls = .name → a.Passed b.line b.col
  chain : found.IsChain fun b a => Leads lines a b

/-- Only a gap stands between the last token, if it is a name, and what has to be read. -/
def Awaits (lines : List Text) (found : List Token) (t : Text) : Prop :=
  ∀ a ∈ found.head?, a.cls = .name → Gap (behind lines a) t

theorem Sound.mono {lines : List Text} {line col line' col' : Nat} {found : List Token}
    (h : Sound lines line col found) (hplace : line < line' ∨ (line = line' ∧ col ≤ col')) :
    Sound lines line' col' found where
  stands := by
    intro t ht hname
    obtain ⟨hstands, hpassed⟩ := h.stands t ht hname
    refine ⟨hstands, ?_⟩
    unfold Passed at *
    omega
  order := h.order
  chain := h.chain

theorem Sound.cons {lines : List Text} {line col : Nat} {found : List Token}
    (h : Sound lines line col found) {b : Token} (hline : b.line = line) (hcol : col ≤ b.col)
    (hb : b.cls = .name → b.Stands lines) (hlead : ∀ a ∈ found.head?, Leads lines a b) :
    Sound lines line (b.col + b.text.length) (b :: found) where
  stands := by
    intro t ht hname
    rcases List.mem_cons.mp ht with rfl | ht
    · exact ⟨hb hname, .inr ⟨hline, le_rfl⟩⟩
    · exact (h.mono (.inr ⟨rfl, by omega⟩)).stands t ht hname
  order := by
    refine List.pairwise_cons.mpr ⟨fun a ha hname _ => ?_, h.order⟩
    rw [hline]
    exact ((h.mono (.inr ⟨rfl, hcol⟩)).stands a ha hname).2
  chain := List.isChain_cons.mpr ⟨hlead, h.chain⟩

/-- A token that is no name stands in nobody's way. -/
theorem Sound.cons_other {lines : List Text} {line col : Nat} {found : List Token}
    (h : Sound lines line col found) {b : Token} (hb : b.cls ≠ .name)
    (hlead : ∀ a ∈ found.head?, Leads lines a b) : Sound lines line col (b :: found) where
  stands := by
    intro t ht hname
    rcases List.mem_cons.mp ht with rfl | ht
    · exact absurd hname hb
    · exact h.stands t ht hname
  order := List.pairwise_cons.mpr ⟨fun _ _ _ hname => absurd hname hb, h.order⟩
  chain := List.isChain_cons.mpr ⟨hlead, h.chain⟩

/-- A token that is none of those considered may follow anything. -/
theorem leads_other {lines : List Text} {a b : Token}
    (hb : b.cls ≠ .name ∧ b.cls ≠ .nl ∧ b.cls ≠ .comment) : Leads lines a b := by
  rintro - (h | h | h)
  exacts [absurd h hb.1, absurd h hb.2.1, absurd h hb.2.2]

namespace Stream

variable {lines : List Text} {rest : Text}

@[simp] theorem add_found (s : Stream) (cls : TokenClass) (text : Text) (line col : Nat) :
    (s.add cls text line col).found = ⟨cls, text, line, col⟩ :: s.found := rfl

@[simp] theorem add_openString (s : Stream) (cls : TokenClass) (text : Text) (line col : Nat) :
    (s.add cls text line col).openString = s.openString := rfl

@[simp] theorem add_shortOpen (s : Stream) (cls : TokenClass) (text : Text) (line col : Nat) :
    (s.add cls text line col).shortOpen = s.shortOpen := rfl

@[simp] theorem add_continued (s : Stream) (cls : TokenClass) (text : Text) (line col : Nat) :
    (s.add cls text line col).continued = s.continued := rfl

theorem addPlain_found (s : Stream) (cls : TokenClass) (text : Text) (line col : Nat) :
    ∃ cls', (s.addPlain cls text line col).found = ⟨cls', text, line, col⟩ :: s.found ∧
      (cls' = cls ∨ (cls = .newline ∧ cls' = .nl)) := by
  cases cls with
  | newline =>
    refine ⟨if 0 < s.depth then .nl else .newline, rfl, ?_⟩
    split_ifs <;> simp
  | _ => exact ⟨_, rfl, .inl rfl⟩

@[simp] theorem addPlain_openString (s : Stream) (cls : TokenClass) (text : Text) (line col : Nat) :
    (s.addPlain cls text line col).openString = s.openString := by cases cls <;> rfl

@[simp] theorem addPlain_shortOpen (s : Stream) (cls : TokenClass) (text : Text) (line col : Nat) :
    (s.addPlain cls text line col).shortOpen = s.shortOpen := by cases cls <;> rfl

@[simp] theorem addPlain_continued (s : Stream) (cls : TokenClass) (text : Text) (line col : Nat) :
    (s.addPlain cls text line col).continued = s.continued := by cases cls <;> rfl

/-- Between two lines, a name is only awaited behind a backslash. -/
def AtLineEnd (lines : List Text) (s : Stream) (rest : Text) : Prop :=
  ∀ a ∈ s.found.head?, a.cls = .name →
    rest = [] ∨ s.openString.isSome ∨ (s.continued = true ∧ Gap (behind lines a) rest)

/-! ## One line -/

theorem take_append_of_suffix {body b : Text} (h : b <:+ body) :
    body.take (body.length - b.length) ++ b = body := by
  obtain ⟨pre, rfl⟩ := h
  simp

/-- What a token of the line leaves. -/
theorem atPlace_behind {line start : Nat} {body b : Text} (h : AtPlace lines line start body rest)
    (hb : b <:+ body) :
    AtPlace lines line (start + (body.take (body.length - b.length)).length) b rest := by
  rw [← take_append_of_suffix hb] at h
  exact h.drop

/-- The rest of a line from which names are awaited: not all of it is read, unless the last token is
    no name. -/
def IsRest (rest : Text) (found : List Token) (t : Text) : Prop :=
  t.IsLine rest ∨ (t = [] ∧ ∀ a ∈ found.head?, a.cls ≠ .name)

theorem isRest_of_suffix {t b : Text} (h : t.IsLine rest) (hb : b <:+ t) {found : List Token}
    (hlast : b = [] → rest = [] ∨ ∀ a ∈ found.head?, a.cls ≠ .name) : IsRest rest found b := by
  by_cases hne : b = []
  · rcases hlast hne with hrest | hlast
    · exact .inl (.inr ⟨by simp [hne], hrest⟩)
    · exact .inr ⟨hne, hlast⟩
  · exact .inl (h.of_suffix hb hne)

/-- What holds no line feed does not reach over the end of its line. -/
theorem rest_eq_nil {p : Char → Bool} (hp : p '\n' = false) {t : Text} (h : t.IsLine rest)
    (ht : t.dropWhile p = []) : rest = [] := by
  rcases h with ⟨u, -, rfl⟩ | ⟨-, hrest⟩
  · rw [List.dropWhile_eq_nil_iff] at ht
    exact absurd (ht '\n' (by simp)) (by simp [hp])
  · exact hrest

/-- A backslash joins the next line. -/
theorem gap_of_joined {r b : Text} (h : Text.IsLine ('\\' :: r) rest) (hb : lineFeed? r = some b) :
    Gap ('\\' :: r ++ rest) rest := by
  have hnil : b = [] := by
    unfold lineFeed? at hb
    split at hb
    · cases hb
      exact h.eq_nil ⟨['\\'], rfl⟩
    · cases hb
      exact h.eq_nil ⟨['\\', '\r'], rfl⟩
    · cases hb
  subst hnil
  refine .joined (b := rest) ?_ (.done rest)
  unfold lineFeed? at hb
  split at hb <;> cases hb <;> rfl

theorem takeWhile_isSpace_append (t : Text) :
    t.takeWhile isSpace ++ t.dropWhile isSpace = t := List.takeWhile_append_dropWhile

theorem atPlace_body {line col : Nat} {t : Text} (h : AtPlace lines line col t rest) :
    AtPlace lines line (col + (t.takeWhile isSpace).length) (t.dropWhile isSpace) rest := by
  rw [← takeWhile_isSpace_append t] at h
  exact h.drop

theorem stands_of_matched {line start : Nat} {body b : Text} {cls : TokenClass}
    (h : Matched body (.plain .name) b) (hplace : AtPlace lines line start body rest) :
    Stands lines ⟨cls, body.take (body.length - b.length), line, start⟩ := by
  cases h with
  | word hword =>
    obtain ⟨c, r, rfl, hc, hdrop, -⟩ := word?_eq_some hword
    obtain ⟨l, hl, heq⟩ := hplace.within
    have htake : (c :: r).take ((c :: r).length - b.length) = (c :: r).takeWhile Text.isWordChar := by
      have hcut := take_append_of_suffix (word?_takes hword).1.suffix
      rw [hdrop] at hcut ⊢
      exact List.append_cancel_right (hcut.trans List.takeWhile_append_dropWhile.symm)
    rw [htake]
    refine ⟨hplace.line_pos, ?_, ⟨l, hl, ?_⟩, fun d hd => List.mem_takeWhile_imp hd⟩
    · simp [hc]
    · rw [heq]
      exact List.takeWhile_prefix _

theorem endsLine_of_matched {body b : Text} {cls : TokenClass} (h : Matched body (.plain cls) b)
    (hcls : cls = .newline ∨ cls = .comment ∨ cls = .nl) : EndsLine (body ++ rest) := by
  cases h with
  | comment r => exact ⟨'#', rfl, .inl rfl⟩
  | lineEnd h =>
    unfold lineFeed? at h
    split at h
    · exact ⟨'\n', rfl, .inr (.inl rfl)⟩
    · exact ⟨'\r', rfl, .inr (.inr rfl)⟩
    · cases h
  | word h =>
    obtain ⟨_, _, -, -, -, hshape⟩ := word?_eq_some h
    cases hshape
    split_ifs at hcls <;> simp at hcls
  | _ => simp at hcls

/-- How a line is scanned from a column on, token by token: the streams in front of it and behind it. -/
inductive Scans (line : Nat) : Nat → Text → Stream → Stream → Prop where
  | done {col : Nat} {s : Stream} : Scans line col [] s s
  | blank {col : Nat} {t : Text} {s : Stream} (ht : t ≠ []) (hblank : t.dropWhile isSpace = []) :
    Scans line col t s s
  | spaces {col : Nat} {t : Text} {s s' : Stream} (hbody : t.dropWhile isSpace ≠ [])
    (h : Scans line (col + (t.takeWhile isSpace).length) (t.dropWhile isSpace) s s') :
    Scans line col t s s'
  | error {col : Nat} {c : Char} {t : Text} {s s' : Stream}
    (hnone : match? ((c :: t).dropWhile isSpace) = none)
    (h : Scans line (col + 1) t (s.add .error [c] line col) s') : Scans line col (c :: t) s s'
  | joined {col : Nat} {t b : Text} {s : Stream} (hmatched : Matched t .continuation b) :
    Scans line col t s { s with continued := true }
  | long {col : Nat} {t b after : Text} {q : Char} {s s' : Stream}
    (hmatched : Matched t (.longString q) b) (hend : stringEnd? q true 0 b = some after)
    (h : Scans line (col + (t.take (t.length - after.length)).length) after
      (s.add .string (t.take (t.length - after.length)) line col) s') : Scans line col t s s'
  | longOpen {col : Nat} {t b : Text} {q : Char} {s : Stream} (hmatched : Matched t (.longString q) b)
    (hend : stringEnd? q true 0 b = none) :
    Scans line col t s { s with openString := some ⟨q, true, t, line, col⟩ }
  | short {col : Nat} {t b : Text} {q : Char} {s s' : Stream} (hmatched : Matched t (.shortString q) b)
    (hend : (t.take (t.length - b.length)).getLast? ≠ some '\n')
    (h : Scans line (col + (t.take (t.length - b.length)).length) b
      (s.add .string (t.take (t.length - b.length)) line col) s') : Scans line col t s s'
  | shortOpen {col : Nat} {t b : Text} {q : Char} {s : Stream}
    (hmatched : Matched t (.shortString q) b)
    (hend : (t.take (t.length - b.length)).getLast? = some '\n') :
    Scans line col t s { s with openString := some ⟨q, false, t, line, col⟩, shortOpen := true }
  | plain {col : Nat} {t b : Text} {cls : TokenClass} {s s' : Stream}
    (hmatched : Matched t (.plain cls) b)
    (h : Scans line (col + (t.take (t.length - b.length)).length) b
      (s.addPlain cls (t.take (t.length - b.length)) line col) s') : Scans line col t s s'

theorem scans_scan {fuel line col : Nat} {t : Text} {s : Stream} (hfuel : t.length < fuel) :
    Scans line col t s (scan fuel line col t s) := by
  induction fuel generalizing col t s with
  | zero => omega
  | succ fuel ih =>
    cases t with
    | nil => exact .done
    | cons c t =>
      have hlen := (List.dropWhile_suffix (l := c :: t) isSpace).length_le
      rw [scan]
      cases hm : match? ((c :: t).dropWhile isSpace) with
      | none => exact .error hm (ih (by simpa using hfuel))
      | some x =>
        obtain ⟨shape, b⟩ := x
        have hmatched := matched_of_match? hm
        by_cases hbody : (c :: t).dropWhile isSpace = []
        · rw [hbody] at hm
          cases hm
          exact .blank (List.cons_ne_nil c t) hbody
        obtain ⟨hb, hlt⟩ := hmatched.takes hbody
        have hgo : ∀ {r : Text} {col : Nat} {s : Stream}, r <:+ b →
            Scans line col r s (scan fuel line col r s) := by
          intro r col s hr
          have := hr.length_le
          exact ih (by omega)
        refine .spaces hbody ?_
        cases shape with
        | blank => exact absurd hmatched.eq_nil hbody
        | continuation => exact .joined hmatched
        | longString q =>
          simp only
          cases hend : stringEnd? q true 0 b with
          | none => exact .longOpen hmatched hend
          | some after => exact .long hmatched hend (hgo (stringEnd?_suffix hend))
        | shortString q =>
          simp only
          split_ifs with hend
          · exact .shortOpen hmatched hend
          · exact .short hmatched hend (hgo List.suffix_rfl)
        | plain cls => exact .plain hmatched (hgo List.suffix_rfl)

/-- The scanner inside a line: `t` is left of the line, and `rest` is what the lines behind it have. -/
structure Scanning (lines : List Text) (rest : Text) (line col : Nat) (t : Text) (s : Stream) : Prop where
  place : AtPlace lines line col t rest
  sound : Sound lines line col s.found
  awaits : Awaits lines s.found (t ++ rest)
  isRest : IsRest rest s.found t
  string : s.openString = none

/-- The scanner between two lines: `line` is the next one, and `rest` is left of the text. -/
structure Between (lines : List Text) (rest : Text) (line : Nat) (s : Stream) : Prop where
  sound : Sound lines line 0 s.found
  awaits : AtLineEnd lines s rest

section Scanning

variable {line col : Nat} {t : Text} {s : Stream}

/-- The line is left with the tokens found so far. -/
theorem Scanning.leave (h : Scanning lines rest line col t s) {s' : Stream} (hfound : s'.found = s.found)
    (hend : AtLineEnd lines s' rest) : Between lines rest (line + 1) s' :=
  ⟨by rw [hfound]; exact h.sound.mono (.inl (Nat.lt_succ_self _)), hend⟩

theorem Scanning.leave_nil (h : Scanning lines rest line col [] s) :
    Between lines rest (line + 1) s := by
  refine h.leave rfl fun a ha hname => ?_
  rcases h.isRest with (⟨u, -, hu⟩ | ⟨-, hnil⟩) | ⟨-, hlast⟩
  · simp at hu
  · exact .inl hnil
  · exact absurd hname (hlast a ha)

theorem Scanning.isLine (h : Scanning lines rest line col t s) (ht : t ≠ []) : t.IsLine rest :=
  h.isRest.resolve_right fun hnil => ht hnil.1

/-- The blanks in front of a token are passed over. -/
theorem Scanning.skipBlanks (h : Scanning lines rest line col t s) (ht : t.dropWhile isSpace ≠ []) :
    Scanning lines rest line (col + (t.takeWhile isSpace).length) (t.dropWhile isSpace) s where
  place := atPlace_body h.place
  sound := h.sound.mono (.inr ⟨rfl, Nat.le_add_right _ _⟩)
  awaits := fun a ha hname => (h.awaits a ha hname).trans (.dropWhile _ _)
  isRest := by
    have hne : t ≠ [] := fun hnil => ht (by rw [hnil]; rfl)
    exact .inl ((h.isLine hne).of_suffix (List.dropWhile_suffix isSpace) ht)
  string := h.string

theorem Scanning.leave_blank (h : Scanning lines rest line col t s) (ht : t ≠ [])
    (hblank : t.dropWhile isSpace = []) : Between lines rest (line + 1) s :=
  h.leave rfl fun _ _ _ => .inl (rest_eq_nil (by decide) (h.isLine ht) hblank)

/-- A backslash joins the next line. -/
theorem Scanning.leave_joined (h : Scanning lines rest line col t s) (ht : t ≠ []) {b : Text}
    (hmatched : Matched t .continuation b) :
    Between lines rest (line + 1) { s with continued := true } := by
  cases hmatched with
  | joined hjoined =>
    exact h.leave rfl fun a ha hname =>
      .inr (.inr ⟨rfl, (h.awaits a ha hname).trans (gap_of_joined (h.isLine ht) hjoined)⟩)

theorem Scanning.leave_open (h : Scanning lines rest line col t s) {s' : Stream}
    (hfound : s'.found = s.found) (hstring : s'.openString.isSome) : Between lines rest (line + 1) s' :=
  h.leave hfound fun _ _ _ => .inr (.inl hstring)

/-- A token is read that is neither name, comment nor line end. -/
theorem Scanning.addOther (h : Scanning lines rest line col t s) (ht : t ≠ []) {b text : Text}
    (hb : b <:+ t) {cls : TokenClass} (hcls : cls ≠ .name ∧ cls ≠ .nl ∧ cls ≠ .comment) (start : Nat) :
    Scanning lines rest line (col + (t.take (t.length - b.length)).length) b
      (s.add cls text line start) where
  place := atPlace_behind h.place hb
  sound := (h.sound.mono (.inr ⟨rfl, Nat.le_add_right _ _⟩)).cons_other hcls.1
    fun _ _ => leads_other hcls
  awaits := by simp [Awaits, hcls.1]
  isRest := isRest_of_suffix (h.isLine ht) hb fun _ => .inr (by simp [hcls.1])
  string := h.string

/-- A plain token is read. A name that ends its line is the end of the text. -/
theorem Scanning.addPlain (h : Scanning lines rest line col t s) (ht : t ≠ []) {b : Text}
    {cls : TokenClass} (hmatched : Matched t (.plain cls) b) :
    Scanning lines rest line (col + (t.take (t.length - b.length)).length) b
      (s.addPlain cls (t.take (t.length - b.length)) line col) := by
  have hb := (hmatched.takes ht).1
  have hnext := atPlace_behind h.place hb
  obtain ⟨cls', hfound, hcls⟩ := addPlain_found s cls (t.take (t.length - b.length)) line col
  have hname : cls' = .name ↔ cls = .name := by rcases hcls with rfl | ⟨rfl, rfl⟩ <;> simp
  refine ⟨hnext, ?_, ?_, isRest_of_suffix (h.isLine ht) hb fun hnil => ?_, by simp [h.string]⟩
  · rw [hfound]
    refine h.sound.cons (b := ⟨cls', _, line, col⟩) rfl le_rfl (fun hcls' => ?_)
      fun a ha haname hb => ?_
    · rw [hname.mp hcls'] at hmatched
      exact stands_of_matched hmatched h.place
    · rw [h.place.fromPlace_eq]
      refine ⟨h.awaits a ha haname, hb.imp_right fun hb => endsLine_of_matched hmatched ?_⟩
      rcases hcls with rfl | ⟨rfl, rfl⟩
      exacts [.inr hb.symm, .inl rfl]
  · intro a ha _
    rw [hfound, List.head?_cons, Option.mem_def, Option.some.injEq] at ha
    rw [← ha, behind, ← fromPlace_add, hnext.fromPlace_eq]
    exact .done _
  · by_cases hcls : cls = .name
    · subst hcls
      cases hmatched with
      | word hword =>
        obtain ⟨_, _, -, -, hdrop, -⟩ := word?_eq_some hword
        exact .inl (rest_eq_nil (by decide) (h.isLine ht) (hdrop.symm.trans hnil))
    · refine .inr fun a ha => ?_
      rw [hfound, List.head?_cons, Option.mem_def, Option.some.injEq] at ha
      rw [← ha]
      exact fun h => hcls (hname.mp h)

/-- A character that starts no token is an error of its own. -/
theorem Scanning.addError {c : Char} (h : Scanning lines rest line col (c :: t) s) :
    Scanning lines rest line (col + 1) t (s.add .error [c] line col) := by
  have hwidth : ((c :: t).take ((c :: t).length - t.length)).length = 1 := by simp
  rw [← hwidth]
  exact h.addOther (List.cons_ne_nil c t) (List.suffix_cons c t) (by simp) col

end Scanning

/-- Every token of a line keeps the invariant. -/
theorem Scans.sound {line col : Nat} {t : Text} {s s' : Stream} (hscans : Scans line col t s s')
    (h : Scanning lines rest line col t s) : Between lines rest (line + 1) s' := by
  induction hscans with
  | done => exact h.leave_nil
  | blank ht hblank => exact h.leave_blank ht hblank
  | spaces hbody _ ih => exact ih (h.skipBlanks hbody)
  | error _ _ ih => exact ih h.addError
  | joined hmatched => exact h.leave_joined (hmatched.ne_nil (by simp)) hmatched
  | long hmatched hend _ ih =>
    have ht := hmatched.ne_nil (by simp)
    exact ih (h.addOther ht ((stringEnd?_suffix hend).trans (hmatched.takes ht).1) (by simp) _)
  | longOpen _ _ => exact h.leave_open rfl rfl
  | short hmatched _ _ ih =>
    have ht := hmatched.ne_nil (by simp)
    exact ih (h.addOther ht (hmatched.takes ht).1 (by simp) _)
  | shortOpen _ _ => exact h.leave_open rfl rfl
  | plain hmatched _ ih => exact ih (h.addPlain (hmatched.ne_nil (by simp)) hmatched)

/-! ## All lines -/

/-- What opening and closing blocks preserves: the tokens added are no names. -/
structure Quiet (lines : List Text) (s s' : Stream) : Prop where
  sound : ∀ {line col : Nat}, Sound lines line col s.found → Sound lines line col s'.found
  last : (∀ a ∈ s.found.head?, a.cls ≠ .name) → ∀ a ∈ s'.found.head?, a.cls ≠ .name
  openString : s'.openString = s.openString
  shortOpen : s'.shortOpen = s.shortOpen

theorem Quiet.trans {s s' s'' : Stream} (h : Quiet lines s s') (h' : Quiet lines s' s'') :
    Quiet lines s s'' :=
  ⟨fun hs => h'.sound (h.sound hs), h'.last ∘ h.last, h'.openString.trans h.openString,
    h'.shortOpen.trans h.shortOpen⟩

theorem quiet_add (s : Stream) (cls : TokenClass) (text : Text) (line col : Nat)
    (hcls : cls ≠ .name ∧ cls ≠ .nl ∧ cls ≠ .comment) :
    Quiet lines s (s.add cls text line col) :=
  ⟨fun h => h.cons_other hcls.1 fun _ _ => leads_other hcls, fun _ => by simpa using hcls.1, rfl, rfl⟩

theorem quiet_closeBlocks (column line col : Nat) (blocks : List Nat) (s : Stream) :
    Quiet lines s (closeBlocks column line col blocks s) := by
  induction blocks generalizing s with
  | nil => exact ⟨id, id, rfl, rfl⟩
  | cons i is ih =>
    rw [closeBlocks]
    split_ifs
    · exact (quiet_add s .dedent [] line col (by simp)).trans (ih _)
    · exact ⟨id, id, rfl, rfl⟩

theorem quiet_indent {line : Nat} {blanks : Text} {s s' : Stream}
    (h : s.indent line blanks = .ok s') : Quiet lines s s' := by
  simp only [indent] at h
  split_ifs at h
  · cases h
    exact (quiet_add s .indent blanks line 0 (by simp)).trans ⟨id, id, rfl, rfl⟩
  · cases h
    exact quiet_closeBlocks _ _ _ _ s

theorem startLine_sound {line : Nat} {t : Text} {s s' : Stream}
    (hplace : AtPlace lines line 0 t rest) (ht : t.IsLine rest) (hsound : Sound lines line 0 s.found)
    (hlast : ∀ a ∈ s.found.head?, a.cls ≠ .name) (hstring : s.openString = none)
    (h : s.startLine line t = .ok s') : Between lines rest (line + 1) s' := by
  have hstart := atPlace_body hplace
  rw [Nat.zero_add] at hstart
  have hsuffix := List.dropWhile_suffix (l := t) isSpace
  have hdone : Sound lines (line + 1) 0 s.found := hsound.mono (.inl (Nat.lt_succ_self _))
  unfold startLine at h
  simp only at h
  split at h
  · cases h
    exact ⟨hdone, fun a ha hname => absurd hname (hlast a ha)⟩
  · cases h
    refine ⟨?_, fun a ha hname => ?_⟩
    · refine Sound.cons_other (hdone.cons_other (by simp) ?_) (by simp) (by simp [Leads])
      exact fun a ha hname => absurd hname (hlast a ha)
    · simp at ha
      simp [← ha] at hname
  · split_ifs at h
    · cases h
      refine ⟨hdone.cons_other (by simp) fun a ha hname => absurd hname (hlast a ha),
        fun a ha hname => ?_⟩
      simp at ha
      simp [← ha] at hname
    · cases hindent : s.indent line (t.takeWhile isSpace) with
      | error e => rw [hindent] at h; cases h
      | ok s₁ =>
        rw [hindent] at h
        cases h
        have hquiet : Quiet lines s s₁ := quiet_indent hindent
        have hlast₁ := hquiet.last hlast
        refine (scans_scan (Nat.lt_succ_of_le hsuffix.length_le)).sound ⟨hstart,
          (hquiet.sound hsound).mono (.inr ⟨rfl, Nat.zero_le _⟩),
          fun a ha hname => absurd hname (hlast₁ a ha), .inl (ht.of_suffix hsuffix ?_),
          hquiet.openString.trans hstring⟩
        intro hnil
        simp_all

theorem stringLine_sound {line : Nat} {t : Text} {s : Stream} {o : OpenString}
    (hplace : AtPlace lines line 0 t rest) (ht : t.IsLine rest)
    (hsound : Sound lines line 0 s.found) :
    Between lines rest (line + 1) (s.stringLine o line t) := by
  have hadd : ∀ (cls : TokenClass) (text : Text), cls ≠ .name ∧ cls ≠ .nl ∧ cls ≠ .comment →
      Sound lines line 0 (s.add cls text o.line o.col).found :=
    fun cls text hcls => (quiet_add s cls text o.line o.col hcls).sound hsound
  have hdone : ∀ {found : List Token}, Sound lines line 0 found → Sound lines (line + 1) 0 found :=
    fun h => h.mono (.inl (Nat.lt_succ_self _))
  unfold stringLine
  cases hend : stringEnd? o.quote o.triple 0 t with
  | none =>
    simp only
    split_ifs
    · exact ⟨hdone (hadd .error _ (by simp)), fun a ha hname => by simp at ha; simp [← ha] at hname⟩
    · exact ⟨hdone hsound, fun _ _ _ => .inr (.inl rfl)⟩
  | some after =>
    have hafter := stringEnd?_suffix hend
    have hnext := atPlace_behind hplace hafter
    rw [Nat.zero_add] at hnext
    exact (scans_scan (Nat.lt_succ_of_le hafter.length_le)).sound ⟨hnext,
      (hadd .string _ (by simp)).mono (.inr ⟨rfl, Nat.zero_le _⟩), by simp [Awaits],
      isRest_of_suffix ht hafter fun _ => .inr (by simp), rfl⟩

theorem step_sound {line : Nat} {t : Text} {s s' : Stream} (hplace : AtPlace lines line 0 t rest)
    (hne : t ≠ []) (ht : t.IsLine rest) (hbetween : Between lines (t ++ rest) line s)
    (h : s.step line t = .ok s') : Between lines rest (line + 1) s' := by
  rw [step] at h
  cases hstring : s.openString with
  | some o =>
    rw [hstring] at h
    cases h
    exact stringLine_sound hplace ht hbetween.sound
  | none =>
    rw [hstring] at h
    have hjoined : ∀ a ∈ s.found.head?, a.cls = .name →
        s.continued = true ∧ Gap (behind lines a) (t ++ rest) := by
      intro a ha hname
      rcases hbetween.awaits a ha hname with hnil | hsome | hjoined
      · exact absurd (List.append_eq_nil_iff.mp hnil).1 hne
      · rw [hstring] at hsome; cases hsome
      · exact hjoined
    simp only at h
    split_ifs at h with hfresh
    · refine startLine_sound hplace ht hbetween.sound (fun a ha hname => ?_) hstring h
      simp [(hjoined a ha hname).1] at hfresh
    · cases h
      exact (scans_scan (Nat.lt_succ_self _)).sound
        ⟨hplace, hbetween.sound, fun a ha hname => (hjoined a ha hname).2, .inl ht, rfl⟩

/-- The stream is followed line by line. -/
theorem run_sound {text : Text} {line : Nat} {s s' : Stream} {later : List Text} (hline : 1 ≤ line)
    (hlater : text.newlineLines.drop (line - 1) = later)
    (hbetween : Between text.newlineLines later.flatten line s) (h : run line s later = .ok s') :
    ∃ last, Sound text.newlineLines last 0 s'.found := by
  induction later generalizing line s with
  | nil =>
    rw [run] at h
    split at h
    · cases h
    · split_ifs at h
      cases h
      have hclosed : ∀ (blocks : List Nat) (s : Stream), Sound text.newlineLines line 0 s.found →
          Sound text.newlineLines line 0
            (blocks.foldl (fun s _ => s.add .dedent [] line 0) s).found := by
        intro blocks
        induction blocks with
        | nil => exact fun s h => h
        | cons _ _ ih => exact fun s h => ih _ ((quiet_add s .dedent [] line 0 (by simp)).sound h)
      exact ⟨line, (quiet_add _ .stop [] line 0 (by simp)).sound (hclosed _ _ hbetween.sound)⟩
  | cons t ts ih =>
    rw [run] at h
    cases hstep : s.step line t with
    | error e => rw [hstep] at h; cases h
    | ok s₁ =>
      rw [hstep] at h
      have hplace : AtPlace text.newlineLines line 0 t ts.flatten := by
        refine ⟨hline, ⟨t, ?_, rfl⟩, by rw [fromPlace, hlater]; rfl⟩
        rw [← List.head?_drop, hlater]
        rfl
      obtain ⟨hne, ht⟩ := Text.isLine_of_suffix (hlater ▸ List.drop_suffix _ _)
      refine ih (Nat.le_succ_of_le hline) ?_ (step_sound hplace hne ht hbetween hstep) h
      obtain ⟨k, rfl⟩ : ∃ k, line = k + 1 := ⟨line - 1, by omega⟩
      rw [Nat.add_sub_cancel] at hlater
      rw [Nat.succ_sub_one, ← List.tail_drop, hlater]
      rfl

end Stream

theorem sound_ofText {text : Text} {tokens : List Token} (h : ofText text = .ok tokens) :
    ∃ last, Sound text.newlineLines last 0 tokens.reverse := by
  unfold ofText at h
  cases hrun : Stream.run 1 {} text.newlineLines with
  | error e => rw [hrun] at h; cases h
  | ok s =>
    rw [hrun] at h
    cases h
    rw [List.reverse_reverse]
    exact Stream.run_sound le_rfl rfl
      ⟨⟨by simp, .nil, List.isChain_nil⟩, by simp [Stream.AtLineEnd]⟩ hrun

/-- Every name of a text stands at its place. -/
theorem stands_of_mem_ofText {text : Text} {tokens : List Token} (h : ofText text = .ok tokens)
    {t : Token} (ht : t ∈ tokens) (hname : t.cls = .name) : t.Stands text.newlineLines := by
  obtain ⟨_, hsound⟩ := sound_ofText h
  exact (hsound.stands t (List.mem_reverse.mpr ht) hname).1

/-- Names stand in order. -/
theorem pairwise_passed_ofText {text : Text} {tokens : List Token} (h : ofText text = .ok tokens) :
    tokens.Pairwise fun a b => a.cls = .name → b.cls = .name → a.Passed b.line b.col := by
  obtain ⟨_, hsound⟩ := sound_ofText h
  exact List.pairwise_reverse.mp hsound.order

/-- A name, comment or line end that follows a name comes after a gap. -/
theorem leads_ofText {text : Text} {tokens : List Token} (h : ofText text = .ok tokens) {i : Nat}
    {a b : Token} (ha : tokens[i]? = some a) (hb : tokens[i + 1]? = some b) :
    Leads text.newlineLines a b := by
  obtain ⟨_, hsound⟩ := sound_ofText h
  have hchain := hsound.chain
  rw [List.isChain_reverse] at hchain
  obtain ⟨_, rfl⟩ := List.getElem?_eq_some_iff.mp ha
  obtain ⟨hi, rfl⟩ := List.getElem?_eq_some_iff.mp hb
  exact hchain.getElem i hi

end Token

end HouseStyle
