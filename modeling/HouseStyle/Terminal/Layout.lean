import HouseStyle.Terminal.Width

/-!
# Lines of a given width

`layout` sets a text in lines of at most `width` cells. A line ends where the next word would not fit;
blanks behind a word do not count for this. Words that are wider than a line are cut into pieces
(`Overflow.fold`) or end with an ellipsis (`Overflow.ellipsis`).

Main definitions:
* `words`, `chop`, `wrap`: words, pieces of a word, and the lines of a text without line ends.
* `Align`, `layout`: the lines of any text, with tabs expanded and lines aligned.
-/

namespace HouseStyle.Terminal

/-- What happens to a word that is wider than a line. -/
inductive Overflow where
  | fold
  | ellipsis
deriving Repr, DecidableEq

/-- How a line stands in its width. -/
inductive Align where
  /-- As it is. -/
  | natural
  /-- With spaces behind it. -/
  | left
  /-- With spaces on both sides, the smaller half in front. -/
  | center
deriving Repr, DecidableEq

/-! ## Words -/

/-- The words behind the first one's blanks: each word with the blanks behind it. -/
def wordsFrom (word : Text) (inBlanks : Bool) : Text → List Text
  | [] => if word.isEmpty then [] else [word.reverse]
  | c :: t =>
    if Text.isBlank c then wordsFrom (c :: word) true t
    else if inBlanks then word.reverse :: wordsFrom [c] false t
    else wordsFrom (c :: word) false t

/-- The words of a text, each with the blanks behind it. Blanks at the front belong to the first
    word. -/
def words (t : Text) : List Text :=
  match wordsFrom [] false (Text.stripLeft t) with
  | [] => []
  | w :: ws => (t.takeWhile Text.isBlank ++ w) :: ws

/-- Cuts a text into pieces of at most `width` cells. -/
def chopFrom (width used : Nat) (piece : Text) : Text → List Text
  | [] => [piece.reverse]
  | c :: t =>
    if width < used + charCells c then piece.reverse :: chopFrom width (charCells c) [c] t
    else chopFrom width (used + charCells c) (c :: piece) t

/-- Cuts a text into pieces of at most `width` cells. -/
def chop (width : Nat) (t : Text) : List Text := chopFrom width 0 [] t

/-! ## Lines -/

/-- Lines under construction: the finished ones, last one first, and the current one with the cells
    that are used in it. -/
structure Setting where
  finished : List Text := []
  current : Text := []
  used : Nat := 0

namespace Setting

/-- Starts a line with a text, unless nothing has been set yet. -/
def newLine (s : Setting) (t : Text) : Setting :=
  if s.current.isEmpty then { s with current := t, used := cells t }
  else { finished := s.current :: s.finished, current := t, used := cells t }

/-- Sets a word. -/
def addWord (overflow : Overflow) (width : Nat) (s : Setting) (word : Text) : Setting :=
  let size := cells word.stripRight
  if s.used + size ≤ width then
    { s with current := s.current ++ word, used := s.used + cells word }
  else if width < size && overflow = .fold then (chop width word).foldl newLine s
  else s.newLine word

/-- All lines. -/
def lines (s : Setting) : List Text := (s.current :: s.finished).reverse

end Setting

/-- The lines of a text without line ends. A text of blanks is one line. -/
def wrap (overflow : Overflow) (width : Nat) (t : Text) : List Text :=
  match words t with
  | [] => [t]
  | ws => (ws.foldl (Setting.addWord overflow width) {}).lines

/-- Drops blanks at the end of a text that is longer than `width`, as far as they exceed it. -/
def trimEnd (width : Nat) (t : Text) : Text :=
  let blanks := t.length - t.stripRight.length
  t.take (t.length - min blanks (t.length - width))

/-- The longest beginning of a text that takes at most `width` cells. -/
def takeCells (width : Nat) : Text → Text
  | [] => []
  | c :: t => if charCells c ≤ width then c :: takeCells (width - charCells c) t else []

/-- The text with spaces behind it up to `width` cells. -/
def padCells (width : Nat) (t : Text) : Text := t ++ Text.copies (width - cells t) ' '

/-- Cuts a text that takes more than `width` cells. -/
def truncate (overflow : Overflow) (width : Nat) (t : Text) : Text :=
  if cells t ≤ width then t
  else
    match overflow with
    | .fold => padCells width (takeCells width t)
    | .ellipsis => padCells (width - 1) (takeCells (width - 1) t) ++ "…"

/-- Aligns a line. -/
def alignLine (overflow : Overflow) (align : Align) (width : Nat) (t : Text) : Text :=
  match align with
  | .natural => truncate overflow width t
  | .left => padCells width (truncate overflow width t)
  | .center =>
    let line := truncate overflow width t.stripRight
    padCells width (Text.copies ((width - cells line) / 2) ' ' ++ line)

/-! ## Texts -/

/-- Characters that a terminal would obey are not printed: bell, backspace, vertical tab, form feed
    and carriage return. -/
def isDropped (c : Char) : Bool :=
  c.toNat = 7 || c.toNat = 8 || c.toNat = 11 || c.toNat = 12 || c.toNat = 13

/-- The distance of tab stops. -/
def tabStop : Nat := 8

/-- Spaces up to the next tab stop in place of each tab, from a column on. -/
def expandTabsFrom (column : Nat) : Text → Text
  | [] => []
  | c :: t =>
    if c = '\t' then
      let next := (column / tabStop + 1) * tabStop
      Text.copies (next - column) ' ' ++ expandTabsFrom next t
    else c :: expandTabsFrom (column + charCells c) t

/-- The lines of a text. -/
def layout (overflow : Overflow) (align : Align) (width : Nat) (t : Text) : List Text :=
  (Text.splitOn '\n' (t.filter fun c => !isDropped c)).flatMap fun line =>
    (wrap overflow width (expandTabsFrom 0 line)).map fun l =>
      alignLine overflow align width (trimEnd width l)

end HouseStyle.Terminal
