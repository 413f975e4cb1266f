import HouseStyle.Text.Identifier
import HouseStyle.Text.Lines
import HouseStyle.Text.Utf8
import HouseStyle.Syntax.Node

/-!
# Lexemes

The grammar reads a source as a list of lexemes: names, keywords, literals, operators, and the
layout lexemes for line ends and changes of indentation. Blank lines, comments and line ends inside
brackets leave no lexeme. Lines end at `\n`, `\r\n` or `\r`.

Indentation is measured twice, with tabs reaching to multiples of eight and with tabs counting as
one column. Both measures have to tell the same story, so that a source does not change its meaning
with the width of tabs.

Main definitions:
* `Lexeme`: a lexeme with its spelling and position.
* `Lexeme.ofText?`: the lexemes of a source, unless some part of it is no lexeme at all.
-/

namespace HouseStyle.Syntax

/-- The classes of lexemes. -/
inductive LexemeClass where
  | name | keyword | number | string | op | newline | indent | dedent | stop
deriving Repr, DecidableEq

/-- A lexeme with its spelling and the place of its first character. -/
structure Lexeme where
  cls : LexemeClass
  text : Text
  pos : Position
deriving Repr, DecidableEq

namespace Lexeme

/-- Names that the grammar reserves. -/
def keywords : List Text :=
  ["False".toList, "None".toList, "True".toList, "and".toList, "as".toList, "assert".toList,
    "async".toList, "await".toList, "break".toList, "class".toList, "continue".toList,
    "def".toList, "del".toList, "elif".toList, "else".toList, "except".toList, "finally".toList,
    "for".toList, "from".toList, "global".toList, "if".toList, "import".toList, "in".toList,
    "is".toList, "lambda".toList, "nonlocal".toList, "not".toList, "or".toList, "pass".toList,
    "raise".toList, "return".toList, "try".toList, "while".toList, "with".toList, "yield".toList]

/-- Operators and delimiters, longer ones first. -/
def operators : List Text :=
  ["**=".toList, "//=".toList, ">>=".toList, "<<=".toList, "...".toList,
    "!=".toList, "%=".toList, "&=".toList, "**".toList, "*=".toList, "+=".toList, "-=".toList,
    "->".toList, "//".toList, "/=".toList, ":=".toList, "<<".toList, "<=".toList, "<>".toList,
    "==".toList, ">=".toList, ">>".toList, "@=".toList, "^=".toList, "|=".toList,
    "(".toList, ")".toList, "[".toList, "]".toList, "\x7b".toList, "\x7d".toList, ":".toList,
    ",".toList, ";".toList, "+".toList, "-".toList, "*".toList, "/".toList, "|".toList,
    "&".toList, "<".toList, ">".toList, "=".toList, ".".toList, "%".toList, "~".toList,
    "^".toList, "@".toList]

/-! ## Names -/

/-- A character with which a name may go on, before the check of its script. -/
def isNameChar (c : Char) : Bool := 0x80 ≤ c.toNat || Text.isAsciiStart c || Text.isAsciiDigit c

/-- A character with which a name may start, before the check of its script. -/
def isNameStart (c : Char) : Bool := 0x80 ≤ c.toNat || Text.isAsciiStart c

/-! ## Numbers

Each function takes the characters behind the part of a number already read and gives those behind
its own part, or nothing when the number is malformed. -/

/-- Digits in which single underscores may stand between two digits. -/
def digitTail (isDigit : Char → Bool) : Text → Option Text
  | [] => some []
  | '_' :: [] => none
  | '_' :: d :: t => if isDigit d then digitTail isDigit t else none
  | c :: t => if isDigit c then digitTail isDigit t else some (c :: t)

/-- Digits after a radix mark, perhaps with an underscore in front. -/
def radixDigits (isDigit : Char → Bool) : Text → Option Text
  | '_' :: d :: t => if isDigit d then digitTail isDigit t else none
  | d :: t => if isDigit d then digitTail isDigit t else none
  | [] => none

/-- Zeros in which single underscores may stand, up to the first other digit. -/
def zeroTail : Text → Option Text
  | '_' :: [] => none
  | '_' :: d :: t =>
    if d = '0' then zeroTail t else if Text.isAsciiDigit d then some (d :: t) else none
  | '0' :: t => zeroTail t
  | t => some t

/-- The text starts with the word, and no name goes on after it. -/
def startsWord (word t : Text) : Bool :=
  word.isPrefixOf t &&
    match t.drop word.length with
    | [] => true
    | c :: _ => !isNameChar c

/-- A number may end here: no name follows at once, some keywords apart. -/
def mayEndNumber (t : Text) : Bool :=
  match t with
  | [] => true
  | 'i' :: c :: _ => c = 'f' || c = 'n' || c = 's'
  | c :: _ =>
    !isNameChar c || startsWord "and" t || startsWord "else" t || startsWord "for" t
      || startsWord "or" t || startsWord "not" t

/-- The end of a number. -/
def numberEnd (t : Text) : Option Text := if mayEndNumber t then some t else none

/-- An imaginary mark, or the end. -/
def imaginaryTail : Text → Option Text
  | 'j' :: t => numberEnd t
  | 'J' :: t => numberEnd t
  | t => numberEnd t

/-- An exponent, or what may follow one. -/
def exponentTail : Text → Option Text
  | e :: t =>
    if e = 'e' || e = 'E' then
      match t with
      | s :: d :: r =>
        if s = '+' || s = '-' then
          if Text.isAsciiDigit d then (digitTail Text.isAsciiDigit r).bind imaginaryTail else none
        else if Text.isAsciiDigit s then
          (digitTail Text.isAsciiDigit (d :: r)).bind imaginaryTail
        else numberEnd (e :: t)
      | [s] =>
        if Text.isAsciiDigit s then some [] else if s = '+' || s = '-' then none
        else numberEnd (e :: t)
      | [] => numberEnd (e :: t)
    else imaginaryTail (e :: t)
  | [] => some []

/-- The digits after a point, perhaps none. -/
def fractionTail : Text → Option Text
  | d :: t =>
    if Text.isAsciiDigit d then (digitTail Text.isAsciiDigit t).bind exponentTail
    else exponentTail (d :: t)
  | [] => some []

/-- A point with a fraction, an exponent, an imaginary mark, or the end. -/
def pointTail : Text → Option Text
  | '.' :: t => fractionTail t
  | t => exponentTail t

/-- A hexadecimal, octal or binary digit. -/
def isRadixDigit (radix : Nat) (c : Char) : Bool :=
  match Text.hexDigit? c with
  | some d => d < radix
  | none => false

/-- A number with a radix mark; a decimal digit too large for the radix is an error. -/
def radixNumber (radix : Nat) (t : Text) : Option Text :=
  (radixDigits (isRadixDigit radix) t).bind fun r =>
    match r with
    | c :: _ => if Text.isAsciiDigit c then none else numberEnd r
    | [] => some []

/-- The part is written with digits, underscores and nothing else. -/
def isWholeNumeral (t : Text) : Bool := t.all fun c => Text.isAsciiDigit c || c = '_'

/-- More decimal digits than this are refused in a whole number. -/
def maxDigits : Nat := 4300

/-- A number starting with the digit `c`. A whole number other than zero has no zero in front. -/
def numberTail (c : Char) (t : Text) : Option Text :=
  if c = '0' then
    match t with
    | m :: r =>
      if m = 'x' || m = 'X' then radixNumber 16 r
      else if m = 'o' || m = 'O' then radixNumber 8 r
      else if m = 'b' || m = 'B' then radixNumber 2 r
      else
        (zeroTail t).bind fun z =>
          match z with
          | d :: y =>
            if Text.isAsciiDigit d then
              (digitTail Text.isAsciiDigit y).bind fun u =>
                match u with
                | e :: _ =>
                  if e = '.' || e = 'e' || e = 'E' || e = 'j' || e = 'J' then pointTail u else none
                | [] => none
            else pointTail z
          | [] => some []
    | [] => some []
  else (digitTail Text.isAsciiDigit t).bind pointTail

/-- The characters behind a number that starts at the front. -/
def number? : Text → Option Text
  | '.' :: t => fractionTail t
  | c :: t =>
    (numberTail c t).bind fun rest =>
      let spelling := (c :: t).take (t.length + 1 - rest.length)
      if isWholeNumeral spelling && maxDigits < (spelling.filter Text.isAsciiDigit).length then none
      else some rest
  | [] => none

/-! ## Strings -/

/-- The marks that may stand in front of a string, in lower case. -/
def stringMarks : List Text :=
  ["r".toList, "u".toList, "b".toList, "f".toList, "br".toList, "rb".toList, "fr".toList,
    "rf".toList]

/-- A quote follows, perhaps after a mark of at most two letters: the length of the mark. -/
def stringMark? (t : Text) : Option Nat :=
  let isQuote : Option Char → Bool := fun c => c = some '\'' || c = some '"'
  let lower (n : Nat) : Text := (t.take n).map Char.toLower
  if isQuote t.head? then some 0
  else if isQuote t[1]? && stringMarks.contains (lower 1) then some 1
  else if isQuote t[2]? && stringMarks.contains (lower 2) then some 2
  else none

/-- The characters behind the closing quotes. `seen` quotes stand right before; `size` of them close
    the string. A backslash hides the character after it, and a short string ends on its line. -/
def stringTail (quote : Char) (size seen : Nat) : Text → Option Text
  | [] => none
  | c :: t =>
    if size = 1 && c = '\n' then none
    else if c = quote then
      if seen + 1 = size then some t else stringTail quote size (seen + 1) t
    else if c = '\\' then
      match t with
      | [] => none
      | _ :: r => stringTail quote size 0 r
    else stringTail quote size 0 t

/-- The characters behind a string that starts with its quote. -/
def string? : Text → Option Text
  | q :: t =>
    match t with
    | a :: b :: r =>
      if a = q && b = q then stringTail q 3 0 r
      else if a = q then some (b :: r)
      else stringTail q 1 0 t
    | [a] => if a = q then some [] else none
    | [] => none
  | [] => none

/-! ## Layout -/

/-- A level of indentation in both measures. -/
structure Level where
  col : Nat
  alt : Nat
deriving Repr, DecidableEq

/-- The state between two lexemes. Lexemes read so far are in reverse order. -/
structure State where
  rest : Text
  pos : Position
  /-- Levels of indentation, innermost first, above the level zero. -/
  levels : List Level := []
  /-- Open brackets, innermost first. -/
  brackets : Text := []
  found : List Lexeme := []

namespace State

/-- The position behind a text. -/
def advance (pos : Position) (t : Text) : Position :=
  t.foldl (fun p c => if c = '\n' then ⟨p.line + 1, 0⟩ else ⟨p.line, p.col + Utf8.width c⟩) pos

/-- Passes over a text in front of `rest`. -/
def skip (s : State) (text rest : Text) : State := { s with rest, pos := advance s.pos text }

/-- Adds the lexeme `text` in front of `rest`. -/
def push (s : State) (cls : LexemeClass) (text rest : Text) : State :=
  { s with rest, pos := advance s.pos text, found := ⟨cls, text, s.pos⟩ :: s.found }

/-- Adds the lexeme that reaches up to `rest`. -/
def pushUpTo (s : State) (cls : LexemeClass) (rest : Text) : State :=
  s.push cls (s.rest.take (s.rest.length - rest.length)) rest

/-- Adds a layout lexeme. -/
def mark (s : State) (cls : LexemeClass) : State := { s with found := ⟨cls, [], s.pos⟩ :: s.found }

/-- The innermost level of indentation. -/
def level (s : State) : Level := s.levels.head?.getD ⟨0, 0⟩

/-- More levels than this are refused. -/
def maxLevels : Nat := 99

/-- More open brackets than this are refused. -/
def maxBrackets : Nat := 200

/-- Closes the levels deeper than `col`. -/
def closeLevels (col : Nat) : List Level → State → State
  | [], s => { s with levels := [] }
  | l :: ls, s =>
    if col < l.col then closeLevels col ls (s.mark .dedent) else { s with levels := l :: ls }

/-- Takes the indentation of a line into account. -/
def indent (s : State) (l : Level) : Option State :=
  if l.col = s.level.col then
    if l.alt = s.level.alt then some s else none
  else if s.level.col < l.col then
    if maxLevels ≤ s.levels.length || l.alt ≤ s.level.alt then none
    else some { s.mark .indent with levels := l :: s.levels }
  else
    let closed := closeLevels l.col s.levels s
    if closed.level = l then some closed else none

/-- Reads the blanks at the front of a line. A form feed starts the count anew. A backslash joins
    the next line; if it stands behind blanks, those determine the indentation (`fixed`). Behind the last
    line end there is no line to join, unless an empty one is added there (`padded`). -/
def readIndent (padded : Bool) (col alt fixed : Nat) : Text → Option (Level × Text)
  | ' ' :: t => readIndent padded (col + 1) (alt + 1) fixed t
  | '\t' :: t => readIndent padded ((col / 8 + 1) * 8) (alt + 1) fixed t
  | '\x0c' :: t => readIndent padded 0 0 fixed t
  | '\\' :: t =>
    match t with
    | '\n' :: [] => if padded then some (⟨col, alt⟩, ['\n']) else none
    | '\n' :: r => readIndent padded col alt (if fixed = 0 then col else fixed) r
    | _ => none
  | t => some (if fixed = 0 then ⟨col, alt⟩ else ⟨fixed, fixed⟩, t)

/-- The start of a line: whether the line is blank, and the state behind the indentation. -/
def startLine (padded : Bool) (s : State) : Option (Bool × State) :=
  (readIndent padded 0 0 0 s.rest).bind fun (l, rest) =>
    let s := s.skip (s.rest.take (s.rest.length - rest.length)) rest
    let blank :=
      match rest with
      | '#' :: _ => true
      | '\n' :: _ => true
      | _ => false
    if blank || !s.brackets.isEmpty then some (blank, s) else (s.indent l).map (false, ·)

/-- The bracket that a closing bracket needs. -/
def opening : Char → Option Char
  | ')' => some '('
  | ']' => some '['
  | '\x7d' => some '\x7b'
  | _ => none

/-- Adds an operator and keeps track of brackets. -/
def pushOperator (s : State) (op rest : Text) : Option State :=
  let s' := s.push .op op rest
  match op with
  | [c] =>
    if c = '(' || c = '[' || c = '\x7b' then
      if maxBrackets ≤ s.brackets.length then none else some { s' with brackets := c :: s.brackets }
    else
      match opening c with
      | none => some s'
      | some o =>
        match s.brackets with
        | b :: bs => if b = o then some { s' with brackets := bs } else none
        | [] => none
  | _ => some s'

/-- Adds a name or keyword. -/
def pushName (s : State) : Option State :=
  let word := s.rest.takeWhile isNameChar
  let rest := s.rest.dropWhile isNameChar
  if !Text.isIdentifier word then none
  else some (s.push (if keywords.contains word then .keyword else .name) word rest)

/-- The text starts with a digit, or with a point and a digit. -/
def startsNumber : Text → Bool
  | '.' :: c :: _ => Text.isAsciiDigit c
  | c :: _ => Text.isAsciiDigit c
  | [] => false

/-- Adds the lexeme at the front; it starts with no blank, comment or line end. -/
def pushLexeme (s : State) (c : Char) : Option State :=
  match stringMark? s.rest with
  | some n => (string? (s.rest.drop n)).map (s.pushUpTo .string ·)
  | none =>
    if isNameStart c then pushName s
    else if startsNumber s.rest then (number? s.rest).map (s.pushUpTo .number ·)
    else
      match operators.find? (·.isPrefixOf s.rest) with
      | some op => s.pushOperator op (s.rest.drop op.length)
      | none => none

/-- Blanks between lexemes. -/
def isSpace (c : Char) : Bool := c = ' ' || c = '\t' || c = '\x0c'

/-- Reads lexemes up to the end, in at most `fuel` steps. `blank` says that the current line holds
    no lexeme, `fresh` that a line starts, and `padded` that an empty line is added behind the last one,
    so that a backslash may stand there. -/
def run (padded : Bool) : Nat → (fresh blank : Bool) → State → Option (List Lexeme)
  | 0, _, _, _ => none
  | fuel + 1, true, _, s => (s.startLine padded).bind fun (blank, s) => run padded fuel false blank s
  | fuel + 1, false, blank, s =>
    let s := s.skip (s.rest.takeWhile isSpace) (s.rest.dropWhile isSpace)
    match s.rest with
    | [] => if s.brackets.isEmpty then some ((s.mark .stop).found.reverse) else none
    | '#' :: t =>
      run padded fuel false blank (s.skip ('#' :: t.takeWhile (· ≠ '\n')) (t.dropWhile (· ≠ '\n')))
    | '\n' :: t =>
      let next := s.skip ['\n'] t
      if blank || !s.brackets.isEmpty then run padded fuel true false next
      else run padded fuel true false { next with found := ⟨.newline, [], s.pos⟩ :: s.found }
    | '\\' :: t =>
      match t with
      | '\n' :: [] => if padded then run padded fuel false blank (s.skip ['\\'] ['\n']) else none
      | '\n' :: r => run padded fuel false blank (s.skip ['\\', '\n'] r)
      | _ => none
    | c :: _ => (s.pushLexeme c).bind (run padded fuel false blank)

end State

/-- The lexemes of a text that starts inside a line at the given place. -/
def ofFragment? (pos : Position) (t : Text) : Option (List Lexeme) :=
  State.run false (2 * t.length + 2) false false { rest := t, pos }

/-- The lexemes of a source. A missing line feed at the end is added, and behind `\r\n` at the end an
    empty line. -/
def ofText? (source : Text) : Option (List Lexeme) :=
  if source.contains '\x00' then none
  else
    let t := source.unifyNewlines
    let t := if t.getLast? = some '\n' then t else t ++ ['\n']
    State.run ("\r\n".toList.isSuffixOf source) (2 * t.length + 4) true false
      { rest := t, pos := ⟨1, 0⟩ }

end Lexeme

end HouseStyle.Syntax
