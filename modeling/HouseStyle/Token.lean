import HouseStyle.Syntax.Lexeme

/-!
# Tokens

The token stream is a second, more forgiving view of a source. It keeps comments and blank line ends,
columns count characters, lines end at line feeds only, and what fits no token becomes an error token of
one character. It fails only when the source ends inside a string or a statement, or when a line is
indented to a column that no enclosing block has.

Names are found here because the syntax tree records where a class starts but not where its name
stands.

Main definitions:
* `Token`: a token with its spelling and start.
* `Token.match?`: the token at the front of a line, by the order of the token classes.
* `Token.ofText`: the tokens of a source.
-/

namespace HouseStyle

/-- The classes of tokens. -/
inductive TokenClass where
  | name | number | string | op | newline | nl | comment | indent | dedent | error | stop
deriving Repr, DecidableEq

/-- A token with its spelling, its line from one and its column from zero. -/
structure Token where
  cls : TokenClass
  text : Text
  line : Nat
  col : Nat
deriving Repr, DecidableEq

/-- Why a source has no token stream. -/
inductive TokenFault where
  /-- It ends inside the string that starts at this place. -/
  | openString (line col : Nat)
  /-- It ends, before this line, inside brackets or behind a backslash. -/
  | openStatement (line : Nat)
  /-- The line returns to a column that no enclosing block has. -/
  | unevenDedent (line : Nat)
deriving Repr, DecidableEq

/-- The wording of a fault. -/
def TokenFault.message : TokenFault → Text
  | .openString line col =>
    "('EOF in multi-line string', (" ++ Text.decimal line ++ ", " ++ Text.decimal col ++ "))"
  | .openStatement line => "('EOF in multi-line statement', (" ++ Text.decimal line ++ ", 0))"
  | .unevenDedent line =>
    "unindent does not match any outer indentation level (<tokenize>, line " ++ Text.decimal line
      ++ ")"

namespace Token

/-! ## Numbers

Each function gives what stands behind the part it describes. -/

/-- Digits with single underscores between them, behind a first digit. -/
def digitsTail (isDigit : Char → Bool) : Text → Text
  | '_' :: d :: t => if isDigit d then digitsTail isDigit t else '_' :: d :: t
  | c :: t => if isDigit c then digitsTail isDigit t else c :: t
  | [] => []

/-- One or more digits with single underscores between them. -/
def digits? (isDigit : Char → Bool) : Text → Option Text
  | c :: t => if isDigit c then some (digitsTail isDigit t) else none
  | [] => none

/-- One or more digits, perhaps with an underscore in front. -/
def markedDigits? (isDigit : Char → Bool) : Text → Option Text
  | '_' :: t => digits? isDigit t
  | t => digits? isDigit t

/-- One of two characters. -/
def oneOf? (a b : Char) : Text → Option Text
  | c :: t => if c = a || c = b then some t else none
  | [] => none

/-- Decimal digits. -/
def decimals? (t : Text) : Option Text := digits? Text.isAsciiDigit t

/-- A power of ten. -/
def exponent? (t : Text) : Option Text :=
  (oneOf? 'e' 'E' t).bind fun r => ((oneOf? '+' '-' r).bind decimals?) <|> decimals? r

/-- A fraction with a point, or digits with a power of ten. -/
def float? (t : Text) : Option Text :=
  let pointed :=
    ((decimals? t).bind fun r => (oneOf? '.' '.' r).map fun r => (decimals? r).getD r)
      <|> ((oneOf? '.' '.' t).bind decimals?)
  (pointed.map fun r => (exponent? r).getD r) <|> ((decimals? t).bind exponent?)

/-- An imaginary number. -/
def imaginary? (t : Text) : Option Text :=
  ((decimals? t).bind (oneOf? 'j' 'J')) <|> ((float? t).bind (oneOf? 'j' 'J'))

/-- A whole number with a radix mark. -/
def radix? (lower upper : Char) (radix : Nat) : Text → Option Text
  | '0' :: t => (oneOf? lower upper t).bind (markedDigits? (Syntax.Lexeme.isRadixDigit radix))
  | _ => none

/-- A whole number; only zero starts with a zero. -/
def whole? (t : Text) : Option Text :=
  radix? 'x' 'X' 16 t <|> radix? 'b' 'B' 2 t <|> radix? 'o' 'O' 8 t
    <|> (if t.head? = some '0' then digits? (· = '0') t else decimals? t)

/-- A number. -/
def number? (t : Text) : Option Text := imaginary? t <|> float? t <|> whole? t

/-! ## Strings -/

/-- What stands behind the quotes that close a string; `skip` characters are passed over. A
    backslash hides one character, but no line feed. -/
def stringEnd? (quote : Char) (triple : Bool) (skip : Nat) : Text → Option Text
  | [] => none
  | c :: t =>
    match skip with
    | k + 1 => stringEnd? quote triple k t
    | 0 =>
      if c = '\\' then
        if t.head? = some '\n' then none else stringEnd? quote triple 1 t
      else if c = quote then
        if !triple then some t
        else if t.take 2 = [quote, quote] then some (t.drop 2)
        else stringEnd? quote triple 0 t
      else stringEnd? quote triple 0 t

/-- What stands behind the first line of a short string: its closing quote, or a backslash at the
    end of the line. -/
def shortString? (quote : Char) (skip : Nat) : Text → Option Text
  | [] => none
  | c :: t =>
    match skip with
    | k + 1 => shortString? quote k t
    | 0 =>
      if c = '\n' then none
      else if c = quote then some t
      else if c = '\\' then
        if t.head? = some '\n' then some t.tail
        else if t.take 2 = ['\r', '\n'] then some (t.drop 2)
        else shortString? quote 1 t
      else shortString? quote 0 t

/-! ## One token -/

/-- What the front of a line is. -/
inductive Shape where
  /-- Nothing but blanks. -/
  | blank
  /-- A backslash at the end of the line. -/
  | continuation
  /-- The quotes of a long string. -/
  | longString (quote : Char)
  /-- The first line of a short string, perhaps not closed on it. -/
  | shortString (quote : Char)
  /-- Any other token. -/
  | plain (cls : TokenClass)
deriving Repr, DecidableEq

/-- A line feed with an optional carriage return. -/
def lineFeed? : Text → Option Text
  | '\n' :: t => some t
  | '\r' :: '\n' :: t => some t
  | _ => none

/-- A character that starts a string mark or string, with the number of characters in front of the
    quote. -/
def quote? (t : Text) : Option (Nat × Char) :=
  (Syntax.Lexeme.stringMark? t).bind fun n => t[n]?.map (n, ·)

/-- Three quotes, perhaps behind a mark. -/
def longQuote? (t : Text) : Option (Shape × Text) :=
  (quote? t).bind fun (n, q) =>
    if (t.drop n).take 3 = [q, q, q] then some (.longString q, t.drop (n + 3)) else none

/-- The first line of a short string. -/
def shortQuote? (t : Text) : Option (Shape × Text) :=
  (quote? t).bind fun (n, q) => (shortString? q 0 (t.drop (n + 1))).map (.shortString q, ·)

/-- An operator or delimiter. -/
def operator? (t : Text) : Option Text :=
  (Syntax.Lexeme.operators.find? fun o => o != "<>".toList && o.isPrefixOf t).map
    fun o => t.drop o.length

/-- A run of word characters; it is a name unless an identifier cannot start with its first one. -/
def word? (t : Text) : Option (Shape × Text) :=
  match t with
  | c :: _ =>
    if Text.isWordChar c then
      some (.plain (if Text.isIdentStart c then .name else .op), t.dropWhile Text.isWordChar)
    else none
  | [] => none

/-- The token at the front of a text without blanks in front: its shape and what stands behind. -/
def match? (t : Text) : Option (Shape × Text) :=
  match t with
  | [] => some (.blank, [])
  | '\\' :: r => (lineFeed? r).map (.continuation, ·)
  | '#' :: r => some (.plain .comment, r.dropWhile fun c => c ≠ '\r' && c ≠ '\n')
  | t =>
    longQuote? t
      <|> (number? t).map (.plain .number, ·)
      <|> (lineFeed? t).map (.plain .newline, ·)
      <|> (operator? t).map (.plain .op, ·)
      <|> shortQuote? t
      <|> word? t

/-! ## The stream -/

/-- A string that goes on over the end of a line. -/
structure OpenString where
  quote : Char
  triple : Bool
  text : Text
  line : Nat
  col : Nat

/-- The state between two lines. Tokens found so far are in reverse order. -/
structure Stream where
  /-- Opening brackets minus closing ones. -/
  depth : Int := 0
  /-- The line before ended in a backslash. -/
  continued : Bool := false
  /-- Columns of the enclosing blocks, innermost first. -/
  indents : List Nat := []
  openString : Option OpenString := none
  /-- The last short string over a line end was not closed by a quote. -/
  shortOpen : Bool := false
  found : List Token := []

namespace Stream

/-- Adds a token. -/
def add (s : Stream) (cls : TokenClass) (text : Text) (line col : Nat) : Stream :=
  { s with found := ⟨cls, text, line, col⟩ :: s.found }

/-- The blanks of a line between tokens. -/
def isSpace (c : Char) : Bool := c = ' ' || c = '\x0c' || c = '\t'

/-- Adds a plain token and keeps track of brackets. Inside brackets a line end is no end of a
    statement. -/
def addPlain (s : Stream) (cls : TokenClass) (text : Text) (line col : Nat) : Stream :=
  match cls with
  | .newline => s.add (if 0 < s.depth then .nl else .newline) text line col
  | .op =>
    let change : Int :=
      match text.head? with
      | some '(' => 1
      | some '[' => 1
      | some '\x7b' => 1
      | some ')' => -1
      | some ']' => -1
      | some '\x7d' => -1
      | _ => 0
    { s.add .op text line col with depth := s.depth + change }
  | cls => s.add cls text line col

/-- Reads the tokens of a line from a column on, at most `fuel` of them. -/
def scan : Nat → (line col : Nat) → Text → Stream → Stream
  | 0, _, _, _, s => s
  | fuel + 1, line, col, t, s =>
    match t with
    | [] => s
    | c :: rest =>
      let blanks := t.takeWhile isSpace
      let body := t.dropWhile isSpace
      let start := col + blanks.length
      match match? body with
      | none => scan fuel line (col + 1) rest (s.add .error [c] line col)
      | some (shape, behind) =>
        let text := body.take (body.length - behind.length)
        let next := start + text.length
        match shape with
        | .blank => s
        | .continuation => { s with continued := true }
        | .longString quote =>
          match stringEnd? quote true 0 behind with
          | some after =>
            let text := body.take (body.length - after.length)
            scan fuel line (start + text.length) after (s.add .string text line start)
          | none => { s with openString := some ⟨quote, true, body, line, start⟩ }
        | .shortString quote =>
          if text.getLast? = some '\n' then
            { s with openString := some ⟨quote, false, body, line, start⟩, shortOpen := true }
          else scan fuel line next behind (s.add .string text line start)
        | .plain cls => scan fuel line next behind (s.addPlain cls text line start)

/-- The column that the blanks in front of a line reach: tabs go to multiples of eight, and a form
    feed starts anew. -/
def column : Nat → Text → Nat
  | n, ' ' :: t => column (n + 1) t
  | n, '\t' :: t => column ((n / 8 + 1) * 8) t
  | _, '\x0c' :: t => column 0 t
  | n, _ => n

/-- Closes the blocks deeper than the column. -/
def closeBlocks (column line col : Nat) : List Nat → Stream → Stream
  | [], s => { s with indents := [] }
  | i :: is, s =>
    if column < i then closeBlocks column line col is (s.add .dedent [] line col)
    else { s with indents := i :: is }

/-- Opens or closes blocks at the start of a statement. -/
def indent (s : Stream) (line : Nat) (blanks : Text) : Except TokenFault Stream :=
  let n := column 0 blanks
  let current := s.indents.head?.getD 0
  if current < n then .ok { s.add .indent blanks line 0 with indents := n :: s.indents }
  else if n < current && n ≠ 0 && !s.indents.contains n then .error (.unevenDedent line)
  else .ok (closeBlocks n line blanks.length s.indents s)

/-- A line that starts a statement. -/
def startLine (s : Stream) (line : Nat) (t : Text) : Except TokenFault Stream :=
  let blanks := t.takeWhile isSpace
  let body := t.dropWhile isSpace
  let col := blanks.length
  let isEnd : Char → Bool := fun c => c = '\r' || c = '\n'
  match body with
  | [] => .ok s
  | '#' :: _ =>
    let comment := (body.reverse.dropWhile isEnd).reverse
    .ok ((s.add .comment comment line col).add .nl (body.drop comment.length) line
      (col + comment.length))
  | c :: _ =>
    if isEnd c then .ok (s.add .nl body line col)
    else (s.indent line blanks).map (scan (t.length + 1) line col body)

/-- The line ends in a backslash that joins the next one. -/
def endsJoined (t : Text) : Bool :=
  "\\\n".toList.isSuffixOf t || "\\\r\n".toList.isSuffixOf t

/-- A line inside a string. -/
def stringLine (s : Stream) (o : OpenString) (line : Nat) (t : Text) : Stream :=
  match stringEnd? o.quote o.triple 0 t with
  | some after =>
    let text := t.take (t.length - after.length)
    let s := s.add .string (o.text ++ text) o.line o.col
    scan (t.length + 1) line text.length after { s with openString := none, shortOpen := false }
  | none =>
    if s.shortOpen && !endsJoined t then
      { s.add .error (o.text ++ t) o.line o.col with openString := none }
    else { s with openString := some { o with text := o.text ++ t } }

/-- Takes the next line. -/
def step (s : Stream) (line : Nat) (t : Text) : Except TokenFault Stream :=
  match s.openString with
  | some o => .ok (s.stringLine o line t)
  | none =>
    if s.depth = 0 && !s.continued then s.startLine line t
    else .ok (scan (t.length + 1) line 0 t { s with continued := false })

/-- Takes all lines from the given number on. -/
def run (line : Nat) (s : Stream) : List Text → Except TokenFault Stream
  | [] =>
    match s.openString with
    | some o => .error (.openString o.line o.col)
    | none =>
      if s.depth ≠ 0 || s.continued then .error (.openStatement line)
      else
        let closed := s.indents.foldl (fun s _ => s.add .dedent [] line 0) s
        .ok (closed.add .stop [] line 0)
  | t :: ts =>
    match s.step line t with
    | .ok s => run (line + 1) s ts
    | .error e => .error e

end Stream

/-- The tokens of a source. -/
def ofText (source : Text) : Except TokenFault (List Token) :=
  (Stream.run 1 {} source.newlineLines).map (·.found.reverse)

end Token

end HouseStyle
