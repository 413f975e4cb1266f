import HouseStyle.Syntax.Lexeme

/-!
# String literals

The grammar asks of a string literal whether its escapes are well-formed and, when it is a formatted
literal, which expressions stand in its braces. `Literal.ofLexeme` takes a literal apart,
`Literal.isValid` checks the escapes, and `Literal.fields?` finds the replacement fields.

In a formatted literal doubled braces stand for braces (outside of format specifications), an
expression must not hold a backslash or a hash sign and ends at `!`, `:`, `=` or the closing brace
outside of its own brackets and strings. A format specification may hold fields of its own, and those
hold no further fields in theirs.
-/

namespace HouseStyle.Syntax

/-- A string literal: its marks, the text between its quotes and the place of that text. -/
structure Literal where
  isBytes : Bool
  isRaw : Bool
  isFormatted : Bool
  body : Text
  pos : Position
deriving Repr, DecidableEq

/-- A replacement field: the text of its expression, the place of its opening brace, and the fields
    of its format specification if it has one. -/
inductive Field where
  | mk (expression : Text) (pos : Position) (spec : Option (List Field))

namespace Literal

/-- Takes a string lexeme apart. -/
def ofLexeme (l : Lexeme) : Literal :=
  let isQuote : Char → Bool := fun c => c = '\'' || c = '"'
  let marks := (l.text.takeWhile fun c => !isQuote c).map Char.toLower
  let quoted := l.text.dropWhile fun c => !isQuote c
  let q := quoted.head?.getD '"'
  let size := if quoted.length ≥ 6 && quoted.take 3 = [q, q, q] then 3 else 1
  { isBytes := marks.contains 'b'
    isRaw := marks.contains 'r'
    isFormatted := marks.contains 'f'
    body := (quoted.drop size).take (quoted.length - 2 * size)
    pos := ⟨l.pos.line, l.pos.col + marks.length + size⟩ }

/-! ## Escapes -/

/-- So many hexadecimal digits at the front: their value and the rest. -/
def hexDigits? : Nat → Nat → Text → Option (Nat × Text)
  | 0, value, t => some (value, t)
  | n + 1, value, c :: t =>
    match Text.hexDigit? c with
    | some d => hexDigits? n (value * 16 + d) t
    | none => none
  | _ + 1, _, [] => none

/-- The escapes of a text literal are well-formed; `skip` characters belong to an escape already
    read. What stands between the braces of a named character may be any text: there is no table of names
    here, so names that no character has are not refused. -/
def textEscapes (skip : Nat) : Text → Bool
  | [] => true
  | c :: t =>
    match skip with
    | k + 1 => textEscapes k t
    | 0 =>
      if c = '\\' then
        match t with
        | 'x' :: r => (hexDigits? 2 0 r).isSome && textEscapes 3 t
        | 'u' :: r => (hexDigits? 4 0 r).isSome && textEscapes 5 t
        | 'U' :: r =>
          match hexDigits? 8 0 r with
          | some (value, _) => value < 0x110000 && textEscapes 9 t
          | none => false
        | 'N' :: r =>
          match r with
          | '\x7b' :: name =>
            let length := (name.takeWhile (· ≠ '\x7d')).length
            0 < length && length < name.length && textEscapes (length + 3) t
          | _ => false
        | _ => textEscapes 1 t
      else textEscapes 0 t

/-- The escapes of a byte literal are well-formed. -/
def byteEscapes (skip : Nat) : Text → Bool
  | [] => true
  | c :: t =>
    match skip with
    | k + 1 => byteEscapes k t
    | 0 =>
      if c = '\\' then
        match t with
        | 'x' :: r => (hexDigits? 2 0 r).isSome && byteEscapes 3 t
        | _ => byteEscapes 1 t
      else byteEscapes 0 t

/-- A literal without fields is well-formed: bytes are ASCII, and escapes are complete. -/
def isValid (l : Literal) : Bool :=
  if l.isBytes then l.body.all (·.toNat < 0x80) && (l.isRaw || byteEscapes 0 l.body)
  else l.isRaw || textEscapes 0 l.body

/-! ## Replacement fields -/

/-- A stretch of literal text up to a brace. The next `skip` characters are taken as they are, and
    `named` says that the stretch is inside the braces of a named character. The result is the
    stretch, whether literal text goes on (after doubled braces), the place behind it and the
    rest. -/
def literalText (top raw named : Bool) (skip : Nat) (acc : Text) (pos : Position) :
    Text → Option (Text × Bool × Position × Text)
  | [] => some (acc.reverse, false, pos, [])
  | c :: t =>
    let behind := Lexeme.State.advance pos [c]
    match skip with
    | k + 1 => literalText top raw named k (c :: acc) behind t
    | 0 =>
      if named then literalText top raw (c ≠ '\x7d') 0 (c :: acc) behind t
      else if c = '\\' && !raw then
        if t.take 2 = ['N', '\x7b'] then literalText top raw true 2 (c :: acc) behind t
        else
          literalText top raw false (if t.head? = some '\x7b' || t.head? = some '\x7d' then 0 else 1)
            (c :: acc) behind t
      else if c = '\x7b' || c = '\x7d' then
        if top && t.head? = some c then
          some ((c :: acc).reverse, true, Lexeme.State.advance behind [c], t.tail)
        else if top && c = '\x7d' then none
        else some (acc.reverse, false, pos, c :: t)
      else literalText top raw false 0 (c :: acc) behind t

/-- The string that an expression is in: its quote, and whether three of them close it. -/
structure Quote where
  char : Char
  isTriple : Bool
deriving Repr, DecidableEq

/-- Three quotes in a row, the first of them already read. -/
def isTripled (c : Char) (t : Text) : Bool := t.take 2 = [c, c]

/-- The expression of a field up to the character that ends it. The next `skip` characters are taken
    as they are, `quote` is the string that the text is in, and `stack` holds the open brackets. -/
def expressionText (quote : Option Quote) (skip : Nat) (stack acc : Text) :
    Text → Option (Text × Text)
  | [] => none
  | c :: t =>
    match skip with
    | k + 1 => expressionText quote k stack (c :: acc) t
    | 0 =>
      if c = '\\' then none
      else
        match quote with
        | some q =>
          if c ≠ q.char then expressionText quote 0 stack (c :: acc) t
          else if !q.isTriple then expressionText none 0 stack (c :: acc) t
          else if isTripled c t then expressionText none 2 stack (c :: acc) t
          else expressionText quote 0 stack (c :: acc) t
        | none =>
          if c = '\'' || c = '"' then
            if isTripled c t then expressionText (some ⟨c, true⟩) 2 stack (c :: acc) t
            else expressionText (some ⟨c, false⟩) 0 stack (c :: acc) t
          else if c = '(' || c = '[' || c = '\x7b' then
            if Lexeme.State.maxBrackets ≤ stack.length then none
            else expressionText none 0 (c :: stack) (c :: acc) t
          else if c = '#' then none
          else if stack.isEmpty && (c = ':' || c = '\x7d') then some (acc.reverse, c :: t)
          else if stack.isEmpty && (c = '!' || c = '=' || c = '<' || c = '>') then
            if t.head? = some '=' then expressionText none 1 stack (c :: acc) t
            else if c = '<' || c = '>' then expressionText none 0 stack (c :: acc) t
            else some (acc.reverse, c :: t)
          else if c = ')' || c = ']' || c = '\x7d' then
            if Lexeme.State.opening c = stack.head? then
              expressionText none 0 stack.tail (c :: acc) t
            else none
          else expressionText none 0 stack (c :: acc) t

/-- Only blanks. -/
def isEmptyExpression (t : Text) : Bool :=
  t.all fun c => c = ' ' || c = '\t' || c = '\n' || c = '\x0c'

/-- An equals sign that asks for the text of the expression, with the blanks after it. -/
def dropEquals : Text → Text
  | '=' :: t => t.dropWhile fun c => c = ' ' || (9 ≤ c.toNat && c.toNat ≤ 13)
  | t => t

/-- A conversion: `!` with `s`, `r` or `a`. -/
def dropConversion? : Text → Option Text
  | '!' :: c :: t => if c = 's' || c = 'r' || c = 'a' then some t else none
  | ['!'] => none
  | t => some t

/-- The place behind the characters of `t` that are no longer in `rest`. -/
def placeBehind (pos : Position) (t rest : Text) : Position :=
  Lexeme.State.advance pos (t.take (t.length - rest.length))

/-- The fields of a formatted literal, or of a format specification at depth one or two, with the
    place and the text behind them; at most `fuel` stretches of text. -/
def fieldsFrom (raw : Bool) : Nat → (depth : Nat) → Position → Text →
    Option (List Field × Position × Text)
  | 0, _, _, _ => none
  | fuel + 1, depth, pos, t => do
    let (text, more, pos, rest) ← literalText (depth == 0) raw false 0 [] pos t
    guard (raw || textEscapes 0 text)
    if more then fieldsFrom raw fuel depth pos rest
    else
      match rest with
      | '\x7b' :: body => do
        guard (depth < 2)
        let (expression, after) ← expressionText none 0 [] [] body
        guard (!isEmptyExpression expression)
        let after ← dropConversion? (dropEquals after)
        match after with
        | ':' :: spec => do
          let (inner, specPos, behind) ←
            fieldsFrom raw fuel (depth + 1) (placeBehind pos rest spec) spec
          match behind with
          | '\x7d' :: r => do
            let (others, last) ← fieldsFrom raw fuel depth (Lexeme.State.advance specPos ['\x7d']) r
            some (.mk expression pos (some inner) :: others, last)
          | _ => none
        | '\x7d' :: r => do
          let (others, last) ← fieldsFrom raw fuel depth (placeBehind pos rest r) r
          some (.mk expression pos none :: others, last)
        | _ => none
      | _ => some ([], pos, rest)

/-- The fields of a formatted literal. -/
def fields? (l : Literal) : Option (List Field) :=
  match fieldsFrom l.isRaw (l.body.length + 1) 0 l.pos l.body with
  | some (fs, _, []) => some fs
  | _ => none

end Literal

end HouseStyle.Syntax
