import HouseStyle.Value

/-!
# Scalars of TOML documents

Strings, numbers, dates and times as TOML 1.0 writes them. Every reader takes a text and gives what
stands at its front with the rest of the text.

Main definitions:
* `Fault`: why a text is no document.
* `stringAt?`, `numberAt?`, `dateAt?`, `timeAt?`: the kinds of scalars.
* `scalar`: the scalar at the front of a text.
-/

namespace HouseStyle.Toml

/-- Why a text is no document. -/
inductive Fault where
  | malformed
  /-- A decimal integer has more digits than are read. -/
  | tooManyDigits (count : Nat)
deriving Repr, DecidableEq

/-- What stands at the front of a text, and the rest. -/
abbrev Read (α : Type) := Except Fault (α × Text)

/-- Puts a character in front of a text that was read. -/
def push (c : Char) : Read Text → Read Text
  | .ok (s, r) => .ok (c :: s, r)
  | .error e => .error e

/-! ## Characters -/

/-- Blanks inside a line. -/
def isSpace (c : Char) : Bool := c = ' ' || c = '\t'

/-- Blanks and the line end. -/
def isGap (c : Char) : Bool := isSpace c || c = '\n'

/-- Control characters other than the tab; they stand in no comment and in no string of one line. -/
def isControl (c : Char) : Bool := (c.toNat < 32 && c ≠ '\t') || c.toNat = 127

/-- Control characters that stand in no string of several lines. -/
def isControlInLines (c : Char) : Bool := isControl c && c ≠ '\n'

/-- Letters, digits, hyphen and underscore, of which bare keys are made. -/
def isBare (c : Char) : Bool :=
  Text.isAsciiLower c || Text.isAsciiUpper c || Text.isAsciiDigit c || c = '-' || c = '_'

/-! ## Strings -/

/-- A literal string of one line, behind its opening quote. -/
def literal : Text → Read Text
  | [] => .error .malformed
  | c :: t =>
    if c = '\'' then .ok ([], t)
    else if isControl c then .error .malformed
    else push c (literal t)

/-- A literal string of several lines, behind its opening quotes. -/
def literalLines : Text → Read Text
  | [] => .error .malformed
  | '\'' :: '\'' :: '\'' :: t => .ok ([], t)
  | c :: t => if isControlInLines c then .error .malformed else push c (literalLines t)

/-- The character whose code is written with `size` hexadecimal digits. -/
def codePoint (size : Nat) (t : Text) : Read Text :=
  let digits := t.take size
  let code := Text.readHex digits
  if digits.length = size && digits.all (fun c => (Text.hexDigit? c).isSome)
      && (code < 0xD800 || (0xE000 ≤ code && code < 0x110000)) then
    .ok ([Char.ofNat code], t.drop size)
  else .error .malformed

/-- What stands behind a backslash at the end of a line: the line end and all blanks after it are
    dropped. Behind a blank, the line must end or the text must stop. -/
def continued (c : Char) (t : Text) : Read Text :=
  if c = '\n' then .ok ([], t.dropWhile isGap)
  else
    match t.dropWhile isSpace with
    | [] => .ok ([], [])
    | d :: r => if d = '\n' then .ok ([], r.dropWhile isGap) else .error .malformed

/-- The text that a sequence behind a backslash stands for. -/
def escape (severalLines : Bool) : Text → Read Text
  | [] => .error .malformed
  | c :: t =>
    if severalLines && isGap c then continued c t
    else
      match c with
      | 'u' => codePoint 4 t
      | 'U' => codePoint 8 t
      | 'b' => .ok (['\x08'], t)
      | 't' => .ok (['\t'], t)
      | 'n' => .ok (['\n'], t)
      | 'f' => .ok (['\x0c'], t)
      | 'r' => .ok (['\r'], t)
      | '"' => .ok (['"'], t)
      | '\\' => .ok (['\\'], t)
      | _ => .error .malformed

/-- A string with escapes, behind its opening quotes. The fuel is at least the length of the
    text. -/
def basic (severalLines : Bool) : Nat → Text → Read Text
  | 0, _ => .error .malformed
  | _ + 1, [] => .error .malformed
  | fuel + 1, c :: t =>
    if c = '"' then
      match severalLines, t with
      | false, _ => .ok ([], t)
      | true, '"' :: '"' :: r => .ok ([], r)
      | true, _ => push c (basic severalLines fuel t)
    else if c = '\\' then
      match escape severalLines t with
      | .error e => .error e
      | .ok (s, r) => (basic severalLines fuel r).map fun p => (s ++ p.1, p.2)
    else if if severalLines then isControlInLines c else isControl c then .error .malformed
    else push c (basic severalLines fuel t)

/-- At most two quotes behind the closing ones belong to the string. -/
def extraQuotes (quote : Char) : Text × Text → Text × Text
  | (s, c :: d :: r) =>
    if c = quote then if d = quote then (s ++ [c, d], r) else (s ++ [c], d :: r)
    else (s, c :: d :: r)
  | (s, [c]) => if c = quote then (s ++ [c], []) else (s, [c])
  | (s, []) => (s, [])

/-- A line end right behind the opening quotes does not count. -/
def dropLineEnd : Text → Text
  | '\n' :: t => t
  | t => t

/-- A string with escapes on one line, behind its opening quote. -/
def basicLine (t : Text) : Read Text := basic false t.length t

/-- The string at the front of a text, if it starts with a quote. -/
def stringAt? : Text → Option (Read Text)
  | '"' :: '"' :: '"' :: t => some ((basic true t.length (dropLineEnd t)).map (extraQuotes '"'))
  | '"' :: t => some (basicLine t)
  | '\'' :: '\'' :: '\'' :: t => some ((literalLines (dropLineEnd t)).map (extraQuotes '\''))
  | '\'' :: t => some (literal t)
  | _ => none

/-! ## Numbers -/

/-- Digits with single underscores between them, behind a first digit; the underscores are
    dropped. -/
def digitRun (isDigit : Char → Bool) : Text → Text × Text
  | '_' :: d :: t =>
    if isDigit d then ((d :: (digitRun isDigit t).1), (digitRun isDigit t).2) else ([], '_' :: d :: t)
  | d :: t => if isDigit d then ((d :: (digitRun isDigit t).1), (digitRun isDigit t).2) else ([], d :: t)
  | [] => ([], [])

/-- One digit or more, with single underscores between them. -/
def digitsAt? (isDigit : Char → Bool) : Text → Option (Text × Text)
  | d :: t => if isDigit d then some (d :: (digitRun isDigit t).1, (digitRun isDigit t).2) else none
  | [] => none

/-- The radix of a mark behind a zero. -/
def radixOf? : Char → Option Nat
  | 'x' => some 16
  | 'o' => some 8
  | 'b' => some 2
  | _ => none

/-- The digit belongs to the radix. -/
def isDigitOf (radix : Nat) (c : Char) : Bool :=
  match Text.hexDigit? c with
  | some d => d < radix
  | none => false

/-- The number that digits of a radix write. -/
def ofDigits (radix : Nat) (ds : Text) : Nat :=
  ds.foldl (fun n c => n * radix + (Text.hexDigit? c).getD 0) 0

/-- An integer with a radix mark. -/
def radixIntegerAt? : Text → Option (Value × Text)
  | '0' :: m :: t => do
    let radix ← radixOf? m
    let (ds, r) ← digitsAt? (isDigitOf radix) t
    return (.int (ofDigits radix ds), r)
  | _ => none

/-- A sign at the front of a text. -/
def signAt : Text → Text × Text
  | '+' :: t => (['+'], t)
  | '-' :: t => (['-'], t)
  | t => ([], t)

/-- The digits in front of a point: a zero, or digits that do not start with zero. -/
def wholeAt? : Text → Option (Text × Text)
  | '0' :: t => some (['0'], t)
  | t => digitsAt? Text.isAsciiDigit t

/-- A point with digits behind it, or nothing. -/
def partAt : Text → Text × Text
  | '.' :: t =>
    match digitsAt? Text.isAsciiDigit t with
    | some (ds, r) => ('.' :: ds, r)
    | none => ([], '.' :: t)
  | t => ([], t)

/-- A power of ten, or nothing. -/
def powerAt : Text → Text × Text
  | [] => ([], [])
  | c :: t =>
    if c = 'e' || c = 'E' then
      let (sign, u) := signAt t
      match digitsAt? Text.isAsciiDigit u with
      | some (ds, r) => ('e' :: sign ++ ds, r)
      | none => ([], c :: t)
    else ([], c :: t)

/-- Decimal integers with more digits than this are not read. -/
def maxDigits : Nat := 4300

/-- The integer of a sign and digits. -/
def integer (sign whole : Text) : Except Fault Value :=
  if maxDigits < whole.length then .error (.tooManyDigits whole.length)
  else
    let n : Int := ofDigits 10 whole
    .ok (.int (if sign = ['-'] then -n else n))

/-- A decimal integer, or a fraction if it has a point or a power of ten. -/
def decimalAt? (t : Text) : Option (Read Value) := do
  let (sign, t) := signAt t
  let (whole, t) ← wholeAt? t
  let (part, t) := partAt t
  let (power, t) := powerAt t
  if part.isEmpty && power.isEmpty then return (integer sign whole).map (·, t)
  else return .ok (.fraction (Fraction.read (sign ++ whole ++ part ++ power)), t)

/-- An infinity or the value that is no number. -/
def specialAt? (t : Text) : Option (Value × Text) :=
  let (sign, u) := signAt t
  let word := u.take 3
  if word = "inf".toList || word = "nan".toList then
    some (.fraction (Fraction.read (sign ++ word)), u.drop 3)
  else none

/-- The number at the front of a text. -/
def numberAt? (t : Text) : Option (Read Value) :=
  match radixIntegerAt? t with
  | some r => some (.ok r)
  | none =>
    match decimalAt? t with
    | some r => some r
    | none => (specialAt? t).map .ok

/-! ## Dates and times -/

/-- Two digits that write a number in a range. -/
def twoDigits (least most : Nat) : Text → Option (Nat × Text)
  | a :: b :: t =>
    let n := Text.readDecimal [a, b]
    if Text.isAsciiDigit a && Text.isAsciiDigit b && least ≤ n && n ≤ most then some (n, t) else none
  | _ => none

/-- The text behind a character that it starts with. -/
def after? (c : Char) : Text → Option Text
  | d :: t => if c = d then some t else none
  | [] => none

/-- The rest of a text behind a time with seconds and perhaps parts of seconds. -/
def timeAt? (t : Text) : Option Text := do
  let (_, t) ← twoDigits 0 23 t
  let (_, t) ← twoDigits 0 59 (← after? ':' t)
  let (_, t) ← twoDigits 0 59 (← after? ':' t)
  match t with
  | '.' :: d :: r => if Text.isAsciiDigit d then return r.dropWhile Text.isAsciiDigit else return t
  | _ => return t

/-- The distance of a clock from universal time. -/
def zoneAt? (t : Text) : Option Text :=
  match t with
  | c :: r =>
    if c = 'Z' || c = 'z' then some r
    else if c = '+' || c = '-' then do
      let (_, r) ← twoDigits 0 23 r
      let (_, r) ← twoDigits 0 59 (← after? ':' r)
      return r
    else none
  | [] => none

/-- The length of a month. -/
def monthLength (year month : Nat) : Nat :=
  if month = 2 then
    if year % 4 = 0 && (year % 100 ≠ 0 || year % 400 = 0) then 29 else 28
  else if month = 4 || month = 6 || month = 9 || month = 11 then 30
  else 31

/-- What follows a date: a separator, a time and perhaps a zone, or nothing. -/
def behindDate (t : Text) : Text :=
  match t with
  | c :: r =>
    if c = 'T' || c = 't' || c = ' ' then
      match timeAt? r with
      | some u => (zoneAt? u).getD u
      | none => t
    else t
  | [] => []

/-- A date with perhaps a time of day. A date that is in no calendar is malformed. -/
def dateAt? (t : Text) : Option (Read Value) := do
  let (century, t) ← twoDigits 0 99 t
  let (short, t) ← twoDigits 0 99 t
  let (month, t) ← twoDigits 1 12 (← after? '-' t)
  let (day, t) ← twoDigits 1 31 (← after? '-' t)
  let year := 100 * century + short
  if 0 < year && day ≤ monthLength year month then return .ok (.other, behindDate t)
  else return .error .malformed

/-! ## Scalars -/

/-- A truth value. -/
def truthAt? (t : Text) : Option (Value × Text) :=
  if ("true".toList).isPrefixOf t then some (.bool true, t.drop 4)
  else if ("false".toList).isPrefixOf t then some (.bool false, t.drop 5)
  else none

/-- The scalar at the front of a text. Dates and times come before numbers, which their first digits
    would be. -/
def scalar (t : Text) : Read Value :=
  match stringAt? t with
  | some r => r.map fun p => (.text p.1, p.2)
  | none =>
    match truthAt? t with
    | some r => .ok r
    | none =>
      match dateAt? t with
      | some r => r
      | none =>
        match timeAt? t with
        | some r => .ok (.other, r)
        | none => (numberAt? t).getD (.error .malformed)

end HouseStyle.Toml
