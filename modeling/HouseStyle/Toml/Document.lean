import HouseStyle.Toml.Scalar
import HouseStyle.Toml.Table

/-!
# TOML documents

`Toml.document` reads a text in the format TOML 1.0 with line ends `\n`. Statements take effect one
after the other, so that the first fault in the text is the one reported.
-/

namespace HouseStyle.Toml

/-- A reader takes characters from the front of a text. -/
abbrev Reader := StateT Text (Except Fault)

namespace Reader

/-! ## Characters -/

/-- The text is no document. -/
def fail {α : Type} : Reader α := fun _ => .error .malformed

/-- Makes a missing result a fault. -/
def ofOption {α : Type} : Option α → Reader α
  | some a => pure a
  | none => fail

/-- Drops blanks. -/
def spaces : Reader Unit := fun t => .ok ((), t.dropWhile isSpace)

/-- Takes the character if it is at the front. -/
def takeIf (c : Char) : Reader Bool
  | [] => .ok (false, [])
  | d :: t => if c = d then .ok (true, t) else .ok (false, d :: t)

/-- Takes the character. -/
def expect (c : Char) : Reader Unit := do if ← takeIf c then pure () else fail

/-- Drops blanks, line ends and comments. -/
def gapFrom (inComment : Bool) : Text → Except Fault Text
  | [] => .ok []
  | c :: t =>
    if inComment then
      if c = '\n' then gapFrom false t
      else if isControl c then .error .malformed
      else gapFrom true t
    else if isGap c then gapFrom false t
    else if c = '#' then gapFrom true t
    else .ok (c :: t)

/-- Drops blanks, line ends and comments. -/
def gap : Reader Unit := fun t => (gapFrom false t).map ((), ·)

/-- Drops a comment. -/
def comment : Reader Unit
  | '#' :: t =>
    if (t.takeWhile (· ≠ '\n')).any isControl then .error .malformed
    else .ok ((), t.dropWhile (· ≠ '\n'))
  | t => .ok ((), t)

/-! ## Keys -/

/-- A part of a key: bare, or a string on one line. -/
def keyPart : Reader Text
  | [] => .error .malformed
  | c :: t =>
    if isBare c then .ok ((c :: t).takeWhile isBare, (c :: t).dropWhile isBare)
    else if c = '\'' then literal t
    else if c = '"' then basicLine t
    else .error .malformed

/-- A key: parts with dots between them. Gives the parts in front of the last one, and the last. -/
def keyFrom (path : List Text) : Nat → Reader (List Text × Text)
  | 0 => fail
  | fuel + 1 => do
    let part ← keyPart
    spaces
    if ← takeIf '.' then
      spaces
      keyFrom (path ++ [part]) fuel
    else return (path, part)

/-- A key. -/
def key : Reader (List Text × Text) := do keyFrom [] ((← get).length + 1)

/-! ## Values -/

mutual

/-- A value. -/
def value : Nat → Reader Value
  | 0 => fail
  | fuel + 1 => do
    if ← takeIf '[' then
      gap
      return .list (← items fuel)
    else if ← takeIf '\x7b' then
      spaces
      if ← takeIf '\x7d' then return .table []
      else return .table (Entries.toPairs (← pairs fuel []))
    else fun t => scalar t

/-- The values of a list up to its closing bracket. -/
def items : Nat → Reader (List Value)
  | 0 => fail
  | fuel + 1 => do
    if ← takeIf ']' then return []
    let v ← value fuel
    gap
    if ← takeIf ']' then return [v]
    expect ','
    gap
    return v :: (← items fuel)

/-- The entries of a table in braces up to its closing brace. -/
def pairs : Nat → Entries → Reader Entries
  | 0, _ => fail
  | fuel + 1, es => do
    let (path, last) ← key
    expect '='
    spaces
    let v ← value fuel
    let es ← ofOption (es.define 0 path last v)
    spaces
    if ← takeIf '\x7d' then return es
    expect ','
    spaces
    pairs fuel es

end

/-! ## Statements -/

/-- The table that statements add to, and the document so far. -/
structure State where
  /-- The number of headers so far. -/
  number : Nat := 0
  /-- The path of the last header. -/
  header : List Text := []
  entries : Entries := []

/-- A key with its value. -/
def pair (s : State) : Reader State := do
  let (path, last) ← key
  expect '='
  spaces
  let v ← value (2 * (← get).length + 2)
  let es ← ofOption (s.entries.modifyAt (Entries.define s.number path last v) s.header)
  spaces
  return { s with entries := es }

/-- A header, of a table or of a further table in a list. -/
def header (s : State) : Reader State := do
  expect '['
  let listed ← takeIf '['
  spaces
  let (path, last) ← key
  expect ']'
  if listed then expect ']'
  let number := s.number + 1
  let es ← ofOption <|
    if listed then s.entries.addTable path last else s.entries.openTable number path last
  spaces
  return { number, header := path ++ [last], entries := es }

/-- The statement on a line, if there is one. -/
def statement (s : State) : Reader State := do
  match ← get with
  | [] => return s
  | c :: _ =>
    if c = '[' then header s
    else if isBare c || c = '"' || c = '\'' then pair s
    else return s

/-- All lines. -/
def lines : Nat → State → Reader State
  | 0, _ => fail
  | fuel + 1, s => do
    spaces
    let s ← statement s
    comment
    if (← get).isEmpty then return s
    expect '\n'
    lines fuel s

end Reader

/-- The table that a document describes. -/
def document (t : Text) : Except Fault (List (Value × Value)) :=
  match Reader.lines (t.length + 1) {} t with
  | .ok (s, _) => .ok (Entries.toPairs s.entries)
  | .error e => .error e

end HouseStyle.Toml
