import HouseStyle.Syntax.Lexeme
import HouseStyle.Text.Normal

/-!
# Parsers over lexemes

A parser takes lexemes from the front of a list and gives a result with the rest, or fails; a
failure takes nothing, so that `<|>` tries its right side on the same lexemes.

The grammar is recursive. Its parsers are therefore written over a record `Grammar` of those parsers
that recursive uses go to, and the records are stacked: each floor is built from the one below. A
recursive use comes after at least one character of the source, hence a stack as high as the source is
long never runs out.
-/

namespace HouseStyle.Syntax

/-- A parser over lexemes. -/
abbrev Parser := StateT (List Lexeme) Option

/-- The parsers that recursive uses go to. -/
structure Grammar where
  /-- The number of floors below; also a bound for repetitions. -/
  fuel : Nat
  /-- An expression. -/
  expression : Parser Node
  /-- An expression without a conditional or lambda on its top. -/
  disjunction : Parser Node
  /-- Operands of `not`. -/
  inversion : Parser Node
  /-- Operands of comparisons. -/
  bitwiseOr : Parser Node
  /-- Operands of signs and powers. -/
  factor : Parser Node
  /-- Names with attributes, calls and subscripts. -/
  primary : Parser Node
  /-- A pattern of a `case`. -/
  pattern : Parser Node
  /-- One or more statements. -/
  statements : Parser (List Node)

namespace Parser

/-! ## Single lexemes -/

/-- The lexeme at the front, which stays. -/
def peek : Parser Lexeme
  | [] => none
  | l :: ls => some (l, l :: ls)

/-- The lexeme at the front has the class and spelling. -/
def at? (cls : LexemeClass) (text : Text) : Parser Bool
  | [] => some (false, [])
  | l :: ls => some (l.cls == cls && l.text == text, l :: ls)

/-- Takes a lexeme of the class and spelling if it is at the front. -/
def take? (cls : LexemeClass) (text : Text) : Parser Bool
  | [] => some (false, [])
  | l :: ls => if l.cls == cls && l.text == text then some (true, ls) else some (false, l :: ls)

/-- Takes a lexeme of the class. -/
def ofClass (cls : LexemeClass) : Parser Lexeme
  | [] => none
  | l :: ls => if l.cls == cls then some (l, ls) else none

/-- Takes the lexeme of the class and spelling. -/
def exactly (cls : LexemeClass) (text : Text) : Parser Lexeme
  | [] => none
  | l :: ls => if l.cls == cls && l.text == text then some (l, ls) else none

/-- Takes an operator. -/
def op (text : Text) : Parser Lexeme := exactly .op text

/-- Takes a keyword. -/
def keyword (text : Text) : Parser Lexeme := exactly .keyword text

/-- The operator is at the front. -/
def atOp (text : Text) : Parser Bool := at? .op text

/-- The keyword is at the front. -/
def atKeyword (text : Text) : Parser Bool := at? .keyword text

/-- Takes the operator if it is at the front. -/
def opIf (text : Text) : Parser Bool := take? .op text

/-- Takes the keyword if it is at the front. -/
def keywordIf (text : Text) : Parser Bool := take? .keyword text

/-- Takes one of the operators. -/
def opOf (texts : List Text) : Parser Lexeme
  | [] => none
  | l :: ls => if l.cls == .op && texts.contains l.text then some (l, ls) else none

/-- Takes a name in its normal form. -/
def ident : Parser Text := do return (← ofClass .name).text.normalize

/-- A name with the given operator behind it is at the front. -/
def atNameAnd (text : Text) : Parser Bool
  | n :: o :: ls =>
    some (n.cls == .name && o.cls == .op && o.text == text, n :: o :: ls)
  | ls => some (false, ls)

/-- A comprehension goes on: `for`, or `async`. -/
def atFor : Parser Bool := do return (← atKeyword "for") || (← atKeyword "async")

/-! ## Repetition -/

/-- As often as the parser succeeds, at most `fuel` times. -/
def many {α : Type} (p : Parser α) : Nat → Parser (List α)
  | 0 => pure []
  | fuel + 1 => (do
      let x ← p
      let xs ← many p fuel
      return x :: xs) <|> pure []

/-- At least once. -/
def many1 {α : Type} (p : Parser α) (fuel : Nat) : Parser (List α) := do
  let x ← p
  return x :: (← many p fuel)

/-- An optional part as a list of at most one element. -/
def optional {α : Type} (p : Parser α) : Parser (List α) :=
  (do return [← p]) <|> pure []

/-- Items with commas between them and perhaps one at the end; there may be none. -/
def commaItems {α : Type} (p : Parser α) : Nat → Parser (List α)
  | 0 => pure []
  | fuel + 1 => (do
      let x ← p
      if ← opIf "," then return x :: (← commaItems p fuel) else return [x]) <|> pure []

/-- One or more items with commas between them. -/
def sepByComma {α : Type} (p : Parser α) (fuel : Nat) : Parser (List α) := do
  let x ← p
  return x :: (← many (do let _ ← op ","; p) fuel)

/-- Operands of left-associative binary operators. -/
def leftAssoc (operators : List Text) (p : Parser Node) (fuel : Nat) : Parser Node := do
  let first ← p
  let others ← many (do let _ ← opOf operators; p) fuel
  return others.foldl (fun a b => .plain .binOp [a, b]) first

end Parser

end HouseStyle.Syntax
