import HouseStyle.Syntax.Expression

/-!
# The grammar of `case` patterns

Captures, wildcards, literals, dotted values, groups, sequences, mappings and class patterns, joined by
`|` and bound by `as`.
-/

namespace HouseStyle.Syntax.Grammar

open HouseStyle.Syntax.Parser

/-- A name with the given spelling. -/
def softKeyword (text : Text) : Parser Lexeme := exactly .name text

/-- No attribute, call or keyword follows. -/
def plainEnd : Parser Unit := do
  guard (!(← atOp ".") && !(← atOp "(") && !(← atOp "="))

/-- A name to bind: not the wildcard. -/
def captureName : Parser Unit := do
  let l ← ofClass .name
  guard (l.text != "_".toList)
  plainEnd

/-- A name with attributes. -/
def dottedName (g : Grammar) : Parser (Node × Nat) := do
  let first ← ident
  let attributes ← many (do let _ ← op "."; ident) g.fuel
  return (attributes.foldl .attribute (.name first), attributes.length)

/-- An imaginary number is at the front. -/
def isImaginary (l : Lexeme) : Bool :=
  match l.text.getLast? with
  | some c => c = 'j' || c = 'J'
  | none => false

/-- A number, perhaps negative, or a real number with an imaginary part added or subtracted. -/
def numberPattern : Parser Node := do
  let negative ← opIf "-"
  let first ← ofClass .number
  let number : Node := if negative then .plain .unaryOp [.constant] else .constant
  if (← atOp "+") || (← atOp "-") then
    let _ ← ofClass .op
    let second ← ofClass .number
    guard (!isImaginary first && isImaginary second)
    return .plain .binOp [number, .constant]
  else return number

/-- A literal as a value to compare with. -/
def literalPattern (g : Grammar) : Parser Node := do
  let l ← peek
  match l.cls with
  | .string => return .plain .matchValue [← g.strings]
  | .keyword =>
    guard (l.text == "None".toList || l.text == "True".toList || l.text == "False".toList)
    let _ ← ofClass .keyword
    return .plain .matchSingleton []
  | _ => return .plain .matchValue [← numberPattern]

/-- A literal as a key of a mapping pattern. -/
def literalKey (g : Grammar) : Parser Node := do
  match ← g.literalPattern with
  | .plain .matchValue [n] => return n
  | _ => return .constant

/-- A starred name in a sequence pattern. -/
def starPattern : Parser Node := do
  let _ ← op "*"
  let l ← ofClass .name
  if l.text != "_".toList then plainEnd
  return .plain .matchStar []

/-- An item of a sequence pattern. -/
def sequenceItem (g : Grammar) : Parser Node := do
  if ← atOp "*" then starPattern else g.pattern

/-- A sequence pattern without brackets: at least one comma. -/
def openSequence (g : Grammar) : Parser Node := do
  let first ← g.sequenceItem
  let _ ← op ","
  return .plain .matchSequence (first :: (← commaItems g.sequenceItem g.fuel))

/-- A pattern or a sequence pattern in parentheses. -/
def groupPattern (g : Grammar) : Parser Node := do
  let _ ← op "("
  if ← opIf ")" then return .plain .matchSequence []
  else
    let first ← g.sequenceItem
    if ← opIf "," then
      let others ← commaItems g.sequenceItem g.fuel
      let _ ← op ")"
      return .plain .matchSequence (first :: others)
    else
      match first with
      | .plain .matchStar _ => failure
      | _ =>
        let _ ← op ")"
        return first

/-- A sequence pattern in brackets. -/
def bracketPattern (g : Grammar) : Parser Node := do
  let _ ← op "["
  let items ← commaItems g.sequenceItem g.fuel
  let _ ← op "]"
  return .plain .matchSequence items

/-- An entry of a mapping pattern. -/
def mappingEntry (g : Grammar) : Parser (Node × Node) := do
  let l ← peek
  let key ←
    if l.cls == .name then do
      let (n, attributes) ← g.dottedName
      guard (attributes != 0)
      pure n
    else g.literalKey
  let _ ← op ":"
  return (key, ← g.pattern)

/-- A mapping pattern: entries, and at last perhaps a name for all others. -/
def mappingPattern (g : Grammar) : Parser Node := do
  let _ ← op "\x7b"
  let entries ← commaEntries (g.fuel + 1)
  return .plain .matchMapping (entries.map (·.1) ++ entries.map (·.2))
where
  /-- The entries up to the closing brace, which is taken. -/
  commaEntries : Nat → Parser (List (Node × Node))
    | 0 => failure
    | fuel + 1 => do
      if ← opIf "\x7d" then return []
      else if ← opIf "**" then
        captureName
        let _ ← opIf ","
        let _ ← op "\x7d"
        return []
      else
        let entry ← g.mappingEntry
        if ← opIf "," then return entry :: (← commaEntries fuel)
        else
          let _ ← op "\x7d"
          return [entry]

/-- The patterns of a class pattern up to the closing parenthesis, which is taken: positional ones,
    then those with keywords. -/
def classArguments (g : Grammar) : Nat → (keywords : Bool) → Parser (List Node)
  | 0, _ => failure
  | fuel + 1, keywords => do
    if ← opIf ")" then return []
    else
      let byKeyword ← atNameAnd "="
      if byKeyword then
        let _ ← ident
        let _ ← op "="
      guard (byKeyword || !keywords)
      let p ← g.pattern
      if ← opIf "," then return p :: (← classArguments g fuel byKeyword)
      else
        let _ ← op ")"
        return [p]

/-- A wildcard, a capture, a dotted value or a class pattern. -/
def namePattern (g : Grammar) : Parser Node := do
  if ← take? .name "_" then return .plain .matchAs []
  else
    let (n, attributes) ← g.dottedName
    if ← opIf "(" then
      return .plain .matchClass (n :: (← g.classArguments (g.fuel + 1) false))
    else
      plainEnd
      if attributes = 0 then return .plain .matchAs [] else return .plain .matchValue [n]

/-- A pattern without `|` and `as`. -/
def closedPattern (g : Grammar) : Parser Node := do
  let l ← peek
  if l.cls == .name then g.namePattern
  else if l.cls == .op && l.text == "(".toList then g.groupPattern
  else if l.cls == .op && l.text == "[".toList then g.bracketPattern
  else if l.cls == .op && l.text == "\x7b".toList then g.mappingPattern
  else g.literalPattern

/-- Alternatives joined by `|`, perhaps bound by `as`. -/
def patternBody (g : Grammar) : Parser Node := do
  let first ← g.closedPattern
  let others ← many (do let _ ← op "|"; g.closedPattern) g.fuel
  let choice : Node := if others.isEmpty then first else .plain .matchOr (first :: others)
  if ← keywordIf "as" then
    captureName
    return .plain .matchAs [choice]
  else return choice

/-- The pattern of a `case`, perhaps a sequence without brackets. -/
def casePattern (g : Grammar) : Parser Node := g.openSequence <|> g.pattern

end HouseStyle.Syntax.Grammar
