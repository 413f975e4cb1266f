import HouseStyle.Syntax.Pattern

/-!
# The grammar of statements

Simple statements stand on one line, several of them with semicolons between. Compound statements
have blocks, which are indented lines or simple statements on the same line. `Node.ofText?` reads a
whole source.
-/

namespace HouseStyle.Syntax

namespace Grammar

open HouseStyle.Syntax.Parser

/-! ## Simple statements -/

/-- The operators of augmented assignments. -/
def augmentedOperators : List Text :=
  ["+=".toList, "-=".toList, "*=".toList, "@=".toList, "/=".toList, "%=".toList, "&=".toList,
    "|=".toList, "^=".toList, "<<=".toList, ">>=".toList, "**=".toList, "//=".toList]

/-- The rest of an assignment behind `target =`: further targets, then the value. The targets so far
    are in reverse order. -/
def assignment (g : Grammar) : Nat → List Node → Parser Node
  | 0, _ => failure
  | fuel + 1, found => do
    if ← atKeyword "yield" then
      let y ← g.yielding
      return .plain .assign (found.reverse ++ [y])
    else
      let e ← g.expressions
      if ← opIf "=" then
        guard (e.isTarget true)
        assignment g fuel (e :: found)
      else return .plain .assign (found.reverse ++ [e])

/-- An expression, an assignment, or an annotated or augmented one. -/
def expressionStatement (g : Grammar) : Parser Node := do
  let first ← g.expressions
  if ← opIf ":" then
    guard first.isSingleTarget
    let annotation ← g.expression
    let value ← if ← opIf "=" then do pure [← g.value] else pure []
    return .plain .annAssign (first :: annotation :: value)
  else if ← opIf "=" then
    guard (first.isTarget true)
    g.assignment (g.fuel + 1) [first]
  else
    let augmented ← Parser.optional (opOf augmentedOperators)
    if augmented.isEmpty then return .plain .expr [first]
    else
      guard first.isSingleTarget
      return .plain .augAssign [first, ← g.value]

/-- A name with dots in an import. -/
def moduleName (g : Grammar) : Parser Unit := do
  let _ ← ident
  let _ ← many (do let _ ← op "."; ident) g.fuel

/-- An optional `as` name. -/
def newName : Parser Node := do
  if ← keywordIf "as" then let _ ← ident
  return .plain .importAlias []

/-- `import a.b as c, d`. -/
def importStatement (g : Grammar) : Parser Node := do
  let _ ← keyword "import"
  return .plain .import (← sepByComma (do g.moduleName; newName) g.fuel)

/-- `from .a import b as c, d`. -/
def importFromStatement (g : Grammar) : Parser Node := do
  let _ ← keyword "from"
  let dots ← many (opOf [".".toList, "...".toList]) g.fuel
  if dots.isEmpty then g.moduleName
  else let _ ← Parser.optional g.moduleName
  let _ ← keyword "import"
  if ← opIf "*" then return .plain .importFrom [.plain .importAlias []]
  else if ← opIf "(" then
    let first ← importedName
    let others ← if ← opIf "," then commaItems importedName g.fuel else pure []
    let _ ← op ")"
    return .plain .importFrom (first :: others)
  else return .plain .importFrom (← sepByComma importedName g.fuel)
where
  /-- A name with an optional `as` name. -/
  importedName : Parser Node := do
    let _ ← ident
    newName

/-- Something to delete. -/
def deleteTarget (g : Grammar) : Parser Node := do
  let t ← g.primary
  guard (t.isTarget false)
  return t

/-- `del a, b`. -/
def deleteStatement (g : Grammar) : Parser Node := do
  let _ ← keyword "del"
  let first ← g.deleteTarget
  let others ← if ← opIf "," then commaItems g.deleteTarget g.fuel else pure []
  return .plain .delete (first :: others)

/-- `raise`, with an optional exception and cause. -/
def raiseStatement (g : Grammar) : Parser Node := do
  let _ ← keyword "raise"
  match ← Parser.optional g.expression with
  | [] => return .plain .raise []
  | e :: _ => return .plain .raise (e :: (← if ← keywordIf "from" then do pure [← g.expression]
      else pure []))

/-- `assert` with an optional message. -/
def assertStatement (g : Grammar) : Parser Node := do
  let _ ← keyword "assert"
  let test ← g.expression
  let message ← if ← opIf "," then do pure [← g.expression] else pure []
  return .plain .assert (test :: message)

/-- A statement that is one keyword. -/
def bareStatement (kind : Kind) : Parser Node := do
  let _ ← ofClass .keyword
  return .plain kind []

/-- `global` or `nonlocal` with names. -/
def scopeStatement (g : Grammar) (kind : Kind) : Parser Node := do
  let _ ← ofClass .keyword
  let _ ← sepByComma ident g.fuel
  return .plain kind []

/-- A statement within a line. -/
def simpleStatement (g : Grammar) : Parser Node := do
  let l ← peek
  if l.cls != .keyword then g.expressionStatement
  else if l.text == "return".toList then
    let _ ← ofClass .keyword
    return .plain .return (← Parser.optional g.expressions)
  else if l.text == "import".toList then g.importStatement
  else if l.text == "from".toList then g.importFromStatement
  else if l.text == "raise".toList then g.raiseStatement
  else if l.text == "pass".toList then bareStatement .pass
  else if l.text == "del".toList then g.deleteStatement
  else if l.text == "yield".toList then return .plain .expr [← g.yielding]
  else if l.text == "assert".toList then g.assertStatement
  else if l.text == "break".toList then bareStatement .break
  else if l.text == "continue".toList then bareStatement .continue
  else if l.text == "global".toList then g.scopeStatement .global
  else if l.text == "nonlocal".toList then g.scopeStatement .nonlocal
  else g.expressionStatement

/-- The end of a line. -/
def lineEnd : Parser Unit := do let _ ← ofClass .newline

/-- Simple statements on one line, with semicolons between and perhaps at the end. -/
def simpleLine (g : Grammar) : Parser (List Node) := do
  let first ← g.simpleStatement
  let others ← many (do let _ ← op ";"; g.simpleStatement) g.fuel
  let _ ← opIf ";"
  lineEnd
  return first :: others

/-! ## Compound statements -/

/-- The block of a compound statement, from its colon on. -/
def block (g : Grammar) : Parser (List Node) := do
  let _ ← op ":"
  if (← peek).cls == .newline then
    lineEnd
    let _ ← ofClass .indent
    let body ← g.statements
    let _ ← ofClass .dedent
    return body
  else g.simpleLine

/-- An optional `else` block. -/
def elseBlock (g : Grammar) : Parser (List Node) := do
  if ← keywordIf "else" then g.block else return []

/-- A condition with its block, at the given keyword. -/
def conditionBlock (g : Grammar) (word : Text) : Parser (Position × Node × List Node) := do
  let l ← keyword word
  let test ← g.named
  return (l.pos, test, ← g.block)

/-- `if` with its `elif` and `else` parts; each `elif` is the only statement of the `else` part
    before it. -/
def ifStatement (g : Grammar) : Parser Node := do
  let (pos, test, body) ← g.conditionBlock "if"
  let further ← many (g.conditionBlock "elif") g.fuel
  let last ← g.elseBlock
  return .branch pos test body
    (further.foldr (fun (pos, test, body) orelse => [.branch pos test body orelse]) last)

/-- `while`. -/
def whileStatement (g : Grammar) : Parser Node := do
  let (_, test, body) ← g.conditionBlock "while"
  return .loop .while [test] body (← g.elseBlock)

/-- `for`, behind an optional `async`. -/
def forStatement (g : Grammar) (kind : LoopKind) : Parser Node := do
  let _ ← keyword "for"
  let target ← g.targets
  let _ ← keyword "in"
  let iter ← g.expressions
  let body ← g.block
  return .loop kind [target, iter] body (← g.elseBlock)

/-- An item of a `with` statement. -/
def withItem (g : Grammar) : Parser Node := do
  let context ← g.expression
  if ← keywordIf "as" then return .plain .withItem [context, ← g.target]
  else return .plain .withItem [context]

/-- The items of a `with` statement in parentheses. -/
def parenthesizedItems (g : Grammar) : Parser (List Node) := do
  let _ ← op "("
  let first ← g.withItem
  let others ← if ← opIf "," then commaItems g.withItem g.fuel else pure []
  let _ ← op ")"
  guard (← atOp ":")
  return first :: others

/-- `with`, behind an optional `async`. -/
def withStatement (g : Grammar) (kind : Kind) : Parser Node := do
  let _ ← keyword "with"
  let items ← g.parenthesizedItems <|> sepByComma g.withItem g.fuel
  return .plain kind (items ++ (← g.block))

/-- An `except` clause; with a star it needs a type. -/
def exceptClause (g : Grammar) (star : Bool) : Parser Node := do
  let _ ← keyword "except"
  if star then let _ ← op "*"
  if !star && (← atOp ":") then return .handler [] (← g.block)
  else
    let type ← g.expression
    if ← keywordIf "as" then let _ ← ident
    return .handler [type] (← g.block)

/-- `try` with its clauses: at least one `except`, all with a star or all without, or `finally`. -/
def tryStatement (g : Grammar) : Parser Node := do
  let _ ← keyword "try"
  let body ← g.block
  let plainClauses ← many (g.exceptClause false) g.fuel
  let starClauses ← if plainClauses.isEmpty then many (g.exceptClause true) g.fuel else pure []
  let clauses := plainClauses ++ starClauses
  let orelse ← if clauses.isEmpty then pure [] else g.elseBlock
  let hasFinally ← atKeyword "finally"
  guard (hasFinally || !clauses.isEmpty)
  let final ← if ← keywordIf "finally" then g.block else pure []
  let kind : Kind := if starClauses.isEmpty then .try else .tryStar
  return .plain kind (body ++ clauses ++ orelse ++ final)

/-- A function definition, at the place of its `def` or `async`. -/
def functionStatement (g : Grammar) (isAsync : Bool) (start : Option Position)
    (decorators : List Node) : Parser Node := do
  let l ← keyword "def"
  let name ← ident
  let _ ← op "("
  let args ← g.parameters true ")"
  let _ ← op ")"
  let returns ← if ← opIf "->" then do pure [← g.expression] else pure []
  let body ← g.block
  return .function isAsync name (start.getD l.pos) args body decorators returns

/-- A class definition. -/
def classStatement (g : Grammar) (decorators : List Node) : Parser Node := do
  let l ← keyword "class"
  let name ← ident
  let (bases, keywords) ←
    if ← opIf "(" then do
      let r ← g.arguments false
      let _ ← op ")"
      pure r
    else pure ([], [])
  let body ← g.block
  return .classDef name l.pos bases keywords body decorators

/-- A statement behind `async`, at whose place functions stand. -/
def asyncStatement (g : Grammar) : Parser Node := do
  let l ← keyword "async"
  if ← atKeyword "def" then g.functionStatement true (some l.pos) []
  else if ← atKeyword "with" then g.withStatement .asyncWith
  else g.forStatement .asyncFor

/-- Decorators with the function or class under them. -/
def decoratedStatement (g : Grammar) : Parser Node := do
  let decorators ← many1 (do
    let _ ← op "@"
    let d ← g.named
    lineEnd
    return d) g.fuel
  if ← atKeyword "class" then g.classStatement decorators
  else if ← atKeyword "async" then
    let l ← keyword "async"
    g.functionStatement true (some l.pos) decorators
  else g.functionStatement false none decorators

/-- A `case` with its optional guard. -/
def caseBlock (g : Grammar) : Parser Node := do
  let _ ← softKeyword "case"
  let pattern ← g.casePattern
  let condition ← if ← keywordIf "if" then do pure [← g.named] else pure []
  return .case pattern condition (← g.block)

/-- `match` with its cases. -/
def matchStatement (g : Grammar) : Parser Node := do
  let _ ← softKeyword "match"
  let subject ← g.itemOrTuple g.displayItem
  guard (!subject.isStarred)
  let _ ← op ":"
  lineEnd
  let _ ← ofClass .indent
  let cases ← many1 g.caseBlock g.fuel
  let _ ← ofClass .dedent
  return .matching subject cases

/-- A compound statement, or the simple statements of a line. -/
def statement (g : Grammar) : Parser (List Node) := do
  let l ← peek
  if l.cls == .name && l.text == "match".toList then
    (do return [← g.matchStatement]) <|> g.simpleLine
  else if l.cls == .op && l.text == "@".toList then return [← g.decoratedStatement]
  else if l.cls != .keyword then g.simpleLine
  else if l.text == "if".toList then return [← g.ifStatement]
  else if l.text == "def".toList then return [← g.functionStatement false none []]
  else if l.text == "class".toList then return [← g.classStatement []]
  else if l.text == "for".toList then return [← g.forStatement .for]
  else if l.text == "while".toList then return [← g.whileStatement]
  else if l.text == "with".toList then return [← g.withStatement .with]
  else if l.text == "try".toList then return [← g.tryStatement]
  else if l.text == "async".toList then return [← g.asyncStatement]
  else g.simpleLine

/-- One or more statements. -/
def statementsBody (g : Grammar) : Parser (List Node) := do
  return (← many1 g.statement (g.fuel + 1)).flatten

/-! ## The whole grammar -/

/-- The floor above a floor. -/
def above (g : Grammar) : Grammar where
  fuel := g.fuel + 1
  expression := g.expressionBody
  disjunction := g.disjunctionBody
  inversion := g.inversionBody
  bitwiseOr := g.bitwiseOrBody
  factor := g.factorBody
  primary := g.primaryBody
  pattern := g.patternBody
  statements := g.statementsBody

/-- The lowest floor, on which nothing can be read. -/
def ground : Grammar where
  fuel := 0
  expression := failure
  disjunction := failure
  inversion := failure
  bitwiseOr := failure
  factor := failure
  primary := failure
  pattern := failure
  statements := failure

/-- The floor of the given height. -/
def floor : Nat → Grammar
  | 0 => ground
  | n + 1 => (floor n).above

/-- A whole source. -/
def file (g : Grammar) : Parser Node := do
  let body ← if (← peek).cls == .stop then pure [] else g.statements
  let _ ← ofClass .stop
  return .plain .module body

end Grammar

/-- The syntax tree of a source, if it is a Python module. -/
def Node.ofText? (source : Text) : Option Node := do
  let lexemes ← Lexeme.ofText? source
  let (tree, _) ← (Grammar.floor (2 * source.unifyNewlines.length + 8)).file.run lexemes
  return tree

end HouseStyle.Syntax
