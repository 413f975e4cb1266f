import HouseStyle.Syntax.Literal
import HouseStyle.Syntax.Parser

/-!
# The grammar of expressions

Each definition is a parser for one form of expression, from atoms up to lists of starred
expressions. Targets of assignments are expressions of a restricted form (`Node.isTarget`).
-/

namespace HouseStyle.Syntax

namespace Node

/-- A starred expression. -/
def isStarred : Node → Bool
  | .plain .starred _ => true
  | _ => false

/-- A name, an attribute or a subscript. -/
def isSingleTarget : Node → Bool
  | .name _ => true
  | .attribute .. => true
  | .subscript .. => true
  | _ => false

mutual

/-- Something to assign to: a single target, a starred target, or a tuple or list of targets. When
    `stars` is false, starred targets are excluded. -/
def isTarget (stars : Bool) : Node → Bool
  | .name _ => true
  | .attribute .. => true
  | .subscript .. => true
  | .plain .starred ns => stars && areTargets stars ns
  | .plain .tuple ns => areTargets stars ns
  | .plain .list ns => areTargets stars ns
  | _ => false

/-- All are targets. -/
def areTargets (stars : Bool) : List Node → Bool
  | [] => true
  | n :: ns => isTarget stars n && areTargets stars ns

end

/-- A tuple of nodes. -/
def tuple (ns : List Node) : Node := .plain .tuple ns

/-- A literal. -/
def constant : Node := .plain .constant []

end Node

namespace Grammar

open HouseStyle.Syntax.Parser

/-! ## Named and starred expressions -/

/-- An expression, perhaps bound to a name by `:=`. -/
def named (g : Grammar) : Parser Node := do
  if ← atNameAnd ":=" then
    let id ← ident
    let _ ← op ":="
    return .plain .namedExpr [.name id, ← g.expression]
  else g.expression

/-- A starred operand. -/
def starred (g : Grammar) : Parser Node := do
  let _ ← op "*"
  return .plain .starred [← g.bitwiseOr]

/-- An item of a list display: a starred operand or a named expression. -/
def displayItem (g : Grammar) : Parser Node := do
  if ← atOp "*" then g.starred else g.named

/-- An item of an expression list: a starred operand or an expression. -/
def listItem (g : Grammar) : Parser Node := do
  if ← atOp "*" then g.starred else g.expression

/-- One item, or a tuple of items with commas. -/
def itemOrTuple (g : Grammar) (item : Parser Node) : Parser Node := do
  let first ← item
  if ← opIf "," then return .tuple (first :: (← commaItems item g.fuel)) else return first

/-- A list of expressions without parentheses. -/
def expressions (g : Grammar) : Parser Node := g.itemOrTuple g.listItem

/-- A `yield` expression. -/
def yielding (g : Grammar) : Parser Node := do
  let _ ← keyword "yield"
  if ← keywordIf "from" then return .plain .yieldFrom [← g.expression]
  else return .plain .yield (← Parser.optional g.expressions)

/-- A `yield` expression or a list of expressions. -/
def value (g : Grammar) : Parser Node := do
  if ← atKeyword "yield" then g.yielding else g.expressions

/-! ## Targets and comprehensions -/

/-- A target with an optional star. -/
def target (g : Grammar) : Parser Node := do
  let star ← opIf "*"
  let t ← g.primary
  guard (t.isTarget true)
  return if star then .plain .starred [t] else t

/-- One target or a tuple of targets. -/
def targets (g : Grammar) : Parser Node := g.itemOrTuple g.target

/-- One `for` of a comprehension with its conditions. -/
def forClause (g : Grammar) : Parser Node := do
  let _ ← keywordIf "async"
  let _ ← keyword "for"
  let target ← g.targets
  let _ ← keyword "in"
  let iter ← g.disjunction
  let conditions ← many (do let _ ← keyword "if"; g.disjunction) g.fuel
  return .plain .comprehension (target :: iter :: conditions)

/-- The `for` clauses of a comprehension. -/
def forClauses (g : Grammar) : Parser (List Node) := many1 g.forClause g.fuel

/-! ## Parameters -/

/-- Parameters in the order of their groups. -/
structure Parameters where
  positionalOnly : List Node := []
  regular : List Node := []
  variadic : List Node := []
  keywordOnly : List Node := []
  keywordDefaults : List Node := []
  variadicKeyword : List Node := []
  defaults : List Node := []

/-- The node of the parameters. -/
def Parameters.toNode (p : Parameters) : Node :=
  .plain .arguments (p.positionalOnly ++ p.regular ++ p.variadic ++ p.keywordOnly
    ++ p.keywordDefaults ++ p.variadicKeyword ++ p.defaults)

/-- A parameter with its optional annotation; lambdas have none. -/
def parameter (g : Grammar) (annotated : Bool) : Parser Node := do
  let _ ← ident
  if annotated then
    if ← opIf ":" then return .plain .arg [← g.expression]
  return .plain .arg []

/-- A parameter for further arguments; its annotation may be starred. -/
def variadicParameter (g : Grammar) (annotated : Bool) : Parser Node := do
  let _ ← ident
  if annotated then
    if ← opIf ":" then return .plain .arg [← g.listItem]
  return .plain .arg []

/-- A parameter is followed by a comma or the closing lexeme. -/
def parameterEnd (close : Text) : Parser Unit := do
  if ← opIf "," then return () else guard (← atOp close)

/-- Parameters up to the closing lexeme: positional ones, a slash that makes those before it
    positional only, then after a star those given by keyword only, and at last one for all other
    keywords. Before the star, no parameter without default follows one with default. `starred`
    says that the star has been seen, `pending` that a bare star still needs a parameter. -/
def parametersFrom (g : Grammar) (annotated : Bool) (close : Text) :
    Nat → (starred pending : Bool) → Parameters → Parser Parameters
  | 0, _, _, _ => failure
  | fuel + 1, starred, pending, p => do
    if ← atOp close then
      guard (!pending)
      return p
    else if ← opIf "/" then
      guard (!starred && p.positionalOnly.isEmpty && !p.regular.isEmpty)
      parameterEnd close
      parametersFrom g annotated close fuel starred pending
        { p with positionalOnly := p.regular, regular := [] }
    else if ← opIf "**" then
      guard (!pending)
      let arg ← g.parameter annotated
      parameterEnd close
      guard (← atOp close)
      return { p with variadicKeyword := [arg] }
    else if ← opIf "*" then
      guard (!starred)
      if ← opIf "," then parametersFrom g annotated close fuel true true p
      else
        let arg ← g.variadicParameter annotated
        parameterEnd close
        parametersFrom g annotated close fuel true false { p with variadic := [arg] }
    else
      let arg ← g.parameter annotated
      let default ← if ← opIf "=" then do pure [← g.expression] else pure []
      parameterEnd close
      if starred then
        parametersFrom g annotated close fuel true false
          { p with keywordOnly := p.keywordOnly ++ [arg]
                   keywordDefaults := p.keywordDefaults ++ default }
      else
        guard (p.defaults.isEmpty || !default.isEmpty)
        parametersFrom g annotated close fuel false false
          { p with regular := p.regular ++ [arg], defaults := p.defaults ++ default }

/-- Parameters up to the closing lexeme, which stays. -/
def parameters (g : Grammar) (annotated : Bool) (close : Text) : Parser Node := do
  return (← g.parametersFrom annotated close (g.fuel + 1) false false {}).toNode

/-- A lambda expression. -/
def lambda (g : Grammar) : Parser Node := do
  let l ← keyword "lambda"
  let args ← g.parameters false ":"
  let _ ← op ":"
  return .lambda l.pos args (← g.expression)

/-! ## Atoms -/

mutual

/-- The nodes of a field, given a parser for its expression. -/
def fieldNode (parse : Position → Text → Option Node) : Field → Option Node
  | .mk expression pos none => do return .plain .formattedValue [← parse pos expression]
  | .mk expression pos (some spec) => do
    let value ← parse pos expression
    return .plain .formattedValue [value, .plain .joinedStr (← fieldNodes parse spec)]

/-- The nodes of several fields. -/
def fieldNodes (parse : Position → Text → Option Node) : List Field → Option (List Node)
  | [] => some []
  | f :: fs => do return (← fieldNode parse f) :: (← fieldNodes parse fs)

end

/-- The expression of a field, read as if it stood in parentheses at the place of the brace. -/
def fieldExpression (g : Grammar) (pos : Position) (t : Text) : Option Node := do
  let lexemes ← Lexeme.ofFragment? pos ('(' :: t ++ [')'])
  let (node, rest) ← g.expression.run lexemes
  guard ((rest.map (·.cls)) == [.stop])
  return node

/-- One or more string literals in a row, all of bytes or none. -/
def strings (g : Grammar) : Parser Node := do
  let literals := (← many1 (ofClass .string) g.fuel).map Literal.ofLexeme
  guard (literals.all (·.isBytes) || literals.all (!·.isBytes))
  guard (literals.all fun l => l.isFormatted || l.isValid)
  if literals.any (·.isFormatted) then
    let fields ← (literals.filter (·.isFormatted)).mapM fun l =>
      (l.fields?.bind (fieldNodes g.fieldExpression) : Option (List Node))
    return .plain .joinedStr fields.flatten
  else return .constant

/-- What stands in parentheses: nothing, a `yield`, a generator, a tuple or one expression. -/
def parenthesized (g : Grammar) : Parser Node := do
  let _ ← op "("
  if ← opIf ")" then return .tuple []
  else if ← atKeyword "yield" then
    let y ← g.yielding
    let _ ← op ")"
    return y
  else
    let first ← g.displayItem
    if ← atFor then
      guard (!first.isStarred)
      let clauses ← g.forClauses
      let _ ← op ")"
      return .plain .generatorExp (first :: clauses)
    else if ← opIf "," then
      let others ← commaItems g.displayItem g.fuel
      let _ ← op ")"
      return .tuple (first :: others)
    else
      guard (!first.isStarred)
      let _ ← op ")"
      return first

/-- A list or a list comprehension. -/
def bracketed (g : Grammar) : Parser Node := do
  let _ ← op "["
  if ← opIf "]" then return .plain .list []
  else
    let first ← g.displayItem
    if ← atFor then
      guard (!first.isStarred)
      let clauses ← g.forClauses
      let _ ← op "]"
      return .plain .listComp (first :: clauses)
    else
      let others ← if ← opIf "," then commaItems g.displayItem g.fuel else pure []
      let _ ← op "]"
      return .plain .list (first :: others)

/-- An entry of a dictionary: keys (none for an unpacked one) and value. -/
def dictEntry (g : Grammar) : Parser (List Node × Node) := do
  if ← opIf "**" then return ([], ← g.bitwiseOr)
  else
    let key ← g.expression
    let _ ← op ":"
    return ([key], ← g.expression)

/-- The node of a dictionary: all keys, then all values. -/
def dictNode (entries : List (List Node × Node)) : Node :=
  .plain .dict (entries.flatMap (·.1) ++ entries.map (·.2))

/-- A dictionary from its second entry on. -/
def dictTail (g : Grammar) (first : List Node × Node) : Parser Node := do
  let others ← if ← opIf "," then commaItems g.dictEntry g.fuel else pure []
  let _ ← op "\x7d"
  return dictNode (first :: others)

/-- A set or set comprehension from its second item on. -/
def setTail (g : Grammar) (first : Node) : Parser Node := do
  if ← atFor then
    guard (!first.isStarred)
    let clauses ← g.forClauses
    let _ ← op "\x7d"
    return .plain .setComp (first :: clauses)
  else
    let others ← if ← opIf "," then commaItems g.displayItem g.fuel else pure []
    let _ ← op "\x7d"
    return .plain .set (first :: others)

/-- A dictionary, a set, or a comprehension of either. -/
def braced (g : Grammar) : Parser Node := do
  let _ ← op "\x7b"
  if ← opIf "\x7d" then return dictNode []
  else if ← atOp "**" then g.dictTail (← g.dictEntry)
  else if (← atOp "*") || (← atNameAnd ":=") then g.setTail (← g.displayItem)
  else
    let first ← g.expression
    if ← opIf ":" then
      let value ← g.expression
      if ← atFor then
        let clauses ← g.forClauses
        let _ ← op "\x7d"
        return .plain .dictComp (first :: value :: clauses)
      else g.dictTail ([first], value)
    else g.setTail first

/-- A name, a literal, or something in brackets. -/
def atom (g : Grammar) : Parser Node := do
  let l ← peek
  match l.cls with
  | .name => return .name (← ident)
  | .number =>
    let _ ← ofClass .number
    return .constant
  | .string => g.strings
  | .keyword =>
    if l.text == "None".toList || l.text == "True".toList || l.text == "False".toList then
      let _ ← ofClass .keyword
      return .constant
    else failure
  | .op =>
    if l.text == "(".toList then g.parenthesized
    else if l.text == "[".toList then g.bracketed
    else if l.text == "\x7b".toList then g.braced
    else
      let _ ← op "..."
      return .constant
  | _ => failure

/-! ## Calls and subscripts -/

/-- How far the arguments of a call have come. -/
inductive ArgumentPhase where
  /-- Anything may follow. -/
  | positional
  /-- A keyword has been seen: no positional argument may follow. -/
  | keyword
  /-- A `**` has been seen: no `*` may follow either. -/
  | unpacked
deriving Repr, DecidableEq

/-- The arguments of a call up to the closing parenthesis: positional ones and keywords. A generator
    may stand without parentheses of its own when `generator` allows it and it is alone. -/
def argumentsFrom (g : Grammar) (generator : Bool) :
    Nat → ArgumentPhase → Parser (List Node × List Node)
  | 0, _ => failure
  | fuel + 1, phase => do
    let more (phase : ArgumentPhase) : Parser (List Node × List Node) := do
      if ← opIf "," then argumentsFrom g false fuel phase
      else
        guard (← atOp ")")
        return ([], [])
    if ← atOp ")" then return ([], [])
    else if ← opIf "**" then
      let value ← g.expression
      let (args, kws) ← more .unpacked
      return (args, .plain .keyword [value] :: kws)
    else if ← opIf "*" then
      guard (phase != .unpacked)
      let value ← g.expression
      let (args, kws) ← more phase
      return (.plain .starred [value] :: args, kws)
    else if ← atNameAnd "=" then
      let _ ← ident
      let _ ← op "="
      let value ← g.expression
      let (args, kws) ← more (if phase == .unpacked then .unpacked else .keyword)
      return (args, .plain .keyword [value] :: kws)
    else
      guard (phase == .positional)
      let value ← g.named
      if ← atFor then
        guard generator
        let clauses ← g.forClauses
        guard (← atOp ")")
        return ([.plain .generatorExp (value :: clauses)], [])
      else
        let (args, kws) ← more phase
        return (value :: args, kws)

/-- The arguments of a call up to the closing parenthesis, which stays. -/
def arguments (g : Grammar) (generator : Bool) : Parser (List Node × List Node) :=
  g.argumentsFrom generator (g.fuel + 1) .positional

/-- The rest of a slice behind its first colon. -/
def sliceTail (g : Grammar) (lower : List Node) : Parser Node := do
  let upper ← Parser.optional g.expression
  let step ← if ← opIf ":" then Parser.optional g.expression else pure []
  return .plain .slice (lower ++ upper ++ step)

/-- An item of a subscript. -/
def subscriptItem (g : Grammar) : Parser Node := do
  if ← opIf ":" then g.sliceTail []
  else if ← opIf "*" then return .plain .starred [← g.expression]
  else if ← atNameAnd ":=" then g.named
  else
    let first ← g.expression
    if ← opIf ":" then g.sliceTail [first] else return first

/-- What stands in the brackets of a subscript. -/
def subscripts (g : Grammar) : Parser Node := do
  let first ← g.subscriptItem
  if ← opIf "," then return .tuple (first :: (← commaItems g.subscriptItem g.fuel))
  else if first.isStarred then return .tuple [first]
  else return first

/-- Attributes, calls and subscripts behind an expression. -/
def trailers (g : Grammar) : Nat → Node → Parser Node
  | 0, _ => failure
  | fuel + 1, n => do
    if ← opIf "." then
      let id ← ident
      trailers g fuel (.attribute n id)
    else if ← opIf "(" then
      let (args, kws) ← g.arguments true
      let _ ← op ")"
      trailers g fuel (.plain .call (n :: args ++ kws))
    else if ← opIf "[" then
      let index ← g.subscripts
      let _ ← op "]"
      trailers g fuel (.subscript n index)
    else return n

/-- An atom with what follows it. -/
def primaryBody (g : Grammar) : Parser Node := do g.trailers (g.fuel + 1) (← g.atom)

/-! ## Operators -/

/-- An awaited or plain primary expression, perhaps with a power. -/
def power (g : Grammar) : Parser Node := do
  let base ←
    if ← keywordIf "await" then do pure (Node.plain .await [← g.primaryBody]) else g.primaryBody
  if ← opIf "**" then return .plain .binOp [base, ← g.factor] else return base

/-- A signed or plain power. -/
def factorBody (g : Grammar) : Parser Node := do
  if (← atOp "+") || (← atOp "-") || (← atOp "~") then
    let _ ← ofClass .op
    return .plain .unaryOp [← g.factor]
  else g.power

/-- Products. -/
def product (g : Grammar) : Parser Node :=
  leftAssoc ["*".toList, "/".toList, "//".toList, "%".toList, "@".toList] g.factorBody g.fuel

/-- Sums. -/
def sum (g : Grammar) : Parser Node := leftAssoc ["+".toList, "-".toList] g.product g.fuel

/-- Shifts. -/
def shift (g : Grammar) : Parser Node := leftAssoc ["<<".toList, ">>".toList] g.sum g.fuel

/-- Bitwise conjunctions. -/
def bitwiseAnd (g : Grammar) : Parser Node := leftAssoc ["&".toList] g.shift g.fuel

/-- Bitwise exclusive disjunctions. -/
def bitwiseXor (g : Grammar) : Parser Node := leftAssoc ["^".toList] g.bitwiseAnd g.fuel

/-- Bitwise disjunctions. -/
def bitwiseOrBody (g : Grammar) : Parser Node := leftAssoc ["|".toList] g.bitwiseXor g.fuel

/-- A comparison operator. -/
def comparator : Parser Unit := do
  if ← keywordIf "in" then return ()
  else if ← keywordIf "not" then let _ ← keyword "in"
  else if ← keywordIf "is" then let _ ← keywordIf "not"
  else
    let _ ← opOf ["==".toList, "!=".toList, "<=".toList, "<".toList, ">=".toList, ">".toList]

/-- A chain of comparisons. -/
def comparison (g : Grammar) : Parser Node := do
  let first ← g.bitwiseOrBody
  let others ← many (do comparator; g.bitwiseOrBody) g.fuel
  return if others.isEmpty then first else .plain .compare (first :: others)

/-- A negation or a comparison. -/
def inversionBody (g : Grammar) : Parser Node := do
  if ← keywordIf "not" then return .plain .unaryOp [← g.inversion] else g.comparison

/-- Operands joined by a Boolean operator. -/
def joined (g : Grammar) (o : BoolOp) (word : Text) (p : Parser Node) : Parser Node := do
  let first ← p
  let others ← many (do let _ ← keyword word; p) g.fuel
  return if others.isEmpty then first else .junction o (first :: others)

/-- Conjunctions. -/
def conjunction (g : Grammar) : Parser Node := g.joined .and "and" g.inversionBody

/-- Disjunctions. -/
def disjunctionBody (g : Grammar) : Parser Node := g.joined .or "or" g.conjunction

/-- A lambda, a conditional expression or a disjunction. -/
def expressionBody (g : Grammar) : Parser Node := do
  if ← atKeyword "lambda" then g.lambda
  else
    let first ← g.disjunctionBody
    let condition ← Parser.optional do
      let _ ← keyword "if"
      let test ← g.disjunctionBody
      let _ ← keyword "else"
      return (test, ← g.expression)
    match condition with
    | (test, orelse) :: _ => return .conditional test first orelse
    | [] => return first

end Grammar

end HouseStyle.Syntax
