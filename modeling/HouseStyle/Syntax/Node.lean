import HouseStyle.Text.Basic

/-!
# Syntax trees

`Node` is the syntax tree of a Python module. The constructs that the rules of this library look at
have constructors of their own; every other construct is `Node.plain` with its kind and its
children. Contexts, operators and names that are no expressions are not nodes.

Main definitions:
* `Position`: a line counted from one and a column in UTF-8 bytes counted from zero.
* `Node`, `Node.children`: trees, and the children of a node in the order of its fields.
* `Node.walk`: all nodes of a tree, breadth first.
-/

namespace HouseStyle.Syntax

/-- A place in the source: line from one, column in bytes from zero. -/
structure Position where
  line : Nat
  col : Nat
deriving Repr, DecidableEq

/-- Kinds of nodes that are told apart by their name only. -/
inductive Kind where
  | module | expr | assign | augAssign | annAssign | «import» | importFrom | raise | assert | delete
  | «global» | «nonlocal» | pass | «break» | «continue» | «return»
  | with | asyncWith | withItem | try | tryStar
  | constant | call | binOp | unaryOp | compare | list | tuple | set | dict
  | listComp | setComp | dictComp | generatorExp | comprehension
  | await | yield | yieldFrom | namedExpr | joinedStr | formattedValue | starred | slice
  | keyword | arguments | arg | importAlias
  | matchValue | matchSingleton | matchSequence | matchMapping | matchClass | matchStar | matchAs
  | matchOr
deriving Repr, DecidableEq

/-- The three loops. -/
inductive LoopKind where
  | for | asyncFor | while
deriving Repr, DecidableEq

/-- The two Boolean operators. -/
inductive BoolOp where
  | and | or
deriving Repr, DecidableEq

/-- A syntax tree. Lists of at most one node stand for optional parts. -/
inductive Node where
  /-- A function definition, at its `def` or `async`. -/
  | function (isAsync : Bool) (name : Text) (pos : Position) (args : Node) (body : List Node)
      (decorators : List Node) (returns : List Node)
  /-- A lambda expression, at its `lambda`. -/
  | lambda (pos : Position) (args : Node) (body : Node)
  /-- A class definition, at its `class`. -/
  | classDef (name : Text) (pos : Position) (bases : List Node) (keywords : List Node)
      (body : List Node) (decorators : List Node)
  /-- An `if` statement, at its `if` or `elif`; an `elif` is the only statement of `orelse`. -/
  | branch (pos : Position) (test : Node) (body : List Node) (orelse : List Node)
  /-- A loop; its header is target and iterable, or the test. -/
  | loop (kind : LoopKind) (header : List Node) (body : List Node) (orelse : List Node)
  /-- An `except` clause with its optional type. -/
  | handler (type : List Node) (body : List Node)
  /-- A `match` statement. -/
  | matching (subject : Node) (cases : List Node)
  /-- A `case` of a `match` statement with its optional guard. -/
  | case (pattern : Node) (guard : List Node) (body : List Node)
  /-- A conditional expression. -/
  | conditional (test : Node) (body : Node) (orelse : Node)
  /-- Operands joined by one Boolean operator. -/
  | junction (op : BoolOp) (values : List Node)
  | name (id : Text)
  | attribute (value : Node) (attr : Text)
  | subscript (value : Node) (index : Node)
  /-- Any other construct. -/
  | plain (kind : Kind) (children : List Node)

namespace Node

/-- The children of a node in the order of its fields. -/
def children : Node → List Node
  | .function _ _ _ args body decorators returns => args :: (body ++ decorators ++ returns)
  | .lambda _ args body => [args, body]
  | .classDef _ _ bases keywords body decorators => bases ++ keywords ++ body ++ decorators
  | .branch _ test body orelse => test :: (body ++ orelse)
  | .loop _ header body orelse => header ++ body ++ orelse
  | .handler type body => type ++ body
  | .matching subject cases => subject :: cases
  | .case pattern guard body => pattern :: (guard ++ body)
  | .conditional test body orelse => [test, body, orelse]
  | .junction _ values => values
  | .name _ => []
  | .attribute value _ => [value]
  | .subscript value index => [value, index]
  | .plain _ children => children

mutual

/-- The number of nodes of a tree. -/
def size : Node → Nat
  | .function _ _ _ args body decorators returns =>
    1 + size args + sizeAll body + sizeAll decorators + sizeAll returns
  | .lambda _ args body => 1 + size args + size body
  | .classDef _ _ bases keywords body decorators =>
    1 + sizeAll bases + sizeAll keywords + sizeAll body + sizeAll decorators
  | .branch _ test body orelse => 1 + size test + sizeAll body + sizeAll orelse
  | .loop _ header body orelse => 1 + sizeAll header + sizeAll body + sizeAll orelse
  | .handler type body => 1 + sizeAll type + sizeAll body
  | .matching subject cases => 1 + size subject + sizeAll cases
  | .case pattern guard body => 1 + size pattern + sizeAll guard + sizeAll body
  | .conditional test body orelse => 1 + size test + size body + size orelse
  | .junction _ values => 1 + sizeAll values
  | .name _ => 1
  | .attribute value _ => 1 + size value
  | .subscript value index => 1 + size value + size index
  | .plain _ children => 1 + sizeAll children

/-- The number of nodes of several trees. -/
def sizeAll : List Node → Nat
  | [] => 0
  | n :: ns => size n + sizeAll ns

end

/-- Takes nodes from the front of a queue and puts their children at its end, for at most the given
    number of nodes. -/
def walkQueue : Nat → List Node → List Node
  | 0, _ => []
  | _ + 1, [] => []
  | fuel + 1, n :: queue => n :: walkQueue fuel (queue ++ n.children)

/-- All nodes of a tree, breadth first, children in the order of their fields. -/
def walk (n : Node) : List Node := walkQueue n.size [n]

/-- The node under an expression statement, else the node itself. -/
def unwrapped : Node → Node
  | .plain .expr [value] => value
  | n => n

end Node

/-! ## Names of kinds -/

/-- The name of a kind. -/
def Kind.title : Kind → Text
  | .module => "Module" | .expr => "Expr" | .assign => "Assign" | .augAssign => "AugAssign"
  | .annAssign => "AnnAssign" | .import => "Import" | .importFrom => "ImportFrom"
  | .raise => "Raise" | .assert => "Assert" | .delete => "Delete" | .global => "Global"
  | .nonlocal => "Nonlocal" | .pass => "Pass" | .break => "Break" | .continue => "Continue"
  | .return => "Return" | .with => "With" | .asyncWith => "AsyncWith" | .withItem => "withitem"
  | .try => "Try" | .tryStar => "TryStar" | .constant => "Constant" | .call => "Call"
  | .binOp => "BinOp" | .unaryOp => "UnaryOp" | .compare => "Compare" | .list => "List"
  | .tuple => "Tuple" | .set => "Set" | .dict => "Dict" | .listComp => "ListComp"
  | .setComp => "SetComp" | .dictComp => "DictComp" | .generatorExp => "GeneratorExp"
  | .comprehension => "comprehension" | .await => "Await" | .yield => "Yield"
  | .yieldFrom => "YieldFrom" | .namedExpr => "NamedExpr" | .joinedStr => "JoinedStr"
  | .formattedValue => "FormattedValue" | .starred => "Starred" | .slice => "Slice"
  | .keyword => "keyword" | .arguments => "arguments" | .arg => "arg" | .importAlias => "alias"
  | .matchValue => "MatchValue" | .matchSingleton => "MatchSingleton"
  | .matchSequence => "MatchSequence" | .matchMapping => "MatchMapping"
  | .matchClass => "MatchClass" | .matchStar => "MatchStar" | .matchAs => "MatchAs"
  | .matchOr => "MatchOr"

/-- The name of a node's kind. -/
def Node.title : Node → Text
  | .function false .. => "FunctionDef"
  | .function true .. => "AsyncFunctionDef"
  | .lambda .. => "Lambda"
  | .classDef .. => "ClassDef"
  | .branch .. => "If"
  | .loop .for .. => "For"
  | .loop .asyncFor .. => "AsyncFor"
  | .loop .while .. => "While"
  | .handler .. => "ExceptHandler"
  | .matching .. => "Match"
  | .case .. => "match_case"
  | .conditional .. => "IfExp"
  | .junction .. => "BoolOp"
  | .name .. => "Name"
  | .attribute .. => "Attribute"
  | .subscript .. => "Subscript"
  | .plain kind _ => kind.title

end HouseStyle.Syntax
