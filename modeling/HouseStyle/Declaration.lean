import HouseStyle.Edit
import HouseStyle.Suffix
import HouseStyle.Syntax.Node
import HouseStyle.Token

/-!
# Class declarations

A declaration is a class with the dotted names of its bases: the first one is the parent, the others
are interfaces. Its name is known only if the token stream shows it: behind a `class` token at the
place of the class in the tree.

Main definitions:
* `Declaration`, `Declaration.suffixed?`, `Declaration.edit?`: a class with its types, its name with the
  missing suffixes, and the edit that renames it.
* `Token.nameAfterClass?`: the name token behind the `class` at a place.
* `Syntax.Node.declarations`: the declarations of a tree.
-/

namespace HouseStyle

/-- A class with its parent and further types. The name and its place (both counted from one) are
    known when the name token was found. -/
structure Declaration where
  name : Option Text
  parent : Option Text := none
  interfaces : List Text := []
  line : Option Int := none
  col : Option Int := none
deriving Repr, DecidableEq

namespace Declaration

/-- The type names in the order in which they are looked at: the parent unless it is empty, then
    the interfaces. -/
def types (d : Declaration) : List Text :=
  (match d.parent with
    | some p => if p.isEmpty then [] else [p]
    | none => []) ++ d.interfaces

/-- The suffixes of the rules that cover a type, types outermost. -/
def suffixes (rules : List SuffixRule) (types : List Text) : List Text :=
  types.flatMap fun t => (rules.filter (·.covers t)).map (·.suffix)

/-- The name with a suffix, unless it ends in it already. -/
def addSuffix (name suffix : Text) : Text :=
  if suffix.isSuffixOf name then name else name ++ suffix

/-- The name with every missing suffix, or nothing when none is missing. -/
def suffixed? (rules : List SuffixRule) (d : Declaration) : Option Text :=
  d.name.bind fun name =>
    let renamed := (suffixes rules d.types).foldl addSuffix name
    if renamed = name then none else some renamed

/-- The edit that renames the class at its place. -/
def edit? (ruleId : Text) (rules : List SuffixRule) (d : Declaration) : Option Edit :=
  match d.name, d.line, d.col with
  | some name, some line, some col =>
    (d.suffixed? rules).map fun renamed =>
      { ruleId, line, col, endCol := col + name.length, oldText := name, newText := renamed }
  | _, _, _ => none

end Declaration

/-! ## Declarations of a source -/

namespace Token

/-- The next token that is neither a comment nor a blank line end, if it is a name. -/
def nextName? : List Token → Option Token
  | [] => none
  | t :: ts =>
    if t.cls = .nl || t.cls = .comment then nextName? ts
    else if t.cls = .name then some t else none

/-- The name behind the last `class` token at the given place that a name follows. -/
def nameAfterClass? (line col : Nat) : List Token → Option Token
  | [] => none
  | t :: ts =>
    nameAfterClass? line col ts <|>
      if t.cls = .name && t.text = "class".toList && t.line = line && t.col = col then nextName? ts
      else none

end Token

namespace Syntax.Node

/-- The dotted name of a type built from a name by attributes and subscripts; the subscripts are
    dropped. -/
def typeName? : Node → Option Text
  | .name id => some id
  | .attribute value attr => (typeName? value).map (· ++ "." ++ attr)
  | .subscript value _ => typeName? value
  | _ => none

/-- The declaration of a class with the given bases. -/
def declaration (tokens : List Token) (id : Text) (pos : Position) (bases : List Node) :
    Declaration :=
  let types := bases.filterMap typeName?
  let found := (Token.nameAfterClass? pos.line pos.col tokens).filter (·.text = id)
  { name := found.map (·.text)
    parent := types.head?
    interfaces := types.tail
    line := found.map fun t => t.line
    col := found.map fun t => t.col + 1 }

/-- The declaration that a node is. -/
def declaration? (tokens : List Token) : Node → Option Declaration
  | .classDef id pos bases _ _ _ => some (declaration tokens id pos bases)
  | _ => none

/-- The declarations of a tree, breadth first. -/
def declarations (tree : Node) (tokens : List Token) : List Declaration :=
  tree.walk.filterMap (declaration? tokens)

end Syntax.Node

end HouseStyle
