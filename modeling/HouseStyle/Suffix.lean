import HouseStyle.Glob
import HouseStyle.Text.Digit
import HouseStyle.Value

/-!
# Suffix rules

A suffix rule says that a class whose parent type matches a pattern carries a suffix in its name:
under the rule `*Command`, a class with parent `BaseCommand` is called `SomethingCommand`. A pattern
also covers the interface of what it covers: `*Repository` covers `UserRepositoryInterface`.

Main definitions:
* `SuffixRule`, `SuffixRule.covers`: a rule, and the type names it applies to.
* `SuffixRule.deriveSuffix`: the suffix that an unnamed pattern stands for.
* `SuffixRule.ofPatterns`, `SuffixRule.ofTable`, `SuffixRule.merge`: rule lists in which every
  pattern occurs once.
-/

namespace HouseStyle

/-- The ending of interface names. -/
def interfaceSuffix : Text := "Interface"

/-- Classes with a parent type that `pattern` covers end in `suffix`. -/
structure SuffixRule where
  pattern : Text
  suffix : Text
deriving Repr, DecidableEq

namespace SuffixRule

/-- The pattern, or the pattern with the interface ending, matches the type name. -/
def covers (r : SuffixRule) (typeName : Text) : Bool :=
  Glob.isMatch r.pattern typeName || Glob.isMatch (r.pattern ++ interfaceSuffix) typeName

/-- The suffix of an unnamed pattern: without the stars in front and one interface ending. -/
def deriveSuffix (pattern : Text) : Text :=
  let core := pattern.dropWhile (· = '*')
  (Text.dropSuffix? interfaceSuffix core).getD core

/-- Gives a pattern its suffix: in place if the pattern has a rule, else at the end. -/
def put (pattern suffix : Text) : List SuffixRule → List SuffixRule
  | [] => [⟨pattern, suffix⟩]
  | r :: rs =>
    if r.pattern = pattern then ⟨pattern, suffix⟩ :: rs else r :: put pattern suffix rs

/-- Adds rules one after the other. -/
def putAll (base extra : List SuffixRule) : List SuffixRule :=
  extra.foldl (fun rs r => put r.pattern r.suffix rs) base

/-- A key of a table that stands for no pattern: an integer, or a text of digits with blanks
    around. -/
def isUnnamed : Value → Bool
  | .int _ => true
  | .text t => t.strip.isNumeral
  | _ => false

/-- The rule of an unnamed pattern. -/
def ofPattern (pattern : Text) : SuffixRule := ⟨pattern, deriveSuffix pattern⟩

/-- The rule of a table entry: an unnamed key leaves the suffix to the pattern. -/
def ofEntry (key : Value) (entry : Text) : SuffixRule :=
  if isUnnamed key then ofPattern entry else ⟨key.plain, entry⟩

/-- The rules of a list of unnamed patterns. -/
def ofPatterns (patterns : List Text) : List SuffixRule := putAll [] (patterns.map ofPattern)

/-- The rules of a table from keys to texts. -/
def ofTable (entries : List (Value × Text)) : List SuffixRule :=
  putAll [] (entries.map fun e => ofEntry e.1 e.2)

/-- Rules with further rules, which replace those of the same pattern in place. -/
def merge (base extra : List SuffixRule) : List SuffixRule := putAll (putAll [] base) extra

/-- The parent types that carry a suffix unless configured otherwise. -/
def defaultPatterns : List Text :=
  ["*Command".toList, "*Controller".toList, "*Repository".toList, "*Presenter".toList,
    "*Request".toList, "*Response".toList, "*EventSubscriber".toList, "*FixerInterface".toList,
    "*Rule".toList, "*Exception".toList, "*Handler".toList]

/-- The rules of the default parent types. -/
def defaults : List SuffixRule := ofPatterns defaultPatterns

end SuffixRule

end HouseStyle
