import HouseStyle.Text.Case

/-!
# Rule ids and groups

A rule id is a capital letter followed by at least two digits, such as `C01`. Configurations name rules
by ids, in any case and with blanks around, or by groups, in any case and with `-` for `_`.
-/

namespace HouseStyle

namespace RuleId

/-- A capital letter and at least two decimal digits. -/
def isCanonical : Text → Bool
  | c :: ds => Text.isAsciiUpper c && 2 ≤ ds.length && ds.all Text.isAsciiDigit
  | [] => false

/-- The id that a token means: trimmed and in upper case. -/
def normalize (t : Text) : Text := t.strip.upper

/-- The rule for cognitive complexity. -/
def complexity : Text := "C01"

/-- The rule for class names. -/
def naming : Text := "N01"

end RuleId

/-- A set of rules that a configuration can name. -/
inductive RuleGroup where
  /-- Every rule there is. -/
  | all
  | complexity
  | naming
deriving Repr, DecidableEq

namespace RuleGroup

/-- The names of all groups, sorted. -/
def names : List Text := ["all".toList, "complexity".toList, "naming".toList]

/-- The group of a name in its normal form. -/
def ofName? (t : Text) : Option RuleGroup :=
  if t = "all".toList then some .all
  else if t = "complexity".toList then some .complexity
  else if t = "naming".toList then some .naming
  else none

/-- The group that a token means: trimmed, in lower case, with `_` for `-`. -/
def ofToken? (t : Text) : Option RuleGroup := ofName? (t.strip.lowerAscii.replaceChar '-' '_')

/-- The built-in rules of a group. -/
def members : RuleGroup → List Text
  | .all => [RuleId.complexity, RuleId.naming]
  | .complexity => [RuleId.complexity]
  | .naming => [RuleId.naming]

end RuleGroup

end HouseStyle
