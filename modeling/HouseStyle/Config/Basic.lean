import HouseStyle.Order
import HouseStyle.RuleId
import HouseStyle.Suffix

/-!
# Configurations

What a project can configure: which rules run, with which severity, the greatest cognitive complexity,
the suffix rules for class names, and plugins.

Main definitions:
* `Config`: a configuration, with the defaults as field defaults.
* `Config.enabledIds`: the ids of the rules that run.
-/

namespace HouseStyle

/-- The severities that a configuration can give to a rule. -/
inductive Severity where
  | info | warn | error
deriving Repr, DecidableEq

/-- The word for a severity. -/
def Severity.text : Severity → Text
  | .info => "info"
  | .warn => "warn"
  | .error => "error"

/-- The rules to enable: one token, or a list of tokens. -/
inductive Enable where
  | one (token : Text)
  | each (tokens : List Text)
deriving Repr, DecidableEq

/-- The tokens. -/
def Enable.tokens : Enable → List Text
  | .one t => [t]
  | .each ts => ts

/-- A configuration. -/
structure Config where
  enable : Enable := .one "all".toList
  disable : List Text := []
  /-- Severities by rule id, in order of first mention. -/
  overrides : List (Text × Severity) := []
  /-- The greatest cognitive complexity that is not reported. -/
  maximum : Nat := 8
  suffixRules : List SuffixRule := SuffixRule.defaults
  /-- Plugins, each `module` or `module:attribute`. -/
  plugins : List Text := []
deriving Repr, DecidableEq

namespace Config

/-- The severity that is configured for a rule. -/
def override? (c : Config) (ruleId : Text) : Option Severity := c.overrides.lookup ruleId

/-! ## Enabled rules -/

/-- The ids that a token of `enable` stands for. -/
def enabledBy (available : Option (List Text)) (token : Text) : List Text :=
  match RuleGroup.ofToken? token with
  | some .all => available.getD RuleGroup.all.members
  | some g => g.members
  | none => [RuleId.normalize token]

/-- The token of `disable` covers the id. -/
def disabledBy (ruleId token : Text) : Bool :=
  match RuleGroup.ofToken? token with
  | some .all => true
  | some g => g.members.contains ruleId
  | none => RuleId.normalize token = ruleId

/-- The id is among the available ones, if those are given. -/
def isAvailable (available : Option (List Text)) (ruleId : Text) : Bool :=
  match available with
  | some ids => ids.contains ruleId
  | none => true

/-- The ids of the rules that run, sorted: those that `enable` names and `disable` does not, as far
    as they are available. -/
def enabledIds (c : Config) (available : Option (List Text)) : List Text :=
  let named := distinct (c.enable.tokens.flatMap (enabledBy available))
  stableSort Text.le
    (named.filter fun i => !c.disable.any (disabledBy i) && isAvailable available i)

end Config

end HouseStyle
