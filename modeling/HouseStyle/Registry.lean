import HouseStyle.Rule

/-!
# The registry of rules

The registry holds the rules of plugins beside the built-in ones. A registration replaces the rules of
all plugins, or fails and changes nothing.

Main definitions:
* `Registry`, `Registry.register`: the rules of plugins, and their replacement.
* `Registry.rules`: all rules, sorted by id.
-/

namespace HouseStyle

/-- The rules of plugins. -/
structure Registry where
  extra : List PluginRule := []
deriving Repr, DecidableEq

/-- Why rules are refused. -/
inductive RegistryError where
  /-- The id has blanks around or is not in upper case. -/
  | notCanonical (ruleId : Text)
  /-- The id is not a capital letter and digits. -/
  | malformed (ruleId : Text)
  /-- The id belongs to a built-in rule. -/
  | builtIn (ruleId : Text)
  /-- The id occurs twice. -/
  | duplicate (ruleId : Text)
deriving Repr, DecidableEq

/-- The wording of a refusal. -/
def RegistryError.message : RegistryError → Text
  | .notCanonical i =>
    "Rule id must be canonical uppercase without whitespace: " ++ i.quoted
  | .malformed i => "Rule id must match ^[A-Z][0-9]\x7b2,\x7d$: " ++ i.quoted
  | .builtIn i => "Plugin rule id conflicts with built-in rule id: " ++ i
  | .duplicate i => "Duplicate plugin rule id: " ++ i

namespace Registry

/-- The built-in rules with their default options, sorted by id. -/
def builtIn : List Rule := [.complexity ({} : Config).maximum, .naming SuffixRule.defaults]

/-- The ids of the built-in rules. -/
def builtInIds : List Text := builtIn.map (·.ruleId)

/-- What is wrong with an id, given the ids before it. -/
def idError? (seen : List Text) (i : Text) : Option RegistryError :=
  if i ≠ i.strip || i ≠ i.upper then some (.notCanonical i)
  else if !RuleId.isCanonical i then some (.malformed i)
  else if builtInIds.contains i then some (.builtIn i)
  else if seen.contains i then some (.duplicate i)
  else none

/-- The first id that is wrong. -/
def firstError? (seen : List Text) : List PluginRule → Option RegistryError
  | [] => none
  | r :: rs =>
    match idError? seen r.info.ruleId with
    | some e => some e
    | none => firstError? (r.info.ruleId :: seen) rs

/-- Replaces the rules of plugins. -/
def register (_ : Registry) (rules : List PluginRule) : Except RegistryError Registry :=
  match firstError? [] rules with
  | some e => .error e
  | none => .ok ⟨rules⟩

/-- All rules, sorted by id. -/
def rules (r : Registry) : List Rule :=
  stableSort (fun a b => Text.le a.ruleId b.ruleId) (builtIn ++ r.extra.map .plugin)

/-- The ids of all rules, sorted. -/
def ruleIds (r : Registry) : List Text := r.rules.map (·.ruleId)

/-- What is told about all rules, sorted by id. -/
def metas (r : Registry) : List RuleMeta := r.rules.map (·.info)

/-- What is logged about a registration. -/
def records (rules : List PluginRule) : List LogRecord :=
  if rules.isEmpty then []
  else [⟨.debug, "codingstandard.rules.registry", "Registered plugin rules: "
    ++ Text.joinWith ", " (stableSort Text.le (rules.map (·.info.ruleId)))⟩]

end Registry

end HouseStyle
