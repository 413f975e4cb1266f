import HouseStyle.Config.Basic
import HouseStyle.Config.Error

/-!
# Reading configurations

`Config.ofValue` checks a table of options and gives the configuration it describes. Options are
checked in a fixed order, so that of several mistakes the same one is always reported. Several options
have more than one spelling; the first spelling that is present counts.
-/

namespace HouseStyle.Config

/-- The entries of a table, in order. -/
abbrev Entries := List (Value × Value)

/-- The table of this tool in a project file. -/
def tableName : Text := "tool.codingstandard"

/-- A field below the table of this tool. -/
def fieldName (name : Text) : Text := tableName ++ "." ++ name

/-! ## Parts -/

/-- The key is one of the options. -/
def isOption (allowed : List Text) : Value → Bool
  | .text k => allowed.contains k
  | _ => false

/-- Every key is one of the options. -/
def checkOptions (field : Text) (allowed : List Text) : Entries → Except ConfigError Unit
  | [] => .ok ()
  | (key, _) :: es =>
    if isOption allowed key then checkOptions field allowed es
    else .error (.unknownOption field key allowed)

/-- The value of the first spelling that is present. -/
def option? (es : Entries) (spellings : List Text) : Option Value :=
  spellings.findSome? (Value.get? · es)

/-- A list of texts, trimmed; null is the empty list. -/
def textList (field : Text) : Value → Except ConfigError (List Text)
  | .null => .ok []
  | v =>
    match v.texts? with
    | some ts => .ok (ts.map Text.strip)
    | none => .error (.notATextList field)

/-- A severity; `warning` is another word for `warn`. -/
def severity (field : Text) : Value → Except ConfigError Severity
  | .text t =>
    let word := t.strip.lowerAscii
    if word = "info".toList then .ok .info
    else if word = "warn".toList || word = "warning".toList then .ok .warn
    else if word = "error".toList then .ok .error
    else .error (.notASeverity field)
  | _ => .error (.notAText field)

/-- The token is blank, a group or a rule id. -/
def isRuleToken (t : Text) : Bool :=
  t.strip.isEmpty || (RuleGroup.ofToken? t.strip).isSome
    || RuleId.isCanonical (RuleId.normalize t.strip)

/-- Every token is blank, a group or a rule id. -/
def checkTokens (field : Text) : List Text → Except ConfigError Unit
  | [] => .ok ()
  | t :: ts => if isRuleToken t then checkTokens field ts else .error (.unknownRule field t)

/-! ## The table of rules -/

/-- The options of the rules. -/
def rulesOptions : List Text :=
  ["enable".toList, "disable".toList, "severity_overrides".toList, "severity-overrides".toList]

/-- The rules to enable. Blank tokens are dropped; a blank text means all rules. -/
def enableOf (v : Value) : Except ConfigError Enable :=
  match v with
  | .text t => .ok (.one (if t.strip.isEmpty then "all".toList else t.strip))
  | v =>
    match v.texts? with
    | some ts => .ok (.each ((ts.map Text.strip).filter (!·.isEmpty)))
    | none => .error (.notATextOrList (fieldName "rules.enable"))

/-- Sets a severity: in place if the rule has one, else at the end. -/
def putOverride (ruleId : Text) (s : Severity) : List (Text × Severity) → List (Text × Severity)
  | [] => [(ruleId, s)]
  | (k, v) :: es => if k = ruleId then (k, s) :: es else (k, v) :: putOverride ruleId s es

/-- The severities of a table, added to those so far. -/
def overridesOf (found : List (Text × Severity)) :
    Entries → Except ConfigError (List (Text × Severity))
  | [] => .ok found
  | (key, v) :: es =>
    let ruleId := RuleId.normalize key.plain
    let field := fieldName ("rules.severity_overrides." ++ key.plain)
    if !RuleId.isCanonical ruleId then .error (.notARuleId field)
    else
      match severity field v with
      | .error e => .error e
      | .ok s => overridesOf (putOverride ruleId s found) es

/-- The severities by rule. -/
def overridesPart (es : Entries) : Except ConfigError (List (Text × Severity)) :=
  match option? es ["severity_overrides".toList, "severity-overrides".toList] with
  | none => .ok []
  | some .null => .ok []
  | some (.table entries) => overridesOf [] entries
  | some _ => .error (.notATable (fieldName "rules.severity_overrides"))

/-- The part of a configuration that selects rules. -/
structure RulesPart where
  enable : Enable := .one "all".toList
  disable : List Text := []
  overrides : List (Text × Severity) := []

/-- The table of rules. -/
def rulesPart : Value → Except ConfigError RulesPart
  | .null => .ok {}
  | .table es => do
    checkOptions (fieldName "rules") rulesOptions es
    let enable ← enableOf ((Value.get? "enable" es).getD (.text "all"))
    let disable ← textList (fieldName "rules.disable") ((Value.get? "disable" es).getD (.list []))
    checkTokens (fieldName "rules.enable") enable.tokens
    checkTokens (fieldName "rules.disable") disable
    return { enable, disable, overrides := ← overridesPart es }
  | _ => .error (.notATable (fieldName "rules"))

/-! ## The table of cognitive complexity -/

/-- The spellings of the greatest complexity. -/
def maximumOptions : List Text :=
  ["maximum-cognitive-complexity".toList, "maximum_cognitive_complexity".toList,
    "maximumCognitiveComplexity".toList]

/-- The field of cognitive complexity. -/
def complexityField : Text := fieldName "cognitive-complexity"

/-- The greatest complexity. -/
def maximumOf : Value → Except ConfigError Nat
  | .int (.ofNat n) => .ok n
  | .int (.negSucc _) => .error (.negative (complexityField ++ ".maximum-cognitive-complexity"))
  | _ => .error (.notAnInteger (complexityField ++ ".maximum-cognitive-complexity"))

/-- The table of cognitive complexity. -/
def complexityPart : Value → Except ConfigError Nat
  | .null => .ok ({} : Config).maximum
  | .table es => do
    checkOptions complexityField maximumOptions es
    match option? es maximumOptions with
    | some v => maximumOf v
    | none => return ({} : Config).maximum
  | _ => .error (.notATable complexityField)

/-! ## The table of class suffixes -/

/-- The field of class suffixes. -/
def suffixField : Text := fieldName "class-suffix"

/-- The spellings of the suffix rules that replace the defaults. -/
def primaryOptions : List Text :=
  ["parent_types_to_suffixes".toList, "parent-types-to-suffixes".toList]

/-- The spellings of the suffix rules that are added. -/
def extraOptions : List Text :=
  ["extra_parent_types_to_suffixes".toList, "extra-parent-types-to-suffixes".toList]

/-- The entries of a suffix table: texts under integers and texts that are not blank. -/
def suffixEntries (field : Text) : Entries → Except ConfigError (List (Value × Text))
  | [] => .ok []
  | (key, v) :: es => do
    let entry ←
      match key, v with
      | .int _, .text t => pure t
      | .text k, .text t => if k.strip.isEmpty then .error (.emptyPattern field) else pure t
      | _, _ => .error (.notASuffixMap field)
    return (key, entry) :: (← suffixEntries field es)

/-- No pattern is blank and no suffix is empty. -/
def checkRules (field : Text) : List SuffixRule → Except ConfigError Unit
  | [] => .ok ()
  | r :: rs =>
    if r.pattern.strip.isEmpty then .error (.emptyPattern field)
    else if r.suffix.isEmpty then .error (.emptySuffix field r.pattern)
    else checkRules field rs

/-- The rules of a list of patterns or of a table. -/
def suffixRulesOf (field : Text) (v : Value) : Except ConfigError (List SuffixRule) := do
  let rules ←
    match v with
    | .table es => SuffixRule.ofTable <$> suffixEntries field es
    | v =>
      match v.texts? with
      | some ts => pure (SuffixRule.ofPatterns ts)
      | none => .error (.notASuffixMap field)
  checkRules field rules
  return rules

/-- The rules under an option; without it, or with null, the given ones. -/
def suffixOption (absent : List SuffixRule) (name : Text) :
    Option Value → Except ConfigError (List SuffixRule)
  | none => .ok absent
  | some .null => .ok absent
  | some v => suffixRulesOf (suffixField ++ "." ++ name) v

/-- The table of class suffixes. -/
def suffixPart : Value → Except ConfigError (List SuffixRule)
  | .null => .ok SuffixRule.defaults
  | .table es => do
    checkOptions suffixField (primaryOptions ++ extraOptions) es
    let primary ← suffixOption SuffixRule.defaults "parent_types_to_suffixes"
      (option? es primaryOptions)
    let extra ← suffixOption [] "extra_parent_types_to_suffixes" (option? es extraOptions)
    return SuffixRule.merge primary extra
  | _ => .error (.notATable suffixField)

/-! ## The whole table -/

/-- The options at the top. -/
def topOptions : List Text :=
  ["rules".toList, "plugins".toList, "cognitive-complexity".toList, "cognitive_complexity".toList,
    "class-suffix".toList, "class_suffix".toList]

/-- The configuration that a table describes. -/
def ofValue : Value → Except ConfigError Config
  | .table es => do
    checkOptions tableName topOptions es
    let rules ← rulesPart ((Value.get? "rules" es).getD (.table []))
    let maximum ← complexityPart
      ((option? es ["cognitive-complexity".toList, "cognitive_complexity".toList]).getD (.table []))
    let suffixRules ← suffixPart
      ((option? es ["class-suffix".toList, "class_suffix".toList]).getD (.table []))
    let plugins ← textList (fieldName "plugins") ((Value.get? "plugins" es).getD (.list []))
    return { enable := rules.enable, disable := rules.disable, overrides := rules.overrides,
             maximum, suffixRules, plugins }
  | _ => .error (.notATable tableName)

end HouseStyle.Config
