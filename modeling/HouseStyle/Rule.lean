import HouseStyle.Complexity
import HouseStyle.Declaration
import HouseStyle.SourceFile
import HouseStyle.Violation

/-!
# Rules

A rule looks at a source file and reports violations; a fixer also proposes edits. Two rules are built
in: `C01` reports functions and lambdas of high cognitive complexity, and `N01` renames classes after
their parent types. Further rules come from plugins and are described by what they report.

Main definitions:
* `RuleMeta`, `Rule`, `PluginRule`: rules and what is told about them.
* `Rule.configure`: a rule with the options of a configuration.
* `Rule.check`, `Rule.fix?`: what a rule reports, and the edits of a fixer.
-/

namespace HouseStyle

/-- What is told about a rule. -/
structure RuleMeta where
  ruleId : Text
  title : Text
  description : Text
  severity : Text
  fixable : Bool := false
  risky : Bool := false
deriving Repr, DecidableEq

/-- Something that a rule of a plugin reports about every file. Without a line it has no place; the
    column is given or unknown. -/
structure Finding where
  message : Text
  line : Option Int := none
  col : Option Int := none
  suggestion : Option Text := none
  severity : Option Text := none
deriving Repr, DecidableEq

/-- Whether a rule of a plugin is a fixer. -/
inductive Fixer where
  /-- It only reports. -/
  | reportsOnly
  /-- It is a fixer that does not say how to fix. -/
  | unfinished
  /-- It proposes these edits for every file. -/
  | edits (edits : List Edit)
deriving Repr, DecidableEq

/-- A rule of a plugin. -/
structure PluginRule where
  /-- The name of the class that the plugin defines for it. -/
  className : Text
  info : RuleMeta
  findings : List Finding := []
  fixer : Fixer := .reportsOnly
deriving Repr, DecidableEq

/-- A rule with its options. -/
inductive Rule where
  /-- Functions and lambdas over a maximum of cognitive complexity. -/
  | complexity (maximum : Nat)
  /-- Class names by suffix rules. -/
  | naming (rules : List SuffixRule)
  | plugin (rule : PluginRule)
deriving Repr, DecidableEq

namespace Rule

/-- What is told about a rule. -/
def info : Rule → RuleMeta
  | .complexity _ =>
    { ruleId := RuleId.complexity
      title := "Function-like cognitive complexity"
      description := "Reports functions, methods and lambdas whose cognitive complexity "
        ++ "(nested and sequential breaks in the linear flow) exceeds the configured maximum."
      severity := "warn" }
  | .naming _ =>
    { ruleId := RuleId.naming
      title := "Class name suffix by parent"
      description := "Class should have suffix by parent class/interface (e.g. "
        ++ "\x60class Foo(Command)\x60 -> \x60FooCommand\x60)."
      severity := "warn"
      fixable := true
      risky := true }
  | .plugin r => r.info

/-- The id of a rule. -/
def ruleId (r : Rule) : Text := r.info.ruleId

/-- A rule with the options of a configuration. -/
def configure (c : Config) : Rule → Rule
  | .complexity _ => .complexity c.maximum
  | .naming _ => .naming c.suffixRules
  | .plugin r => .plugin r

/-! ## Complexity -/

/-- The violation of a unit that is over the maximum. -/
def complexityViolation (maximum : Nat) (path : Path) (u : Syntax.FlowUnit) : Violation :=
  { ruleId := RuleId.complexity
    severity := (Rule.complexity maximum).info.severity
    message := "Cognitive complexity for \"" ++ u.title ++ "\" is " ++ Text.decimal u.complexity
      ++ ", keep it under " ++ Text.decimal maximum
    suggestion := some "Extract nested branches into helper functions or return early.".toList
    location := some
      { path := some path, startLine := some u.pos.line, startCol := some (u.pos.col + 1) } }

/-- The units over the maximum, in order of their places. -/
def checkComplexity (maximum : Nat) (f : SourceFile) : List Violation :=
  match f.tree with
  | none => []
  | some tree =>
    ((stableSort Syntax.FlowUnit.le tree.units).filter (maximum < ·.complexity)).map
      (complexityViolation maximum f.path)

/-! ## Names -/

/-- The edits that rename the classes of a file, in order of their places. -/
def namingEdits (rules : List SuffixRule) (f : SourceFile) : List Edit :=
  match f.tree with
  | none => []
  | some tree =>
    stableSort Edit.le
      ((tree.declarations (f.tokens.getD [])).filterMap (·.edit? RuleId.naming rules))

/-- The violation that a renaming edit stands for. -/
def namingViolation (path : Path) (e : Edit) : Violation :=
  { ruleId := RuleId.naming
    severity := (Rule.naming []).info.severity
    message := "Class \"" ++ e.oldText ++ "\" should be named \"" ++ e.newText ++ "\""
    suggestion := some ("Rename the class to \x60" ++ e.newText
      ++ "\x60 (run \x60codingstandard fix\x60).")
    location := some
      { path := some path, startLine := some e.line, startCol := some e.col,
        endLine := some e.line, endCol := some e.endCol } }

/-! ## Plugins -/

/-- The violation of a finding. -/
def findingViolation (info : RuleMeta) (path : Path) (f : Finding) : Violation :=
  { ruleId := info.ruleId
    severity :=
      match f.severity with
      | some s => if s.isEmpty then info.severity else s
      | none => info.severity
    message := f.message
    suggestion := f.suggestion
    location := f.line.map fun line =>
      { path := some path, startLine := some line, startCol := f.col } }

/-! ## All rules -/

/-- What a rule reports about a file. -/
def check (f : SourceFile) : Rule → List Violation
  | .complexity maximum => checkComplexity maximum f
  | .naming rules => (namingEdits rules f).map (namingViolation f.path)
  | .plugin r => r.findings.map (findingViolation r.info f.path)

/-- A fixer that does not say how to fix. -/
structure Unfinished where
  ruleId : Text
deriving Repr, DecidableEq

/-- The edits of a fixer for a file; a rule that is no fixer has none. -/
def fix (f : SourceFile) : Rule → Except Unfinished (List Edit)
  | .complexity _ => .ok []
  | .naming rules => .ok (namingEdits rules f)
  | .plugin r =>
    match r.fixer with
    | .reportsOnly => .ok []
    | .unfinished => .error ⟨r.info.ruleId⟩
    | .edits es => .ok es

end Rule

end HouseStyle
