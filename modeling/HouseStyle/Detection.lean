import HouseStyle.Registry

/-!
# Detection

`detect` runs the enabled rules over files and gives their violations, file by file and rule by rule,
with the severities that the configuration sets. `collectEdits` gathers the edits of the enabled
fixers for one file.
-/

namespace HouseStyle.Detection

/-- The rules that a configuration enables, with its options, sorted by id. -/
def enabledRules (registry : Registry) (c : Config) : List Rule :=
  let ids := c.enabledIds (some registry.ruleIds)
  (registry.rules.filter fun r => ids.contains r.ruleId).map (Rule.configure c)

/-- The violations of one file. -/
def detectFile (registry : Registry) (c : Config) (f : SourceFile) : List Violation :=
  (enabledRules registry c).flatMap fun r => (r.check f).map (Violation.withOverride c)

/-- The violations of all files. -/
def detect (registry : Registry) (c : Config) (files : List SourceFile) : List Violation :=
  files.flatMap (detectFile registry c)

/-- The edits of rules for a file, in order of the rules. -/
def editsOf (f : SourceFile) : List Rule → Except Rule.Unfinished (List Edit)
  | [] => .ok []
  | r :: rs => do return (← r.fix f) ++ (← editsOf f rs)

/-- The edits of the enabled fixers for a file. -/
def collectEdits (registry : Registry) (c : Config) (f : SourceFile) :
    Except Rule.Unfinished (List Edit) :=
  editsOf f (enabledRules registry c)

/-- What is logged about the enabled rules. -/
def record (registry : Registry) (c : Config) : LogRecord :=
  let ids := (enabledRules registry c).map (·.ruleId)
  ⟨.debug, "codingstandard.engine.detection", "Enabled rules: "
    ++ if ids.isEmpty then "<none>".toList else Text.joinWith ", " ids⟩

end HouseStyle.Detection
