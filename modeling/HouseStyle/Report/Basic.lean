import HouseStyle.FileTree
import HouseStyle.JsonValue
import HouseStyle.Violation

/-!
# Reports

A report holds the violations of a run. `Report.json` is its JSON text, for other programs; the text for
people is in `HouseStyle.Report.Terminal`.
-/

namespace HouseStyle

/-- The name of this tool. -/
def toolName : Text := "codingstandard"

/-- The version of this tool. -/
def toolVersion : Text := "0.1.0"

/-- The violations of a run, seen from a folder of a file tree, with the root of the project. -/
structure Report where
  cwd : Path
  root : Path
  filesChecked : Int
  violations : List Violation
  tree : FileTree := {}

namespace Report

/-- The path of a violation as reports show it. -/
def shownPath? (r : Report) (v : Violation) : Option Text := do
  let place ← v.location
  let path ← place.path
  return r.tree.shown r.cwd r.root path

/-- A violation in the JSON report. -/
def violationJson (r : Report) (v : Violation) : JsonValue :=
  .object [("rule_id", .text v.ruleId), ("severity", .text v.severity), ("message", .text v.message),
    ("suggestion", .ofText? v.suggestion), ("path", .ofText? (r.shownPath? v)),
    ("line", .ofInt? (v.location.bind (·.startLine))),
    ("col", .ofInt? (v.location.bind (·.startCol)))]

/-- The report as a JSON value. -/
def toJson (r : Report) : JsonValue :=
  .object [("tool", .text toolName), ("version", .text toolVersion),
    ("files_checked", .int r.filesChecked), ("violations", .list (r.violations.map r.violationJson))]

/-- The report as JSON text. -/
def json (r : Report) : Text := r.toJson.pretty

end Report

end HouseStyle
