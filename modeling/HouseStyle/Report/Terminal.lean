import HouseStyle.Console
import HouseStyle.Report.Basic

/-!
# Reports on a console

The report for people starts with a panel. Then the violations follow, grouped by file and sorted by
place, and at the end the verdict. Suggestions are printed as markup, everything else as it is.

Main definitions:
* `Report.groups`: the violations under their headers.
* `Report.prints`: what is handed to a console, one print after the other.
* `Report.terminal`: what the console makes of it.
-/

namespace HouseStyle

namespace Report

/-! ## Groups -/

/-- The header of violations without a path. -/
def unknownHeader : Text := "<unknown>"

/-- The header that a violation stands under. -/
def header (r : Report) (v : Violation) : Text := (r.shownPath? v).getD unknownHeader

/-- The line by which a violation is sorted; without one it comes late. -/
def lineKey (v : Violation) : Int :=
  match v.location.bind (·.startLine) with
  | none => 1000000000
  | some n => if n = 0 then 1000000000 else n

/-- The column by which a violation is sorted. -/
def colKey (v : Violation) : Int := (v.location.bind (·.startCol)).getD 0

/-- The order of violations in a file: by line, column and rule id. -/
def inOrder (v w : Violation) : Bool :=
  if lineKey v ≠ lineKey w then lineKey v < lineKey w
  else if colKey v ≠ colKey w then colKey v < colKey w
  else Text.le v.ruleId w.ruleId

/-- The headers in order, each once. -/
def headers (r : Report) : List Text := stableSort Text.le (distinct (r.violations.map r.header))

/-- The headers with the violations under them. -/
def groups (r : Report) : List (Text × List Violation) :=
  r.headers.map fun h => (h, stableSort inOrder (r.violations.filter fun v => r.header v = h))

/-! ## Printing -/

/-- The mark of a severity. -/
def icon (severity : Text) : Text :=
  if severity = "error".toList then "✖"
  else if severity = "warn".toList then "⚠"
  else if severity = "info".toList then "ℹ"
  else "•"

/-- The place of a violation in brackets, with two spaces in front. -/
def place (v : Violation) : Text :=
  match v.location.bind (·.startLine) with
  | none => []
  | some line =>
    let col : Text := match v.location.bind (·.startCol) with
      | some c => ":" ++ Text.ofInt c
      | none => ""
    "  (" ++ Text.ofInt line ++ col ++ ")"

/-- The line of a violation. -/
def violationText (v : Violation) : Text :=
  "  " ++ icon v.severity ++ " " ++ v.ruleId ++ place v ++ "  " ++ v.message

/-- The line of a suggestion. -/
def suggestionText (s : Text) : Text := "     → " ++ s

/-- The prints of a violation: its line, and the suggestion if there is one. -/
def violationPrints (v : Violation) : List Print :=
  .text (violationText v) ::
    match v.suggestion with
    | some s => if s.isEmpty then [] else [.markup (suggestionText s)]
    | none => []

/-- The prints of a file: its header, its violations and an empty line. -/
def groupPrints (g : Text × List Violation) : List Print :=
  .text g.1 :: g.2.flatMap violationPrints ++ [.text ""]

/-- The verdict. -/
def verdict (r : Report) : Text :=
  if r.violations.isEmpty then "No problems found"
  else "Found " ++ Text.decimal r.violations.length ++ " problem(s)"

/-- How many files have been checked. -/
def caption (r : Report) : Text := "Checked " ++ Text.ofInt r.filesChecked ++ " files"

/-- The prints of a report. -/
def prints (r : Report) : List Print :=
  .panel (toolName ++ " v" ++ toolVersion) r.caption
    :: r.groups.flatMap groupPrints
    ++ [.text (Text.copies 60 '─'), .text r.verdict]

/-- The lines of the report on a console, and the fault that ends it early if there is one. -/
def terminal (console : Console) (r : Report) : List Text × Option Console.Fault :=
  ((Print.run console r.prints).1.flatten, (Print.run console r.prints).2)

end Report

end HouseStyle
