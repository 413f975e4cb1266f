import HouseStyle.Command.Arguments
import HouseStyle.Command.Project
import HouseStyle.Fix
import HouseStyle.Report.Terminal

/-!
# Running the tool

`Command.run` does what a call asks for. It takes a file tree and gives the tree afterwards with what
is printed and the status with which the call ends. What people read is handed to consoles; JSON, diffs and
log records are printed as they are.

Main definitions:
* `Response`: what a call gives.
* `checkFiles`, `fixFiles`, `ruleRows`: the work of the tasks.
* `run`: the response to a call.
-/

namespace HouseStyle.Command

/-! ## Responses -/

/-- A page about the tool itself. -/
inductive Page where
  | help | usage
deriving Repr, DecidableEq

/-- What ends a call without an answer. -/
inductive Crash where
  /-- The project file cannot be read. -/
  | load (error : LoadError)
  /-- A console fails on a print. -/
  | print (fault : Console.Fault)
  /-- A fixer does not say how to fix. -/
  | unfinished (rule : Rule.Unfinished)
  /-- A fixed file cannot be written. -/
  | write (path : Path) (fault : WriteFault)

/-- What a call gives: its status, what it prints, and the tree afterwards. -/
structure Response where
  status : Nat
  tree : FileTree
  output : Text := []
  errors : Text := []
  page : Option Page := none
  crash : Option Crash := none

/-- Lines, each with its end. -/
def ofLines (lines : List Text) : Text := lines.flatMap (· ++ "\n")

/-- The line of a log record, if it is printed. -/
def recordLine (verbosity : Verbosity) (r : LogRecord) : Option Text :=
  match verbosity with
  | .verbose => some (toolName ++ " [" ++ r.level.text ++ "] " ++ r.source ++ ": " ++ r.message)
  | _ => if r.level = .warning then some (toolName ++ ": " ++ r.message) else none

/-- The lines of log records. -/
def logText (verbosity : Verbosity) (records : List LogRecord) : Text :=
  ofLines (records.filterMap (recordLine verbosity))

/-- The part of the tool that runs tasks, in log records. -/
def logSource : Text := "codingstandard.cli"

namespace Response

/-- A call that cannot be understood. -/
def misuse (tree : FileTree) : Response := { status := 2, tree, page := some .usage }

/-- A call that ends early. -/
def ofCrash (tree : FileTree) (crash : Crash) : Response := { status := 1, tree, crash := some crash }

/-- The line of a message about the configuration. -/
def errorText (message : Text) : Text := "Configuration error: " ++ message

/-- The response with a message on the console for errors, where it is printed as markup. -/
def configurationError (consoles : Consoles) (tree : FileTree) (message : Text) : Response :=
  match consoles.errors.lines (.markup (errorText message)) with
  | .ok lines => { status := 2, tree, errors := ofLines lines }
  | .error f => ofCrash tree (.print f)

/-- The response when a project is not ready. -/
def ofProjectError (consoles : Consoles) (tree : FileTree) : ProjectError → Response
  | .load (.refused e) => configurationError consoles tree e.message
  | .load e => ofCrash tree (.load e)
  | .plugin e => configurationError consoles tree e.message
  | .registry e => configurationError consoles tree e.message

/-- The response with prints on the console behind an output, up to the first one that fails. -/
def ofPrints (consoles : Consoles) (tree : FileTree) (status : Nat) (output : Text)
    (prints : List Print) : Response :=
  match Print.run consoles.output prints with
  | (lines, none) => { status, tree, output := output ++ ofLines lines.flatten }
  | (lines, some f) => { ofCrash tree (.print f) with output := output ++ ofLines lines.flatten }

/-- The response with log records in front of what is printed on standard error. -/
def withLog (verbosity : Verbosity) (records : List LogRecord) (r : Response) : Response :=
  { r with errors := logText verbosity records ++ r.errors }

end Response

/-! ## Paths -/

/-- The real path of an argument, which has to exist. As in `Request.ofArguments`, this is what is assumed
    of the reader of the command line: it makes every path real before it looks for it, and it refuses a
    call with a path that leads to nothing. -/
def existing? (tree : FileTree) (cwd : Path) (argument : Text) : Option Path :=
  let p := tree.realPath cwd (Path.ofText argument)
  if tree.pathExists cwd p then some p else none

/-- What is logged about the sources of a task. -/
def discoveredRecord (files : List Path) : LogRecord :=
  ⟨.debug, SourceFile.logSource, "Discovered " ++ Text.decimal files.length ++ " Python file(s)"⟩

/-! ## Tasks -/

/-- The sources of a project that can be read, with what is logged. -/
def readSources (tree : FileTree) (cwd root : Path) (files : List Path) :
    List SourceFile × List LogRecord :=
  let readings := files.map fun p => SourceFile.read tree cwd p (some root)
  (readings.filterMap (·.1), readings.flatMap (·.2))

/-- What is logged about violations. -/
def foundRecord (violations : List Violation) (files : List SourceFile) : LogRecord :=
  ⟨.debug, logSource, "Found " ++ Text.decimal violations.length ++ " violation(s) in "
    ++ Text.decimal files.length ++ " file(s)"⟩

/-- Reports the violations of files. The status is 1 if there are any. -/
def checkFiles (consoles : Consoles) (verbosity : Verbosity) (format : Format) (project : Project)
    (tree : FileTree) (cwd : Path) (paths : List Path) : Response :=
  let files := tree.sources cwd paths
  let (sources, readRecords) := readSources tree cwd project.root files
  let violations := Detection.detect project.registry project.config sources
  let report : Report :=
    { cwd, root := project.root, filesChecked := sources.length, violations, tree }
  let status := if violations.isEmpty then 0 else 1
  let response : Response :=
    match format with
    | .json => { status, tree, output := report.json ++ "\n" }
    | .terminal => Response.ofPrints consoles tree status [] report.prints
  response.withLog verbosity (project.records ++ [discoveredRecord files] ++ readRecords
    ++ [Detection.record project.registry project.config, foundRecord violations sources])

/-- The state after some files have been fixed. -/
structure FixState where
  tree : FileTree
  changed : Nat := 0
  output : Text := []
  records : List LogRecord := []

/-- Takes the run on a file into account. A file with conflicting edits is passed over; a fixer that fails and
    a file that cannot be written end the call. -/
def FixState.add (dryRun : Bool) (path : Path) (s : FixState) (r : Fix.Run) : Except Crash FixState :=
  match r.outcome with
  | .error (.unfinished e) => .error (.unfinished e)
  | .error (.unwritten f) => .error (.write path f)
  | .error (.conflict e) =>
    .ok { s with records := s.records ++ [⟨.warning, logSource, "Skipping " ++ path.text ++ ": "
      ++ e.message⟩] }
  | .ok o =>
    if o.changed then
      .ok { s with changed := s.changed + 1
                   output := if dryRun then s.output ++ o.diff ++ "\n" else s.output }
    else .ok s

/-- Fixes files one after the other, until one of them ends the call. -/
def fixEach (dryRun : Bool) (project : Project) (cwd : Path) (s : FixState) :
    List Path → FixState × Option Crash
  | [] => (s, none)
  | p :: ps =>
    let r := Fix.run project.registry project.config dryRun cwd s.tree p
    let t := { s with tree := r.tree, records := s.records ++ r.records }
    match t.add dryRun p r with
    | .error c => (t, some c)
    | .ok u => fixEach dryRun project cwd u ps

/-- How many files have changed. -/
def summaryText (changed : Nat) : Text :=
  if changed = 0 then "No changes needed." else "Fixed " ++ Text.decimal changed ++ " file(s)."

/-- What is printed when all files have been fixed; a dry run that shows changes does not count them. -/
def fixSummary (dryRun : Bool) (changed : Nat) : List Print :=
  if dryRun && changed ≠ 0 then [] else [.markup (summaryText changed)]

/-- Fixes files, or shows how they would change. -/
def fixFiles (consoles : Consoles) (verbosity : Verbosity) (dryRun : Bool) (project : Project)
    (tree : FileTree) (cwd : Path) (paths : List Path) : Response :=
  let files := tree.sources cwd paths
  let (s, crash) := fixEach dryRun project cwd { tree } files
  let response : Response :=
    match crash with
    | some c => { Response.ofCrash s.tree c with output := s.output }
    | none => Response.ofPrints consoles s.tree 0 s.output (fixSummary dryRun s.changed)
  response.withLog verbosity (project.records ++ [discoveredRecord files] ++ s.records)

/-- The rules of a project, each with whether the configuration enables it. -/
def ruleRows (project : Project) : List (RuleMeta × Bool) :=
  let ids := project.config.enabledIds (some project.registry.ruleIds)
  project.registry.metas.map fun m => (m, ids.contains m.ruleId)

/-- The list of rules as a JSON value. -/
def rulesJson (rows : List (RuleMeta × Bool)) : JsonValue :=
  .list (rows.map fun (m, enabled) => .object
    [("rule_id", .text m.ruleId), ("enabled", .bool enabled), ("title", .text m.title),
      ("description", .text m.description), ("default_severity", .text m.severity),
      ("fixable", .bool m.fixable), ("risky", .bool m.risky)])

/-- A word for a truth value. -/
def yesNo (b : Bool) : Text := if b then "yes" else "no"

/-- The list of rules as a table. -/
def rulesTable (rows : List (RuleMeta × Bool)) : Print :=
  .table (toolName ++ " rules")
    [{ heading := "ID", items := rows.map (·.1.ruleId) },
      { heading := "Enabled", centered := true, items := rows.map fun r => yesNo r.2 },
      { heading := "Severity", items := rows.map (·.1.severity) },
      { heading := "Fixable", centered := true, items := rows.map fun r => yesNo r.1.fixable },
      { heading := "Title", items := rows.map (·.1.title) }]

/-- Lists the rules of a project. -/
def listRules (consoles : Consoles) (verbosity : Verbosity) (format : Option Format)
    (project : Project) (tree : FileTree) : Response :=
  let rows := ruleRows project
  let response : Response :=
    match format with
    | some .json => { status := 0, tree, output := (rulesJson rows).pretty ++ "\n" }
    | some .terminal => Response.ofPrints consoles tree 0 [] [rulesTable rows]
    | none => Response.misuse tree
  response.withLog verbosity project.records

/-! ## Calls -/

/-- Finds the project of the first path and goes on with it. -/
def withProject (consoles : Consoles) (modules : PluginModules) (tree : FileTree) (cwd start : Path)
    (task : Project → Response) : Response :=
  match Project.find modules tree cwd start with
  | .ok project => task project
  | .error e => Response.ofProjectError consoles tree e

/-- Runs a task. -/
def runTask (consoles : Consoles) (modules : PluginModules) (verbosity : Verbosity) (tree : FileTree)
    (cwd : Path) : Task → Response
  | .check arguments format =>
    match arguments.mapM (existing? tree cwd), format with
    | some (start :: others), some format =>
      withProject consoles modules tree cwd start fun project =>
        checkFiles consoles verbosity format project tree cwd (start :: others)
    | _, _ => Response.misuse tree
  | .fix arguments dryRun =>
    match arguments.mapM (existing? tree cwd) with
    | some (start :: others) =>
      withProject consoles modules tree cwd start fun project =>
        fixFiles consoles verbosity dryRun project tree cwd (start :: others)
    | _ => Response.misuse tree
  | .rules argument format =>
    match existing? tree cwd argument with
    | some start =>
      if tree.isFolder cwd start then
        withProject consoles modules tree cwd start fun project =>
          listRules consoles verbosity format project tree
      else Response.misuse tree
    | none => Response.misuse tree

/-- The response to a call. -/
def run (consoles : Consoles) (modules : PluginModules) (tree : FileTree) (cwd : Path)
    (arguments : List Text) : Response :=
  match Request.ofArguments arguments with
  | .version => { status := 0, tree, output := toolVersion ++ "\n" }
  | .help => { status := 0, tree, page := some .help }
  | .nothing => { status := 2, tree, page := some .help }
  | .misuse => Response.misuse tree
  | .run verbosity task => runTask consoles modules verbosity tree cwd task

end HouseStyle.Command
