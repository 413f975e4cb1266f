import HouseStyle.Command.Run
import HouseStyle.Terminal.Console

/-!
# The command line

Reads the part of the file system that a call is about, runs the call, writes the files that it
changed, and prints what it gives. Everything that is decided is decided in
`HouseStyle.Command.run`, except for what the file system says when a file is written. No plugins are linked
in.
-/

namespace HouseStyle.Command

/-- The text of a page about the tool. -/
def Page.text : Page → Text
  | .help =>
    ofLines ["Usage: codingstandard [--version] [-v|--verbose] [-q|--quiet] [--help] TASK",
      "",
      "Cognitive complexity and class naming rules for Python code.",
      "",
      "Tasks:",
      "  check [--format terminal|json] PATHS   Report rule violations.",
      "  fix [--dry-run] PATHS                  Apply fixer edits in place.",
      "  rules [--format terminal|json] [PATH]  List the rules of a project."]
  | .usage => ofLines ["Try 'codingstandard --help' for help."]

/-- The message of a call that ends early. -/
def Crash.message : Crash → Text
  | .load e => e.message
  | .print f => f.exception ++ ": a text cannot be printed."
  | .unfinished e => "A fixer does not say how to fix: " ++ e.ruleId
  | .write path f => f.message path

/-- The real names of an entry of the file system; they differ from its names where links lead to it. -/
def realNames (names : List Text) : IO (List Text) := do
  let here := (← IO.currentDir) / String.ofList (Path.text ⟨['/'], names⟩)
  if ← here.pathExists then
    return (Path.ofText (← IO.FS.realPath here).toString.toList).names
  else return names

/-- Adds an entry to a tree, and all that is in it if it is a folder. A link is added with the entry to
    which it leads; a link that leads to nothing is left out. -/
partial def addEntry (names : List Text) (tree : FileTree) : IO FileTree := do
  let here := (← IO.currentDir) / String.ofList (Path.text ⟨['/'], names⟩)
  let real ← realNames names
  if (tree.target? names).isSome || tree.hasFile names || tree.folders.contains names then return tree
  else if real ≠ names then
    addEntry real { tree with links := (names, ⟨['/'], real⟩) :: tree.links }
  else if ← here.isDir then
    let mut tree := { tree with folders := names :: tree.folders }
    for entry in ← here.readDir do
      tree ← addEntry (names ++ [entry.fileName.toList]) tree
    return tree
  else if ← here.pathExists then
    return { tree with files := (names, (← IO.FS.readBinFile here).toList) :: tree.files }
  else return tree

/-- Adds the links on a path to a tree. Gives the real path, too. -/
def addLinks (path : Path) (tree : FileTree) : IO (Path × FileTree) := do
  let mut tree := tree
  let mut names : List Text := []
  for n in path.names do
    let next := Path.resolveStep names n
    names ← realNames next
    if names ≠ next then tree := { tree with links := (next, ⟨['/'], names⟩) :: tree.links }
  return (⟨['/'], names⟩, tree)

/-- The paths that a call is about. -/
def Request.paths : Request → List Text
  | .run _ (.check paths _) => paths
  | .run _ (.fix paths _) => paths
  | .run _ (.rules path _) => [path]
  | _ => []

/-- The tree that a call is about: its paths, and the project files above them. -/
def readTree (cwd : Path) (arguments : List Text) : IO FileTree := do
  let mut tree : FileTree := {}
  for a in (Request.ofArguments arguments).paths do
    let (p, linked) ← addLinks (cwd.join (Path.ofText a)) tree
    tree ← addEntry p.names linked
    for folder in p.ancestors do
      tree ← addEntry (folder.child FileTree.projectFile).names tree
  return tree

/-- Writes the files whose bytes have changed. -/
def writeChanges (before after : FileTree) : IO Unit := do
  for (names, bytes) in after.files do
    if before.bytes? names ≠ some bytes then
      let path := String.ofList (Path.text ⟨['/'], names⟩)
      IO.FS.writeBinFile ((← IO.currentDir) / path) ⟨bytes.toArray⟩

end HouseStyle.Command

/-- Runs a call. -/
def main (arguments : List String) : IO UInt32 := do
  let cwd := HouseStyle.Path.ofText (← IO.currentDir).toString.toList
  let texts := arguments.map String.toList
  let tree ← HouseStyle.Command.readTree cwd texts
  let response := HouseStyle.Command.run (HouseStyle.Terminal.consoles 80) [] tree cwd texts
  HouseStyle.Command.writeChanges tree response.tree
  IO.print (String.ofList response.output)
  IO.eprint (String.ofList response.errors)
  match response.page with
  | some .help => IO.print (String.ofList (HouseStyle.Command.Page.text .help))
  | some .usage => IO.eprint (String.ofList (HouseStyle.Command.Page.text .usage))
  | none => pure ()
  if let some crash := response.crash then IO.eprintln (String.ofList crash.message)
  return response.status.toUInt32
