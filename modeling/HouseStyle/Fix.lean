import HouseStyle.Detection
import HouseStyle.Diff

/-!
# Fixing files

`Fix.ofBytes` applies the edits of the enabled fixers to the bytes of a file. Only the edited ranges
change: line ends are not unified, and a byte order mark stays in front. `Fix.run` does so for a file of
a tree; files that cannot be read or are no UTF-8 stay as they are. Writing the file may fail.
-/

namespace HouseStyle.Fix

/-- What fixing a file gives: whether its text changes, the diff, the edits, and the bytes that the
    file then has. -/
structure Report where
  changed : Bool
  diff : Text
  edits : List Edit
  bytes : Bytes
deriving Repr, DecidableEq

/-- Why a file is not fixed. -/
inductive Failure where
  /-- It is no UTF-8. -/
  | notUtf8 (error : Utf8.DecodeError)
  /-- The edits do not fit the text or each other. -/
  | conflict (conflict : Edit.Conflict)
  /-- A fixer does not say how to fix. -/
  | unfinished (rule : Rule.Unfinished)
deriving Repr, DecidableEq

/-- Fixes the text of a file. -/
def ofText (registry : Registry) (c : Config) (path : Path) (mark : Bytes) (text : Text) :
    Except Failure Report :=
  match Detection.collectEdits registry c (SourceFile.ofText path path.text text) with
  | .error e => .error (.unfinished e)
  | .ok edits =>
    match Edit.applyAll text edits with
    | .error e => .error (.conflict e)
    | .ok updated =>
      .ok { changed := text ≠ updated
            diff := Diff.unified path.text text updated
            edits
            bytes := mark ++ Utf8.encode updated }

/-- Fixes the bytes of a file. -/
def ofBytes (registry : Registry) (c : Config) (path : Path) (bytes : Bytes) :
    Except Failure Report :=
  let (mark, body) := Utf8.splitMark bytes
  match Utf8.decode body with
  | .error e => .error (.notUtf8 e)
  | .ok text => ofText registry c path mark text

/-! ## Files of a tree -/

/-- The part of the tool that fixes files, in log records. -/
def logSource : Text := "codingstandard.autofix"

/-- What a run tells about a file. -/
structure Outcome where
  path : Path
  changed : Bool := false
  diff : Text := []
  edits : List Edit := []
deriving Repr, DecidableEq

/-- What stops a run on a file. -/
inductive Stop where
  | conflict (conflict : Edit.Conflict)
  | unfinished (rule : Rule.Unfinished)
  /-- The file cannot be written. -/
  | unwritten (fault : WriteFault)
deriving Repr, DecidableEq

/-- A run on one file: what it tells or what stops it, the tree afterwards, and log records. -/
structure Run where
  outcome : Except Stop Outcome
  tree : FileTree
  records : List LogRecord := []

/-- What is logged when a changed file has been written. -/
def appliedRecord (path : Path) (edits : List Edit) : LogRecord :=
  ⟨.debug, logSource, "Applied " ++ Text.decimal edits.length ++ " edit(s) to " ++ path.text⟩

/-- Fixes a file of a tree. In a dry run, and when nothing changes, nothing is written. -/
def run (registry : Registry) (c : Config) (dryRun : Bool) (cwd : Path) (tree : FileTree)
    (path : Path) : Run :=
  match tree.fileAt cwd path with
  | .error e =>
    { outcome := .ok { path }, tree
      records := [⟨.warning, logSource, "Cannot read " ++ path.text ++ ": " ++ e.message path⟩] }
  | .ok (names, bytes) =>
    match ofBytes registry c path bytes with
    | .error (.notUtf8 e) =>
      { outcome := .ok { path }, tree
        records := [⟨.warning, logSource, "Skipping " ++ path.text ++ ": not valid UTF-8 ("
          ++ e.message ++ ")"⟩] }
    | .error (.conflict e) =>
      { outcome := .error (.conflict e), tree, records := readRecords path bytes }
    | .error (.unfinished e) =>
      { outcome := .error (.unfinished e), tree, records := readRecords path bytes }
    | .ok r =>
      let outcome := .ok { path, changed := r.changed, diff := r.diff, edits := r.edits }
      if r.changed && !dryRun then
        match tree.write names r.bytes with
        | (written, none) =>
          { outcome, tree := written
            records := readRecords path bytes ++ [appliedRecord path r.edits] }
        | (written, some f) =>
          { outcome := .error (.unwritten f), tree := written, records := readRecords path bytes }
      else { outcome, tree, records := readRecords path bytes }
where
  /-- What is logged about reading the source and the enabled rules. -/
  readRecords (path : Path) (bytes : Bytes) : List LogRecord :=
    (match Utf8.decode (Utf8.splitMark bytes).2 with
      | .ok text => SourceFile.tokenRecords path text
      | .error _ => []) ++ [Detection.record registry c]

end HouseStyle.Fix
