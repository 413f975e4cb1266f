import HouseStyle.FileTree
import HouseStyle.Log
import HouseStyle.Syntax.Statement
import HouseStyle.Token

/-!
# Source files

A source file is a text with its two views, the syntax tree and the token stream. Either view may be
missing; rules then find nothing.
-/

namespace HouseStyle

/-- A source with its views. -/
structure SourceFile where
  path : Path
  /-- The path in reports. -/
  shownPath : Text
  text : Text
  lines : List Text
  tree : Option Syntax.Node
  tokens : Option (List Token)

namespace SourceFile

/-- The part of the tool that reads sources, in log records. -/
def logSource : Text := "codingstandard.scanner"

/-- The source with the given text. With a root, reports show the path relative to it. -/
def ofText (path : Path) (shownPath text : Text) : SourceFile :=
  { path, shownPath, text
    lines := text.splitLines
    tree := Syntax.Node.ofText? text
    tokens := (Token.ofText text).toOption }

/-- The path that reports show, given the root of the project if there is one. -/
def shownPathOf (tree : FileTree) (cwd path : Path) : Option Path → Text
  | some root => tree.shown cwd root path
  | none => path.text

/-- What is logged when a source has no token stream. -/
def tokenRecords (path : Path) (text : Text) : List LogRecord :=
  match Token.ofText text with
  | .ok _ => []
  | .error e => [⟨.debug, logSource, "Skipping tokens for " ++ path.text ++ ": " ++ e.message⟩]

/-- Reads a source from a file tree. Bytes that are no UTF-8 are replaced and line ends unified. -/
def read (tree : FileTree) (cwd path : Path) (root : Option Path) :
    Option SourceFile × List LogRecord :=
  match tree.read cwd path with
  | .error e =>
    (none, [⟨.warning, logSource, "Cannot read " ++ path.text ++ ": " ++ e.message path⟩])
  | .ok bytes =>
    let text := (Utf8.decodeLossy bytes).unifyNewlines
    (some (ofText path (shownPathOf tree cwd path root) text), tokenRecords path text)

end SourceFile

end HouseStyle
