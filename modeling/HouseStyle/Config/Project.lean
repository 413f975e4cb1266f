import HouseStyle.Config.Reader
import HouseStyle.FileTree
import HouseStyle.Text.Lines
import HouseStyle.Toml.Document

/-!
# Configurations of projects

A project keeps its configuration in the table `tool.codingstandard` of its project file.
`Config.load` reads it from a file tree; without a project file or without the table it is the default
configuration.
-/

namespace HouseStyle

/-- Why a project file gives no configuration. -/
inductive LoadError where
  /-- The file describes no configuration. -/
  | refused (error : ConfigError)
  /-- The file is no UTF-8. -/
  | notUtf8 (error : Utf8.DecodeError)
  /-- A decimal integer in the file has more digits than are read. -/
  | tooManyDigits (count : Nat)
  /-- The file cannot be read. -/
  | unreadable (path : Path) (fault : ReadFault)

/-- The wording of an error. -/
def LoadError.message : LoadError → Text
  | .refused e => e.message
  | .notUtf8 e => e.message
  | .tooManyDigits n =>
    "Exceeds the limit (" ++ Text.decimal Toml.maxDigits
      ++ " digits) for integer string conversion: value has " ++ Text.decimal n
      ++ " digits; use sys.set_int_max_str_digits() to increase the limit"
  | .unreadable path fault => fault.message path

namespace Config

/-- The configuration in the table of a project file. -/
def ofDocument (path : Text) (document : List (Value × Value)) : Except ConfigError Config :=
  match Value.get? "tool" document with
  | none => .ok {}
  | some (.table tools) =>
    match Value.get? "codingstandard" tools with
    | none => .ok {}
    | some v => ofValue v
  | some _ => .error (.toolNotATable path)

/-- The configuration in the text of a project file. -/
def ofProjectText (path text : Text) : Except LoadError Config :=
  match Toml.document text with
  | .error .malformed => .error (.refused (.invalidToml path))
  | .error (.tooManyDigits n) => .error (.tooManyDigits n)
  | .ok document => (ofDocument path document).mapError .refused

/-- The configuration in the bytes of a project file. -/
def ofProjectBytes (path : Text) (bytes : Bytes) : Except LoadError Config :=
  match Utf8.decode bytes with
  | .error e => .error (.notUtf8 e)
  | .ok text => ofProjectText path text.unifyNewlines

/-- The configuration of the project in a folder. -/
def load (tree : FileTree) (cwd folder : Path) : Except LoadError Config :=
  let path := folder.child FileTree.projectFile
  match tree.locate cwd path with
  | .error _ => .ok {}
  | .ok (.folder _) => .error (.unreadable path .isFolder)
  | .ok (.file _ bytes) => ofProjectBytes path.text bytes

end Config

end HouseStyle
