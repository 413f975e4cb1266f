import HouseStyle.Text.Case

/-!
# Paths

A path is an anchor and a list of names. Names that are empty or a single dot are dropped when a path
is read; `..` is kept until the path is resolved. Paths are ordered name by name.

Main definitions:
* `Path.ofText`, `Path.text`: reading and writing.
* `Path.resolve`, `Path.resolve?`: the absolute path without `..`, as in a file system without links,
  and whether there is one.
* `Path.relativeTo?`, `Path.shownFrom`: the path below a folder, and the path that reports show.
-/

namespace HouseStyle

/-- A path: nothing, one slash or two slashes in front, and its names. -/
structure Path where
  anchor : Text
  names : List Text
deriving Repr, DecidableEq

namespace Path

/-- The anchor of a text: exactly two slashes in front are kept, otherwise one counts. -/
def anchorOf (t : Text) : Text :=
  match (t.takeWhile (· = '/')).length with
  | 0 => []
  | 2 => "//"
  | _ => "/"

/-- Reads a path. -/
def ofText (t : Text) : Path :=
  ⟨anchorOf t, (Text.splitOn '/' t).filter fun n => n ≠ [] && n ≠ ".".toList⟩

/-- Writes a path; the path without anchor and names is a dot. -/
def text (p : Path) : Text :=
  if p.anchor.isEmpty && p.names.isEmpty then "." else p.anchor ++ Text.joinWith "/" p.names

/-- The path starts at the top. -/
def isAbsolute (p : Path) : Bool := !p.anchor.isEmpty

/-- A path seen from a folder. -/
def join (folder p : Path) : Path :=
  if p.isAbsolute then p else ⟨folder.anchor, folder.names ++ p.names⟩

/-- An entry of a folder. -/
def child (folder : Path) (name : Text) : Path := ⟨folder.anchor, folder.names ++ [name]⟩

/-- The folder of a path. -/
def parent (p : Path) : Path := ⟨p.anchor, p.names.dropLast⟩

/-- The path and all folders above it, innermost first. -/
def ancestors (p : Path) : List Path :=
  ((List.range (p.names.length + 1)).map fun k => ⟨p.anchor, p.names.take k⟩ : List Path).reverse

/-- The last name. -/
def name (p : Path) : Text := p.names.getLast?.getD []

/-- The extension of a name: from its last dot on, unless that dot comes first or last. -/
def extension (name : Text) : Text :=
  let tail := (name.reverse.takeWhile (· ≠ '.')).reverse
  let stem := name.length - tail.length
  if stem ≤ 1 || tail.isEmpty then [] else '.' :: tail

/-- Takes a name into account: `..` goes up, and stays at the top. -/
def resolveStep (names : List Text) (n : Text) : List Text :=
  if n = "..".toList then names.dropLast else names ++ [n]

/-- The absolute path without `..`, seen from an absolute folder. -/
def resolve (cwd p : Path) : Path := ⟨"/", (cwd.join p).names.foldl resolveStep []⟩

/-- A name holds the null character, which no file system knows. -/
def hasNull (p : Path) : Bool := p.names.any (·.contains '\x00')

/-- The absolute path without `..`, unless a file system cannot follow the path. -/
def resolve? (cwd p : Path) : Option Path := if p.hasNull then none else some (resolve cwd p)

/-- The path seen from a folder at or above it. -/
def relativeTo? (folder p : Path) : Option Path :=
  if folder.anchor = p.anchor && folder.names.isPrefixOf p.names then
    some ⟨[], p.names.drop folder.names.length⟩
  else none

/-- The path that reports show, given where the root and the path lead if a file system can follow them:
    relative to the root if it lies below, else as it is. -/
def shownFrom (root? place? : Option Path) (p : Path) : Text :=
  match root?, place? with
  | some r, some q => ((relativeTo? r q).getD p).text
  | _, _ => p.text

/-- The path that reports show in a file system without links. -/
def shown (cwd root p : Path) : Text := shownFrom (resolve? cwd root) (resolve? cwd p) p

/-- The anchor, if there is one, and the names. -/
def parts (p : Path) : List Text := if p.anchor.isEmpty then p.names else p.anchor :: p.names

/-- Lexicographic order of lists of names. -/
def leNames : List Text → List Text → Bool
  | [], _ => true
  | _ :: _, [] => false
  | a :: as, b :: bs => if a = b then leNames as bs else Text.le a b

/-- The order of paths, name by name; an anchor counts as a name. -/
def le (p q : Path) : Bool := leNames p.parts q.parts

end Path

end HouseStyle
