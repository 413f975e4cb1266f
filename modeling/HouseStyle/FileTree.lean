import HouseStyle.Order
import HouseStyle.Path
import HouseStyle.Text.Quoted
import HouseStyle.Text.Utf8

/-!
# File trees

A file tree lists files with their bytes, folders and symbolic links, each by its names from the top. Every
folder above an entry exists too. A symbolic link leads to a path, which may lead to nothing or back to the
link; hard links are several names of one file. Writing a file may fail.

Main definitions:
* `FileTree`, `FileTree.place?`: a tree and its entries.
* `FileTree.locate`, `FileTree.read`, `FileTree.isFolder`: what a path leads to.
* `FileTree.write`: a file with other bytes.
* `FileTree.realPath`, `FileTree.shown`: the path without links and `..`, and the path that reports show.
* `FileTree.projectRoot`: the closest folder with a project file.
* `FileTree.Folder.search`: the source files in a folder and in those of its folders that are searched.
* `FileTree.sources`: the source files that a list of paths stands for.
-/

namespace HouseStyle

/-- Why a file cannot be read. -/
inductive ReadFault where
  | notFound
  | isFolder
  /-- A name in front of the last one is a file. -/
  | notAFolder
  /-- More symbolic links stand on the way than are followed. -/
  | tooManyLinks
deriving Repr, DecidableEq

/-- The wording of a fault for a path. -/
def ReadFault.message (path : Path) : ReadFault → Text
  | .notFound => "[Errno 2] No such file or directory: " ++ path.text.quoted
  | .isFolder => "[Errno 21] Is a directory: " ++ path.text.quoted
  | .notAFolder => "[Errno 20] Not a directory: " ++ path.text.quoted
  | .tooManyLinks => "[Errno 40] Too many levels of symbolic links: " ++ path.text.quoted

/-- Why a file cannot be written. -/
inductive WriteFault where
  /-- It cannot be opened for writing. -/
  | denied
  /-- There is space for so many bytes only. -/
  | full (space : Nat)
deriving Repr, DecidableEq

/-- The wording of a fault for a path. -/
def WriteFault.message (path : Path) : WriteFault → Text
  | .denied => "[Errno 13] Permission denied: " ++ path.text.quoted
  | .full _ => "[Errno 28] No space left on device"

/-- Files with their bytes, folders and links, by their names from the top. -/
structure FileTree where
  files : List (List Text × Bytes) := []
  folders : List (List Text) := []
  /-- The symbolic links with the paths to which they lead, seen from their folders. -/
  links : List (List Text × Path) := []
  /-- The hard links: each is a list of names of files that are one file, and hold the same bytes. -/
  hardLinks : List (List (List Text)) := []
  /-- The files that cannot be written, by one of their names. -/
  faults : List (List Text × WriteFault) := []
deriving Repr, DecidableEq

namespace FileTree

/-! ## Entries -/

/-- The bytes of a file. -/
def bytes? (tree : FileTree) (names : List Text) : Option Bytes := tree.files.lookup names

/-- There is a file of these names. -/
def hasFile (tree : FileTree) (names : List Text) : Bool := (tree.bytes? names).isSome

/-- The path to which the symbolic link of these names leads. -/
def target? (tree : FileTree) (names : List Text) : Option Path := tree.links.lookup names

/-- There is a folder of these names: listed, or above an entry. -/
def hasFolder (tree : FileTree) (names : List Text) : Bool :=
  names.isEmpty || tree.folders.any names.isPrefixOf
    || (tree.files.map (·.1) ++ tree.links.map (·.1)).any fun n => names.isPrefixOf n && names ≠ n

/-- What stands at the end of a path. -/
inductive Place where
  | file (names : List Text) (bytes : Bytes)
  | folder (names : List Text)
deriving Repr, DecidableEq

/-- The file or the folder of these names. -/
def place? (tree : FileTree) (names : List Text) : Option Place :=
  match tree.bytes? names with
  | some b => some (.file names b)
  | none => if tree.hasFolder names then some (.folder names) else none

/-! ## Following paths -/

/-- Where names lead from a folder, up to the first symbolic link. -/
inductive Stretch where
  | done (place : Except ReadFault Place)
  /-- A link in a folder, with the names behind it. -/
  | link (folder : List Text) (target : Path) (rest : List Text)

/-- Follows names from a folder up to the first symbolic link. -/
def stretch (tree : FileTree) (names : List Text) : List Text → Stretch
  | [] =>
    match tree.place? names with
    | some p => .done (.ok p)
    | none => .done (.error .notFound)
  | n :: ns =>
    match tree.place? names with
    | some (.folder _) =>
      match tree.target? (Path.resolveStep names n) with
      | some target => .link names target ns
      | none => stretch tree (Path.resolveStep names n) ns
    | some (.file ..) => .done (.error .notAFolder)
    | none => .done (.error .notFound)

/-- The folder from which a path is followed that stands in a folder. -/
def base (folder : List Text) (p : Path) : List Text := if p.isAbsolute then [] else folder

/-- Follows names from a folder, over at most `links` symbolic links. -/
def follow (tree : FileTree) : (links : Nat) → (names path : List Text) → Except ReadFault Place
  | 0, names, path =>
    match tree.stretch names path with
    | .done place => place
    | .link .. => .error .tooManyLinks
  | links + 1, names, path =>
    match tree.stretch names path with
    | .done place => place
    | .link folder target rest => follow tree links (base folder target) (target.names ++ rest)

/-- The number of symbolic links that are followed. -/
def maxLinks : Nat := 40

/-- The entry that a path means, seen from an absolute folder. -/
def locate (tree : FileTree) (cwd p : Path) : Except ReadFault Place :=
  tree.follow maxLinks [] (cwd.join p).names

/-- The path leads to something. -/
def pathExists (tree : FileTree) (cwd p : Path) : Bool :=
  match tree.locate cwd p with
  | .ok _ => true
  | .error _ => false

/-- The path leads to a folder. -/
def isFolder (tree : FileTree) (cwd p : Path) : Bool :=
  match tree.locate cwd p with
  | .ok (.folder _) => true
  | _ => false

/-- The names and the bytes of the file that a path leads to. -/
def fileAt (tree : FileTree) (cwd p : Path) : Except ReadFault (List Text × Bytes) :=
  match tree.locate cwd p with
  | .ok (.file names b) => .ok (names, b)
  | .ok (.folder _) => .error .isFolder
  | .error e => .error e

/-- The bytes of the file that a path leads to. -/
def read (tree : FileTree) (cwd p : Path) : Except ReadFault Bytes :=
  (tree.fileAt cwd p).map (·.2)

/-! ## Writing -/

/-- All names of a file. -/
def namesOf (tree : FileTree) (names : List Text) : List (List Text) :=
  names :: (tree.hardLinks.filter (·.contains names)).flatten

/-- The tree in which a file has other bytes. -/
def withBytes (tree : FileTree) (names : List Text) (bytes : Bytes) : FileTree :=
  { tree with
    files := tree.files.map fun f => if (tree.namesOf names).contains f.1 then (f.1, bytes) else f }

/-- Gives a file other bytes, as far as this is possible. -/
def write (tree : FileTree) (names : List Text) (bytes : Bytes) : FileTree × Option WriteFault :=
  match tree.faults.lookup names with
  | none => (tree.withBytes names bytes, none)
  | some .denied => (tree, some .denied)
  | some (.full space) =>
    if bytes.length ≤ space then (tree.withBytes names bytes, none)
    else (tree.withBytes names (bytes.take space), some (.full space))

/-! ## Real paths -/

/-- Names that are made real, and whether that has gone well: no link has led back to itself. -/
abbrev RealNames := List Text × Bool

/-- Takes a name into account. A link is replaced by its own real path, given a function that makes paths
    real, unless the link is being replaced already; behind such a link the names stay as they are. -/
def realStep (tree : FileTree) (openLinks : List (List Text))
    (expand : (openLinks : List (List Text)) → (names path : List Text) → RealNames) (s : RealNames)
    (n : Text) : RealNames :=
  let next := Path.resolveStep s.1 n
  if !s.2 then (s.1 ++ [n], false)
  else if n = "..".toList then (next, true)
  else
    match tree.target? next with
    | none => (next, true)
    | some target =>
      if openLinks.contains next then (next, false)
      else expand (next :: openLinks) (base s.1 target) target.names

/-- Makes names real, seen from a real folder. No more than `fuel` links are open at a time. -/
def realNames (tree : FileTree) :
    (fuel : Nat) → (openLinks : List (List Text)) → (names path : List Text) → RealNames
  | 0, _, names, path => (names ++ path, false)
  | fuel + 1, openLinks, names, path =>
    path.foldl (tree.realStep openLinks (realNames tree fuel)) (names, true)

/-- The absolute path without links and `..`, seen from an absolute folder. -/
def realPath (tree : FileTree) (cwd p : Path) : Path :=
  ⟨"/", (tree.realNames (tree.links.length + 1) [] [] (cwd.join p).names).1.foldl Path.resolveStep []⟩

/-- The absolute path without links and `..`, unless a file system cannot follow the path. -/
def realPath? (tree : FileTree) (cwd p : Path) : Option Path :=
  if p.hasNull then none else some (tree.realPath cwd p)

/-- The path that reports show: relative to the root if it lies below, else as it is. It is asked for of
    files that have been read, so no links lead the path in a circle. -/
def shown (tree : FileTree) (cwd root p : Path) : Text :=
  Path.shownFrom (tree.realPath? cwd root) (tree.realPath? cwd p) p

/-! ## Projects -/

/-- The name of project files. -/
def projectFile : Text := "pyproject.toml"

/-- The closest folder at or above a path that holds a project file, else the folder of the path. -/
def projectRoot (tree : FileTree) (cwd start : Path) : Path :=
  let base := if tree.isFolder cwd start then start else start.parent
  (base.ancestors.find? fun p => tree.pathExists cwd (p.child projectFile)).getD base

/-! ## Sources -/

/-- Folders that are not searched. -/
def skippedFolders : List Text :=
  [".git".toList, ".hg".toList, ".svn".toList, ".mypy_cache".toList, ".pytest_cache".toList,
    ".tox".toList, ".venv".toList, "venv".toList, "node_modules".toList, "dist".toList,
    "build".toList, "__pycache__".toList]

/-- The name of a source file, by its extension in any case. -/
def isSourceName (name : Text) : Bool :=
  let e := (Path.extension name).lowerAscii
  e = ".py".toList || e = ".pyi".toList

/-- A folder as a search sees it: the names of its files, and its folders with their names. -/
inductive Folder where
  | mk (files : List Text) (folders : List (Text × Folder))

namespace Folder

/-- A folder with nothing in it. -/
def empty : Folder := .mk [] []

/-- Changes the folder of a name among folders; if there is none it is made. -/
def change (name : Text) (f : Folder → Folder) : List (Text × Folder) → List (Text × Folder)
  | [] => [(name, f empty)]
  | (n, g) :: rest => if n = name then (n, f g) :: rest else (n, g) :: change name f rest

/-- Adds a file, by its names from the folder. -/
def add : List Text → Folder → Folder
  | [], g => g
  | [n], .mk files folders => .mk (n :: files) folders
  | d :: n :: ns, .mk files folders => .mk files (change d (add (n :: ns)) folders)

mutual

/-- The sources in a folder and below it, each by its names from the folder. -/
def search : Folder → List (List Text)
  | .mk files folders => (files.filter isSourceName).map (fun n => [n]) ++ searchEach folders

/-- The sources in folders and below them, unless the folder is not searched. -/
def searchEach : List (Text × Folder) → List (List Text)
  | [] => []
  | (n, g) :: rest =>
    (if skippedFolders.contains n then [] else (search g).map (n :: ·)) ++ searchEach rest

end

end Folder

/-- The names of what a search takes for files: the files, and the symbolic links that lead to no folder.
    Links that lead to folders are not followed. -/
def leaves (tree : FileTree) : List (List Text) :=
  tree.files.map (·.1) ++ (tree.links.map (·.1)).filter fun names => !tree.isFolder ⟨"/", []⟩ ⟨"/", names⟩

/-- The files below a folder, each by its names from that folder. -/
def filesBelow (tree : FileTree) (folder : List Text) : List (List Text) :=
  tree.leaves.filterMap fun names =>
    if folder.isPrefixOf names then some (names.drop folder.length) else none

/-- The sources below a folder, each by its names from that folder. -/
def below (tree : FileTree) (folder : List Text) : List (List Text) :=
  ((tree.filesBelow folder).foldr Folder.add .empty).search

/-- The sources that a path stands for: itself if it is a source file, or those below it. -/
def sourcesOf (tree : FileTree) (cwd p : Path) : List Path :=
  match tree.locate cwd p with
  | .ok (.file ..) => if isSourceName p.name then [p] else []
  | .ok (.folder names) => (tree.below names).map fun ns => ⟨p.anchor, p.names ++ ns⟩
  | .error _ => []

/-- The sources that paths stand for, each once, in order. -/
def sources (tree : FileTree) (cwd : Path) (paths : List Path) : List Path :=
  stableSort Path.le (distinct (paths.flatMap (tree.sourcesOf cwd)))

end FileTree

end HouseStyle
