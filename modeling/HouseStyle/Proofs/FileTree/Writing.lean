import HouseStyle.FileTree
import Mathlib.Data.List.Basic

/-!
# Writing one file of a tree

Writing gives one file other bytes, under all its names. Every path leads to the same entry as before, every
other file keeps its bytes, and folders and links stay. A write that fails leaves the tree as it is or the
file cut.

Main results:
* `FileTree.bytes?_withBytes`, `FileTree.locate_withBytes`: what the new tree holds, and where paths
  lead in it.
* `FileTree.write_cases`: what a write does.
* `FileTree.names_of_locate`: the names of the file that a path leads to where there are no links.
-/

namespace HouseStyle

namespace FileTree

/-! ## One file with other bytes -/

@[simp] theorem folders_withBytes (tree : FileTree) (names : List Text) (bytes : Bytes) :
    (tree.withBytes names bytes).folders = tree.folders := rfl

@[simp] theorem links_withBytes (tree : FileTree) (names : List Text) (bytes : Bytes) :
    (tree.withBytes names bytes).links = tree.links := rfl

@[simp] theorem hardLinks_withBytes (tree : FileTree) (names : List Text) (bytes : Bytes) :
    (tree.withBytes names bytes).hardLinks = tree.hardLinks := rfl

@[simp] theorem faults_withBytes (tree : FileTree) (names : List Text) (bytes : Bytes) :
    (tree.withBytes names bytes).faults = tree.faults := rfl

@[simp] theorem target?_withBytes (tree : FileTree) (names other : List Text) (bytes : Bytes) :
    (tree.withBytes names bytes).target? other = tree.target? other := rfl

theorem map_fst_withBytes (tree : FileTree) (names : List Text) (bytes : Bytes) :
    (tree.withBytes names bytes).files.map (·.1) = tree.files.map (·.1) := by
  rw [withBytes, List.map_map]
  refine List.map_congr_left fun f _ => ?_
  rw [Function.comp]
  split_ifs <;> rfl

theorem lookup_map_bytes (all : List (List Text)) (bytes : Bytes) (other : List Text)
    (files : List (List Text × Bytes)) :
    (files.map fun f => if all.contains f.1 then (f.1, bytes) else f).lookup other =
      if other ∈ all then (files.lookup other).map fun _ => bytes else files.lookup other := by
  induction files with
  | nil => simp
  | cons f fs ih =>
    obtain ⟨n, b⟩ := f
    rw [List.map_cons]
    by_cases ho : other = n
    · subst ho
      by_cases hall : other ∈ all <;> simp [hall]
    · have hne : (other == n) = false := beq_eq_false_iff_ne.mpr ho
      rw [List.lookup_cons (a := other) (b := b), hne, ← ih]
      by_cases hall : n ∈ all <;> simp [hall, List.lookup_cons, hne]

/-- Only a file of the given names has other bytes, under all its names, and only if it is there. -/
theorem bytes?_withBytes (tree : FileTree) (names other : List Text) (bytes : Bytes) :
    (tree.withBytes names bytes).bytes? other =
      if other ∈ tree.namesOf names then (tree.bytes? other).map fun _ => bytes
      else tree.bytes? other :=
  lookup_map_bytes (tree.namesOf names) bytes other tree.files

theorem mem_namesOf_self (tree : FileTree) (names : List Text) : names ∈ tree.namesOf names :=
  List.mem_cons_self

/-- Without hard links a file has one name. -/
theorem mem_namesOf_iff {tree : FileTree} (h : tree.hardLinks = []) {names other : List Text} :
    other ∈ tree.namesOf names ↔ other = names := by
  rw [namesOf, h]
  exact List.mem_singleton

theorem hasFolder_withBytes (tree : FileTree) (names other : List Text) (bytes : Bytes) :
    (tree.withBytes names bytes).hasFolder other = tree.hasFolder other := by
  rw [hasFolder, hasFolder, map_fst_withBytes, folders_withBytes, links_withBytes]

/-! ## Paths -/

/-- The entry with other bytes, if it is a file with one of the given names. -/
def Place.withBytes (all : List (List Text)) (bytes : Bytes) : Place → Place
  | .file ns b => .file ns (if ns ∈ all then bytes else b)
  | .folder ns => .folder ns

/-- The stretch with another place at its end. -/
def Stretch.map (f : Place → Place) : Stretch → Stretch
  | .done place => .done (place.map f)
  | .link folder target rest => .link folder target rest

theorem place?_withBytes (tree : FileTree) (names other : List Text) (bytes : Bytes) :
    (tree.withBytes names bytes).place? other =
      (tree.place? other).map (Place.withBytes (tree.namesOf names) bytes) := by
  rw [place?, place?, bytes?_withBytes, hasFolder_withBytes]
  cases tree.bytes? other with
  | some b => by_cases h : other ∈ tree.namesOf names <;> simp [h, Place.withBytes]
  | none =>
    by_cases h : other ∈ tree.namesOf names <;> cases tree.hasFolder other <;> simp [h, Place.withBytes]

theorem stretch_withBytes (tree : FileTree) (names : List Text) (bytes : Bytes)
    (start path : List Text) :
    (tree.withBytes names bytes).stretch start path =
      (tree.stretch start path).map (Place.withBytes (tree.namesOf names) bytes) := by
  induction path generalizing start with
  | nil =>
    rw [stretch, stretch, place?_withBytes]
    cases tree.place? start <;> rfl
  | cons n ns ih =>
    rw [stretch, stretch, place?_withBytes]
    cases tree.place? start with
    | none => rfl
    | some p =>
      cases p with
      | file => rfl
      | folder =>
        simp only [Option.map_some, Place.withBytes, target?_withBytes]
        cases tree.target? (Path.resolveStep start n) with
        | none => exact ih _
        | some target => rfl

theorem follow_withBytes (tree : FileTree) (names : List Text) (bytes : Bytes) (links : Nat)
    (start path : List Text) :
    (tree.withBytes names bytes).follow links start path =
      (tree.follow links start path).map (Place.withBytes (tree.namesOf names) bytes) := by
  induction links generalizing start path with
  | zero =>
    rw [follow, follow, stretch_withBytes]
    cases tree.stretch start path <;> rfl
  | succ links ih =>
    rw [follow, follow, stretch_withBytes]
    cases tree.stretch start path with
    | done place => rfl
    | link folder target rest => exact ih _ _

/-- Every path leads to the same entry as before. -/
theorem locate_withBytes (tree : FileTree) (names : List Text) (bytes : Bytes) (cwd p : Path) :
    (tree.withBytes names bytes).locate cwd p =
      (tree.locate cwd p).map (Place.withBytes (tree.namesOf names) bytes) :=
  follow_withBytes tree names bytes maxLinks [] _

/-! ## Writing -/

theorem write_of_no_fault {tree : FileTree} {names : List Text} (h : tree.faults.lookup names = none)
    (bytes : Bytes) : tree.write names bytes = (tree.withBytes names bytes, none) := by
  rw [write, h]

/-- A write gives the file its bytes, or it fails; then it has changed nothing or left a part of the bytes in
    the file. -/
theorem write_cases (tree : FileTree) (names : List Text) (bytes : Bytes) :
    tree.write names bytes = (tree.withBytes names bytes, none) ∨
    ∃ fault, tree.write names bytes = (tree, some fault) ∨
      ∃ n, tree.write names bytes = (tree.withBytes names (bytes.take n), some fault) := by
  unfold write
  split
  · exact .inl rfl
  · exact .inr ⟨_, .inl rfl⟩
  · split_ifs
    · exact .inl rfl
    · exact .inr ⟨_, .inr ⟨_, rfl⟩⟩

/-! ## Files that paths lead to -/

theorem place?_eq_file {tree : FileTree} {start names : List Text} {b : Bytes}
    (h : tree.place? start = some (.file names b)) : names = start ∧ tree.bytes? names = some b := by
  unfold place? at h
  cases hb : tree.bytes? start with
  | none =>
    rw [hb] at h
    cases hf : tree.hasFolder start <;> simp [hf] at h
  | some b' =>
    rw [hb] at h
    cases h
    exact ⟨rfl, hb⟩

/-- The file at the end of a stretch is a file of the tree, and it has the names of the path, each `..` taken
    into account. -/
theorem stretch_eq_file {tree : FileTree} {start path names : List Text} {b : Bytes}
    (h : tree.stretch start path = .done (.ok (.file names b))) :
    names = path.foldl Path.resolveStep start ∧ tree.bytes? names = some b := by
  induction path generalizing start with
  | nil =>
    rw [stretch] at h
    cases hp : tree.place? start with
    | none => rw [hp] at h; cases h
    | some p =>
      rw [hp] at h
      cases h
      exact place?_eq_file hp
  | cons n ns ih =>
    rw [stretch] at h
    cases hp : tree.place? start with
    | none => rw [hp] at h; cases h
    | some p =>
      rw [hp] at h
      cases p with
      | file => cases h
      | folder =>
        cases ht : tree.target? (Path.resolveStep start n) with
        | none =>
          rw [ht] at h
          exact ih h
        | some target => rw [ht] at h; cases h

theorem bytes?_of_follow {tree : FileTree} {links : Nat} {start path names : List Text} {b : Bytes}
    (h : tree.follow links start path = .ok (.file names b)) : tree.bytes? names = some b := by
  induction links generalizing start path with
  | zero =>
    rw [follow] at h
    cases hs : tree.stretch start path with
    | done place =>
      rw [hs] at h
      exact (stretch_eq_file (hs.trans (congrArg _ h))).2
    | link folder target rest => rw [hs] at h; cases h
  | succ links ih =>
    rw [follow] at h
    cases hs : tree.stretch start path with
    | done place =>
      rw [hs] at h
      exact (stretch_eq_file (hs.trans (congrArg _ h))).2
    | link folder target rest =>
      rw [hs] at h
      exact ih h

/-- The file that a path leads to is a file of the tree. -/
theorem bytes?_of_locate {tree : FileTree} {cwd p : Path} {names : List Text} {b : Bytes}
    (h : tree.locate cwd p = .ok (.file names b)) : tree.bytes? names = some b :=
  bytes?_of_follow h

theorem stretch_ne_link {tree : FileTree} (hlinks : tree.links = []) (start path : List Text)
    (folder : List Text) (target : Path) (rest : List Text) :
    tree.stretch start path ≠ .link folder target rest := by
  induction path generalizing start with
  | nil =>
    rw [stretch]
    cases tree.place? start <;> simp
  | cons n ns ih =>
    rw [stretch, target?, hlinks]
    cases tree.place? start with
    | none => simp
    | some p =>
      cases p with
      | file => simp
      | folder => exact ih _

/-- Without symbolic links the first stretch is the whole way. -/
theorem follow_eq_ok_iff {tree : FileTree} (hlinks : tree.links = []) {links : Nat}
    {start path : List Text} {place : Place} :
    tree.follow links start path = .ok place ↔ tree.stretch start path = .done (.ok place) := by
  cases links <;> rw [follow] <;> cases hs : tree.stretch start path with
  | done place' => simp
  | link folder target rest => exact absurd hs (stretch_ne_link hlinks _ _ _ _ _)

/-- Without symbolic links, the file that a path leads to has the names of the path, each `..` taken into
    account. -/
theorem names_of_locate {tree : FileTree} (hlinks : tree.links = []) {cwd p : Path} {names : List Text}
    {b : Bytes} (h : tree.locate cwd p = .ok (.file names b)) :
    names = (cwd.join p).names.foldl Path.resolveStep [] :=
  (stretch_eq_file ((follow_eq_ok_iff hlinks).mp h)).1

theorem fileAt_eq_ok_iff {tree : FileTree} {cwd p : Path} {names : List Text} {b : Bytes} :
    tree.fileAt cwd p = .ok (names, b) ↔ tree.locate cwd p = .ok (.file names b) := by
  rw [fileAt]
  cases tree.locate cwd p with
  | error e => simp
  | ok place => cases place <;> simp

end FileTree

end HouseStyle
