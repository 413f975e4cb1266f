import HouseStyle.Order
import HouseStyle.Text.Lines

/-!
# Unified diffs

A diff shows how the lines of one text become the lines of another, in hunks of changed lines with
three unchanged lines around. Equal lines are found by the longest stretch that both texts share,
then in the same way on both sides of it.

When the second text has two hundred lines or more, a line that occurs in it more often than in one of
a hundred lines, and once more, does not start a stretch; it can still extend one.

Main definitions:
* `Diff.blocks`: the stretches that two lists of lines share, in order.
* `Diff.changes`: how one list becomes the other, as ranges.
* `Diff.unified`: the diff of two texts.
-/

namespace HouseStyle.Diff

/-- A shared stretch: its start in either list and its length. -/
structure Block where
  left : Nat
  right : Nat
  size : Nat
deriving Repr, DecidableEq

/-- A part of both lists. -/
structure Window where
  leftStart : Nat
  leftEnd : Nat
  rightStart : Nat
  rightEnd : Nat
deriving Repr, DecidableEq

/-! ## Shared stretches -/

/-- The positions of a line, from the given position on. -/
def positions (line : Text) (start : Nat) : List Text → List Nat
  | [] => []
  | l :: ls =>
    if l = line then start :: positions line (start + 1) ls else positions line (start + 1) ls

/-- A line that occurs so often starts no stretch. -/
def isPopular (total occurrences : Nat) : Bool := 200 ≤ total && total / 100 + 1 < occurrences

/-- For each line of the first list, where it occurs in the second, popular lines apart. -/
def occurrences (left right : List Text) : List (List Nat) :=
  left.map fun l =>
    let found := positions l 0 right
    if isPopular right.length found.length then [] else found

/-- The search for the longest stretch: the best one so far, and the lengths of the stretches that
    end at the line before, by their last position in the second list. -/
structure Search where
  best : Block
  ends : List (Nat × Nat) := []

/-- Takes one occurrence into account: the stretch that ends there is one longer than the one that
    ends a line earlier. -/
def Search.occurrence (i : Nat) (ends : List (Nat × Nat)) (s : Search) (j : Nat) : Search :=
  let size := (if j = 0 then 0 else (ends.lookup (j - 1)).getD 0) + 1
  { best := if s.best.size < size then ⟨i + 1 - size, j + 1 - size, size⟩ else s.best
    ends := s.ends ++ [(j, size)] }

/-- Takes a line of the first list into account. -/
def Search.line (w : Window) (s : Search) (row : Nat × List Nat) : Search :=
  let found := row.2.filter fun j => w.rightStart ≤ j && j < w.rightEnd
  found.foldl (Search.occurrence row.1 s.ends) { s with ends := [] }

/-- Lines at these positions agree. -/
def agree (left right : Array Text) (i j : Nat) : Bool :=
  match left[i]?, right[j]? with
  | some a, some b => a = b
  | _, _ => false

/-- Extends a stretch to the front, by at most `fuel` lines. -/
def extendFront (left right : Array Text) (w : Window) : Nat → Block → Block
  | 0, b => b
  | fuel + 1, b =>
    if w.leftStart < b.left && w.rightStart < b.right
        && agree left right (b.left - 1) (b.right - 1) then
      extendFront left right w fuel ⟨b.left - 1, b.right - 1, b.size + 1⟩
    else b

/-- Extends a stretch to the back, by at most `fuel` lines. -/
def extendBack (left right : Array Text) (w : Window) : Nat → Block → Block
  | 0, b => b
  | fuel + 1, b =>
    if b.left + b.size < w.leftEnd && b.right + b.size < w.rightEnd
        && agree left right (b.left + b.size) (b.right + b.size) then
      extendBack left right w fuel ⟨b.left, b.right, b.size + 1⟩
    else b

/-- The longest stretch in a window; of several, the one that starts first. -/
def longest (left right : Array Text) (rows : List (List Nat)) (w : Window) : Block :=
  let numbered := (List.range' w.leftStart (w.leftEnd - w.leftStart)).zip (rows.drop w.leftStart)
  let found := numbered.foldl (Search.line w) { best := ⟨w.leftStart, w.rightStart, 0⟩ }
  extendBack left right w left.size (extendFront left right w left.size found.best)

/-- The stretches in a window, in order: those in front of the longest one, itself, and those behind
    it; at most `fuel` levels. -/
def blocksIn (left right : Array Text) (rows : List (List Nat)) : Nat → Window → List Block
  | 0, _ => []
  | fuel + 1, w =>
    let b := longest left right rows w
    if b.size = 0 then []
    else
      blocksIn left right rows fuel ⟨w.leftStart, b.left, w.rightStart, b.right⟩
        ++ b :: blocksIn left right rows fuel
          ⟨b.left + b.size, w.leftEnd, b.right + b.size, w.rightEnd⟩

/-- Joins stretches that follow each other without a gap. -/
def joinBlocks : List Block → List Block
  | [] => []
  | b :: bs =>
    match joinBlocks bs with
    | [] => [b]
    | c :: cs =>
      if b.left + b.size = c.left && b.right + b.size = c.right then
        ⟨b.left, b.right, b.size + c.size⟩ :: cs
      else b :: c :: cs

/-- The stretches that two lists of lines share, in order. -/
def blocks (left right : List Text) : List Block :=
  joinBlocks (blocksIn left.toArray right.toArray (occurrences left right) (left.length + 1)
    ⟨0, left.length, 0, right.length⟩)

/-! ## Changes -/

/-- A range of both lists that is kept or replaced. -/
structure Change where
  kept : Bool
  window : Window
deriving Repr, DecidableEq

/-- The changes from a position on: what is between two stretches is replaced, stretches are
    kept. -/
def changesFrom (i j leftEnd rightEnd : Nat) : List Block → List Change
  | [] => if i < leftEnd || j < rightEnd then [⟨false, ⟨i, leftEnd, j, rightEnd⟩⟩] else []
  | b :: bs =>
    (if i < b.left || j < b.right then [⟨false, ⟨i, b.left, j, b.right⟩⟩] else [])
      ++ ⟨true, ⟨b.left, b.left + b.size, b.right, b.right + b.size⟩⟩
        :: changesFrom (b.left + b.size) (b.right + b.size) leftEnd rightEnd bs

/-- How one list becomes the other. -/
def changes (left right : List Text) : List Change :=
  changesFrom 0 0 left.length right.length (blocks left right)

/-! ## Hunks -/

/-- Unchanged lines around a change. -/
def context : Nat := 3

/-- The last lines of a window, as many as are shown. -/
def Window.tail (w : Window) : Window :=
  { w with leftStart := max w.leftStart (w.leftEnd - context)
           rightStart := max w.rightStart (w.rightEnd - context) }

/-- The first lines of a window, as many as are shown. -/
def Window.head (w : Window) : Window :=
  { w with leftEnd := min w.leftEnd (w.leftStart + context)
           rightEnd := min w.rightEnd (w.rightStart + context) }

/-- Cuts the kept lines in front of the first change. -/
def trimFront : List Change → List Change
  | ⟨true, w⟩ :: cs => ⟨true, w.tail⟩ :: cs
  | cs => cs

/-- Cuts the kept lines behind the last change. -/
def trimBack (cs : List Change) : List Change :=
  match cs.reverse with
  | ⟨true, w⟩ :: rest => (⟨true, w.head⟩ :: rest).reverse
  | _ => cs

/-- Groups changes: a long kept range ends a group and starts the next. The current group is in
    reverse order. -/
def groups (current : List Change) : List Change → List (List Change)
  | [] => [current.reverse]
  | c :: cs =>
    if c.kept && 2 * context < c.window.leftEnd - c.window.leftStart then
      (⟨true, c.window.head⟩ :: current).reverse :: groups [⟨true, c.window.tail⟩] cs
    else groups (c :: current) cs

/-- A group that changes something. -/
def isHunk (g : List Change) : Bool := g.any (!·.kept) || 1 < g.length

/-- The hunks between two lists of lines. -/
def hunks (left right : List Text) : List (List Change) :=
  (groups [] (trimBack (trimFront (changes left right)))).filter isHunk

/-! ## Text -/

/-- A range of lines: its first line and, unless it is one line, its length; an empty range is at the
    line before. -/
def rangeText (start stop : Nat) : Text :=
  if stop - start = 1 then Text.decimal (start + 1)
  else Text.decimal (if stop = start then start else start + 1) ++ "," ++ Text.decimal (stop - start)

/-- The lines of a range. -/
def cut (lines : List Text) (start stop : Nat) : List Text := (lines.drop start).take (stop - start)

/-- The lines of a change. -/
def Change.lines (left right : List Text) (c : Change) : List Text :=
  let w := c.window
  if c.kept then (cut left w.leftStart w.leftEnd).map (' ' :: ·)
  else
    (cut left w.leftStart w.leftEnd).map ('-' :: ·)
      ++ (cut right w.rightStart w.rightEnd).map ('+' :: ·)

/-- The lines of a hunk, with its header. -/
def hunkLines (left right : List Text) (g : List Change) : List Text :=
  match g.head?, g.getLast? with
  | some first, some last =>
    ("@@ -" ++ rangeText first.window.leftStart last.window.leftEnd ++ " +"
      ++ rangeText first.window.rightStart last.window.rightEnd ++ " @@")
      :: g.flatMap (Change.lines left right)
  | _, _ => []

/-- The diff of two texts of a file, without a line feed at the end; empty when no line differs. -/
def unified (path before after : Text) : Text :=
  if before = after then []
  else
    let left := before.splitLines
    let right := after.splitLines
    let hs := hunks left right
    if hs.isEmpty then []
    else
      Text.joinWith "\n"
        (("--- " ++ path) :: ("+++ " ++ path) :: hs.flatMap (hunkLines left right))

end HouseStyle.Diff
