import HouseStyle.Order
import HouseStyle.Text.Lines
import HouseStyle.Text.Quoted

/-!
# Text edits

An edit replaces a range within one line. Lines end at line feeds only, and columns count
characters from one; the end column is exclusive. The edit records the text it expects in its
range, so that a stale edit is noticed.

Columns are arbitrary integers, because fixers of plugins are free to give any: a range is cut with
`slice`, in which a negative position counts from the end and a position beyond an end means that
end.

Main definitions:
* `Edit`, `Edit.Conflict`, `Edit.Conflict.message`: an edit, the ways in which edits can be
  refused, and their wording.
* `Edit.check`: the first conflict of a sorted list of edits.
* `Edit.applyAll`: the text after all edits.
-/

namespace HouseStyle

/-- Replacement of `oldText` between two columns of a line by `newText`. -/
structure Edit where
  ruleId : Text
  line : Int
  col : Int
  endCol : Int
  oldText : Text
  newText : Text
deriving Repr, DecidableEq

/-! ## Ranges of a line -/

/-- The position in a list of length `n` that an integer means: a negative one counts from the end,
    and one beyond an end means that end. -/
def clampPosition (n : Nat) (i : Int) : Nat :=
  if i < 0 then (i + n).toNat else min i.toNat n

/-- The elements before a position. -/
def before {α : Type} (xs : List α) (i : Int) : List α := xs.take (clampPosition xs.length i)

/-- The elements from a position on. -/
def behind {α : Type} (xs : List α) (i : Int) : List α := xs.drop (clampPosition xs.length i)

/-- The elements from position `i` up to position `j`. -/
def slice {α : Type} (xs : List α) (i j : Int) : List α :=
  (xs.take (clampPosition xs.length j)).drop (clampPosition xs.length i)

namespace Edit

/-- Edits are applied in order of line and column. -/
def le (a b : Edit) : Bool := a.line < b.line || (a.line = b.line && a.col ≤ b.col)

/-- Why edits are refused. -/
inductive Conflict where
  /-- Two edits overlap on a line. -/
  | overlap (line : Int) (first second : Text)
  /-- The text has no such line. -/
  | missingLine (ruleId : Text) (line : Int)
  /-- The range of the edit holds another text than expected. -/
  | stale (ruleId : Text) (expected : Text) (line col : Int) (found : Text)
deriving Repr, DecidableEq

/-- The wording of a conflict. -/
def Conflict.message : Conflict → Text
  | .overlap line first second =>
    "Overlapping edits on line " ++ Text.ofInt line ++ ": " ++ first ++ " and " ++ second
  | .missingLine ruleId line =>
    "Edit " ++ ruleId ++ " targets missing line " ++ Text.ofInt line
  | .stale ruleId expected line col found =>
    "Edit " ++ ruleId ++ " expected " ++ expected.quoted ++ " at " ++ Text.ofInt line ++ ":"
      ++ Text.ofInt col ++ ", found " ++ found.quoted

/-- The line that an edit addresses. -/
def target? (lines : List Text) (e : Edit) : Option Text :=
  if 1 ≤ e.line then lines[(e.line - 1).toNat]? else none

/-- What is wrong with an edit after the one before it. -/
def conflict? (lines : List Text) (previous : Option Edit) (e : Edit) : Option Conflict :=
  let overlapping :=
    match previous with
    | some p => if p.line = e.line && e.col < p.endCol then some p else none
    | none => none
  match overlapping with
  | some p => some (.overlap e.line p.ruleId e.ruleId)
  | none =>
    match e.target? lines with
    | none => some (.missingLine e.ruleId e.line)
    | some line =>
      let found := slice line (e.col - 1) (e.endCol - 1)
      if found = e.oldText then none else some (.stale e.ruleId e.oldText e.line e.col found)

/-- The first conflict of a sorted list of edits. -/
def check (lines : List Text) (previous : Option Edit) : List Edit → Option Conflict
  | [] => none
  | e :: es =>
    match e.conflict? lines previous with
    | some c => some c
    | none => check lines (some e) es

/-- A line with the range of an edit replaced. -/
def applyLine (e : Edit) (line : Text) : Text :=
  before line (e.col - 1) ++ e.newText ++ behind line (e.endCol - 1)

/-- The lines with one edit applied. -/
def apply (lines : List Text) (e : Edit) : List Text :=
  lines.modify (e.line - 1).toNat e.applyLine

/-- The text after all edits, or the first conflict. Edits are applied from the last to the first,
    so that the columns of those still to come stay valid. -/
def applyAll (text : Text) (edits : List Edit) : Except Conflict Text :=
  let ordered := stableSort le edits
  if ordered.isEmpty then .ok text
  else
    let lines := text.newlineLines
    match check lines none ordered with
    | some c => .error c
    | none => .ok (ordered.reverse.foldl apply lines).flatten

end Edit

end HouseStyle
