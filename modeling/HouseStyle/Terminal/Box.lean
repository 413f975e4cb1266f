import HouseStyle.Console
import HouseStyle.Terminal.Layout
import HouseStyle.Text.Lines

/-!
# Boxes

A panel is a frame around a text, with a caption in its lower edge. A table has a title, a heavy frame
around its headings and a light one around its rows; columns are as wide as their widest cell, unless
the table would be too wide.
-/

namespace HouseStyle.Terminal

/-! ## Panels -/

/-- A caption in the middle of an edge of `width` cells. -/
def captionEdge (width : Nat) (caption : Text) : Text :=
  let line := truncate .fold width (" " ++ caption ++ " ")
  let rest := width - cells line
  Text.copies (rest / 2) '─' ++ line ++ Text.copies (rest - rest / 2) '─'

/-- The lines of a panel of `width` cells. -/
def panel (width : Nat) (body caption : Text) : List Text :=
  ('╭' :: Text.copies (width - 2) '─' ++ "╮")
    :: (layout .fold .left (width - 4) body).map (fun l : Text => '│' :: ' ' :: l ++ " │")
    ++ ['╰' :: '─' :: captionEdge (width - 4) caption ++ "─╯"]

/-! ## Tables -/

/-- The width of the longest line of a text. -/
def textWidth (t : Text) : Nat :=
  ((Text.splitLines (t.filter fun c => !isDropped c)).map cells).foldl max 0

/-- The width that a column wants: its widest cell and a space on both sides, at most `most`. -/
def wantedWidth (most : Nat) (c : Column) : Nat :=
  min most (((c.heading :: c.items).map textWidth).foldl max 0 + 2)

/-- The lines of a cell in a column of `width` cells. -/
def cellLines (c : Column) (width : Nat) (t : Text) : List Text :=
  (layout .ellipsis (if c.centered then .center else .left) (width - 2) t).map fun l => ' ' :: l ++ " "

/-- The quotient rounded to the nearest integer; a half goes to the even neighbour. -/
def roundDiv (a b : Nat) : Nat :=
  let q := a / b
  let r := a % b
  if 2 * r < b then q else if b < 2 * r then q + 1 else q + q % 2

/-- Takes `excess` cells from the columns of width `widest`, spread evenly among them, and at most `most`
    from each. -/
def narrow (widest most : Nat) : (excess columns : Nat) → List Nat → List Nat
  | _, _, [] => []
  | excess, columns, w :: ws =>
    if w = widest && 0 < columns then
      let part := min most (roundDiv excess columns)
      (w - part) :: narrow widest most (excess - part) (columns - 1) ws
    else w :: narrow widest most excess columns ws

/-- Narrows the widest columns until the widths add up to at most `total`; `fuel` bounds the
    steps. -/
def collapse (total : Nat) : Nat → List Nat → List Nat
  | 0, ws => ws
  | fuel + 1, ws =>
    if span ws ≤ total then ws
    else
      let widest := ws.foldl max 0
      let second := (ws.filter (· ≠ widest)).foldl max 0
      let excess := span ws - total
      collapse total fuel
        (narrow widest (min excess (widest - second)) excess (ws.filter (· = widest)).length ws)

/-- A horizontal line of a frame. -/
def rule (left line cross right : Char) (widths : List Nat) : Text :=
  left :: Text.joinWith [cross] (widths.map fun w => Text.copies w line) ++ [right]

/-- The cells of a row, each filled up to the same number of lines. -/
def rowLines (left cross : Char) (fromBottom : Bool) (widths : List Nat) (row : List (List Text)) :
    List Text :=
  let height := (row.map List.length).foldl max 1
  let filled := (row.zip widths).map fun (ls, w) =>
    let blank := List.replicate (height - ls.length) (Text.copies w ' ')
    if fromBottom then blank ++ ls else ls ++ blank
  (List.range height).map fun k =>
    left :: Text.joinWith [cross] (filled.map fun ls => ls.getD k []) ++ [left]

/-- The lines of a table of at most `width` cells. -/
def table (width : Nat) (title : Text) (columns : List Column) : List Text :=
  let frame := columns.length + 1
  let wanted := columns.map (wantedWidth (width - frame))
  let widths := collapse (width - frame) (span wanted) wanted
  let headings := (columns.zip widths).map fun (c, w) => cellLines c w c.heading
  let rows := (List.range ((columns.map (·.items.length)).foldl max 0)).map fun k =>
    (columns.zip widths).map fun (c, w) => cellLines c w (c.items.getD k [])
  layout .fold .center (span widths + frame) title
    ++ [rule '┏' '━' '┳' '┓' widths]
    ++ rowLines '┃' '┃' true widths headings
    ++ [rule '┡' '━' '╇' '┩' widths]
    ++ rows.flatMap (rowLines '│' '│' false widths)
    ++ [rule '└' '─' '┴' '┘' widths]

end HouseStyle.Terminal
