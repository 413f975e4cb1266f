import HouseStyle.Text.Basic

/-!
# Lines

Three ways to see a text as lines are in use:
* `newlineLines` cuts after each line feed and keeps it; edits address these lines.
* `splitLines` cuts at every line boundary of the Unicode standard and drops the boundary; diffs
  and file views show these lines.
* `unifyNewlines` turns the three usual line ends into line feeds, as when a text file is read.
-/

namespace HouseStyle.Text

/-- The lines with their line feeds; the last line may lack one. -/
def newlineLines : Text → List Text
  | [] => []
  | c :: t =>
    if c = '\n' then ['\n'] :: newlineLines t
    else
      match newlineLines t with
      | [] => [[c]]
      | l :: ls => (c :: l) :: ls

/-- Line feed, vertical tab, form feed, carriage return, the information separators `U+001C` to
    `U+001E`, next line, line and paragraph separator. -/
def isLineBoundary (c : Char) : Bool :=
  let n := c.toNat
  (10 ≤ n && n ≤ 13) || (28 ≤ n && n ≤ 30) || n = 0x85 || n = 0x2028 || n = 0x2029

/-- The lines of a text behind the reversed start `acc` of its first line. -/
def splitLinesFrom (acc : Text) : Text → List Text
  | [] => if acc.isEmpty then [] else [acc.reverse]
  | '\r' :: '\n' :: t => acc.reverse :: splitLinesFrom [] t
  | c :: t =>
    if isLineBoundary c then acc.reverse :: splitLinesFrom [] t else splitLinesFrom (c :: acc) t

/-- The lines of a text without their boundaries; `\r\n` is one boundary, and a boundary at the end
    opens no further line. -/
def splitLines (t : Text) : List Text := splitLinesFrom [] t

/-- Every `\r\n` and every other `\r` becomes a line feed. -/
def unifyNewlines : Text → Text
  | [] => []
  | '\r' :: '\n' :: t => '\n' :: unifyNewlines t
  | c :: t => (if c = '\r' then '\n' else c) :: unifyNewlines t

end HouseStyle.Text
