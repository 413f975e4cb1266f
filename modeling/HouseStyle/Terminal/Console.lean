import HouseStyle.Terminal.Box
import HouseStyle.Terminal.Markup

/-!
# Consoles to run the tool with

`Terminal.consoles` has the consoles with which calls are run: one sets what is printed in lines of a given
width, the other one, for errors, breaks no lines. They know the markup, the styles and the pictures that
`HouseStyle.Terminal` describes, which is one choice among many: what is proved about reports and messages
is proved of every console.
-/

namespace HouseStyle.Terminal

/-- A column with its cells read as markup. -/
def plainColumn (c : Column) : Except Console.Fault Column := do
  return { c with items := ← c.items.mapM Markup.plain }

/-- A console with lines of at most `width` cells. -/
def console (width : Nat) : Console where
  lines
    | .panel body caption => (Markup.plain caption).map (panel width body)
    | .text t => .ok (layout .fold .natural width t)
    | .markup t => (Markup.plain t).map (layout .fold .natural width)
    | .table title columns => (columns.mapM plainColumn).map (table width title)

/-- The lines of a text that are not broken. -/
def unbrokenLines (t : Text) : List Text :=
  (Text.splitOn '\n' (t.filter fun c => !isDropped c)).map (expandTabsFrom 0)

/-- A console that breaks no lines of texts. -/
def unbroken (width : Nat) : Console where
  lines
    | .text t => .ok (unbrokenLines t)
    | .markup t => (Markup.plain t).map unbrokenLines
    | p => (console width).lines p

/-- The consoles of a call on a terminal of `width` cells. -/
def consoles (width : Nat) : Consoles := ⟨console width, unbroken width⟩

end HouseStyle.Terminal
