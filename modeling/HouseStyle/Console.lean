import HouseStyle.Text.Basic

/-!
# Consoles

What the tool tells people it hands to a console, one print after the other. The width of the lines, where
they are broken, how a frame is drawn and what markup means is up to the console, so a console is a
parameter of everything that prints. A print may fail; the prints behind it are then left out.

Main definitions:
* `Print`, `Column`: what is handed to a console.
* `Console`, `Consoles`: what a console makes of a print, and the two consoles of a call.
* `Print.run`: the lines of prints, up to the first one that fails.
-/

namespace HouseStyle

/-- A column of a table: its heading, whether its cells stand in the middle, and its cells. -/
structure Column where
  heading : Text
  centered : Bool := false
  items : List Text

/-- One print. Only `text` is meant as it is; in the other texts a console looks for markup. -/
inductive Print where
  /-- A frame around a text, with a caption in its lower edge. -/
  | panel (body caption : Text)
  | text (t : Text)
  | markup (t : Text)
  | table (title : Text) (columns : List Column)

/-- Why a console fails on a print: the name of the error. -/
structure Console.Fault where
  exception : Text
deriving Repr, DecidableEq

/-- A console gives the lines of a print, or it fails. -/
structure Console where
  lines : Print → Except Console.Fault (List Text)

/-- The console for what is asked for, and the one for errors. -/
structure Consoles where
  output : Console
  errors : Console

/-- The lines of each print, and the fault that ends the prints early if there is one. -/
def Print.run (console : Console) : List Print → List (List Text) × Option Console.Fault
  | [] => ([], none)
  | p :: ps =>
    match console.lines p with
    | .error f => ([], some f)
    | .ok ls => (ls :: (run console ps).1, (run console ps).2)

end HouseStyle
