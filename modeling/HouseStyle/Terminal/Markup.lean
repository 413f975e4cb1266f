import HouseStyle.Console
import HouseStyle.Terminal.Style

/-!
# Markup

In a text with markup, `[style]` switches a style on and `[/style]` or `[/]` switches it off; the tags are
not printed. A backslash in front of a tag makes it plain text. `Markup.plain` gives the text that is
printed, without its styles, and fails at a closing tag that closes nothing. This is a small dialect for
the consoles of `HouseStyle.Terminal.Console`: others know more pictures, and fail for more tags.

Main definitions:
* `Piece`, `pieces`: plain text and tags.
* `withPictures`: short names of pictures between colons.
* `plain`: the printed text.
-/

namespace HouseStyle.Terminal.Markup

/-- A closing tag that closes nothing is a fault. -/
def unmatched : Console.Fault := ⟨"MarkupError"⟩

/-- A part of a text with markup. -/
inductive Piece where
  | text (t : Text)
  | opening (name : Text)
  | closing (name : Text)
deriving Repr, DecidableEq

/-! ## Tags -/

/-- A tag starts with a small letter or one of three marks. -/
def startsTag (c : Char) : Bool := Text.isAsciiLower c || c = '#' || c = '/' || c = '@'

/-- The inside of the tag behind an opening bracket: up to the next closing bracket, with no opening
    bracket on the way. -/
def tagInside? : Text → Option Text
  | [] => none
  | c :: t =>
    if startsTag c then
      match t.dropWhile fun d => d ≠ ']' && d ≠ '[' with
      | ']' :: _ => some (c :: t.takeWhile fun d => d ≠ ']' && d ≠ '[')
      | _ => none
    else none

/-- The backslashes at the front of a text and the inside of the tag behind them. -/
def tagAt? (t : Text) : Option (Nat × Text) :=
  let slashes := (t.takeWhile (· = '\\')).length
  match t.drop slashes with
  | '[' :: r => (tagInside? r).map (slashes, ·)
  | _ => none

/-- The tag of an inside; what follows an equals sign does not belong to its name. -/
def tagPiece (inside : Text) : Piece :=
  match inside.takeWhile (· ≠ '=') with
  | '/' :: name => .closing (Text.strip name)
  | name => .opening name

/-- The pieces of a tag behind backslashes: two backslashes print one, and one left over makes the tag
    plain text. -/
def tagPieces (slashes : Nat) (inside : Text) : List Piece :=
  (if 2 ≤ slashes then [.text (Text.copies (slashes / 2) '\\')] else [])
    ++ [if slashes % 2 = 1 then .text ('[' :: inside ++ "]") else tagPiece inside]

/-- A piece of plain text, unless it is empty. -/
def textPiece (reversed : Text) : List Piece :=
  if reversed.isEmpty then [] else [.text reversed.reverse]

/-- The pieces of a text, after `skip` characters that a tag has taken. -/
def piecesFrom (skip : Nat) (before : Text) : Text → List Piece
  | [] => textPiece before
  | c :: t =>
    if 0 < skip then piecesFrom (skip - 1) before t
    else
      match tagAt? (c :: t) with
      | some (slashes, inside) =>
        textPiece before ++ tagPieces slashes inside ++ piecesFrom (slashes + inside.length + 1) [] t
      | none => piecesFrom 0 (c :: before) t

/-- The pieces of a text. -/
def pieces (t : Text) : List Piece := piecesFrom 0 [] t

/-- A backslash in front of an opening bracket is not printed. -/
def dropSlashes : Text → Text
  | '\\' :: '[' :: t => '[' :: dropSlashes t
  | c :: t => c :: dropSlashes t
  | [] => []

/-! ## Pictures -/

/-- The pictures that have a short name. -/
def pictures : List (Text × Char) := [("smiley", '😃')]

/-- The picture of a short name. A name may end with the wish for a text or a picture, which is a
    variation selector. -/
def picture? (name : Text) : Option Text :=
  let entry (n : Text) : Option Char := pictures.lookup n.lowerAscii
  match Text.dropSuffix? "-text" name, Text.dropSuffix? "-emoji" name with
  | some n, _ => (entry n).map ([·, '\ufe0e'])
  | none, some n => (entry n).map ([·, '\ufe0f'])
  | none, none => (entry name).map ([·])

/-- The name between a colon, behind which the text starts, and the next colon, without blanks. -/
def pictureName? (t : Text) : Option Text :=
  match t.dropWhile fun c => c ≠ ':' && !Text.isBlank c with
  | ':' :: _ => some (t.takeWhile fun c => c ≠ ':' && !Text.isBlank c)
  | _ => none

/-- Replaces short names, after `skip` characters that a name has taken. -/
def withPicturesFrom (skip : Nat) : Text → Text
  | [] => []
  | c :: t =>
    if 0 < skip then withPicturesFrom (skip - 1) t
    else if c = ':' then
      match pictureName? t with
      | some name =>
        (picture? name).getD (':' :: name ++ ":") ++ withPicturesFrom (name.length + 1) t
      | none => c :: withPicturesFrom 0 t
    else c :: withPicturesFrom 0 t

/-- The text with pictures in place of their short names. -/
def withPictures (t : Text) : Text := withPicturesFrom 0 t

/-! ## Printed text -/

/-- The printed text of pieces, given the open tags, innermost first. -/
def printed (openTags : List Text) : List Piece → Except Console.Fault Text
  | [] => .ok []
  | .text t :: ps => (printed openTags ps).map (withPictures (dropSlashes t) ++ ·)
  | .opening name :: ps => printed (Style.normalForm name :: openTags) ps
  | .closing [] :: ps =>
    match openTags with
    | [] => .error unmatched
    | _ :: others => printed others ps
  | .closing name :: ps =>
    if openTags.contains (Style.normalForm name) then printed (openTags.erase (Style.normalForm name)) ps
    else .error unmatched

/-- The text that a text with markup prints. -/
def plain (t : Text) : Except Console.Fault Text :=
  if t.contains '[' then printed [] (pieces t) else .ok (withPictures t)

end HouseStyle.Terminal.Markup
