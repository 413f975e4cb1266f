import HouseStyle.Text.Case

/-!
# Styles

A style is written as words: attributes such as `bold`, colours, `on` with a background colour, `not` with
an attribute, and `link` with an address. Two lists of words mean the same style if they have the same
normal form, `Style.normalForm`; a text that is no style stands for itself in lower case.
-/

namespace HouseStyle.Terminal

/-- A style: attributes that are set or unset, colours and a link. -/
structure Style where
  attributes : List (Text × Bool) := []
  colour : Option Text := none
  background : Option Text := none
  link : Option Text := none
deriving Repr, DecidableEq

namespace Style

/-- The attributes, in the order in which they are written. -/
def attributeOrder : List Text := Text.fields
  ["bold dim italic underline blink blink2 reverse conceal strike underline2 frame encircle",
    "overline"]

/-- Short words for attributes. -/
def shortWords : List (Text × Text) :=
  [("d", "dim"), ("b", "bold"), ("i", "italic"), ("u", "underline"), ("r", "reverse"),
    ("c", "conceal"), ("s", "strike"), ("uu", "underline2"), ("o", "overline")]

/-- The attribute that a word means. -/
def attributeOf? (word : Text) : Option Text :=
  if attributeOrder.contains word then some word else shortWords.lookup word

/-- The names of colours. -/
def colourNames : List Text := Text.fields
  ["black red green yellow blue magenta cyan white bright_black bright_red bright_green",
    "bright_yellow bright_blue bright_magenta bright_cyan bright_white grey0 gray0 navy_blue",
    "dark_blue blue3 blue1 dark_green deep_sky_blue4 dodger_blue3 dodger_blue2 green4",
    "spring_green4 turquoise4 deep_sky_blue3 dodger_blue1 green3 spring_green3 dark_cyan",
    "light_sea_green deep_sky_blue2 deep_sky_blue1 spring_green2 cyan3 dark_turquoise turquoise2",
    "green1 spring_green1 medium_spring_green cyan2 cyan1 dark_red deep_pink4 purple4 purple3",
    "blue_violet orange4 grey37 gray37 medium_purple4 slate_blue3 royal_blue1 chartreuse4",
    "dark_sea_green4 pale_turquoise4 steel_blue steel_blue3 cornflower_blue chartreuse3",
    "cadet_blue sky_blue3 steel_blue1 pale_green3 sea_green3 aquamarine3 medium_turquoise",
    "chartreuse2 sea_green2 sea_green1 aquamarine1 dark_slate_gray2 dark_magenta dark_violet",
    "purple light_pink4 plum4 medium_purple3 slate_blue1 yellow4 wheat4 grey53 gray53",
    "light_slate_grey light_slate_gray medium_purple light_slate_blue dark_olive_green3",
    "dark_sea_green light_sky_blue3 sky_blue2 dark_sea_green3 dark_slate_gray3 sky_blue1",
    "chartreuse1 light_green pale_green1 dark_slate_gray1 red3 medium_violet_red magenta3",
    "dark_orange3 indian_red hot_pink3 medium_orchid3 medium_orchid medium_purple2 dark_goldenrod",
    "light_salmon3 rosy_brown grey63 gray63 medium_purple1 gold3 dark_khaki navajo_white3 grey69",
    "gray69 light_steel_blue3 light_steel_blue yellow3 dark_sea_green2 light_cyan3",
    "light_sky_blue1 green_yellow dark_olive_green2 dark_sea_green1 pale_turquoise1 deep_pink3",
    "magenta2 hot_pink2 orchid medium_orchid1 orange3 light_pink3 pink3 plum3 violet",
    "light_goldenrod3 tan misty_rose3 thistle3 plum2 khaki3 light_goldenrod2 light_yellow3 grey84",
    "gray84 light_steel_blue1 yellow2 dark_olive_green1 honeydew2 light_cyan1 red1 deep_pink2",
    "deep_pink1 magenta1 orange_red1 indian_red1 hot_pink dark_orange salmon1 light_coral",
    "pale_violet_red1 orchid2 orchid1 orange1 sandy_brown light_salmon1 light_pink1 pink1 plum1",
    "gold1 navajo_white1 misty_rose1 thistle1 yellow1 light_goldenrod1 khaki1 wheat1 cornsilk1",
    "grey100 gray100 grey3 gray3 grey7 gray7 grey11 gray11 grey15 gray15 grey19 gray19 grey23",
    "gray23 grey27 gray27 grey30 gray30 grey35 gray35 grey39 gray39 grey42 gray42 grey46 gray46",
    "grey50 gray50 grey54 gray54 grey58 gray58 grey62 gray62 grey66 gray66 grey70 gray70 grey74",
    "gray74 grey78 gray78 grey82 gray82 grey85 gray85 grey89 gray89 grey93 gray93"]

/-- A number of at most 255 in decimal digits. -/
def isByte (t : Text) : Bool :=
  !t.isEmpty && t.all Text.isAsciiDigit && Text.readDecimal t ≤ 255

/-- What stands between a word with an opening bracket and a closing bracket. -/
def argument? (word t : Text) : Option Text :=
  if (word ++ "(").isPrefixOf t && t.getLast? = some ')' then some ((t.drop (word.length + 1)).dropLast)
  else none

/-- A colour: a name, six hexadecimal digits, a number, or three numbers. -/
def isColour (t : Text) : Bool :=
  t = "default".toList || colourNames.contains t
    || (match t with
      | '#' :: ds => ds.length = 6 && ds.all fun c => (Text.hexDigit? c).isSome
      | _ => false)
    || (match argument? "color" t with
      | some n => isByte n && n.length ≤ 3
      | none => false)
    || (match argument? "rgb" t with
      | some ns => (Text.splitOn ',' ns).length = 3 && (Text.splitOn ',' ns).all isByte
      | none => false)

/-- Sets an attribute. -/
def setAttribute (s : Style) (name : Text) (value : Bool) : Style :=
  { s with attributes := (name, value) :: s.attributes.filter (·.1 ≠ name) }

/-- Reads the words of a style from left to right. -/
def ofWords? (s : Style) : List Text → Option Style
  | [] => some s
  | [w] => (plainWord? s w.lowerAscii)
  | w :: v :: ws =>
    if w.lowerAscii = "on".toList then
      if isColour v.lowerAscii then ofWords? { s with background := some v.lowerAscii } ws else none
    else if w.lowerAscii = "not".toList then
      match attributeOf? v with
      | some a => ofWords? (s.setAttribute a false) ws
      | none => none
    else if w.lowerAscii = "link".toList then ofWords? { s with link := some v } ws
    else
      match plainWord? s w.lowerAscii with
      | some s => ofWords? s (v :: ws)
      | none => none
where
  /-- A word that needs no word behind it. -/
  plainWord? (s : Style) (w : Text) : Option Style :=
    match attributeOf? w with
    | some a => some (s.setAttribute a true)
    | none => if isColour w then some { s with colour := some w } else none

/-- The words of a style. -/
def words (s : Style) : List Text :=
  (attributeOrder.flatMap fun a =>
    match s.attributes.lookup a with
    | some true => [a]
    | some false => ["not " ++ a]
    | none => [])
    ++ s.colour.toList
    ++ (match s.background with | some b => ["on " ++ b] | none => [])
    ++ (match s.link with | some l => ["link " ++ l] | none => [])

/-- The text of a style; without words it is `none`. -/
def text (s : Style) : Text :=
  match s.words with
  | [] => "none"
  | ws => Text.joinWith " " ws

/-- The words of a text, cut at blanks. -/
def blankWords (t : Text) : List Text :=
  (Text.splitOn ' ' (t.map fun c => if Text.isBlank c then ' ' else c)).filter (· ≠ [])

/-- The normal form of a text that names a style. -/
def normalForm (t : Text) : Text :=
  if t.strip = "none".toList then "none"
  else
    match ofWords? {} (blankWords t) with
    | some s => s.text
    | none => t.strip.lowerAscii

end Style

end HouseStyle.Terminal
