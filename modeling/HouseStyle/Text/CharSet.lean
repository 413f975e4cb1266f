import HouseStyle.Text.Basic

/-!
# Sets of characters given by ranges of code points

A property of the Unicode standard is written down as a list of ranges of code points in
hexadecimal, `lo-hi` or a single point, with a blank between neighbours. `CharSet.read` reads such
a list and `CharSet.contains` looks a character up.
-/

namespace HouseStyle

/-- A set of characters as inclusive ranges of code points. -/
structure CharSet where
  ranges : List (Nat × Nat)

namespace CharSet

/-- One range, `lo-hi` or a single point. -/
def readRange (t : Text) : Nat × Nat :=
  match Text.splitOn '-' t with
  | [lo, hi] => (Text.readHex lo, Text.readHex hi)
  | _ => (Text.readHex t, Text.readHex t)

/-- Reads rows of ranges with a blank between neighbours. -/
def read (rows : List String) : CharSet := ⟨(Text.fields rows).map readRange⟩

/-- Some range holds the code point. -/
def contains (s : CharSet) (c : Char) : Bool :=
  s.ranges.any fun r => r.1 ≤ c.toNat && c.toNat ≤ r.2

end CharSet

end HouseStyle
