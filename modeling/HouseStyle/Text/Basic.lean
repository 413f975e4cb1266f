/-!
# Texts

A text is the list of its Unicode scalars, and every line and column of this library counts
scalars (the syntax tree alone records byte columns, see `HouseStyle.Syntax.Position`).

Main definitions:
* `Text`: lists of characters, with a coercion from string literals.
* `Text.strip`: removal of blank characters at both ends, where `isBlank` is Unicode white space
  together with the separators `U+001C` to `U+001F`.
* `Text.decimal`, `Text.ofInt`, `Text.hex`: numerals.
* `Text.splitOn`, `Text.joinWith`, `Text.replaceChar`: cutting and joining.
-/

namespace HouseStyle

/-- A text is the list of its Unicode scalars. -/
abbrev Text := List Char

instance : Coe String Text := ⟨String.toList⟩

namespace Text

/-! ## Blank characters -/

/-- White space of the Unicode standard, and the four information separators. -/
def isBlank (c : Char) : Bool :=
  let n := c.toNat
  (9 ≤ n && n ≤ 13) || (28 ≤ n && n ≤ 32) || n = 0x85 || n = 0xA0 || n = 0x1680
    || (0x2000 ≤ n && n ≤ 0x200A) || n = 0x2028 || n = 0x2029 || n = 0x202F || n = 0x205F
    || n = 0x3000

/-- Drops the blanks at the front. -/
def stripLeft (t : Text) : Text := t.dropWhile isBlank

/-- Drops the blanks at the end. -/
def stripRight (t : Text) : Text := (t.reverse.dropWhile isBlank).reverse

/-- Drops the blanks at both ends. -/
def strip (t : Text) : Text := stripRight (stripLeft t)

/-! ## Cutting and joining -/

/-- The parts between the separators; always at least one part. -/
def splitOn (sep : Char) : Text → List Text
  | [] => [[]]
  | c :: t =>
    if c = sep then [] :: splitOn sep t
    else
      match splitOn sep t with
      | [] => [[c]]
      | p :: ps => (c :: p) :: ps

/-- The fields of a table written in rows, with one blank between fields. -/
def fields (rows : List String) : List Text := rows.flatMap fun r => splitOn ' ' r.toList

/-- The parts with the separator between neighbours. -/
def joinWith (sep : Text) : List Text → Text
  | [] => []
  | [p] => p
  | p :: ps => p ++ sep ++ joinWith sep ps

/-- Every occurrence of `a` becomes `b`. -/
def replaceChar (a b : Char) (t : Text) : Text := t.map fun c => if c = a then b else c

/-- `n` copies of one character. -/
def copies (n : Nat) (c : Char) : Text := List.replicate n c

/-- The text without `suffix` at its end, if it has it there. -/
def dropSuffix? (suffix t : Text) : Option Text :=
  if suffix.isSuffixOf t then some (t.take (t.length - suffix.length)) else none

/-! ## Numerals -/

/-- The decimal numeral of a natural number. -/
def decimal (n : Nat) : Text := Nat.toDigits 10 n

/-- The decimal numeral of an integer, with `-` in front of a negative one. Numerals of any length are
    written: a limit on them, as it holds for numerals that are read, is assumed to be no matter here. -/
def ofInt : Int → Text
  | .ofNat n => decimal n
  | .negSucc n => '-' :: decimal (n + 1)

/-- The lower-case hexadecimal numeral with at least `width` digits. -/
def hex (width n : Nat) : Text :=
  let ds := Nat.toDigits 16 n
  copies (width - ds.length) '0' ++ ds

/-- The value of a hexadecimal digit. -/
def hexDigit? (c : Char) : Option Nat :=
  let n := c.toNat
  if 48 ≤ n && n ≤ 57 then some (n - 48)
  else if 97 ≤ n && n ≤ 102 then some (n - 87)
  else if 65 ≤ n && n ≤ 70 then some (n - 55)
  else none

/-- The number that hexadecimal digits write; other characters are passed over. -/
def readHex (t : Text) : Nat :=
  t.foldl (fun acc c => match hexDigit? c with | some d => acc * 16 + d | none => acc) 0

/-- `0` to `9`. -/
def isAsciiDigit (c : Char) : Bool := 48 ≤ c.toNat && c.toNat ≤ 57

/-- `A` to `Z`. -/
def isAsciiUpper (c : Char) : Bool := 65 ≤ c.toNat && c.toNat ≤ 90

/-- `a` to `z`. -/
def isAsciiLower (c : Char) : Bool := 97 ≤ c.toNat && c.toNat ≤ 122

/-- The number that decimal digits write; other characters are passed over. -/
def readDecimal (t : Text) : Nat :=
  t.foldl (fun acc c => if isAsciiDigit c then acc * 10 + (c.toNat - 48) else acc) 0

/-- Lexicographic order by code point. -/
def le : Text → Text → Bool
  | [], _ => true
  | _ :: _, [] => false
  | a :: s, b :: t => if a = b then le s t else a.toNat < b.toNat

end Text

end HouseStyle
