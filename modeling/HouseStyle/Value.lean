import HouseStyle.Text.Quoted

/-!
# Configuration values

A configuration is a value of a data format: null, booleans, integers, decimal fractions, texts,
sequences and ordered tables. Values are compared as table keys by `Value.sameKey`, under which a
number equals a boolean or a fraction of the same amount.

Main definitions:
* `Value`: values, with `Value.table` for ordered tables.
* `Value.sameKey`, `Table.ofPairs`: equality of keys, and tables in which a later entry for a key
  replaces the value of the earlier one in place.
* `Value.shown`, `Value.plain`: the text of a value inside messages, quoted and plain.
-/

namespace HouseStyle

/-! ## Decimal fractions -/

/-- A decimal fraction `± digits · 10 ^ exponent`, an infinity, or no number. -/
inductive Fraction where
  | finite (negative : Bool) (digits : Nat) (exponent : Int)
  | infinite (negative : Bool)
  | notANumber
deriving Repr, DecidableEq

namespace Fraction

/-- Drops factors of ten from the digits, at most `fuel` of them. -/
def trim : Nat → Nat → Int → Nat × Int
  | 0, d, e => (d, e)
  | fuel + 1, d, e => if d ≠ 0 && d % 10 = 0 then trim fuel (d / 10) (e + 1) else (d, e)

/-- The form with the fewest digits; zero has exponent zero. -/
def reduce (negative : Bool) (digits : Nat) (exponent : Int) : Fraction :=
  if digits = 0 then .finite negative 0 0
  else
    let r := trim (Nat.toDigits 10 digits).length digits exponent
    .finite negative r.1 r.2

/-- Reads a numeral with an optional sign, point and exponent, or `inf` or `nan`. -/
def read (t : Text) : Fraction :=
  let negative := t.head? = some '-'
  let unsigned := if t.head? = some '-' || t.head? = some '+' then t.tail else t
  let mantissa := unsigned.takeWhile fun c => c ≠ 'e' && c ≠ 'E'
  let scale := (unsigned.dropWhile fun c => c ≠ 'e' && c ≠ 'E').tail
  if unsigned.contains 'n' then
    if unsigned = ("nan" : Text) then .notANumber else .infinite negative
  else
    let whole := mantissa.takeWhile (· ≠ '.')
    let part := (mantissa.dropWhile (· ≠ '.')).tail
    let power : Int := if scale.head? = some '-' then -(Text.readDecimal scale : Int)
      else Text.readDecimal scale
    reduce negative (Text.readDecimal (whole ++ part)) (power - (part.filter Text.isAsciiDigit).length)

/-- The text of a fraction: positional for amounts from `10⁻⁴` up to `10¹⁶`, with at least one
    digit after the point, else one digit before the point and a power of ten of at least two
    digits. -/
def text : Fraction → Text
  | .notANumber => "nan"
  | .infinite negative => (if negative then "-" else "") ++ "inf"
  | .finite negative digits exponent =>
    let ds := Text.decimal digits
    let point : Int := ds.length + exponent
    let sign : Text := if negative then "-" else ""
    sign ++
      if digits = 0 then ("0.0" : Text)
      else if -4 < point && point ≤ 16 then
        if point ≤ 0 then "0." ++ Text.copies (-point).toNat '0' ++ ds
        else if point.toNat < ds.length then
          ds.take point.toNat ++ "." ++ ds.drop point.toNat
        else ds ++ Text.copies (point.toNat - ds.length) '0' ++ ".0"
      else
        let power := point - 1
        let size := Text.decimal power.natAbs
        ds.take 1 ++ (if ds.length = 1 then [] else '.' :: ds.drop 1)
          ++ "e" ++ (if power < 0 then "-" else "+") ++ (if size.length < 2 then "0" else "") ++ size

/-- The integer that the fraction equals, if there is one. -/
def toInt? : Fraction → Option Int
  | .finite negative digits exponent =>
    if exponent < 0 && digits ≠ 0 then none
    else
      let n : Int := digits * Int.pow 10 exponent.toNat
      some (if negative then -n else n)
  | _ => none

end Fraction

/-! ## Values -/

/-- A configuration value. A table lists its entries in order of first insertion. -/
inductive Value where
  | null
  | bool (b : Bool)
  | int (n : Int)
  | fraction (f : Fraction)
  | text (t : Text)
  | list (items : List Value)
  | tuple (items : List Value)
  | table (entries : List (Value × Value))
  /-- A value of some unrelated kind, such as a date. -/
  | other

namespace Value

mutual

/-- The two values are the same key of a table. -/
def sameKey : Value → Value → Bool
  | .null, .null => true
  | .text s, .text t => s == t
  | .tuple xs, .tuple ys => sameKeys xs ys
  | a, b =>
    match number? a, number? b with
    | some x, some y => x == y
    | none, none =>
      match a, b with
      | .fraction f, .fraction g => f == g && f != .notANumber
      | _, _ => false
    | _, _ => false

/-- The keys agree one by one. -/
def sameKeys : List Value → List Value → Bool
  | [], [] => true
  | x :: xs, y :: ys => sameKey x y && sameKeys xs ys
  | _, _ => false

/-- The integer amount of a boolean, an integer or a whole fraction. -/
def number? : Value → Option Int
  | .bool b => some (if b then 1 else 0)
  | .int n => some n
  | .fraction f => f.toInt?
  | _ => none

end

/-- Sets a key: the value of an equal key is replaced in place, a new key goes to the end. -/
def setEntry (key value : Value) : List (Value × Value) → List (Value × Value)
  | [] => [(key, value)]
  | (k, v) :: es => if sameKey k key then (k, value) :: es else (k, v) :: setEntry key value es

/-- The table of a list of entries, set one after the other. -/
def ofPairs (pairs : List (Value × Value)) : Value :=
  .table (pairs.foldl (fun es p => setEntry p.1 p.2 es) [])

mutual

/-- The text of a value with texts in quotes. -/
def shown : Value → Text
  | .null => "None"
  | .bool true => "True"
  | .bool false => "False"
  | .int n => Text.ofInt n
  | .fraction f => f.text
  | .text t => t.quoted
  | .list items => "[" ++ Text.joinWith ", " (shownAll items) ++ "]"
  | .tuple items =>
    match shownAll items with
    | [x] => "(" ++ x ++ ",)"
    | xs => "(" ++ Text.joinWith ", " xs ++ ")"
  | .table entries => "\x7b" ++ Text.joinWith ", " (shownEntries entries) ++ "\x7d"
  | .other => "object"

/-- The texts of all values. -/
def shownAll : List Value → List Text
  | [] => []
  | x :: xs => shown x :: shownAll xs

/-- The texts of all entries, key and value. -/
def shownEntries : List (Value × Value) → List Text
  | [] => []
  | (k, v) :: es => (shown k ++ ": " ++ shown v) :: shownEntries es

end

/-- The text of a value with a text as it is. -/
def plain : Value → Text
  | .text t => t
  | v => v.shown

/-- The value of a text key. -/
def get? (key : Text) : List (Value × Value) → Option Value
  | [] => none
  | (.text k, v) :: es => if k = key then some v else get? key es
  | _ :: es => get? key es

/-- The items of a list or tuple. -/
def items? : Value → Option (List Value)
  | .list xs => some xs
  | .tuple xs => some xs
  | _ => none

/-- The text that a value is. -/
def text? : Value → Option Text
  | .text t => some t
  | _ => none

/-- The texts of a list or tuple that holds texts only. -/
def texts? (v : Value) : Option (List Text) := v.items?.bind fun xs => xs.mapM text?

end Value

end HouseStyle
