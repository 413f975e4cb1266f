import HouseStyle.Order
import HouseStyle.Text.Basic

/-!
# JSON values

`JsonValue.pretty` writes a value in ASCII over several lines: two spaces for each level, the fields
of an object in the order of their names. Characters beyond ASCII are written as UTF-16 units.
-/

namespace HouseStyle

/-- A JSON value without fractions. -/
inductive JsonValue where
  | null
  | bool (b : Bool)
  | int (n : Int)
  | text (t : Text)
  | list (items : List JsonValue)
  | object (fields : List (Text × JsonValue))

namespace JsonValue

/-! ## Strings -/

/-- The UTF-16 units of a code point. -/
def units (n : Nat) : List Nat :=
  if n < 0x10000 then [n]
  else [0xD800 + (n - 0x10000) / 0x400, 0xDC00 + (n - 0x10000) % 0x400]

/-- A UTF-16 unit as an escape. -/
def unitEscape (n : Nat) : Text := "\\u" ++ Text.hex 4 n

/-- A character inside a string. -/
def escapeChar (c : Char) : Text :=
  if c = '"' then "\\\""
  else if c = '\\' then "\\\\"
  else if c = '\n' then "\\n"
  else if c = '\r' then "\\r"
  else if c = '\t' then "\\t"
  else if c = '\x08' then "\\b"
  else if c = '\x0c' then "\\f"
  else if 32 ≤ c.toNat && c.toNat < 127 then [c]
  else (units c.toNat).flatMap unitEscape

/-- A text as a string. -/
def encodeText (t : Text) : Text := "\"" ++ t.flatMap escapeChar ++ "\""

/-! ## Values -/

/-- A line end and the spaces of a level. -/
def newline (level : Nat) : Text := '\n' :: Text.copies (2 * level) ' '

/-- Parts between brackets, one a line; without parts the brackets stand together. -/
def block (level : Nat) (opening closing : Char) : List Text → Text
  | [] => [opening, closing]
  | parts =>
    opening :: newline (level + 1) ++ Text.joinWith (',' :: newline (level + 1)) parts
      ++ newline level ++ [closing]

mutual

/-- A value whose first line stands at a level. -/
def prettyAt (level : Nat) : JsonValue → Text
  | .null => "null"
  | .bool true => "true"
  | .bool false => "false"
  | .int n => Text.ofInt n
  | .text t => encodeText t
  | .list items => block level '[' ']' (prettyItems (level + 1) items)
  | .object fields =>
    block level '\x7b' '\x7d' ((stableSort (fun a b => Text.le a.1 b.1)
      (prettyFields (level + 1) fields)).map (·.2))

/-- The items of a list. -/
def prettyItems (level : Nat) : List JsonValue → List Text
  | [] => []
  | v :: vs => prettyAt level v :: prettyItems level vs

/-- The names of the fields of an object, each with the whole field. -/
def prettyFields (level : Nat) : List (Text × JsonValue) → List (Text × Text)
  | [] => []
  | (k, v) :: fs => (k, encodeText k ++ ": " ++ prettyAt level v) :: prettyFields level fs

end

/-- The text of a value. -/
def pretty (v : JsonValue) : Text := prettyAt 0 v

/-- A text, or null without one. -/
def ofText? : Option Text → JsonValue
  | some t => .text t
  | none => .null

/-- An integer, or null without one. -/
def ofInt? : Option Int → JsonValue
  | some n => .int n
  | none => .null

end JsonValue

end HouseStyle
