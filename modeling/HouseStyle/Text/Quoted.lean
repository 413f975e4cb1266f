import HouseStyle.Text.Printable

/-!
# Quoted texts

Error messages quote the texts they name: between single quotes, or between double quotes when the
text has a single quote and no double quote. The quote, the backslash, line feed, carriage return
and tab are written with a backslash, and other characters without a printable form by their code
point.
-/

namespace HouseStyle.Text

/-- The quote around a text. -/
def quoteFor (t : Text) : Char :=
  if t.contains '\'' && !t.contains '"' then '"' else '\''

/-- A character by its code point: two, four or eight hexadecimal digits. -/
def escapeCode (c : Char) : Text :=
  let n := c.toNat
  if n < 0x100 then "\\x" ++ hex 2 n
  else if n < 0x10000 then "\\u" ++ hex 4 n
  else "\\U" ++ hex 8 n

/-- A character between the given quotes. -/
def quoteChar (quote c : Char) : Text :=
  if c = quote || c = '\\' then ['\\', c]
  else if c = '\n' then "\\n"
  else if c = '\r' then "\\r"
  else if c = '\t' then "\\t"
  else if isPrintable c then [c]
  else escapeCode c

/-- The text in quotes. -/
def quoted (t : Text) : Text :=
  let q := quoteFor t
  q :: t.flatMap (quoteChar q) ++ [q]

end HouseStyle.Text
