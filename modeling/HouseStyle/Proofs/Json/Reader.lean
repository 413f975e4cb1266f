import HouseStyle.JsonValue

/-!
# Reading JSON

`JsonValue.read` reads any JSON text whose numbers are integers. The text is cut into tokens, and a machine
with a stack of open brackets takes them one by one. Space may stand between tokens, numbers have no
leading zeros, strings have no raw control characters, and nothing comes after the value. A string is a
sequence of UTF-16 units, so two escapes may write one character; half of a pair writes none.

Main definitions:
* `JsonValue.stringUnits`, `JsonValue.ofUnits?`: the units of a string, and the text that they write.
* `JsonValue.tokens`: the tokens of a text.
* `JsonValue.step`: what the machine does with a token.
* `JsonValue.read`: the value of a text.
-/

namespace HouseStyle.JsonValue

/-! ## Strings -/

/-- The unit that a backslash and a character write. -/
def escape? (c : Char) : Option Nat :=
  match c with
  | '"' | '\\' | '/' => some c.toNat
  | 'b' => some 8
  | 't' => some 9
  | 'n' => some 10
  | 'f' => some 12
  | 'r' => some 13
  | _ => none

/-- The unit that four hexadecimal digits write. -/
def hexUnit? (a b c d : Char) : Option Nat := do
  let a ← Text.hexDigit? a
  let b ← Text.hexDigit? b
  let c ← Text.hexDigit? c
  let d ← Text.hexDigit? d
  return ((a * 16 + b) * 16 + c) * 16 + d

/-- Units in front of those that are read from what follows. -/
def putUnits (us : List Nat) (r : Option (List Nat × Text)) : Option (List Nat × Text) :=
  r.map fun p => (us ++ p.1, p.2)

/-- The units of a string up to its closing quote, and what comes after the quote. -/
def stringUnits : Text → Option (List Nat × Text)
  | [] => none
  | c :: t =>
    if c = '"' then some ([], t)
    else if c = '\\' then
      match t with
      | [] => none
      | 'u' :: a :: b :: c :: d :: t => (hexUnit? a b c d).bind fun n => putUnits [n] (stringUnits t)
      | e :: t => (escape? e).bind fun n => putUnits [n] (stringUnits t)
    else if c.toNat < 32 then none
    else putUnits (units c.toNat) (stringUnits t)

/-- The text that UTF-16 units write: a leading and a trailing surrogate are one character. -/
def ofUnits? : List Nat → Option Text
  | [] => some []
  | n :: us =>
    if n < 0xD800 || (0xE000 ≤ n && n < 0x10000) then (ofUnits? us).map (Char.ofNat n :: ·)
    else
      match us with
      | [] => none
      | m :: us =>
        if n < 0xDC00 && 0xDC00 ≤ m && m < 0xE000 then
          (ofUnits? us).map (Char.ofNat (0x10000 + (n - 0xD800) * 0x400 + (m - 0xDC00)) :: ·)
        else none

/-! ## Tokens -/

/-- A token: a bracket, a comma, a colon, or a value without brackets. -/
inductive Token where
  | openList
  | closeList
  | openObject
  | closeObject
  | comma
  | colon
  | scalar (v : JsonValue)

/-- The characters that may stand between tokens. -/
def isSpace (c : Char) : Bool := c = ' ' || c = '\t' || c = '\n' || c = '\r'

/-- The token of a single character. -/
def mark? : Char → Option Token
  | '[' => some .openList
  | ']' => some .closeList
  | '\x7b' => some .openObject
  | '\x7d' => some .closeObject
  | ',' => some .comma
  | ':' => some .colon
  | _ => none

/-- The character may stand in a word: it is no space, no token and no quote. -/
def inWord (c : Char) : Bool := !isSpace c && (mark? c).isNone && c ≠ '"'

/-- The natural number that digits write, without leading zeros. -/
def natural? (ds : Text) : Option Nat :=
  if ds.all Text.isAsciiDigit && (ds = ['0'] || ds.head?.any (· ≠ '0')) then some (Text.readDecimal ds)
  else none

/-- The integer that a word writes. -/
def integer? : Text → Option Int
  | '-' :: ds => (natural? ds).map fun n => -(n : Int)
  | ds => (natural? ds).map fun n => (n : Int)

/-- The value that a word writes. -/
def word? (w : Text) : Option JsonValue :=
  match integer? w with
  | some n => some (.int n)
  | none =>
    if w = "null".toList then some .null
    else if w = "true".toList then some (.bool true)
    else if w = "false".toList then some (.bool false)
    else none

/-- The token at the front of a text, and what comes after it. -/
def first? : Text → Option (Token × Text)
  | [] => none
  | c :: t =>
    match mark? c with
    | some m => some (m, t)
    | none =>
      if c = '"' then do
        let (us, rest) ← stringUnits t
        let s ← ofUnits? us
        return (.scalar (.text s), rest)
      else do
        let v ← word? (c :: t.takeWhile inWord)
        return (.scalar v, t.dropWhile inWord)

theorem putUnits_eq_some {us us' : List Nat} {r : Option (List Nat × Text)} {rest : Text}
    (h : putUnits us r = some (us', rest)) : ∃ us'', r = some (us'', rest) := by
  obtain ⟨⟨us'', rest'⟩, hr, heq⟩ := Option.map_eq_some_iff.mp h
  cases heq
  exact ⟨us'', hr⟩

theorem length_of_stringUnits {t rest : Text} {us : List Nat} (h : stringUnits t = some (us, rest)) :
    rest.length < t.length := by
  fun_induction stringUnits t generalizing us with
  | case1 | case3 | case6 => cases h
  | case2 t =>
    cases h
    exact Nat.lt_succ_self _
  | case4 _ a b c d t ih =>
    obtain ⟨n, -, h⟩ := Option.bind_eq_some_iff.mp h
    obtain ⟨us', htail⟩ := putUnits_eq_some h
    have hlt := ih htail
    simp only [List.length_cons]
    omega
  | case5 _ e t _ ih =>
    obtain ⟨n, -, h⟩ := Option.bind_eq_some_iff.mp h
    obtain ⟨us', htail⟩ := putUnits_eq_some h
    have hlt := ih htail
    simp only [List.length_cons]
    omega
  | case7 c t _ _ _ ih =>
    obtain ⟨us', htail⟩ := putUnits_eq_some h
    exact Nat.lt_succ_of_lt (ih htail)

theorem length_of_first? {t rest : Text} {m : Token} (h : first? t = some (m, rest)) :
    rest.length < t.length := by
  cases t with
  | nil => cases h
  | cons c t =>
    simp only [first?, Option.bind_eq_bind] at h
    split at h
    · cases h
      exact Nat.lt_succ_self _
    · split at h
      · obtain ⟨⟨us, rest'⟩, hunits, h⟩ := Option.bind_eq_some_iff.mp h
        obtain ⟨s, -, h⟩ := Option.bind_eq_some_iff.mp h
        cases h
        exact Nat.lt_succ_of_lt (length_of_stringUnits hunits)
      · obtain ⟨v, -, h⟩ := Option.bind_eq_some_iff.mp h
        cases h
        exact Nat.lt_succ_of_le (List.dropWhile_sublist _).length_le

/-- The tokens of a text. -/
def tokens (t : Text) : Option (List Token) :=
  match t with
  | [] => some []
  | c :: t =>
    if isSpace c then tokens t
    else
      match h : first? (c :: t) with
      | none => none
      | some (m, rest) =>
        have : rest.length < t.length + 1 := length_of_first? h
        (tokens rest).map (m :: ·)
termination_by t.length

/-! ## Values -/

/-- An open bracket with what stands in it so far, last first; in an object, the name of the field whose
    value comes next. -/
inductive Frame where
  | list (items : List JsonValue)
  | object (fields : List (Text × JsonValue)) (name : Text)

/-- What comes next: a value, in a list that has just been opened perhaps its end instead, the name of a
    field or a colon in an object with the given fields, last first, or what may stand after a value. -/
inductive Need where
  | value
  | firstItem
  | firstName
  | name (fields : List (Text × JsonValue))
  | colon (fields : List (Text × JsonValue)) (name : Text)
  | after (v : JsonValue)

/-- Takes the first token of a value. -/
def start (frames : List Frame) : Token → Option (Need × List Frame)
  | .scalar v => some (.after v, frames)
  | .openList => some (.firstItem, frames)
  | .openObject => some (.firstName, frames)
  | _ => none

/-- Takes a token. -/
def step : Need × List Frame → Token → Option (Need × List Frame)
  | (.value, frames), m => start frames m
  | (.firstItem, frames), .closeList => some (.after (.list []), frames)
  | (.firstItem, frames), m => start (.list [] :: frames) m
  | (.firstName, frames), .closeObject => some (.after (.object []), frames)
  | (.firstName, frames), .scalar (.text k) => some (.colon [] k, frames)
  | (.name fs, frames), .scalar (.text k) => some (.colon fs k, frames)
  | (.colon fs k, frames), .colon => some (.value, .object fs k :: frames)
  | (.after v, .list vs :: frames), .comma => some (.value, .list (v :: vs) :: frames)
  | (.after v, .list vs :: frames), .closeList => some (.after (.list (v :: vs).reverse), frames)
  | (.after v, .object fs k :: frames), .comma => some (.name ((k, v) :: fs), frames)
  | (.after v, .object fs k :: frames), .closeObject =>
    some (.after (.object ((k, v) :: fs).reverse), frames)
  | _, _ => none

/-- The value that a JSON text writes. -/
def read (t : Text) : Option JsonValue := do
  let ms ← tokens t
  match ← ms.foldlM step (.value, []) with
  | (.after v, []) => some v
  | _ => none

/-- The value of a field of an object. -/
def field? (name : Text) : JsonValue → Option JsonValue
  | .object fields => fields.lookup name
  | _ => none

end HouseStyle.JsonValue
