import HouseStyle.Text.Basic

/-!
# UTF-8

`Utf8.step` reads one scalar from the front of a byte list or says what is wrong there.
`Utf8.decode` stops at the first fault, `Utf8.decodeLossy` puts one replacement character in the
place of each ill-formed sequence (the maximal prefix of a well-formed one, as the Unicode standard
recommends), and `Utf8.encode` writes a text.
-/

namespace HouseStyle

/-- The content of a file. -/
abbrev Bytes := List UInt8

namespace Utf8

/-! ## Encoding -/

/-- The bytes of one scalar. -/
def encodeChar (c : Char) : Bytes :=
  let n := c.toNat
  if n < 0x80 then [n.toUInt8]
  else if n < 0x800 then [(0xC0 + n / 0x40).toUInt8, (0x80 + n % 0x40).toUInt8]
  else if n < 0x10000 then
    [(0xE0 + n / 0x1000).toUInt8, (0x80 + n / 0x40 % 0x40).toUInt8, (0x80 + n % 0x40).toUInt8]
  else
    [(0xF0 + n / 0x40000).toUInt8, (0x80 + n / 0x1000 % 0x40).toUInt8,
      (0x80 + n / 0x40 % 0x40).toUInt8, (0x80 + n % 0x40).toUInt8]

/-- The bytes of a text. -/
def encode (t : Text) : Bytes := t.flatMap encodeChar

/-- The number of bytes of one scalar. -/
def width (c : Char) : Nat :=
  let n := c.toNat
  if n < 0x80 then 1 else if n < 0x800 then 2 else if n < 0x10000 then 3 else 4

/-- The byte order mark. -/
def mark : Bytes := [0xEF, 0xBB, 0xBF]

/-- At most one byte order mark at the front, and the rest. -/
def splitMark : Bytes → Bytes × Bytes
  | 0xEF :: 0xBB :: 0xBF :: body => (mark, body)
  | body => ([], body)

/-! ## Decoding -/

/-- What is wrong with an ill-formed sequence. -/
inductive Fault where
  /-- No scalar starts with this byte. -/
  | invalidStart
  /-- A byte is not the continuation that its predecessors ask for. -/
  | invalidContinuation
  /-- The bytes end inside a scalar. -/
  | unexpectedEnd
deriving Repr, DecidableEq

/-- One step of decoding: a scalar, or a fault with the number of bytes it takes up. -/
inductive Step where
  | scalar (c : Char) (length : Nat)
  | fault (kind : Fault) (length : Nat)
deriving Repr, DecidableEq

/-- A continuation byte. -/
def isContinuation (b : UInt8) : Bool := 0x80 ≤ b && b < 0xC0

/-- The second byte may follow the first: besides being a continuation it must not make an overlong
    form, a surrogate, or a number beyond `U+10FFFF`. -/
def mayFollow (first second : UInt8) : Bool :=
  isContinuation second
    && !(first = 0xE0 && second < 0xA0) && !(first = 0xED && 0xA0 ≤ second)
    && !(first = 0xF0 && second < 0x90) && !(first = 0xF4 && 0x90 ≤ second)

/-- The payload of a continuation byte. -/
def payload (b : UInt8) : Nat := b.toNat % 0x40

/-- Reads the front of a non-empty byte list. -/
def step (b : UInt8) (rest : Bytes) : Step :=
  if b < 0x80 then .scalar (Char.ofNat b.toNat) 1
  else if b < 0xC2 || 0xF5 ≤ b then .fault .invalidStart 1
  else
    match rest with
    | [] => .fault .unexpectedEnd 1
    | b2 :: rest =>
      if !mayFollow b b2 then .fault .invalidContinuation 1
      else if b < 0xE0 then .scalar (Char.ofNat (b.toNat % 0x20 * 0x40 + payload b2)) 2
      else
        match rest with
        | [] => .fault .unexpectedEnd 2
        | b3 :: rest =>
          if !isContinuation b3 then .fault .invalidContinuation 2
          else if b < 0xF0 then
            .scalar (Char.ofNat (b.toNat % 0x10 * 0x1000 + payload b2 * 0x40 + payload b3)) 3
          else
            match rest with
            | [] => .fault .unexpectedEnd 3
            | b4 :: _ =>
              if !isContinuation b4 then .fault .invalidContinuation 3
              else .scalar (Char.ofNat (b.toNat % 8 * 0x40000 + payload b2 * 0x1000
                + payload b3 * 0x40 + payload b4)) 4

/-- A fault with its place: the first byte, its offset and the number of bytes. -/
structure DecodeError where
  byte : UInt8
  offset : Nat
  length : Nat
  kind : Fault
deriving Repr, DecidableEq

/-- The wording of a fault. -/
def Fault.message : Fault → Text
  | .invalidStart => "invalid start byte"
  | .invalidContinuation => "invalid continuation byte"
  | .unexpectedEnd => "unexpected end of data"

/-- The wording of a fault with its place. -/
def DecodeError.message (e : DecodeError) : Text :=
  let place :=
    if e.length = 1 then
      "byte 0x" ++ Text.hex 2 e.byte.toNat ++ " in position " ++ Text.decimal e.offset
    else
      "bytes in position " ++ Text.decimal e.offset ++ "-"
        ++ Text.decimal (e.offset + e.length - 1)
  "'utf-8' codec can't decode " ++ place ++ ": " ++ e.kind.message

/-- Decodes bytes from the given offset on; `skip` bytes belong to the scalar before. -/
def decodeFrom (offset skip : Nat) : Bytes → Except DecodeError Text
  | [] => .ok []
  | b :: rest =>
    match skip with
    | k + 1 => decodeFrom (offset + 1) k rest
    | 0 =>
      match step b rest with
      | .fault kind length => .error ⟨b, offset, length, kind⟩
      | .scalar c length =>
        match decodeFrom (offset + 1) (length - 1) rest with
        | .ok t => .ok (c :: t)
        | .error e => .error e

/-- Decodes bytes, or says where and why they are ill-formed. -/
def decode (bytes : Bytes) : Except DecodeError Text := decodeFrom 0 0 bytes

/-- Decodes bytes with a replacement character for each fault; `skip` bytes are already used. -/
def decodeLossyFrom (skip : Nat) : Bytes → Text
  | [] => []
  | b :: rest =>
    match skip with
    | k + 1 => decodeLossyFrom k rest
    | 0 =>
      match step b rest with
      | .fault _ length => '\ufffd' :: decodeLossyFrom (length - 1) rest
      | .scalar c length => c :: decodeLossyFrom (length - 1) rest

/-- Decodes bytes with a replacement character for each ill-formed sequence. -/
def decodeLossy (bytes : Bytes) : Text := decodeLossyFrom 0 bytes

end Utf8

end HouseStyle
