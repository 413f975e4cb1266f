import HouseStyle.Text.Basic

/-!
# Glob patterns

A pattern is matched against a whole name: `*` stands for any run of characters, `?` for any one
character, and `[...]` for one character of a class. There is no escape character. A `[` that no
`]` closes stands for itself.

A class lists single characters and ranges `a-b`, and `!` in front negates it. Its text is first
cut at the hyphens that make ranges (`rangePieces`), then ranges that run backwards are removed
(`dropBackward`), and what is left is read as members (`members`).

Main definitions:
* `Glob.parse`: the items of a pattern.
* `Glob.matchItems`: whether items match a name.
* `Glob.isMatch`: whether a pattern matches a name.
-/

namespace HouseStyle.Glob

/-- A member of a class. -/
inductive Member where
  | single (c : Char)
  | range (lo hi : Char)
deriving Repr, DecidableEq

/-- An item of a pattern. -/
inductive Item where
  /-- Any run of characters, the empty one included. -/
  | many
  /-- Any one character. -/
  | any
  /-- This character. -/
  | lit (c : Char)
  /-- One character that is a member, or that is none when negated. -/
  | oneOf (negated : Bool) (members : List Member)
deriving Repr, DecidableEq

/-- The member covers the character. -/
def Member.covers (c : Char) : Member → Bool
  | .single d => c = d
  | .range lo hi => lo.toNat ≤ c.toNat && c.toNat ≤ hi.toNat

/-- The item accepts the character as the one it stands for. -/
def Item.accepts (c : Char) : Item → Bool
  | .many => false
  | .any => true
  | .lit d => c = d
  | .oneOf negated ms => ms.any (·.covers c) != negated

/-! ## Classes -/

/-- Cuts a class text at range hyphens. The first `keep` characters are not looked at; after a cut
    the two characters that follow are passed over, since the first of them ends the range and a
    hyphen after it stands for itself. The current piece is held in reverse. -/
def rangePiecesFrom (piece : Text) (keep : Nat) : Text → List Text
  | [] => [piece.reverse]
  | c :: t =>
    match keep with
    | k + 1 => rangePiecesFrom (c :: piece) k t
    | 0 => if c = '-' then piece.reverse :: rangePiecesFrom [] 2 t else rangePiecesFrom (c :: piece) 0 t

/-- A hyphen at the end of the class stands for itself, so it goes back to the piece before it. -/
def restoreLastHyphen : List Text → List Text
  | [] => []
  | [p] => [p]
  | [p, []] => [p ++ ['-']]
  | p :: ps => p :: restoreLastHyphen ps

/-- The pieces of a class text between its range hyphens. The first member never is a hyphen of a
    range, nor is a `!` in front of it. -/
def rangePieces (t : Text) : List Text :=
  restoreLastHyphen (rangePiecesFrom [] (if t.head? = some '!' then 2 else 1) t)

/-- Removes the ranges that run backwards, from the right to the left, with both their ends. -/
def dropBackward : List Text → List Text
  | [] => []
  | p :: ps =>
    match dropBackward ps with
    | [] => [p]
    | q :: qs =>
      match p.getLast?, q.head? with
      | some a, some b => if a.toNat > b.toNat then (p.dropLast ++ q.tail) :: qs else p :: q :: qs
      | _, _ => p :: q :: qs

/-- A character of a class, or the hyphen of a range. -/
inductive Mark where
  | char (c : Char)
  | hyphen
deriving Repr, DecidableEq

/-- The pieces in one line, with the range hyphens between them. -/
def marks : List Text → List Mark
  | [] => []
  | [p] => p.map .char
  | p :: ps => p.map .char ++ .hyphen :: marks ps

/-- Reads single characters and ranges. -/
def members : List Mark → List Member
  | [] => []
  | .char a :: .hyphen :: .char b :: ms => .range a b :: members ms
  | .char a :: ms => .single a :: members ms
  | .hyphen :: ms => .single '-' :: members ms

/-- The item of a class text; `!` in front negates, and a negated empty class is any character. -/
def classItem (t : Text) : Item :=
  match marks (dropBackward (rangePieces t)) with
  | .char '!' :: ms => if ms.isEmpty then .any else .oneOf true (members ms)
  | ms => .oneOf false (members ms)

/-- The length of the class text after a `[`, if a `]` closes it; a `]` that comes first, or right
    after `!`, does not close it. -/
def classLength? (t : Text) : Option Nat :=
  let lead := if t.head? = some '!' then 1 else 0
  let lead := if (t.drop lead).head? = some ']' then lead + 1 else lead
  ((t.drop lead).findIdx? (· = ']')).map (lead + ·)

/-! ## Patterns -/

/-- The items of a pattern; the first `skip` characters belong to a class already read. -/
def parseFrom (skip : Nat) : Text → List Item
  | [] => []
  | c :: t =>
    match skip with
    | k + 1 => parseFrom k t
    | 0 =>
      if c = '*' then .many :: parseFrom 0 t
      else if c = '?' then .any :: parseFrom 0 t
      else if c = '[' then
        match classLength? t with
        | some n => classItem (t.take n) :: parseFrom (n + 1) t
        | none => .lit '[' :: parseFrom 0 t
      else .lit c :: parseFrom 0 t

/-- The items of a pattern. -/
def parse (pattern : Text) : List Item := parseFrom 0 pattern

/-- Stars in a row are one star. -/
def mergeStars : List Item → List Item
  | [] => []
  | i :: is =>
    match i, mergeStars is with
    | .many, .many :: js => .many :: js
    | i, js => i :: js

/-- The tails of a text, from the text itself down to the empty one. -/
def tails : Text → List Text
  | [] => [[]]
  | c :: t => (c :: t) :: tails t

/-- The items match the whole name. -/
def matchItems : List Item → Text → Bool
  | [], name => name.isEmpty
  | .many :: is, name => (tails name).any fun rest => matchItems is rest
  | _ :: _, [] => false
  | i :: is, c :: name => i.accepts c && matchItems is name

/-- The pattern matches the whole name. -/
def isMatch (pattern name : Text) : Bool := matchItems (mergeStars (parse pattern)) name

end HouseStyle.Glob
