import HouseStyle.Text.Basic

/-!
# Letter case

`Text.upper` is the full upper-case mapping of Unicode 14, in which one letter may become several.
`Text.lowerAscii` is for comparing with a word of ASCII letters: besides `A` to `Z` only the
Kelvin sign has an ASCII letter as its lower-case form.
-/

namespace HouseStyle.Text

/-! ## Upper case -/

/-- Letters `first`, `first + step`, … up to `last`, mapped to `image`, `image + step`, …. -/
structure CaseRun where
  first : Nat
  last : Nat
  step : Nat
  image : Nat

/-- Reads a run `first-last/step=image`. -/
def readCaseRun (t : Text) : CaseRun :=
  match splitOn '=' t with
  | [source, image] =>
    match splitOn '/' source with
    | [range, step] =>
      match splitOn '-' range with
      | [first, last] => ⟨readHex first, readHex last, readHex step, readHex image⟩
      | _ => ⟨1, 0, 1, 0⟩
    | _ => ⟨1, 0, 1, 0⟩
  | _ => ⟨1, 0, 1, 0⟩

/-- The image of a code point under a run that holds it. -/
def CaseRun.imageOf? (r : CaseRun) (n : Nat) : Option Nat :=
  if r.first ≤ n && n ≤ r.last && (n - r.first) % r.step = 0 then some (r.image + (n - r.first))
  else none

/-- Letters beyond ASCII whose upper-case form is one letter. -/
def upperRuns : List CaseRun := (fields
  ["b5-b5/1=39c e0-f6/1=c0 f8-fe/1=d8 ff-ff/1=178 101-12f/2=100 131-131/1=49 133-137/2=132",
    "13a-148/2=139 14b-177/2=14a 17a-17e/2=179 17f-17f/1=53 180-180/1=243 183-185/2=182",
    "188-188/1=187 18c-18c/1=18b 192-192/1=191 195-195/1=1f6 199-199/1=198 19a-19a/1=23d",
    "19e-19e/1=220 1a1-1a5/2=1a0 1a8-1a8/1=1a7 1ad-1ad/1=1ac 1b0-1b0/1=1af 1b4-1b6/2=1b3",
    "1b9-1b9/1=1b8 1bd-1bd/1=1bc 1bf-1bf/1=1f7 1c5-1c5/1=1c4 1c6-1c6/1=1c4 1c8-1c8/1=1c7",
    "1c9-1c9/1=1c7 1cb-1cb/1=1ca 1cc-1cc/1=1ca 1ce-1dc/2=1cd 1dd-1dd/1=18e 1df-1ef/2=1de",
    "1f2-1f2/1=1f1 1f3-1f3/1=1f1 1f5-1f5/1=1f4 1f9-21f/2=1f8 223-233/2=222 23c-23c/1=23b",
    "23f-240/1=2c7e 242-242/1=241 247-24f/2=246 250-250/1=2c6f 251-251/1=2c6d 252-252/1=2c70",
    "253-253/1=181 254-254/1=186 256-257/1=189 259-259/1=18f 25b-25b/1=190 25c-25c/1=a7ab",
    "260-260/1=193 261-261/1=a7ac 263-263/1=194 265-265/1=a78d 266-266/1=a7aa 268-268/1=197",
    "269-269/1=196 26a-26a/1=a7ae 26b-26b/1=2c62 26c-26c/1=a7ad 26f-26f/1=19c 271-271/1=2c6e",
    "272-272/1=19d 275-275/1=19f 27d-27d/1=2c64 280-280/1=1a6 282-282/1=a7c5 283-283/1=1a9",
    "287-287/1=a7b1 288-288/1=1ae 289-289/1=244 28a-28b/1=1b1 28c-28c/1=245 292-292/1=1b7",
    "29d-29d/1=a7b2 29e-29e/1=a7b0 345-345/1=399 371-373/2=370 377-377/1=376 37b-37d/1=3fd",
    "3ac-3ac/1=386 3ad-3af/1=388 3b1-3c1/1=391 3c2-3c2/1=3a3 3c3-3cb/1=3a3 3cc-3cc/1=38c",
    "3cd-3ce/1=38e 3d0-3d0/1=392 3d1-3d1/1=398 3d5-3d5/1=3a6 3d6-3d6/1=3a0 3d7-3d7/1=3cf",
    "3d9-3ef/2=3d8 3f0-3f0/1=39a 3f1-3f1/1=3a1 3f2-3f2/1=3f9 3f3-3f3/1=37f 3f5-3f5/1=395",
    "3f8-3f8/1=3f7 3fb-3fb/1=3fa 430-44f/1=410 450-45f/1=400 461-481/2=460 48b-4bf/2=48a",
    "4c2-4ce/2=4c1 4cf-4cf/1=4c0 4d1-52f/2=4d0 561-586/1=531 10d0-10fa/1=1c90 10fd-10ff/1=1cbd",
    "13f8-13fd/1=13f0 1c80-1c80/1=412 1c81-1c81/1=414 1c82-1c82/1=41e 1c83-1c84/1=421",
    "1c85-1c85/1=422 1c86-1c86/1=42a 1c87-1c87/1=462 1c88-1c88/1=a64a 1d79-1d79/1=a77d",
    "1d7d-1d7d/1=2c63 1d8e-1d8e/1=a7c6 1e01-1e95/2=1e00 1e9b-1e9b/1=1e60 1ea1-1eff/2=1ea0",
    "1f00-1f07/1=1f08 1f10-1f15/1=1f18 1f20-1f27/1=1f28 1f30-1f37/1=1f38 1f40-1f45/1=1f48",
    "1f51-1f57/2=1f59 1f60-1f67/1=1f68 1f70-1f71/1=1fba 1f72-1f75/1=1fc8 1f76-1f77/1=1fda",
    "1f78-1f79/1=1ff8 1f7a-1f7b/1=1fea 1f7c-1f7d/1=1ffa 1fb0-1fb1/1=1fb8 1fbe-1fbe/1=399",
    "1fd0-1fd1/1=1fd8 1fe0-1fe1/1=1fe8 1fe5-1fe5/1=1fec 214e-214e/1=2132 2170-217f/1=2160",
    "2184-2184/1=2183 24d0-24e9/1=24b6 2c30-2c5f/1=2c00 2c61-2c61/1=2c60 2c65-2c65/1=23a",
    "2c66-2c66/1=23e 2c68-2c6c/2=2c67 2c73-2c73/1=2c72 2c76-2c76/1=2c75 2c81-2ce3/2=2c80",
    "2cec-2cee/2=2ceb 2cf3-2cf3/1=2cf2 2d00-2d25/1=10a0 2d27-2d27/1=10c7 2d2d-2d2d/1=10cd",
    "a641-a66d/2=a640 a681-a69b/2=a680 a723-a72f/2=a722 a733-a76f/2=a732 a77a-a77c/2=a779",
    "a77f-a787/2=a77e a78c-a78c/1=a78b a791-a793/2=a790 a794-a794/1=a7c4 a797-a7a9/2=a796",
    "a7b5-a7c3/2=a7b4 a7c8-a7ca/2=a7c7 a7d1-a7d1/1=a7d0 a7d7-a7d9/2=a7d6 a7f6-a7f6/1=a7f5",
    "ab53-ab53/1=a7b3 ab70-abbf/1=13a0 ff41-ff5a/1=ff21 10428-1044f/1=10400 104d8-104fb/1=104b0",
    "10597-105a1/1=10570 105a3-105b1/1=1057c 105b3-105b9/1=1058c 105bb-105bc/1=10594",
    "10cc0-10cf2/1=10c80 118c0-118df/1=118a0 16e60-16e7f/1=16e40 1e922-1e943/1=1e900"]).map readCaseRun

/-- Reads `letter=form+form+…`. -/
def readExpansion (t : Text) : Nat × Text :=
  match splitOn '=' t with
  | [source, images] => (readHex source, (splitOn '+' images).map fun x => Char.ofNat (readHex x))
  | _ => (0, [])

/-- Letters whose upper-case form is several letters. -/
def upperExpansions : List (Nat × Text) := (fields
  ["df=53+53 149=2bc+4e 1f0=4a+30c 390=399+308+301 3b0=3a5+308+301 587=535+552 1e96=48+331",
    "1e97=54+308 1e98=57+30a 1e99=59+30a 1e9a=41+2be 1f50=3a5+313 1f52=3a5+313+300",
    "1f54=3a5+313+301 1f56=3a5+313+342 1f80=1f08+399 1f81=1f09+399 1f82=1f0a+399 1f83=1f0b+399",
    "1f84=1f0c+399 1f85=1f0d+399 1f86=1f0e+399 1f87=1f0f+399 1f88=1f08+399 1f89=1f09+399",
    "1f8a=1f0a+399 1f8b=1f0b+399 1f8c=1f0c+399 1f8d=1f0d+399 1f8e=1f0e+399 1f8f=1f0f+399",
    "1f90=1f28+399 1f91=1f29+399 1f92=1f2a+399 1f93=1f2b+399 1f94=1f2c+399 1f95=1f2d+399",
    "1f96=1f2e+399 1f97=1f2f+399 1f98=1f28+399 1f99=1f29+399 1f9a=1f2a+399 1f9b=1f2b+399",
    "1f9c=1f2c+399 1f9d=1f2d+399 1f9e=1f2e+399 1f9f=1f2f+399 1fa0=1f68+399 1fa1=1f69+399",
    "1fa2=1f6a+399 1fa3=1f6b+399 1fa4=1f6c+399 1fa5=1f6d+399 1fa6=1f6e+399 1fa7=1f6f+399",
    "1fa8=1f68+399 1fa9=1f69+399 1faa=1f6a+399 1fab=1f6b+399 1fac=1f6c+399 1fad=1f6d+399",
    "1fae=1f6e+399 1faf=1f6f+399 1fb2=1fba+399 1fb3=391+399 1fb4=386+399 1fb6=391+342",
    "1fb7=391+342+399 1fbc=391+399 1fc2=1fca+399 1fc3=397+399 1fc4=389+399 1fc6=397+342",
    "1fc7=397+342+399 1fcc=397+399 1fd2=399+308+300 1fd3=399+308+301 1fd6=399+342",
    "1fd7=399+308+342 1fe2=3a5+308+300 1fe3=3a5+308+301 1fe4=3a1+313 1fe6=3a5+342",
    "1fe7=3a5+308+342 1ff2=1ffa+399 1ff3=3a9+399 1ff4=38f+399 1ff6=3a9+342 1ff7=3a9+342+399",
    "1ffc=3a9+399 fb00=46+46 fb01=46+49 fb02=46+4c fb03=46+46+49 fb04=46+46+4c fb05=53+54",
    "fb06=53+54 fb13=544+546 fb14=544+535 fb15=544+53b fb16=54e+546 fb17=544+53d"]).map readExpansion

/-- The upper-case form of a character. -/
def upperChar (c : Char) : Text :=
  let n := c.toNat
  if n < 0x80 then [if isAsciiLower c then Char.ofNat (n - 32) else c]
  else
    match upperExpansions.lookup n with
    | some t => t
    | none => [((upperRuns.findSome? (·.imageOf? n)).map Char.ofNat).getD c]

/-- The upper-case form of a text. -/
def upper (t : Text) : Text := t.flatMap upperChar

/-! ## Lower case -/

/-- The lower-case form, for characters that have one in ASCII. -/
def lowerAsciiChar (c : Char) : Char :=
  if isAsciiUpper c then Char.ofNat (c.toNat + 32) else if c = '\u212a' then 'k' else c

/-- Lower case as far as comparing with an ASCII word can tell. -/
def lowerAscii (t : Text) : Text := t.map lowerAsciiChar

end HouseStyle.Text
