import HouseStyle.Proofs.Json.Reader
import HouseStyle.Proofs.Sorting
import HouseStyle.Proofs.Text.Numerals
import HouseStyle.Proofs.Text.Utf8
import Mathlib.Data.List.Forall2

/-!
# What is written is read

Reading the text of a JSON value gives the value back, with the fields of its objects in the order of their
names. The text is cut into the tokens of the value, whatever the level is that it is written at, and the
machine that takes these tokens ends with the value on the stack that it started with. All characters of
the text are ASCII.

Main definitions:
* `JsonValue.sorted`: the value with the fields of its objects in order.
* `JsonValue.spelling`: the tokens of a value.
* `JsonValue.Spells`: a text is cut into tokens, whatever comes after it.

Main results:
* `JsonValue.stringUnits_escape`, `JsonValue.ofUnits?_units`: the characters of strings.
* `JsonValue.spells_prettyAt`: a value is written with its tokens.
* `JsonValue.foldlM_spelling`: the machine takes the tokens of a value.
* `JsonValue.read_pretty`: a value is read from its own text.
* `JsonValue.isAscii_prettyAt`: the text of a value is ASCII.
-/

namespace HouseStyle.JsonValue

/-! ## Strings -/

theorem stringUnits_quote (t : Text) : stringUnits ('"' :: t) = some ([], t) := by
  rw [stringUnits.eq_def]
  rfl

theorem stringUnits_plain {c : Char} (hquote : c ≠ '"') (hslash : c ≠ '\\') (hc : 32 ≤ c.toNat)
    (t : Text) : stringUnits (c :: t) = putUnits (units c.toNat) (stringUnits t) := by
  rw [stringUnits.eq_def]
  dsimp only
  rw [if_neg hquote, if_neg hslash, if_neg (by omega)]

theorem lt_of_escape? {e : Char} {n : Nat} (he : escape? e = some n) : e.toNat < 128 ∧ n < 128 := by
  unfold escape? at he
  split at he
  all_goals cases he
  all_goals decide

theorem stringUnits_short {e : Char} {n : Nat} (he : escape? e = some n) (t : Text) :
    stringUnits ('\\' :: e :: t) = putUnits [n] (stringUnits t) := by
  rw [stringUnits.eq_def]
  dsimp only
  rw [if_neg (by decide), if_pos rfl]
  split
  · next h => cases h
  · next h =>
    -- Four digits come after `u` only, which is no escape by itself.
    cases h
    cases he
  · next h =>
    cases h
    rw [he]
    rfl

theorem putUnits_putUnits (us us' : List Nat) (r : Option (List Nat × Text)) :
    putUnits us (putUnits us' r) = putUnits (us ++ us') r := by
  cases r with
  | none => rfl
  | some p => simp [putUnits]

theorem stringUnits_unitEscape {n : Nat} (h : n < 0x10000) (t : Text) :
    stringUnits (unitEscape n ++ t) = putUnits [n] (stringUnits t) := by
  have hunit : hexUnit? (n / 16 / 16 / 16).digitChar (n / 16 / 16 % 16).digitChar
      (n / 16 % 16).digitChar (n % 16).digitChar = some n := by
    rw [hexUnit?, Text.hexDigit?_digitChar (by omega), Text.hexDigit?_digitChar (by omega),
      Text.hexDigit?_digitChar (by omega), Text.hexDigit?_digitChar (by omega)]
    simp only [Option.bind_eq_bind, Option.bind_some, Option.pure_def, Option.some.injEq]
    omega
  rw [unitEscape, Text.hex_four h, show "\\u".toList = ['\\', 'u'] from rfl]
  simp [stringUnits, hunit]

theorem stringUnits_flatMap_unitEscape {us : List Nat} (h : ∀ n ∈ us, n < 0x10000) (t : Text) :
    stringUnits (us.flatMap unitEscape ++ t) = putUnits us (stringUnits t) := by
  induction us with
  | nil => simp [putUnits]
  | cons n us ih =>
    obtain ⟨hn, hus⟩ := List.forall_mem_cons.mp h
    rw [List.flatMap_cons, List.append_assoc, stringUnits_unitEscape hn, ih hus, putUnits_putUnits]
    rfl

theorem lt_of_mem_units {c : Char} {n : Nat} (h : n ∈ units c.toNat) : n < 0x10000 := by
  have hc := Utf8.toNat_valid c
  rw [units] at h
  split_ifs at h
  · rw [List.mem_singleton] at h
    omega
  · simp only [List.mem_cons, List.not_mem_nil, or_false] at h
    omega

/-- A character is written as a backslash and a letter, as itself, or by its units. -/
theorem escapeChar_cases (c : Char) :
    (∃ e, escapeChar c = ['\\', e] ∧ escape? e = some c.toNat) ∨
    (escapeChar c = [c] ∧ c ≠ '"' ∧ c ≠ '\\' ∧ 32 ≤ c.toNat ∧ c.toNat < 127) ∨
    escapeChar c = (units c.toNat).flatMap unitEscape := by
  fun_cases escapeChar c with
  | case1 hc => exact Or.inl ⟨'"', rfl, by rw [hc]; rfl⟩
  | case2 _ hc => exact Or.inl ⟨'\\', rfl, by rw [hc]; rfl⟩
  | case3 _ _ hc => exact Or.inl ⟨'n', rfl, by rw [hc]; rfl⟩
  | case4 _ _ _ hc => exact Or.inl ⟨'r', rfl, by rw [hc]; rfl⟩
  | case5 _ _ _ _ hc => exact Or.inl ⟨'t', rfl, by rw [hc]; rfl⟩
  | case6 _ _ _ _ _ hc => exact Or.inl ⟨'b', rfl, by rw [hc]; rfl⟩
  | case7 _ _ _ _ _ _ hc => exact Or.inl ⟨'f', rfl, by rw [hc]; rfl⟩
  | case8 hquote hslash _ _ _ _ _ hplain =>
    simp only [Bool.and_eq_true, decide_eq_true_eq] at hplain
    exact Or.inr (Or.inl ⟨rfl, hquote, hslash, hplain⟩)
  | case9 => exact Or.inr (Or.inr rfl)

/-- However a character is written, its units are read. -/
theorem stringUnits_escapeChar (c : Char) (t : Text) :
    stringUnits (escapeChar c ++ t) = putUnits (units c.toNat) (stringUnits t) := by
  rcases escapeChar_cases c with ⟨e, heq, he⟩ | ⟨heq, hquote, hslash, hplain, -⟩ | heq
  · have hunits : units c.toNat = [c.toNat] := if_pos (by have := (lt_of_escape? he).2; omega)
    rw [heq, hunits]
    exact stringUnits_short he t
  · rw [heq]
    exact stringUnits_plain hquote hslash hplain t
  · rw [heq]
    exact stringUnits_flatMap_unitEscape (fun n => lt_of_mem_units) t

theorem stringUnits_escape (t rest : Text) :
    stringUnits (t.flatMap escapeChar ++ '"' :: rest) =
      some (t.flatMap fun c => units c.toNat, rest) := by
  induction t with
  | nil => exact stringUnits_quote rest
  | cons c t ih =>
    rw [List.flatMap_cons, List.append_assoc, stringUnits_escapeChar, ih]
    rfl

/-- Characters beyond the basic plane have two units, a leading and a trailing surrogate, and no other
    character has one of them. -/
theorem ofUnits?_cons_units (c : Char) (us : List Nat) :
    ofUnits? (units c.toNat ++ us) = (ofUnits? us).map (c :: ·) := by
  have hc := Utf8.toNat_valid c
  rw [units]
  split_ifs with h
  · rw [List.singleton_append, ofUnits?.eq_def]
    dsimp only
    rw [if_pos (by simp only [Bool.or_eq_true, Bool.and_eq_true, decide_eq_true_eq]; omega),
      Char.ofNat_toNat]
  · have hvalue : 0x10000 + (0xD800 + (c.toNat - 0x10000) / 0x400 - 0xD800) * 0x400 +
        (0xDC00 + (c.toNat - 0x10000) % 0x400 - 0xDC00) = c.toNat := by omega
    rw [List.cons_append, List.singleton_append, ofUnits?, if_neg, if_pos, hvalue, Char.ofNat_toNat]
    · simp only [Bool.and_eq_true, decide_eq_true_eq]
      omega
    · simp only [Bool.or_eq_true, Bool.and_eq_true, decide_eq_true_eq]
      omega

theorem ofUnits?_units (t : Text) : ofUnits? (t.flatMap fun c => units c.toNat) = some t := by
  induction t with
  | nil => rfl
  | cons c t ih =>
    rw [List.flatMap_cons, ofUnits?_cons_units, ih]
    rfl

/-! ## Words -/

theorem natural?_decimal (n : Nat) : natural? (Text.decimal n) = some n := by
  have hdigits : (Text.decimal n).all Text.isAsciiDigit = true :=
    List.all_eq_true.mpr fun c hc => Text.isAsciiDigit_of_mem_decimal hc
  have hzeros : Text.decimal n = ['0'] ∨ (Text.decimal n).head?.any (· ≠ '0') = true := by
    by_cases hn : n = 0
    · exact Or.inl (by rw [hn]; rfl)
    · exact Or.inr (Text.head?_decimal hn)
  rw [natural?, if_pos, Text.readDecimal_decimal]
  rw [hdigits, Bool.true_and, Bool.or_eq_true, decide_eq_true_eq]
  exact hzeros

theorem integer?_ofInt (n : Int) : integer? (Text.ofInt n) = some n := by
  cases n with
  | ofNat n =>
    rw [Text.ofInt, integer?, natural?_decimal]
    · rfl
    · intro ds hds
      have hminus : '-' ∈ Text.decimal n := hds ▸ List.mem_cons_self
      exact absurd (Text.isAsciiDigit_of_mem_decimal hminus) (by decide)
  | negSucc n =>
    rw [Text.ofInt, integer?, natural?_decimal]
    rfl

theorem inWord_of_isAsciiDigit {c : Char} (h : Text.isAsciiDigit c = true) : inWord c = true := by
  have hall : ∀ n < 58, 48 ≤ n → inWord (Char.ofNat n) = true := by decide
  simp only [Text.isAsciiDigit, Bool.and_eq_true, decide_eq_true_eq] at h
  rw [← Char.ofNat_toNat c]
  exact hall c.toNat (by omega) h.1

theorem all_inWord_decimal (n : Nat) : (Text.decimal n).all inWord = true :=
  List.all_eq_true.mpr fun _ hc => inWord_of_isAsciiDigit (Text.isAsciiDigit_of_mem_decimal hc)

theorem all_inWord_ofInt (n : Int) : (Text.ofInt n).all inWord = true := by
  cases n with
  | ofNat n => exact all_inWord_decimal n
  | negSucc n =>
    rw [Text.ofInt, List.all_cons, all_inWord_decimal]
    rfl

/-! ## Tokens -/

theorem tokens_of_isSpace {c : Char} (h : isSpace c = true) (t : Text) :
    tokens (c :: t) = tokens t := by
  rw [tokens, if_pos h]

theorem tokens_newline (level : Nat) (t : Text) : tokens (newline level ++ t) = tokens t := by
  rw [newline, List.cons_append, tokens_of_isSpace rfl, Text.copies]
  induction 2 * level with
  | zero => rfl
  | succ k ih => rw [List.replicate_succ, List.cons_append, tokens_of_isSpace rfl, ih]

theorem tokens_of_first? {c : Char} {t rest : Text} {m : Token} (hspace : isSpace c = false)
    (h : first? (c :: t) = some (m, rest)) : tokens (c :: t) = (tokens rest).map (m :: ·) := by
  rw [tokens, if_neg (by rw [hspace]; exact Bool.noConfusion)]
  split
  · next hnone =>
    rw [hnone] at h
    cases h
  · next hsome =>
    rw [hsome] at h
    cases h
    rfl

theorem tokens_of_mark? {c : Char} {m : Token} (h : mark? c = some m) (t : Text) :
    tokens (c :: t) = (tokens t).map (m :: ·) := by
  have hspace : isSpace c = false := by
    unfold mark? at h
    split at h
    case h_7 => cases h
    all_goals rfl
  exact tokens_of_first? hspace (by rw [first?, h])

/-- A text is cut into tokens, whatever comes after it; but no word may go on there. -/
def Spells (t : Text) (ms : List Token) : Prop :=
  ∀ rest : Text, (∀ c ∈ rest.head?, inWord c = false) →
    tokens (t ++ rest) = (tokens rest).map (ms ++ ·)

theorem spells_word {w : Text} {v : JsonValue} (hne : w ≠ []) (hw : w.all inWord = true)
    (hv : word? w = some v) : Spells w [.scalar v] := by
  intro rest hrest
  cases w with
  | nil => exact absurd rfl hne
  | cons c w =>
    obtain ⟨hc, hw⟩ := List.forall_mem_cons.mp (List.all_eq_true.mp hw)
    have htake : (w ++ rest).takeWhile inWord = w := by
      rw [List.takeWhile_append_of_pos hw]
      cases rest with
      | nil => simp
      | cons d rest => simp [hrest d rfl]
    have hdrop : (w ++ rest).dropWhile inWord = rest := by
      rw [List.dropWhile_append_of_pos hw]
      cases rest with
      | nil => rfl
      | cons d rest => simp [hrest d rfl]
    simp only [inWord, Bool.and_eq_true, Bool.not_eq_true', Option.isNone_iff_eq_none,
      decide_eq_true_eq] at hc
    obtain ⟨⟨hspace, hmark⟩, hquote⟩ := hc
    rw [List.cons_append]
    refine tokens_of_first? hspace ?_
    rw [first?, hmark]
    dsimp only
    rw [if_neg hquote, htake, hdrop, hv]
    rfl

theorem spells_encodeText (t : Text) : Spells (encodeText t) [.scalar (.text t)] := by
  intro rest _
  have hcut : encodeText t ++ rest = '"' :: (t.flatMap escapeChar ++ '"' :: rest) := by
    rw [encodeText, show "\"".toList = ['"'] from rfl]
    simp
  rw [hcut]
  refine tokens_of_first? rfl ?_
  rw [first?, show mark? '"' = none from rfl]
  dsimp only
  rw [if_pos rfl, stringUnits_escape]
  simp [ofUnits?_units]

/-- Parts that are cut into tokens, with commas and line ends between them. -/
theorem spells_joinWith (level : Nat) {parts : List Text} {mss : List (List Token)}
    (h : List.Forall₂ Spells parts mss) :
    Spells (Text.joinWith (',' :: newline level) parts) (List.intercalate [.comma] mss) := by
  induction h with
  | nil =>
    intro rest _
    simp [Text.joinWith]
  | @cons p ms parts mss hp hparts ih =>
    intro rest hrest
    cases hparts with
    | nil =>
      rw [Text.joinWith, List.intercalate_singleton]
      exact hp rest hrest
    | @cons q ns parts mss =>
      have hcomma := tokens_of_mark? (c := ',') (m := .comma) rfl
      have hcut : ∀ c ∈ (',' :: (newline level ++
          (Text.joinWith (',' :: newline level) (q :: parts) ++ rest))).head?, inWord c = false := by
        simp [inWord, mark?]
      rw [Text.joinWith, List.append_assoc, List.append_assoc, List.cons_append, hp _ hcut, hcomma,
        tokens_newline, ih rest hrest, List.intercalate_cons_cons]
      · simp [Option.map_map, Function.comp_def]
      · exact List.cons_ne_nil q parts

/-- Parts that are cut into tokens, between brackets. -/
theorem spells_block (level : Nat) {opening closing : Char} {o c : Token} (ho : mark? opening = some o)
    (hc : mark? closing = some c) {parts : List Text} {mss : List (List Token)}
    (h : List.Forall₂ Spells parts mss) :
    Spells (block level opening closing parts) (o :: List.intercalate [.comma] mss ++ [c]) := by
  intro rest _
  have hclose := tokens_of_mark? hc rest
  cases parts with
  | nil =>
    cases h
    rw [block, List.cons_append, List.singleton_append, tokens_of_mark? ho, hclose]
    simp [Function.comp_def]
  | cons p parts =>
    have hcut : ∀ d ∈ (newline level ++ (closing :: rest)).head?, inWord d = false := by
      simp [newline, inWord, isSpace]
    rw [block]
    · simp only [List.append_assoc, List.cons_append, List.nil_append]
      rw [tokens_of_mark? ho, tokens_newline, spells_joinWith _ h _ hcut, tokens_newline, hclose]
      simp [Function.comp_def]
    · exact List.cons_ne_nil p parts

/-! ## Values and their tokens -/

/-- What holds of a list if it holds of its items, and of an object if it holds of the values of its
    fields, holds of every value. -/
@[elab_as_elim]
theorem induct {P : JsonValue → Prop} (null : P .null) (bool : ∀ b, P (.bool b)) (int : ∀ n, P (.int n))
    (text : ∀ t, P (.text t)) (list : ∀ items, (∀ v ∈ items, P v) → P (.list items))
    (object : ∀ fields : List (Text × JsonValue), (∀ f ∈ fields, P f.2) → P (.object fields))
    (v : JsonValue) : P v :=
  @JsonValue.rec P (fun items => ∀ v ∈ items, P v) (fun fields => ∀ f ∈ fields, P f.2) (fun f => P f.2)
    null bool int text list object
    (List.forall_mem_nil _) (fun _ _ hv hvs => List.forall_mem_cons.mpr ⟨hv, hvs⟩)
    (List.forall_mem_nil _) (fun _ _ hf hfs => List.forall_mem_cons.mpr ⟨hf, hfs⟩) (fun _ _ hv => hv) v

mutual

/-- The value with the fields of its objects in the order of their names. -/
def sorted : JsonValue → JsonValue
  | .null => .null
  | .bool b => .bool b
  | .int n => .int n
  | .text t => .text t
  | .list items => .list (sortedItems items)
  | .object fields => .object (stableSort (fun a b => Text.le a.1 b.1) (sortedFields fields))

/-- The items of a list, each with its fields in order. -/
def sortedItems : List JsonValue → List JsonValue
  | [] => []
  | v :: vs => sorted v :: sortedItems vs

/-- The fields of an object, each value with its fields in order. -/
def sortedFields : List (Text × JsonValue) → List (Text × JsonValue)
  | [] => []
  | (k, v) :: fs => (k, sorted v) :: sortedFields fs

end

mutual

/-- The tokens of a value. -/
def spelling : JsonValue → List Token
  | .null => [.scalar .null]
  | .bool b => [.scalar (.bool b)]
  | .int n => [.scalar (.int n)]
  | .text t => [.scalar (.text t)]
  | .list items => .openList :: List.intercalate [.comma] (itemSpellings items) ++ [.closeList]
  | .object fields => .openObject :: List.intercalate [.comma] (fieldSpellings fields) ++ [.closeObject]

/-- The tokens of the items of a list. -/
def itemSpellings : List JsonValue → List (List Token)
  | [] => []
  | v :: vs => spelling v :: itemSpellings vs

/-- The tokens of the fields of an object. -/
def fieldSpellings : List (Text × JsonValue) → List (List Token)
  | [] => []
  | (k, v) :: fs => (.scalar (.text k) :: .colon :: spelling v) :: fieldSpellings fs

end

theorem sortedItems_eq (items : List JsonValue) : sortedItems items = items.map sorted := by
  induction items with
  | nil => rfl
  | cons v vs ih => rw [sortedItems, ih, List.map_cons]

theorem sortedFields_eq (fields : List (Text × JsonValue)) :
    sortedFields fields = fields.map fun f => (f.1, f.2.sorted) := by
  induction fields with
  | nil => rfl
  | cons f fs ih => rw [sortedFields, ih, List.map_cons]

theorem itemSpellings_eq (items : List JsonValue) : itemSpellings items = items.map spelling := by
  induction items with
  | nil => rfl
  | cons v vs ih => rw [itemSpellings, ih, List.map_cons]

theorem fieldSpellings_eq (fields : List (Text × JsonValue)) :
    fieldSpellings fields = fields.map fun f => .scalar (.text f.1) :: .colon :: f.2.spelling := by
  induction fields with
  | nil => rfl
  | cons f fs ih => rw [fieldSpellings, ih, List.map_cons]

theorem prettyItems_eq (level : Nat) (items : List JsonValue) :
    prettyItems level items = items.map (prettyAt level) := by
  induction items with
  | nil => rfl
  | cons v vs ih => rw [prettyItems, ih, List.map_cons]

theorem prettyFields_eq (level : Nat) (fields : List (Text × JsonValue)) :
    prettyFields level fields =
      fields.map fun f => (f.1, encodeText f.1 ++ ": " ++ prettyAt level f.2) := by
  induction fields with
  | nil => rfl
  | cons f fs ih => rw [prettyFields, ih, List.map_cons]

theorem prettyAt_object (level : Nat) (fields : List (Text × JsonValue)) :
    prettyAt level (.object fields) =
      block level '\x7b' '\x7d' ((stableSort (fun a b => Text.le a.1 b.1) fields).map fun f =>
        encodeText f.1 ++ ": " ++ prettyAt (level + 1) f.2) := by
  rw [prettyAt, prettyFields_eq, stableSort_map, List.map_map]
  rfl

theorem sorted_object (fields : List (Text × JsonValue)) :
    sorted (.object fields) = .object ((stableSort (fun a b => Text.le a.1 b.1) fields).map fun f =>
      (f.1, f.2.sorted)) := by
  rw [sorted, sortedFields_eq, stableSort_map]

theorem lookup_eq_head?_filter (name : Text) (fields : List (Text × JsonValue)) :
    fields.lookup name = (fields.filter fun f => f.1 = name).head?.map (·.2) := by
  induction fields with
  | nil => rfl
  | cons f fs ih =>
    obtain ⟨k, v⟩ := f
    by_cases h : k = name
    · simp [h]
    · rw [List.lookup_cons, beq_false_of_ne (Ne.symm h), List.filter_cons_of_neg (by simpa using h), ih]

/-- Sorting keeps the order of fields that have one name, so it keeps what is found under a name. -/
theorem field?_stableSort (name : Text) (fields : List (Text × JsonValue)) :
    field? name (.object (stableSort (fun a b => Text.le a.1 b.1) fields)) =
      field? name (.object fields) := by
  have hequal : ∀ f g : Text × JsonValue, decide (f.1 = name) = true → decide (g.1 = name) = true →
      Text.le f.1 g.1 = true := by
    intro f g hf hg
    rw [of_decide_eq_true hf, of_decide_eq_true hg, Text.le_iff]
    exact List.lt_irrefl name
  rw [field?, field?, lookup_eq_head?_filter, filter_stableSort _ hequal, lookup_eq_head?_filter]

theorem spells_field {level : Nat} {v : JsonValue} {ms : List Token} (h : Spells (prettyAt level v) ms)
    (k : Text) :
    Spells (encodeText k ++ ": " ++ prettyAt level v) (.scalar (.text k) :: .colon :: ms) := by
  intro rest hrest
  have hcut : ∀ c ∈ (':' :: ' ' :: (prettyAt level v ++ rest)).head?, inWord c = false := by
    simp [inWord, mark?]
  have hcolon : ": ".toList = [':', ' '] := rfl
  rw [List.append_assoc, List.append_assoc, hcolon]
  simp only [List.cons_append, List.nil_append]
  rw [spells_encodeText k _ hcut, tokens_of_mark? rfl, tokens_of_isSpace rfl, h rest hrest]
  simp [Function.comp_def]

/-- A value is written with the tokens of the value in order. -/
theorem spells_prettyAt (level : Nat) (v : JsonValue) : Spells (prettyAt level v) v.sorted.spelling := by
  induction v using induct generalizing level with
  | null =>
    rw [prettyAt]
    exact spells_word (by decide) rfl rfl
  | bool b =>
    cases b <;> rw [prettyAt] <;> exact spells_word (by decide) rfl rfl
  | int n =>
    have hne : Text.ofInt n ≠ [] := by
      cases n with
      | ofNat n => exact Text.decimal_ne_nil n
      | negSucc n => exact List.cons_ne_nil _ _
    have hword : word? (Text.ofInt n) = some (.int n) := by rw [word?, integer?_ofInt]
    exact spells_word hne (all_inWord_ofInt n) hword
  | text t => exact spells_encodeText t
  | list items ih =>
    rw [prettyAt, prettyItems_eq, sorted, sortedItems_eq, spelling, itemSpellings_eq, List.map_map]
    refine spells_block level rfl rfl ?_
    rw [List.forall₂_map_left_iff, List.forall₂_map_right_iff, List.forall₂_same]
    exact fun v hv => ih v hv (level + 1)
  | object fields ih =>
    rw [prettyAt_object, sorted_object, spelling, fieldSpellings_eq, List.map_map]
    refine spells_block level rfl rfl ?_
    rw [List.forall₂_map_left_iff, List.forall₂_map_right_iff, List.forall₂_same]
    exact fun f hf => spells_field (ih f ((mem_stableSort _).mp hf) (level + 1)) f.1

/-! ## The machine -/

/-- Where a value has to come, the machine takes the tokens and then has the value. -/
def Takes (ms : List Token) (v : JsonValue) : Prop :=
  ∀ frames, ms.foldlM step (.value, frames) = some (.after v, frames)

theorem spelling_eq_cons (v : JsonValue) : ∃ m ms, v.spelling = m :: ms ∧ m ≠ .closeList := by
  cases v with
  | _ => exact ⟨_, _, rfl, Token.noConfusion⟩

/-- In a list that has just been opened, a value is taken as the first item. -/
theorem foldlM_firstItem (v : JsonValue) (ms : List Token) (frames : List Frame) :
    (v.spelling ++ ms).foldlM step (.firstItem, frames) =
      (v.spelling ++ ms).foldlM step (.value, .list [] :: frames) := by
  obtain ⟨m, ms', hv, hm⟩ := v.spelling_eq_cons
  have hstep : step (.firstItem, frames) m = step (.value, .list [] :: frames) m := by
    cases m with
    | closeList => exact absurd rfl hm
    | _ => rfl
  rw [hv, List.cons_append, List.foldlM_cons, List.foldlM_cons, hstep]

/-- The machine takes the rest of an open list: further items, of which there is one at least, and the
    closing bracket. -/
theorem foldlM_items {items : List JsonValue} (h : ∀ v ∈ items, Takes v.spelling v) (hne : items ≠ [])
    (found : List JsonValue) (frames : List Frame) :
    (List.intercalate [Token.comma] (items.map spelling) ++ [Token.closeList]).foldlM step
      (.value, .list found :: frames) = some (.after (.list (found.reverse ++ items)), frames) := by
  induction items generalizing found with
  | nil => exact absurd rfl hne
  | cons v vs ih =>
    obtain ⟨hv, hvs⟩ := List.forall_mem_cons.mp h
    cases vs with
    | nil =>
      rw [List.map_singleton, List.intercalate_singleton, List.foldlM_append, hv]
      simp [step]
    | cons w vs =>
      have hrest := ih hvs (List.cons_ne_nil w vs) (v :: found)
      rw [List.reverse_cons, List.append_assoc, List.singleton_append] at hrest
      rw [List.map_cons, List.intercalate_cons_of_ne_nil (by simp), List.append_assoc, List.append_assoc,
        List.foldlM_append, hv]
      exact hrest

/-- The machine takes the rest of an open object: further fields, of which there is one at least, and the
    closing bracket. -/
theorem foldlM_fields {fields : List (Text × JsonValue)} (h : ∀ f ∈ fields, Takes f.2.spelling f.2)
    (hne : fields ≠ []) (found : List (Text × JsonValue)) (frames : List Frame) :
    (List.intercalate [Token.comma] (fieldSpellings fields) ++ [Token.closeObject]).foldlM step
      (.name found, frames) = some (.after (.object (found.reverse ++ fields)), frames) := by
  induction fields generalizing found with
  | nil => exact absurd rfl hne
  | cons f fs ih =>
    obtain ⟨hf, hfs⟩ := List.forall_mem_cons.mp h
    have hfield : ∀ ms : List Token,
        (Token.scalar (.text f.1) :: Token.colon :: f.2.spelling ++ ms).foldlM step (.name found, frames) =
          ms.foldlM step (.after f.2, .object found f.1 :: frames) := by
      intro ms
      have hvalue : (f.2.spelling ++ ms).foldlM step (.value, .object found f.1 :: frames) =
          ms.foldlM step (.after f.2, .object found f.1 :: frames) := by
        rw [List.foldlM_append, hf]
        rfl
      exact hvalue
    cases fs with
    | nil =>
      rw [fieldSpellings, fieldSpellings, List.intercalate_singleton, hfield]
      simp [step]
    | cons g fs =>
      have hrest := ih hfs (List.cons_ne_nil g fs) (f :: found)
      rw [List.reverse_cons, List.append_assoc, List.singleton_append] at hrest
      rw [fieldSpellings, List.intercalate_cons_of_ne_nil (by simp [fieldSpellings]), List.append_assoc,
        List.append_assoc, hfield]
      exact hrest

theorem exists_intercalate_cons (ms : List Token) (mss : List (List Token)) :
    ∃ rest, List.intercalate [Token.comma] (ms :: mss) = ms ++ rest := by
  cases mss with
  | nil => exact ⟨[], by simp⟩
  | cons ns mss => exact ⟨_, by rw [List.intercalate_cons_cons, List.append_assoc]⟩

/-- The machine takes the tokens of a value. -/
theorem takes_spelling (v : JsonValue) : Takes v.spelling v := by
  induction v using induct with
  | null | bool b | int n | text t => exact fun frames => rfl
  | list items ih =>
    intro frames
    rw [spelling, itemSpellings_eq]
    cases items with
    | nil => rfl
    | cons v vs =>
      have hitems := foldlM_items ih (List.cons_ne_nil v vs) [] frames
      obtain ⟨rest, hrest⟩ := exists_intercalate_cons v.spelling (vs.map spelling)
      rw [List.map_cons, hrest, List.append_assoc, ← foldlM_firstItem] at hitems
      rw [List.map_cons, hrest, List.cons_append, List.append_assoc]
      exact hitems
  | object fields ih =>
    intro frames
    rw [spelling]
    cases fields with
    | nil => rfl
    | cons f fs =>
      have hfields := foldlM_fields ih (List.cons_ne_nil f fs) [] frames
      obtain ⟨rest, hrest⟩ := exists_intercalate_cons
        (Token.scalar (.text f.1) :: Token.colon :: f.2.spelling) (fieldSpellings fs)
      rw [fieldSpellings, hrest] at hfields ⊢
      exact hfields

/-- **A value is read from its own text**, with the fields of its objects in order. -/
theorem read_pretty (v : JsonValue) : read v.pretty = some v.sorted := by
  have htokens : tokens v.pretty = some v.sorted.spelling := by
    have hspells := spells_prettyAt 0 v [] (by simp)
    rw [List.append_nil, tokens] at hspells
    rw [pretty, hspells, Option.map_some, List.append_nil]
  rw [read, htokens]
  simp [takes_spelling v.sorted []]

/-- Texts in another layout and with other escapes are read as well. -/
example : read "\x7b\"k\":[-10 ,\"\\uD83D\\uDE00\\/\"]\x7d".toList =
    some (.object [(['k'], .list [.int (-10), .text ['😀', '/']])]) := by cbv

/-! ## ASCII -/

/-- All characters of a text are ASCII. -/
def IsAscii (t : Text) : Prop := ∀ c ∈ t, c.toNat < 128

theorem isAscii_of_all {t : Text} (h : t.all (·.toNat < 128) = true) : IsAscii t := by
  simpa [IsAscii] using h

theorem isAscii_singleton {c : Char} (hc : c.toNat < 128) : IsAscii [c] := by
  simpa [IsAscii] using hc

theorem isAscii_append {t u : Text} : IsAscii (t ++ u) ↔ IsAscii t ∧ IsAscii u := List.forall_mem_append

theorem isAscii_flatMap {α : Type} {f : α → Text} {xs : List α} (h : ∀ x ∈ xs, IsAscii (f x)) :
    IsAscii (xs.flatMap f) := by
  intro c hc
  obtain ⟨x, hx, hc⟩ := List.mem_flatMap.mp hc
  exact h x hx c hc

theorem isAscii_joinWith {sep : Text} (hsep : IsAscii sep) {parts : List Text}
    (h : ∀ p ∈ parts, IsAscii p) : IsAscii (Text.joinWith sep parts) := by
  induction parts with
  | nil => exact List.forall_mem_nil _
  | cons p parts ih =>
    obtain ⟨hp, hparts⟩ := List.forall_mem_cons.mp h
    cases parts with
    | nil => exact hp
    | cons q parts =>
      rw [Text.joinWith, isAscii_append, isAscii_append]
      · exact ⟨⟨hp, hsep⟩, ih hparts⟩
      · exact List.cons_ne_nil q parts

theorem isAscii_newline (level : Nat) : IsAscii (newline level) := by
  refine List.forall_mem_cons.mpr ⟨by decide, fun c hc => ?_⟩
  rw [List.eq_of_mem_replicate hc]
  decide

theorem isAscii_block (level : Nat) {opening closing : Char} (hopening : opening.toNat < 128)
    (hclosing : closing.toNat < 128) {parts : List Text} (h : ∀ p ∈ parts, IsAscii p) :
    IsAscii (block level opening closing parts) := by
  cases parts with
  | nil => exact isAscii_append.mpr ⟨isAscii_singleton hopening, isAscii_singleton hclosing⟩
  | cons p parts =>
    have hcomma : IsAscii (',' :: newline (level + 1)) :=
      List.forall_mem_cons.mpr ⟨by decide, isAscii_newline (level + 1)⟩
    have hjoin := isAscii_joinWith hcomma h
    rw [block, isAscii_append, isAscii_append, isAscii_append]
    · exact ⟨⟨⟨List.forall_mem_cons.mpr ⟨hopening, isAscii_newline (level + 1)⟩, hjoin⟩,
        isAscii_newline level⟩, isAscii_singleton hclosing⟩
    · exact List.cons_ne_nil p parts

theorem isAscii_unitEscape {n : Nat} (h : n < 0x10000) : IsAscii (unitEscape n) := by
  have hdigit : ∀ d < 16, (Nat.digitChar d).toNat < 128 := by decide
  rw [unitEscape, Text.hex_four h, isAscii_append]
  refine ⟨isAscii_of_all rfl, ?_⟩
  simp only [IsAscii, List.forall_mem_cons]
  exact ⟨hdigit _ (by omega), hdigit _ (by omega), hdigit _ (by omega), hdigit _ (by omega),
    List.forall_mem_nil _⟩

theorem isAscii_escapeChar (c : Char) : IsAscii (escapeChar c) := by
  rcases escapeChar_cases c with ⟨e, heq, he⟩ | ⟨heq, -, -, -, hplain⟩ | heq
  · rw [heq]
    exact List.forall_mem_cons.mpr ⟨by decide, isAscii_singleton (lt_of_escape? he).1⟩
  · rw [heq]
    exact isAscii_singleton (by omega)
  · rw [heq]
    exact isAscii_flatMap fun n hn => isAscii_unitEscape (lt_of_mem_units hn)

theorem isAscii_encodeText (t : Text) : IsAscii (encodeText t) := by
  rw [encodeText, isAscii_append, isAscii_append]
  exact ⟨⟨isAscii_of_all rfl, isAscii_flatMap fun c _ => isAscii_escapeChar c⟩, isAscii_of_all rfl⟩

theorem isAscii_ofInt (n : Int) : IsAscii (Text.ofInt n) := by
  have hdecimal : ∀ k, IsAscii (Text.decimal k) := by
    intro k c hc
    have hdigit := Text.isAsciiDigit_of_mem_decimal hc
    simp only [Text.isAsciiDigit, Bool.and_eq_true, decide_eq_true_eq] at hdigit
    omega
  cases n with
  | ofNat n => exact hdecimal n
  | negSucc n => exact List.forall_mem_cons.mpr ⟨by decide, hdecimal (n + 1)⟩

theorem isAscii_prettyAt (level : Nat) (v : JsonValue) : IsAscii (prettyAt level v) := by
  induction v using induct generalizing level with
  | null =>
    rw [prettyAt]
    exact isAscii_of_all rfl
  | bool b =>
    cases b <;> rw [prettyAt] <;> exact isAscii_of_all rfl
  | int n => exact isAscii_ofInt n
  | text t => exact isAscii_encodeText t
  | list items ih =>
    rw [prettyAt, prettyItems_eq]
    refine isAscii_block level (by decide) (by decide) fun p hp => ?_
    obtain ⟨v, hv, rfl⟩ := List.mem_map.mp hp
    exact ih v hv (level + 1)
  | object fields ih =>
    rw [prettyAt_object]
    refine isAscii_block level (by decide) (by decide) fun p hp => ?_
    obtain ⟨f, hf, rfl⟩ := List.mem_map.mp hp
    rw [isAscii_append, isAscii_append]
    exact ⟨⟨isAscii_encodeText f.1, isAscii_of_all rfl⟩, ih f ((mem_stableSort _).mp hf) (level + 1)⟩

end HouseStyle.JsonValue
