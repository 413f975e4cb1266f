import HouseStyle.Proofs.Edit.Splice
import HouseStyle.Proofs.Text.Utf8

/-!
# Edits of a text as patches of its bytes

An edit addresses characters, a file holds bytes. The range of an edit is a range of bytes of the
encoded text (`Edit.patch`), and what edits do to a text is the same to its bytes: the byte range of
each edit is replaced by the encoding of its new text, and every other byte is kept.

Main definitions:
* `Patch`, `Patch.applyAll`: replacement of byte ranges, in a single pass over the bytes.
* `Text.byteOffset`, `Edit.patch`: the byte at which a place starts, and the patch that an edit is.

Main results:
* `Edit.patch_start_eq_iff`, `Edit.patch_covers_eq`: a patch starts at and covers the bytes of the
  characters that its edit starts at and covers.
* `Edit.encode_splice`: splicing a text patches its bytes.
-/

namespace HouseStyle

/-! ## Patches -/

/-- A range of bytes and the bytes that are put in its place. -/
structure Patch where
  start : Nat
  stop : Nat
  bytes : Bytes
deriving Repr, DecidableEq

namespace Patch

/-- The byte is in the range of the patch. -/
def covers (p : Patch) (i : Nat) : Bool := p.start ≤ i && i < p.stop

/-- Bytes of which the first has the index `offset`, with all ranges replaced at once. -/
def applyFrom (patches : List Patch) (offset : Nat) (bytes : Bytes) : Bytes :=
  (bytes.zipIdx offset).flatMap fun x =>
    (patches.filter (·.start = x.2)).flatMap (·.bytes) ++
      if patches.any (·.covers x.2) then [] else [x.1]

/-- The bytes with all ranges replaced at once, from left to right over the original indices. -/
def applyAll (patches : List Patch) (bytes : Bytes) : Bytes := applyFrom patches 0 bytes

theorem applyFrom_append (patches : List Patch) (offset : Nat) (a b : Bytes) :
    applyFrom patches offset (a ++ b) =
      applyFrom patches offset a ++ applyFrom patches (offset + a.length) b := by
  simp only [applyFrom, List.zipIdx_append, List.flatMap_append]

theorem applyFrom_cons (patches : List Patch) (offset : Nat) (b : UInt8) (bs : Bytes) :
    applyFrom patches offset (b :: bs) =
      ((patches.filter (·.start = offset)).flatMap (·.bytes) ++
        if patches.any (·.covers offset) then [] else [b]) ++
      applyFrom patches (offset + 1) bs := rfl

/-- Bytes among which no patch starts are dropped or kept together, if they are covered together. -/
theorem applyFrom_of_quiet {patches : List Patch} {covered : Bool} {offset : Nat} {bytes : Bytes}
    (hstart : ∀ i, offset ≤ i → i < offset + bytes.length → ∀ p ∈ patches, p.start ≠ i)
    (hcover : ∀ i, offset ≤ i → i < offset + bytes.length →
      patches.any (·.covers i) = covered) :
    applyFrom patches offset bytes = if covered then [] else bytes := by
  induction bytes generalizing offset with
  | nil => cases covered <;> rfl
  | cons b bs ih =>
    have hlen : (b :: bs).length = bs.length + 1 := rfl
    have hquiet : patches.filter (·.start = offset) = [] := by
      rw [List.filter_eq_nil_iff]
      intro p hp
      simpa using hstart offset le_rfl (by omega) p hp
    have hrest : applyFrom patches (offset + 1) bs = if covered then [] else bs :=
      ih (fun i h1 h2 => hstart i (by omega) (by omega))
        (fun i h1 h2 => hcover i (by omega) (by omega))
    rw [applyFrom_cons, hquiet, hrest, hcover offset le_rfl (by omega)]
    cases covered <;> rfl

end Patch

/-! ## Offsets -/

namespace Text

/-- The number of bytes in front of column `col` (from zero) of a line (from zero). -/
def offset (lines : List Text) (line col : Nat) : Nat :=
  (Utf8.encode (lines.take line).flatten).length +
    (Utf8.encode ((lines[line]?.getD []).take col)).length

/-- The number of bytes in front of a place of a text, whose line and column count from one. -/
def byteOffset (t : Text) (line col : Int) : Nat :=
  offset t.newlineLines (line - 1).toNat (col - 1).toNat

theorem offset_zero (lines : List Text) (line : Nat) :
    offset lines line 0 = (Utf8.encode (lines.take line).flatten).length := rfl

theorem offset_succ_line {lines : List Text} {line : Nat} {l : Text} (h : lines[line]? = some l) :
    offset lines (line + 1) 0 = offset lines line 0 + (Utf8.encode l).length := by
  simp [offset_zero, List.take_add_one, h]

theorem offset_succ_col {lines : List Text} {line col : Nat} {l : Text} {c : Char}
    (h : lines[line]? = some l) (hc : l[col]? = some c) :
    offset lines line (col + 1) = offset lines line col + Utf8.width c := by
  simp [offset, h, List.take_add_one, hc, Utf8.length_encodeChar]
  omega

theorem length_encode_take_le (t : Text) {i j : Nat} (h : i ≤ j) :
    (Utf8.encode (t.take i)).length ≤ (Utf8.encode (t.take j)).length := by
  have hsplit : t.take j = t.take i ++ (t.take j).drop i := by
    conv_lhs => rw [← List.take_append_drop i (t.take j), List.take_take, Nat.min_eq_left h]
  rw [hsplit, Utf8.encode_append, List.length_append]
  omega

theorem offset_le_col (lines : List Text) (line : Nat) {i j : Nat} (h : i ≤ j) :
    offset lines line i ≤ offset lines line j :=
  Nat.add_le_add_left (length_encode_take_le _ h) _

/-- Every place of a line is in front of every place of a later line. -/
theorem offset_le_of_line_lt (lines : List Text) {line line' : Nat} (h : line < line')
    (i j : Nat) : offset lines line i ≤ offset lines line' j := by
  have hend : offset lines line i ≤ offset lines (line + 1) 0 := by
    cases hl : lines[line]? with
    | none =>
      have hlen := List.getElem?_eq_none_iff.mp hl
      simp [offset, hl, List.take_of_length_le (Nat.le_succ_of_le hlen),
        List.take_of_length_le hlen]
    | some l =>
      have hle := length_encode_take_le l (Nat.le_max_left i l.length)
      rw [List.take_of_length_le (Nat.le_max_right i l.length)] at hle
      rw [offset_succ_line hl]
      simpa [offset, hl] using hle
  have hlater : offset lines (line + 1) 0 ≤ offset lines line' 0 := by
    obtain ⟨k, rfl⟩ : ∃ k, line' = line + 1 + k := ⟨line' - (line + 1), by omega⟩
    rw [offset_zero, offset_zero, List.take_add (i := line + 1), List.flatten_append,
      Utf8.encode_append, List.length_append]
    omega
  have hcol := offset_le_col lines line' (Nat.zero_le j)
  omega

end Text

namespace Edit

/-- The patch of the bytes of a text that an edit is. -/
def patch (t : Text) (e : Edit) : Patch :=
  ⟨t.byteOffset e.line e.col, t.byteOffset e.line e.endCol, Utf8.encode e.newText⟩

/-! ## The bytes of one character -/

section Character

variable {t : Text} {e : Edit} {line col : Nat} {l : Text} {c : Char} {i : Nat}

/-- The character at which an edit that fits starts. -/
theorem Fits.exists_first (hw : e.WellShaped) (hfit : e.Fits t.newlineLines) :
    ∃ d, 1 ≤ e.line ∧ ∃ l, t.newlineLines[(e.line - 1).toNat]? = some l ∧
      l[(e.col - 1).toNat]? = some d := by
  obtain ⟨l, htarget, hslice⟩ := hfit
  obtain ⟨hpos, hget⟩ := target?_eq_some_iff.mp htarget
  obtain ⟨pre, post, rfl, hpre⟩ := hw.cut hslice
  cases hold : e.oldText with
  | nil => exact absurd hold hw.oldText_ne_nil
  | cons d ds =>
    refine ⟨d, hpos, _, hget, ?_⟩
    have hcol : (e.col - 1).toNat = pre.length := by omega
    rw [hcol, hold]
    simp

/-- Among the bytes of a character, a patch can only start at the first one, and it does so exactly
    if the edit starts at the character. -/
theorem patch_start_eq_iff (hw : e.WellShaped) (hfit : e.Fits t.newlineLines)
    (hl : t.newlineLines[line]? = some l) (hc : l[col]? = some c)
    (h1 : Text.offset t.newlineLines line col ≤ i)
    (h2 : i < Text.offset t.newlineLines line col + Utf8.width c) :
    (e.patch t).start = i ↔
      i = Text.offset t.newlineLines line col ∧ e.startsAt ⟨line + 1, col + 1⟩ = true := by
  obtain ⟨d, hpos, l', hl', hd⟩ := hfit.exists_first hw
  have hcolpos := hw.col_pos
  have hnext := Text.offset_succ_col hl hc
  have hnext' := Text.offset_succ_col hl' hd
  have hwidth := Utf8.width_pos d
  simp only [patch, Text.byteOffset, startsAt, Bool.and_eq_true, decide_eq_true_eq]
  rcases Nat.lt_trichotomy (e.line - 1).toNat line with h | h | h
  · have := Text.offset_le_of_line_lt t.newlineLines h ((e.col - 1).toNat + 1) col
    omega
  · rw [h] at hnext' ⊢
    rcases Nat.lt_trichotomy (e.col - 1).toNat col with h' | h' | h'
    · have := Text.offset_le_col t.newlineLines line (show (e.col - 1).toNat + 1 ≤ col by omega)
      omega
    · rw [h']
      omega
    · have := Text.offset_le_col t.newlineLines line (show col + 1 ≤ (e.col - 1).toNat by omega)
      omega
  · have := Text.offset_le_of_line_lt t.newlineLines h (col + 1) (e.col - 1).toNat
    omega

/-- A patch covers the bytes of the characters that its edit covers. -/
theorem patch_covers_eq (hw : e.WellShaped) (hfit : e.Fits t.newlineLines)
    (hl : t.newlineLines[line]? = some l) (hc : l[col]? = some c)
    (h1 : Text.offset t.newlineLines line col ≤ i)
    (h2 : i < Text.offset t.newlineLines line col + Utf8.width c) :
    (e.patch t).covers i = e.covers ⟨line + 1, col + 1⟩ := by
  obtain ⟨d, hpos, l', hl', hd⟩ := hfit.exists_first hw
  have hcolpos := hw.col_pos
  have hcollt := hw.col_lt
  have hnext := Text.offset_succ_col hl hc
  rw [Bool.eq_iff_iff]
  simp only [Patch.covers, covers, Bool.and_eq_true, decide_eq_true_eq]
  simp only [patch, Text.byteOffset]
  rcases Nat.lt_trichotomy (e.line - 1).toNat line with h | h | h
  · have := Text.offset_le_of_line_lt t.newlineLines h (e.endCol - 1).toNat col
    omega
  · rw [h]
    have hfirst : Text.offset t.newlineLines line (e.col - 1).toNat ≤ i ↔ (e.col - 1).toNat ≤ col := by
      constructor
      · intro hle
        by_contra hlt
        have := Text.offset_le_col t.newlineLines line (show col + 1 ≤ (e.col - 1).toNat by omega)
        omega
      · intro hle
        have := Text.offset_le_col t.newlineLines line hle
        omega
    have hlast : i < Text.offset t.newlineLines line (e.endCol - 1).toNat ↔
        col < (e.endCol - 1).toNat := by
      constructor
      · intro hlt
        by_contra hle
        have := Text.offset_le_col t.newlineLines line (show (e.endCol - 1).toNat ≤ col by omega)
        omega
      · intro hlt
        have := Text.offset_le_col t.newlineLines line (show col + 1 ≤ (e.endCol - 1).toNat by omega)
        omega
    rw [hfirst, hlast]
    omega
  · have := Text.offset_le_of_line_lt t.newlineLines h (col + 1) (e.col - 1).toNat
    omega

/-- Patching the bytes of a character is splicing at the character. -/
theorem applyFrom_encodeChar {edits : List Edit} (hw : ∀ e ∈ edits, e.WellShaped)
    (hfit : ∀ e ∈ edits, e.Fits t.newlineLines) (hl : t.newlineLines[line]? = some l)
    (hc : l[col]? = some c) :
    Patch.applyFrom (edits.map (patch t)) (Text.offset t.newlineLines line col)
      (Utf8.encodeChar c) = Utf8.encode (spliceAt edits ⟨line + 1, col + 1⟩ c) := by
  have hwidth := Utf8.length_encodeChar c
  have hcover : ∀ i, Text.offset t.newlineLines line col ≤ i →
      i < Text.offset t.newlineLines line col + Utf8.width c →
      (edits.map (patch t)).any (·.covers i) = edits.any (·.covers ⟨line + 1, col + 1⟩) := by
    intro i h1 h2
    rw [List.any_map, Bool.eq_iff_iff, List.any_eq_true, List.any_eq_true]
    refine exists_congr fun e => and_congr_right fun he => ?_
    simp only [Function.comp_apply]
    rw [patch_covers_eq (hw e he) (hfit e he) hl hc h1 h2]
  obtain ⟨b, tail, henc, hlen, -⟩ := Utf8.sequence_encodeChar c []
  -- the first byte may start patches, the others only stay or go with it
  have hfirst : (edits.map (patch t)).filter (·.start = Text.offset t.newlineLines line col) =
      (edits.filter (·.startsAt ⟨line + 1, col + 1⟩)).map (patch t) := by
    rw [List.filter_map]
    congr 1
    apply List.filter_congr
    intro e he
    have hiff := patch_start_eq_iff (hw e he) (hfit e he) hl hc le_rfl (by omega)
    rw [Bool.eq_iff_iff]
    simpa using hiff
  have htail : Patch.applyFrom (edits.map (patch t)) (Text.offset t.newlineLines line col + 1)
      tail = if edits.any (·.covers ⟨line + 1, col + 1⟩) then [] else tail := by
    apply Patch.applyFrom_of_quiet
    · intro i h1 h2 p hp
      obtain ⟨e, he, rfl⟩ := List.mem_map.mp hp
      have hiff := patch_start_eq_iff (hw e he) (hfit e he) hl hc (i := i) (by omega) (by omega)
      intro hi
      have := (hiff.mp hi).1
      omega
    · intro i h1 h2
      exact hcover i (by omega) (by omega)
  rw [henc, Patch.applyFrom_cons, hfirst, hcover _ le_rfl (by omega), htail, spliceAt,
    Utf8.encode_append, List.flatMap_map]
  have hnew : ∀ es : List Edit,
      es.flatMap (fun e => (e.patch t).bytes) = Utf8.encode (es.flatMap (·.newText)) := by
    intro es
    induction es with
    | nil => rfl
    | cons e es ih => rw [List.flatMap_cons, ih, List.flatMap_cons, Utf8.encode_append]; rfl
  rw [hnew]
  cases edits.any (·.covers ⟨line + 1, col + 1⟩) with
  | true => simp
  | false => simp [henc]

end Character

/-! ## All bytes -/

/-- From any column of a line on, patching its bytes is splicing its characters. -/
theorem applyFrom_encode_drop {t : Text} {edits : List Edit} (hw : ∀ e ∈ edits, e.WellShaped)
    (hfit : ∀ e ∈ edits, e.Fits t.newlineLines) {line : Nat} {l : Text}
    (hl : t.newlineLines[line]? = some l) (rest : Text) (col : Nat) (hrest : l.drop col = rest) :
    Patch.applyFrom (edits.map (patch t)) (Text.offset t.newlineLines line col)
      (Utf8.encode rest) =
        Utf8.encode (Text.rewriteLine (spliceAt edits) (line + 1) (col + 1) rest) := by
  induction rest generalizing col with
  | nil => rfl
  | cons c rest ih =>
    have hc : l[col]? = some c := by
      rw [← List.head?_drop, hrest]
      rfl
    have hnext : l.drop (col + 1) = rest := by
      rw [← List.tail_drop, hrest]
      rfl
    rw [Utf8.encode_cons, Patch.applyFrom_append, Utf8.length_encodeChar,
      ← Text.offset_succ_col hl hc, ih (col + 1) hnext, applyFrom_encodeChar hw hfit hl hc,
      Text.rewriteLine_cons, Utf8.encode_append]

/-- Splicing a text patches its bytes: the byte range of every edit is replaced by the encoding of its
    new text, and all other bytes are kept. -/
theorem encode_splice {t : Text} {edits : List Edit} (hw : ∀ e ∈ edits, e.WellShaped)
    (hfit : ∀ e ∈ edits, e.Fits t.newlineLines) :
    Utf8.encode (splice edits t) = Patch.applyAll (edits.map (patch t)) (Utf8.encode t) := by
  have hlines : ∀ (rest : List Text) (line : Nat), t.newlineLines.drop line = rest →
      Patch.applyFrom (edits.map (patch t)) (Text.offset t.newlineLines line 0)
        (Utf8.encode rest.flatten) =
      Utf8.encode ((rest.zipIdx (line + 1)).flatMap
        fun x => Text.rewriteLine (spliceAt edits) x.2 1 x.1) := by
    intro rest
    induction rest with
    | nil => intro line _; rfl
    | cons l rest ih =>
      intro line hrest
      have hl : t.newlineLines[line]? = some l := by
        rw [← List.head?_drop, hrest]
        rfl
      have hnext : t.newlineLines.drop (line + 1) = rest := by
        rw [← List.tail_drop, hrest]
        rfl
      rw [List.flatten_cons, Utf8.encode_append, Patch.applyFrom_append,
        ← Text.offset_succ_line hl, ih (line + 1) hnext,
        applyFrom_encode_drop hw hfit hl l 0 rfl, List.zipIdx_cons, List.flatMap_cons,
        Utf8.encode_append]
  have h := hlines t.newlineLines 0 rfl
  rw [Text.flatten_newlineLines] at h
  exact h.symm

end Edit

end HouseStyle
