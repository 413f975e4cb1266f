import HouseStyle.Text.Utf8
import Mathlib.Data.List.Basic

/-!
# Decoding and encoding are inverse

`Utf8.step` reads a scalar from the front of a byte list exactly where the encoding of that scalar
stands, so `Utf8.decode` succeeds exactly on encodings and gives back the text that was encoded. In
particular bytes and texts determine each other: a text that changes changes its bytes.

Main results:
* `Utf8.step_eq_scalar_iff`: one step reads a scalar exactly where its encoding is.
* `Utf8.decode_eq_ok_iff`: decoding succeeds exactly on encodings.
* `Utf8.encode_injective`: different texts have different bytes.
* `Utf8.decodeLossy_encode`: in the encoding of a text, nothing is replaced.
-/

namespace HouseStyle.Utf8

/-! ## Numbers of bytes and scalars -/

theorem toNat_toUInt8 {n : Nat} (h : n < 0x100) : n.toUInt8.toNat = n := by
  rw [Nat.toUInt8_eq, UInt8.toNat_ofNat']
  omega

theorem toUInt8_eq {n : Nat} {b : UInt8} (h : n = b.toNat) : n.toUInt8 = b := by
  rw [h, Nat.toUInt8_eq, UInt8.ofNat_toNat]

/-- Scalars are the numbers below `0x110000` that are no surrogates. -/
theorem toNat_valid (c : Char) :
    c.toNat < 0xD800 ∨ 0xDFFF < c.toNat ∧ c.toNat < 0x110000 := c.valid

theorem toNat_ofNat {n : Nat} (h : n < 0xD800 ∨ 0xDFFF < n ∧ n < 0x110000) :
    (Char.ofNat n).toNat = n := by
  have hvalid : n.isValidChar := h
  rw [Char.ofNat, dif_pos hvalid]
  rfl

theorem isContinuation_iff {b : UInt8} :
    isContinuation b = true ↔ 0x80 ≤ b.toNat ∧ b.toNat < 0xC0 := by
  simp [isContinuation, UInt8.lt_iff_toNat_lt, UInt8.le_iff_toNat_le]

theorem mayFollow_iff {a b : UInt8} : mayFollow a b = true ↔
    (0x80 ≤ b.toNat ∧ b.toNat < 0xC0) ∧ (a.toNat = 0xE0 → 0xA0 ≤ b.toNat) ∧
    (a.toNat = 0xED → b.toNat < 0xA0) ∧ (a.toNat = 0xF0 → 0x90 ≤ b.toNat) ∧
    (a.toNat = 0xF4 → b.toNat < 0x90) := by
  simp only [mayFollow, Bool.and_eq_true, isContinuation_iff, Bool.not_eq_true',
    Bool.and_eq_false_iff, decide_eq_false_iff_not, ← UInt8.toNat_inj, UInt8.lt_iff_toNat_lt,
    UInt8.le_iff_toNat_le, UInt8.reduceToNat]
  omega

/-! ## One scalar -/

/-- The well-formed sequences at the front of a byte list, by their length. -/
inductive Sequence : UInt8 → Bytes → Char → Nat → Prop where
  | one {b : UInt8} {rest : Bytes} (hb : b.toNat < 0x80) :
    Sequence b rest (Char.ofNat b.toNat) 1
  | two {b b2 : UInt8} {rest : Bytes} (hb : 0xC2 ≤ b.toNat ∧ b.toNat < 0xE0)
    (h2 : mayFollow b b2) :
    Sequence b (b2 :: rest) (Char.ofNat (b.toNat % 0x20 * 0x40 + payload b2)) 2
  | three {b b2 b3 : UInt8} {rest : Bytes} (hb : 0xE0 ≤ b.toNat ∧ b.toNat < 0xF0)
    (h2 : mayFollow b b2) (h3 : isContinuation b3) :
    Sequence b (b2 :: b3 :: rest)
      (Char.ofNat (b.toNat % 0x10 * 0x1000 + payload b2 * 0x40 + payload b3)) 3
  | four {b b2 b3 b4 : UInt8} {rest : Bytes} (hb : 0xF0 ≤ b.toNat ∧ b.toNat < 0xF5)
    (h2 : mayFollow b b2) (h3 : isContinuation b3) (h4 : isContinuation b4) :
    Sequence b (b2 :: b3 :: b4 :: rest)
      (Char.ofNat (b.toNat % 8 * 0x40000 + payload b2 * 0x1000 + payload b3 * 0x40 + payload b4)) 4

theorem sequence_of_step {b : UInt8} {rest : Bytes} {c : Char} {n : Nat}
    (h : step b rest = .scalar c n) : Sequence b rest c n := by
  unfold step at h
  simp only [UInt8.lt_iff_toNat_lt, UInt8.le_iff_toNat_le, UInt8.reduceToNat, Bool.or_eq_true,
    decide_eq_true_eq, Bool.not_eq_true'] at h
  split at h
  next h1 =>
    cases h
    exact .one h1
  split at h
  · cases h
  split at h
  · cases h
  split at h
  · cases h
  next h2 =>
  split at h
  · cases h
    exact .two (by omega) (by simpa using h2)
  split at h
  · cases h
  split at h
  · cases h
  next h3 =>
  split at h
  · cases h
    exact .three (by omega) (by simpa using h2) (by simpa using h3)
  split at h
  · cases h
  split at h
  · cases h
  next h4 =>
  cases h
  exact .four (by omega) (by simpa using h2) (by simpa using h3) (by simpa using h4)

theorem Sequence.step_eq {b : UInt8} {rest : Bytes} {c : Char} {n : Nat}
    (h : Sequence b rest c n) : step b rest = .scalar c n := by
  cases h <;> unfold step <;> simp only [UInt8.lt_iff_toNat_lt, UInt8.le_iff_toNat_le,
    UInt8.reduceToNat, Bool.or_eq_true, decide_eq_true_eq]
  case one hb => rw [if_pos hb]
  case two hb h2 =>
    rw [if_neg (by omega), if_neg (by omega)]
    simp only [h2, Bool.not_true, Bool.false_eq_true, if_false]
    rw [if_pos hb.2]
  case three hb h2 h3 =>
    rw [if_neg (by omega), if_neg (by omega)]
    simp only [h2, h3, Bool.not_true, Bool.false_eq_true, if_false]
    rw [if_neg (by omega), if_pos hb.2]
  case four hb h2 h3 h4 =>
    rw [if_neg (by omega), if_neg (by omega)]
    simp only [h2, h3, h4, Bool.not_true, Bool.false_eq_true, if_false]
    rw [if_neg (by omega), if_neg (by omega)]

/-- A well-formed sequence is the encoding of the scalar that it stands for. -/
theorem Sequence.starts_with_encodeChar {b : UInt8} {rest : Bytes} {c : Char} {n : Nat}
    (h : Sequence b rest c n) : n = width c ∧ encodeChar c <+: b :: rest := by
  cases h with
  | one hb =>
    have hc := toNat_ofNat (n := b.toNat) (by omega)
    simp only [width, encodeChar, hc, if_pos hb, toUInt8_eq rfl, true_and]
    exact ⟨rest, rfl⟩
  | @two b2 rest hb h2 =>
    rw [mayFollow_iff] at h2
    have hc := toNat_ofNat (n := b.toNat % 0x20 * 0x40 + payload b2) (by unfold payload; omega)
    unfold payload at hc ⊢
    simp only [width, encodeChar, hc]
    rw [if_neg (by omega), if_pos (by omega), if_neg (by omega), if_pos (by omega)]
    rw [toUInt8_eq (b := b) (by omega), toUInt8_eq (b := b2) (by omega)]
    exact ⟨rfl, rest, rfl⟩
  | @three b2 b3 rest hb h2 h3 =>
    rw [mayFollow_iff] at h2
    rw [isContinuation_iff] at h3
    have hc := toNat_ofNat (n := b.toNat % 0x10 * 0x1000 + payload b2 * 0x40 + payload b3)
      (by unfold payload; omega)
    unfold payload at hc ⊢
    simp only [width, encodeChar, hc]
    rw [if_neg (by omega), if_neg (by omega), if_pos (by omega)]
    rw [if_neg (by omega), if_neg (by omega), if_pos (by omega)]
    rw [toUInt8_eq (b := b) (by omega), toUInt8_eq (b := b2) (by omega),
      toUInt8_eq (b := b3) (by omega)]
    exact ⟨rfl, rest, rfl⟩
  | @four b2 b3 b4 rest hb h2 h3 h4 =>
    rw [mayFollow_iff] at h2
    rw [isContinuation_iff] at h3 h4
    have hc := toNat_ofNat (n := b.toNat % 8 * 0x40000 + payload b2 * 0x1000 + payload b3 * 0x40
      + payload b4) (by unfold payload; omega)
    unfold payload at hc ⊢
    simp only [width, encodeChar, hc]
    rw [if_neg (by omega), if_neg (by omega), if_neg (by omega)]
    rw [if_neg (by omega), if_neg (by omega), if_neg (by omega)]
    rw [toUInt8_eq (b := b) (by omega), toUInt8_eq (b := b2) (by omega),
      toUInt8_eq (b := b3) (by omega), toUInt8_eq (b := b4) (by omega)]
    exact ⟨rfl, rest, rfl⟩

/-- The encoding of a scalar is a well-formed sequence for it. -/
theorem sequence_encodeChar (c : Char) (rest : Bytes) :
    ∃ b tail, encodeChar c = b :: tail ∧ tail.length + 1 = width c ∧
      Sequence b (tail ++ rest) c (width c) := by
  have hvalid := toNat_valid c
  have hchar : ∀ {n : Nat}, n = c.toNat → Char.ofNat n = c := by
    rintro n rfl
    exact Char.ofNat_toNat c
  unfold encodeChar width
  dsimp only
  split_ifs with h1 h2 h3
  · have e := toNat_toUInt8 (n := c.toNat) (by omega)
    refine ⟨_, [], rfl, rfl, ?_⟩
    have hseq : Sequence c.toNat.toUInt8 rest _ 1 := .one (by omega)
    rwa [hchar e] at hseq
  · have e1 := toNat_toUInt8 (n := 0xC0 + c.toNat / 0x40) (by omega)
    have e2 := toNat_toUInt8 (n := 0x80 + c.toNat % 0x40) (by omega)
    refine ⟨_, [_], rfl, rfl, ?_⟩
    have hseq : Sequence (0xC0 + c.toNat / 0x40).toUInt8 ((0x80 + c.toNat % 0x40).toUInt8 :: rest) _ 2 :=
      .two (by omega) (by rw [mayFollow_iff]; omega)
    rwa [hchar (by unfold payload; omega)] at hseq
  · have e1 := toNat_toUInt8 (n := 0xE0 + c.toNat / 0x1000) (by omega)
    have e2 := toNat_toUInt8 (n := 0x80 + c.toNat / 0x40 % 0x40) (by omega)
    have e3 := toNat_toUInt8 (n := 0x80 + c.toNat % 0x40) (by omega)
    refine ⟨_, [_, _], rfl, rfl, ?_⟩
    have hseq : Sequence (0xE0 + c.toNat / 0x1000).toUInt8
        ((0x80 + c.toNat / 0x40 % 0x40).toUInt8 :: (0x80 + c.toNat % 0x40).toUInt8 :: rest) _ 3 :=
      .three (by omega) (by rw [mayFollow_iff]; omega) (by rw [isContinuation_iff]; omega)
    rwa [hchar (by unfold payload; omega)] at hseq
  · have e1 := toNat_toUInt8 (n := 0xF0 + c.toNat / 0x40000) (by omega)
    have e2 := toNat_toUInt8 (n := 0x80 + c.toNat / 0x1000 % 0x40) (by omega)
    have e3 := toNat_toUInt8 (n := 0x80 + c.toNat / 0x40 % 0x40) (by omega)
    have e4 := toNat_toUInt8 (n := 0x80 + c.toNat % 0x40) (by omega)
    refine ⟨_, [_, _, _], rfl, rfl, ?_⟩
    have hseq : Sequence (0xF0 + c.toNat / 0x40000).toUInt8
        ((0x80 + c.toNat / 0x1000 % 0x40).toUInt8 :: (0x80 + c.toNat / 0x40 % 0x40).toUInt8 ::
          (0x80 + c.toNat % 0x40).toUInt8 :: rest) _ 4 :=
      .four (by omega) (by rw [mayFollow_iff]; omega) (by rw [isContinuation_iff]; omega)
        (by rw [isContinuation_iff]; omega)
    rwa [hchar (by unfold payload; omega)] at hseq

theorem length_encodeChar (c : Char) : (encodeChar c).length = width c := by
  obtain ⟨b, tail, henc, hlen, -⟩ := sequence_encodeChar c []
  rw [henc, List.length_cons, hlen]

theorem width_pos (c : Char) : 0 < width c := by
  unfold width
  dsimp only
  split_ifs <;> omega

/-- One step reads a scalar exactly where its encoding is, and takes all its bytes. -/
theorem step_eq_scalar_iff {b : UInt8} {rest : Bytes} {c : Char} {n : Nat} :
    step b rest = .scalar c n ↔ n = width c ∧ encodeChar c <+: b :: rest := by
  constructor
  · exact fun h => (sequence_of_step h).starts_with_encodeChar
  · rintro ⟨rfl, after, hafter⟩
    obtain ⟨b', tail, henc, -, hseq⟩ := sequence_encodeChar c after
    rw [henc, List.cons_append, List.cons.injEq] at hafter
    obtain ⟨rfl, rfl⟩ := hafter
    exact hseq.step_eq

/-! ## Texts -/

@[simp] theorem encode_nil : encode [] = [] := rfl

@[simp] theorem encode_cons (c : Char) (t : Text) : encode (c :: t) = encodeChar c ++ encode t := rfl

@[simp] theorem encode_append (s t : Text) : encode (s ++ t) = encode s ++ encode t :=
  List.flatMap_append

/-- The bytes that belong to the scalar before are passed over. -/
theorem decodeFrom_append (offset : Nat) (w rest : Bytes) :
    decodeFrom offset w.length (w ++ rest) = decodeFrom (offset + w.length) 0 rest := by
  induction w generalizing offset with
  | nil => rfl
  | cons b w ih =>
    rw [List.length_cons, List.cons_append, decodeFrom, ih]
    congr 1
    omega

theorem decodeFrom_encodeChar (offset : Nat) (c : Char) (rest : Bytes) :
    decodeFrom offset 0 (encodeChar c ++ rest) =
      (decodeFrom (offset + width c) 0 rest).map (c :: ·) := by
  obtain ⟨b, tail, henc, hlen, hseq⟩ := sequence_encodeChar c rest
  rw [henc, List.cons_append, decodeFrom, hseq.step_eq]
  dsimp only
  rw [show width c - 1 = tail.length by omega, decodeFrom_append,
    show offset + 1 + tail.length = offset + width c by omega]
  cases decodeFrom (offset + width c) 0 rest <;> rfl

theorem decodeFrom_encode (offset : Nat) (t : Text) : decodeFrom offset 0 (encode t) = .ok t := by
  induction t generalizing offset with
  | nil => rfl
  | cons c t ih => rw [encode_cons, decodeFrom_encodeChar, ih]; rfl

theorem encode_of_decodeFrom {offset : Nat} {bytes : Bytes} {t : Text}
    (h : decodeFrom offset 0 bytes = .ok t) : encode t = bytes := by
  induction t generalizing offset bytes with
  | nil =>
    cases bytes with
    | nil => rfl
    | cons b rest =>
      rw [decodeFrom] at h
      split at h
      · cases h
      · split at h <;> cases h
  | cons c t ih =>
    cases bytes with
    | nil => cases h
    | cons b rest =>
      -- the first step has read a scalar, and its encoding can be cut off
      obtain ⟨d, n, hstep⟩ : ∃ d n, step b rest = .scalar d n := by
        cases hs : step b rest with
        | scalar d n => exact ⟨d, n, rfl⟩
        | fault kind length =>
          rw [decodeFrom, hs] at h
          cases h
      obtain ⟨after, hafter⟩ := (step_eq_scalar_iff.mp hstep).2
      rw [← hafter, decodeFrom_encodeChar] at h
      cases hs : decodeFrom (offset + width d) 0 after with
      | error e => rw [hs] at h; cases h
      | ok s =>
        rw [hs] at h
        cases h
        rw [encode_cons, ih hs, hafter]

/-- Decoding succeeds exactly on encodings, and undoes them. -/
theorem decode_eq_ok_iff {bytes : Bytes} {t : Text} : decode bytes = .ok t ↔ encode t = bytes := by
  constructor
  · exact encode_of_decodeFrom
  · rintro rfl
    exact decodeFrom_encode 0 t

theorem encode_injective : Function.Injective encode := by
  intro s t h
  have hs := decode_eq_ok_iff.mpr (rfl : encode s = encode s)
  rw [h, decode_eq_ok_iff.mpr rfl] at hs
  exact (Except.ok.inj hs).symm

/-! ## Replacing what is ill-formed -/

theorem decodeLossyFrom_append (w rest : Bytes) :
    decodeLossyFrom w.length (w ++ rest) = decodeLossyFrom 0 rest := by
  induction w with
  | nil => rfl
  | cons b w ih => rw [List.length_cons, List.cons_append, decodeLossyFrom, ih]

theorem decodeLossy_encode (t : Text) : decodeLossy (encode t) = t := by
  unfold decodeLossy
  induction t with
  | nil => rfl
  | cons c t ih =>
    obtain ⟨b, tail, henc, hlen, hseq⟩ := sequence_encodeChar c (encode t)
    rw [encode_cons, henc, List.cons_append, decodeLossyFrom, hseq.step_eq]
    dsimp only
    rw [show width c - 1 = tail.length by omega, decodeLossyFrom_append, ih]

end HouseStyle.Utf8
