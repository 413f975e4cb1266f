import HouseStyle.RuleId
import Mathlib.Data.List.Basic
import Mathlib.Data.List.TakeWhile

/-!
# Trimmed texts and canonical rule ids

A rule id is canonical if it is a capital letter followed by at least two digits. Such an id has no
blanks around it and is in upper case, so it means itself, and it is the name of no group of rules.

Main definitions:
* `RuleId.Canonical`: the canonical ids.

Main results:
* `Text.strip_strip`, `Text.mem_strip`: trimming twice is trimming once, and drops blanks only.
* `RuleId.Canonical.normalize_eq`, `RuleId.Canonical.ofToken?_eq_none`: canonical ids as tokens.
* `RuleGroup.isSome_ofToken?`: the tokens that name a group.
-/

namespace HouseStyle

namespace Text

/-! ## Trimmed texts -/

theorem stripLeft_eq_self_iff {t : Text} :
    t.stripLeft = t ↔ ∀ c, t.head? = some c → isBlank c = false := by
  cases t with
  | nil => simp [stripLeft]
  | cons c t =>
    cases hc : isBlank c with
    | true =>
      have hlen := List.length_dropWhile_le isBlank t
      refine iff_of_false (fun h => ?_) (by simp [hc])
      have := congrArg List.length h
      simp only [stripLeft, List.dropWhile_cons, hc, if_true, List.length_cons] at this
      omega
    | false => simp [stripLeft, hc]

theorem stripRight_eq_self_iff {t : Text} :
    t.stripRight = t ↔ ∀ c, t.getLast? = some c → isBlank c = false := by
  have h : t.stripRight = t ↔ stripLeft t.reverse = t.reverse := by
    rw [stripRight, stripLeft, ← List.reverse_inj, List.reverse_reverse]
  rw [h, stripLeft_eq_self_iff, List.head?_reverse]

/-- A text is trimmed if neither its first nor its last character is blank. -/
theorem strip_eq_self {t : Text} (hfirst : ∀ c, t.head? = some c → isBlank c = false)
    (hlast : ∀ c, t.getLast? = some c → isBlank c = false) : t.strip = t := by
  rw [strip, stripLeft_eq_self_iff.mpr hfirst, stripRight_eq_self_iff.mpr hlast]

theorem stripRight_prefix (t : Text) : t.stripRight <+: t := by
  rw [stripRight, ← List.reverse_suffix, List.reverse_reverse]
  exact List.dropWhile_suffix _

/-- Trimming twice is trimming once. -/
theorem strip_strip (t : Text) : t.strip.strip = t.strip := by
  apply strip_eq_self
  · intro c hc
    obtain ⟨rest, hrest⟩ := stripRight_prefix t.stripLeft
    have hfirst : t.stripLeft.head? = some c := by rw [← hrest, List.head?_append, ← strip, hc]; rfl
    have := List.head?_dropWhile_not isBlank t
    rw [← stripLeft, hfirst] at this
    simpa using this
  · intro c hc
    have := List.head?_dropWhile_not isBlank t.stripLeft.reverse
    rw [strip, stripRight, List.getLast?_reverse] at hc
    rw [hc] at this
    simpa using this

/-- Trimming drops blanks only. -/
theorem mem_strip {t : Text} {c : Char} (hc : c ∈ t) (hblank : isBlank c = false) : c ∈ t.strip := by
  have hdrop : ∀ u : Text, c ∈ u → c ∈ u.dropWhile isBlank := by
    intro u hu
    rw [← List.takeWhile_append_dropWhile (p := isBlank) (l := u), List.mem_append] at hu
    refine hu.resolve_left fun htake => ?_
    rw [List.mem_takeWhile_imp htake] at hblank
    cases hblank
  rw [strip, stripRight, List.mem_reverse]
  exact hdrop _ (List.mem_reverse.mpr (hdrop t hc))

/-! ## Upper case -/

theorem upper_eq_self {t : Text} (h : ∀ c ∈ t, c.toNat < 0x80 ∧ isAsciiLower c = false) :
    t.upper = t := by
  have hchar : ∀ c ∈ t, upperChar c = [c] := by
    intro c hc
    obtain ⟨hascii, hlower⟩ := h c hc
    simp [upperChar, hascii, hlower]
  rw [upper, List.flatMap_congr hchar, List.flatMap_singleton']

end Text

namespace RuleId

/-! ## Canonical ids -/

/-- A capital letter and at least two digits. -/
def Canonical (t : Text) : Prop :=
  ∃ c ds, t = c :: ds ∧ ('A' ≤ c ∧ c ≤ 'Z') ∧ 2 ≤ ds.length ∧ ∀ d ∈ ds, '0' ≤ d ∧ d ≤ '9'

theorem isAsciiUpper_iff {c : Char} : Text.isAsciiUpper c = true ↔ 'A' ≤ c ∧ c ≤ 'Z' := by
  have hle : ∀ a b : Char, a.toNat ≤ b.toNat ↔ a ≤ b := fun _ _ => UInt32.le_iff_toNat_le.symm
  rw [Text.isAsciiUpper, Bool.and_eq_true, decide_eq_true_iff, decide_eq_true_iff]
  exact and_congr (hle 'A' c) (hle c 'Z')

theorem isAsciiDigit_iff {c : Char} : Text.isAsciiDigit c = true ↔ '0' ≤ c ∧ c ≤ '9' := by
  have hle : ∀ a b : Char, a.toNat ≤ b.toNat ↔ a ≤ b := fun _ _ => UInt32.le_iff_toNat_le.symm
  rw [Text.isAsciiDigit, Bool.and_eq_true, decide_eq_true_iff, decide_eq_true_iff]
  exact and_congr (hle '0' c) (hle c '9')

theorem isCanonical_iff {t : Text} : isCanonical t = true ↔ Canonical t := by
  cases t with
  | nil => simp [isCanonical, Canonical]
  | cons c ds => simp [isCanonical, Canonical, isAsciiUpper_iff, isAsciiDigit_iff, and_assoc]

instance (t : Text) : Decidable (Canonical t) := decidable_of_iff _ isCanonical_iff

variable {t : Text}

/-- Between a capital letter and a digit there is neither a blank nor a small letter. -/
theorem Canonical.toNat_of_mem (h : Canonical t) {c : Char} (hc : c ∈ t) :
    48 ≤ c.toNat ∧ c.toNat ≤ 90 := by
  obtain ⟨a, ds, rfl, ha, -, hds⟩ := h
  rcases List.mem_cons.mp hc with rfl | hc
  · rw [← isAsciiUpper_iff] at ha
    simp only [Text.isAsciiUpper, Bool.and_eq_true, decide_eq_true_eq] at ha
    omega
  · have hdigit := isAsciiDigit_iff.mpr (hds c hc)
    simp only [Text.isAsciiDigit, Bool.and_eq_true, decide_eq_true_eq] at hdigit
    omega

theorem Canonical.isBlank_eq_false (h : Canonical t) {c : Char} (hc : c ∈ t) :
    Text.isBlank c = false := by
  have := h.toNat_of_mem hc
  simp only [Text.isBlank, Bool.or_eq_false_iff, Bool.and_eq_false_iff, decide_eq_false_iff_not]
  omega

theorem Canonical.strip_eq (h : Canonical t) : t.strip = t :=
  Text.strip_eq_self (fun _ hc => h.isBlank_eq_false (List.mem_of_head? hc))
    fun _ hc => h.isBlank_eq_false (List.mem_of_getLast? hc)

theorem Canonical.upper_eq (h : Canonical t) : t.upper = t := by
  apply Text.upper_eq_self
  intro c hc
  have := h.toNat_of_mem hc
  simp only [Text.isAsciiLower, Bool.and_eq_false_iff, decide_eq_false_iff_not]
  omega

/-- A canonical id means itself. -/
theorem Canonical.normalize_eq (h : Canonical t) : normalize t = t := by
  rw [normalize, h.strip_eq, h.upper_eq]

/-- A canonical id is the name of no group: its second character is a digit. -/
theorem Canonical.ofToken?_eq_none (h : Canonical t) : RuleGroup.ofToken? t = none := by
  have hstrip := h.strip_eq
  obtain ⟨a, ds, rfl, -, hlen, hds⟩ := h
  match ds, hlen with
  | d :: e :: ds, _ =>
    have hdigit := isAsciiDigit_iff.mpr (hds d (by simp))
    simp only [Text.isAsciiDigit, Bool.and_eq_true, decide_eq_true_eq] at hdigit
    have hne : ∀ c : Char, 58 ≤ c.toNat ∨ c.toNat ≤ 47 → d ≠ c := by
      rintro c hc rfl
      omega
    have hlower : Text.lowerAsciiChar d = d := by
      have hupper : Text.isAsciiUpper d = false := by
        simp only [Text.isAsciiUpper, Bool.and_eq_false_iff, decide_eq_false_iff_not]
        omega
      simp [Text.lowerAsciiChar, hupper, hne '\u212a' (by decide)]
    rw [RuleGroup.ofToken?, hstrip]
    simp [RuleGroup.ofName?, Text.lowerAscii, Text.replaceChar, hlower, hne '-' (by decide),
      hne 'l' (by decide), hne 'o' (by decide), hne 'a' (by decide)]

end RuleId

namespace RuleGroup

/-! ## Groups -/

theorem isSome_ofName? {t : Text} : (ofName? t).isSome = true ↔ t ∈ names := by
  simp only [names, List.mem_cons, List.not_mem_nil, or_false]
  unfold ofName?
  split_ifs with hall hcomplexity hnaming <;> simp only [*, Option.isSome_some, Option.isSome_none,
    true_or, or_true, or_self, Bool.false_eq_true]

/-- The tokens that name a group, in any case and with `-` for `_`. -/
theorem isSome_ofToken? {t : Text} :
    (ofToken? t).isSome = true ↔ t.strip.lowerAscii.replaceChar '-' '_' ∈ names := isSome_ofName?

/-- The members of a group are canonical. -/
theorem canonical_of_mem_members {g : RuleGroup} {i : Text} (h : i ∈ g.members) :
    RuleId.Canonical i := by
  have hids : ∀ j ∈ all.members, RuleId.Canonical j := by decide
  apply hids
  cases g <;> simp_all [members]

end RuleGroup

end HouseStyle
