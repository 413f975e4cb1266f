import HouseStyle.Proofs.RuleId

/-!
# Numerals

Numerals are read back to the numbers that they write.

Main results:
* `Text.readDecimal_decimal`, `Text.head?_decimal`: decimal numerals, which have no leading zeros.
* `Text.hex_four`, `Text.hexDigit?_digitChar`: hexadecimal numerals with four digits.
-/

namespace HouseStyle.Text

/-! ## Decimal numerals -/

theorem isAsciiDigit_of_mem_decimal {n : Nat} {c : Char} (h : c ∈ decimal n) :
    isAsciiDigit c = true := by
  have hdigit := Nat.isDigit_of_mem_toDigits (by decide) (by decide) h
  simp only [Char.isDigit, ge_iff_le, Bool.and_eq_true, decide_eq_true_eq] at hdigit
  exact RuleId.isAsciiDigit_iff.mpr hdigit

theorem not_mem_decimal {c : Char} (hc : isAsciiDigit c = false) (n : Nat) : c ∉ decimal n := by
  intro h
  rw [isAsciiDigit_of_mem_decimal h] at hc
  cases hc

theorem not_mem_ofInt {c : Char} (hc : isAsciiDigit c = false) (hsign : c ≠ '-') (n : Int) :
    c ∉ ofInt n := by
  cases n with
  | ofNat n => exact not_mem_decimal hc n
  | negSucc n =>
    rw [ofInt, List.mem_cons, not_or]
    exact ⟨hsign, not_mem_decimal hc (n + 1)⟩

theorem decimal_ne_nil (n : Nat) : decimal n ≠ [] := List.ne_nil_of_length_pos Nat.length_toDigits_pos

theorem readDecimal_decimal (n : Nat) : readDecimal (decimal n) = n := by
  have hread : readDecimal (decimal n) = Nat.ofDigitChars 10 (decimal n) 0 := by
    rw [readDecimal, Nat.ofDigitChars]
    refine List.foldl_ext _ _ _ fun acc c hc => ?_
    rw [if_pos (isAsciiDigit_of_mem_decimal hc), Nat.mul_comm]
    rfl
  rw [hread]
  exact Nat.ofDigitChars_toDigits (by decide) (by decide)

theorem digitChar_ne_zero {d : Nat} (h : d < 10) (hd : d ≠ 0) : d.digitChar ≠ '0' := by
  decide +revert

/-- The first digit is that of the quotient by ten for as long as there is one, so it is zero for zero
    only. -/
theorem head?_decimal {n : Nat} (hn : n ≠ 0) : (decimal n).head?.any (· ≠ '0') = true := by
  induction n using Nat.strongRecOn with
  | ind n ih =>
    rw [decimal, Nat.toDigits_eq_if (by decide)]
    split_ifs with hlt
    · exact decide_eq_true (digitChar_ne_zero hlt hn)
    · have hne : Nat.toDigits 10 (n / 10) ≠ [] := decimal_ne_nil (n / 10)
      rw [List.head?_append_of_ne_nil _ hne]
      exact ih (n / 10) (by omega) (by omega)

/-! ## Hexadecimal numerals -/

theorem hexDigit?_digitChar {d : Nat} (h : d < 16) : hexDigit? d.digitChar = some d := by
  decide +revert

theorem hex_one {d : Nat} (h : d < 16) : hex 1 d = [d.digitChar] := by
  rw [hex, Nat.toDigits_of_lt_base h]
  rfl

/-- The last digit is the remainder by sixteen, whether the numeral is filled up or not. -/
theorem hex_succ (width n : Nat) :
    hex (width + 2) n = hex (width + 1) (n / 16) ++ [(n % 16).digitChar] := by
  simp only [hex]
  by_cases hn : n < 16
  · rw [Nat.toDigits_of_lt_base hn, Nat.div_eq_of_lt hn, Nat.mod_eq_of_lt hn,
      Nat.toDigits_of_lt_base (show 0 < 16 by decide)]
    simp [copies, Nat.digitChar, List.replicate_succ']
  · rw [Nat.toDigits_of_base_le (b := 16) (by decide) (by omega), List.length_append,
      List.length_singleton, ← List.append_assoc]
    congr 3
    omega

theorem hex_four {n : Nat} (h : n < 0x10000) :
    hex 4 n = [(n / 16 / 16 / 16).digitChar, (n / 16 / 16 % 16).digitChar, (n / 16 % 16).digitChar,
      (n % 16).digitChar] := by
  rw [hex_succ, hex_succ, hex_succ, hex_one (by omega)]
  rfl

end HouseStyle.Text
