import HouseStyle.Config.Basic
import HouseStyle.Path

/-!
# Violations

A violation is what a rule reports about a place: the rule, a severity, a message and perhaps a
suggestion.
-/

namespace HouseStyle

/-- A place in a file; lines and columns count from one, and any of them may be unknown. -/
structure Location where
  path : Option Path := none
  startLine : Option Int := none
  startCol : Option Int := none
  endLine : Option Int := none
  endCol : Option Int := none
deriving Repr, DecidableEq

/-- What a rule reports. Rules of plugins may use severities of their own, so it is a word. -/
structure Violation where
  ruleId : Text
  severity : Text
  message : Text
  suggestion : Option Text := none
  location : Option Location := none
deriving Repr, DecidableEq

namespace Violation

/-- The violation with the severity that the configuration gives to its rule. -/
def withOverride (c : Config) (v : Violation) : Violation :=
  match c.override? v.ruleId with
  | some s => { v with severity := s.text }
  | none => v

end Violation

end HouseStyle
