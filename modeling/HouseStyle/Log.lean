import HouseStyle.Text.Basic

/-!
# Log records

Functions that read or write files tell about it in log records, which they give back beside their
results. The command line decides which of them are printed.
-/

namespace HouseStyle

/-- How important a record is. -/
inductive LogLevel where
  | debug | warning
deriving Repr, DecidableEq

/-- A record with the part of the tool that it comes from. -/
structure LogRecord where
  level : LogLevel
  source : Text
  message : Text
deriving Repr, DecidableEq

/-- The word for a level. -/
def LogLevel.text : LogLevel → Text
  | .debug => "DEBUG"
  | .warning => "WARNING"

end HouseStyle
