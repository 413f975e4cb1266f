import HouseStyle.Order
import HouseStyle.RuleId
import HouseStyle.Value

/-!
# Errors of configurations

`ConfigError` has one constructor for each way in which a configuration can be wrong, and
`ConfigError.message` has their wording. A field is named by its path from the top.
-/

namespace HouseStyle

/-- Why a configuration is refused. -/
inductive ConfigError where
  /-- The field is no table. -/
  | notATable (field : Text)
  /-- The table has an option that does not exist. -/
  | unknownOption (field : Text) (key : Value) (allowed : List Text)
  /-- The field is no list of texts. -/
  | notATextList (field : Text)
  /-- The field is neither a text nor a list of texts. -/
  | notATextOrList (field : Text)
  /-- The field is no text. -/
  | notAText (field : Text)
  /-- The field is no severity. -/
  | notASeverity (field : Text)
  /-- The field is named by something that is no rule id. -/
  | notARuleId (field : Text)
  /-- The field is no integer. -/
  | notAnInteger (field : Text)
  /-- The field is a negative integer. -/
  | negative (field : Text)
  /-- The field is neither a list nor a table of texts. -/
  | notASuffixMap (field : Text)
  /-- A pattern of the field is blank. -/
  | emptyPattern (field : Text)
  /-- A pattern of the field has no suffix. -/
  | emptySuffix (field : Text) (pattern : Text)
  /-- A token of the field is neither a group nor a rule id. -/
  | unknownRule (field : Text) (token : Text)
  /-- The file is no TOML document. -/
  | invalidToml (path : Text)
  /-- The entry `tool` of the file is no table. -/
  | toolNotATable (path : Text)

namespace ConfigError

/-- A field in backquotes. -/
def code (field : Text) : Text := "\x60" ++ field ++ "\x60"

/-- The wording of an error. -/
def message : ConfigError → Text
  | .notATable field => code field ++ " must be a table."
  | .unknownOption field key allowed =>
    code field ++ " contains unknown option: " ++ key.shown ++ ". ("
      ++ Text.joinWith ", " (stableSort Text.le allowed) ++ ")"
  | .notATextList field => code field ++ " must be a list of strings."
  | .notATextOrList field => code field ++ " must be a string or a list of strings."
  | .notAText field => code field ++ " must be a string."
  | .notASeverity field => code field ++ " must be one of: info, warn, error."
  | .notARuleId field => code field ++ " is invalid; expected a rule id like C01."
  | .notAnInteger field => code field ++ " must be an integer."
  | .negative field => code field ++ " must be >= 0."
  | .notASuffixMap field => code field ++ " must be a list of strings or a table of strings."
  | .emptyPattern field => code field ++ " contains an empty pattern."
  | .emptySuffix field pattern =>
    code field ++ " entry " ++ pattern.quoted ++ " resolves to an empty suffix."
  | .unknownRule field token =>
    code field ++ " contains unknown rule group or invalid rule id: " ++ token.quoted
      ++ ". Valid groups: " ++ Text.joinWith ", " RuleGroup.names
      ++ ". Valid ids look like C01/N01."
  | .invalidToml path => "Invalid TOML in " ++ path
  | .toolNotATable path => code "tool" ++ " in " ++ path ++ " must be a table."

end ConfigError

end HouseStyle
