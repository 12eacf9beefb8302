import ToolRelay.Host.Basic

/-!
# What can be wrong with a configuration
-/

namespace ToolRelay

/-- Why a configuration cannot be used. -/
inductive ConfigError where
  /-- The file cannot be read. -/
  | unreadable (file : Path) (reason : Refusal)
  /-- The text is not TOML. -/
  | notToml
  /-- The text is no configuration, as `report` explains. -/
  | malformed (report : String)
  /-- A variable has a value that means nothing. -/
  | invalidValue (key value : String)
  deriving DecidableEq, Repr

/-- The reason in words. -/
def ConfigError.message : ConfigError → String
  | .unreadable file reason =>
    "Failed to read config file at " ++ file.display ++ ": " ++ reason.message
  | .notToml => "Failed to parse config: not a TOML document"
  | .malformed report => "Failed to parse config: " ++ report
  | .invalidValue key value => "Invalid value '" ++ value ++ "' for " ++ key

end ToolRelay
