/-!
# Errors of settings

Why the settings of a user cannot be taken over. What exactly is wrong with a file is left to
whoever reads files and documents; a variable is reported with its value.
-/

namespace ScopeComposer

/-- Why settings cannot be taken over. -/
inductive SettingsError where
  /-- The file is there but cannot be read as text. -/
  | unreadable
  /-- The text of the file does not describe settings. -/
  | malformed
  /-- A variable of the environment has a value that does not fit. -/
  | invalidValue (name value reason : String)
deriving DecidableEq, Repr

/-- The text of what is wrong with a variable. -/
def SettingsError.message : SettingsError → String
  | .unreadable => "failed to read the config file"
  | .malformed => "failed to parse the config file"
  | .invalidValue name value reason =>
    "invalid value '" ++ value ++ "' for " ++ name ++ ": " ++ reason

end ScopeComposer
