import TracedFibonacci.Config.Profile
import TracedFibonacci.Request.Fault

/-!
# Errors of settings

Settings from a file can fail in three ways, one after the other: the file cannot be read, its
text is no document or a document of the wrong shape, or the settings are not valid. Of the last,
all that is wrong is told together.
-/

namespace TracedFibonacci

/-- Why there are no settings. -/
inductive SettingsError where
  /-- The file cannot be read. -/
  | unreadable (fault : Fault)
  /-- The text of the file is no document. -/
  | notToml
  /-- The document does not have the shape of settings; `text` tells where and how. -/
  | wrongShape (text : String)
  /-- The settings are not valid. -/
  | invalid (problems : List Invalid)
  deriving Repr, DecidableEq

/-- How a message tells why there are no settings. The place where a text stops being a document is
not told. -/
def SettingsError.message : SettingsError → String
  | unreadable fault => "IO error: " ++ fault.message
  | notToml => "Parse error: <syntax>"
  | wrongShape text => "Parse error: " ++ text
  | invalid problems =>
    "Validation failed: " ++ String.intercalate ", " (problems.map Invalid.message)

end TracedFibonacci
