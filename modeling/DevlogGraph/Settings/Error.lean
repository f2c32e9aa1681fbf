/-! Why settings cannot be used. -/
namespace DevlogGraph

inductive SettingsError where
  | unreadable (path reason : String)
  | malformed (path reason : String)
  | invalidValue (key value : String)
  /-- Logging could not be set up. -/
  | logging (reason : String)
  deriving DecidableEq

def SettingsError.message : SettingsError → String
  | unreadable path reason => s!"Failed to read config file {path}: {reason}"
  | malformed path reason => s!"Failed to parse config file {path}: {reason}"
  | invalidValue key value => s!"Invalid value for {key}: {value}"
  | logging reason => s!"Failed to install tracing subscriber: {reason}"

end DevlogGraph
