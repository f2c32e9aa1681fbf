import DevlogGraph.Logging.Filter
import DevlogGraph.Settings.Environment

/-! Setting up the log: it can be done once. -/
namespace DevlogGraph.Logging

/-- What is shown of the events, and how. -/
structure Setup where
  filter : Filter
  json : Bool
  location : Bool

/-- The variable whose directives come before the configured ones. -/
def filterKey : String := "RUST_LOG"

/-- Directives of the environment count only if all of them can be read. -/
def Setup.of (settings : LoggingSettings) (environment : Environment) :
    Except SettingsError Setup :=
  match (environment filterKey).bind Filter.read? <|> Filter.read? settings.level with
  | some filter => .ok ⟨filter, settings.json, settings.location⟩
  | none => .error (.invalidValue "LOG_LEVEL" settings.level)

/-- Set up the log where perhaps another setup is in place already. -/
def install (present : Option Setup) (settings : LoggingSettings) (environment : Environment) :
    Except SettingsError Setup := do
  let setup ← Setup.of settings environment
  match present with
  | none => pure setup
  | some _ => .error (.logging "a global default trace dispatcher has already been set")

end DevlogGraph.Logging
