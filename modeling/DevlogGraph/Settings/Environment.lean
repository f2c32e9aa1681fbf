import DevlogGraph.Decimal.Digits
import DevlogGraph.Event
import DevlogGraph.Settings.Basic
import DevlogGraph.Settings.Error

/-! Settings from environment variables. Each variable that is there overrides one setting. -/
namespace DevlogGraph

/-- The value of each variable that is set. -/
abbrev Environment := String → Option String

/-- A word that switches something on or off, in any case and with blanks around it. -/
def readSwitch (key value : String) : Except SettingsError Bool :=
  let word := normalName value
  if ["1", "true", "yes", "on"].contains word then .ok true
  else if ["0", "false", "no", "off"].contains word then .ok false
  else .error (.invalidValue key value)

def primaryKey : String := "DEVLOG_PRIMARY_EXTRACTOR"

/-- The extractor that a word names, in any case and with blanks around it. -/
def ExtractorKind.read (value : String) : Except SettingsError ExtractorKind :=
  let word := normalName value
  if ["pattern", "regex"].contains word then .ok .pattern
  else if ["model", "llm", "ollama"].contains word then .ok .model
  else .error (.invalidValue primaryKey value)

def readCount (key value : String) : Except SettingsError UInt64 :=
  match Decimal.readWord value with
  | some count => .ok count
  | none => .error (.invalidValue key value)

/-- The two texts differ at most in the case of ASCII letters. -/
def sameIgnoringCase (a b : String) : Bool := a.map Char.toLower == b.map Char.toLower

/-- What one variable does to the settings. -/
structure Override where
  key : String
  apply : String → Settings → Except SettingsError Settings

def Override.enabled : Override where
  key := "DEVLOG_EXTRACTION_ENABLED"
  apply value settings := do
    let enabled ← readSwitch "DEVLOG_EXTRACTION_ENABLED" value
    pure { settings with extraction := { settings.extraction with enabled := enabled } }

def Override.primary : Override where
  key := primaryKey
  apply value settings := do
    let primary ← ExtractorKind.read value
    pure { settings with extraction := { settings.extraction with primary := primary } }

def Override.url : Override where
  key := "OLLAMA_HOST"
  apply value settings := .ok { settings with model := { settings.model with url := value } }

def Override.model : Override where
  key := "OLLAMA_MODEL"
  apply value settings := .ok { settings with model := { settings.model with model := value } }

def Override.probeTimeout : Override where
  key := "OLLAMA_PROBE_TIMEOUT_MS"
  apply value settings := do
    let count ← readCount "OLLAMA_PROBE_TIMEOUT_MS" value
    pure { settings with model := { settings.model with probeTimeoutMs := count } }

def Override.requestTimeout : Override where
  key := "OLLAMA_TIMEOUT_SECS"
  apply value settings := do
    let count ← readCount "OLLAMA_TIMEOUT_SECS" value
    pure { settings with model := { settings.model with requestTimeoutSecs := count } }

def Override.level : Override where
  key := "LOG_LEVEL"
  apply value settings := .ok { settings with logging := { settings.logging with level := value } }

def Override.format : Override where
  key := "LOG_FORMAT"
  apply value settings :=
    .ok { settings with
      logging := { settings.logging with json := sameIgnoringCase value "json" } }

/-- The variables in the order in which they are read. -/
def overrides : List Override := [
  .enabled, .primary, .url, .model, .probeTimeout, .requestTimeout, .level, .format]

/-- Settings after some variables, and what the log was told. -/
structure Overridden where
  outcome : Except SettingsError Settings
  events : List Event := []

/-- Read variables until one has an invalid value. -/
def applyOverrides (environment : Environment) : List Override → Settings → Overridden
  | [], settings => ⟨.ok settings, []⟩
  | override :: later, settings =>
      match environment override.key with
      | none => applyOverrides environment later settings
      | some value =>
          match override.apply value settings with
          | .error error => ⟨.error error, [.settingOverridden override.key]⟩
          | .ok settings =>
              let rest := applyOverrides environment later settings
              { rest with events := .settingOverridden override.key :: rest.events }

def Settings.withEnvironment (settings : Settings) (environment : Environment) : Overridden :=
  applyOverrides environment overrides settings

end DevlogGraph
