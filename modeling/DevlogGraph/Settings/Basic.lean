import DevlogGraph.Name

/-! What a user can configure, with the values that hold until something else is said. -/
namespace DevlogGraph

/-- The extractor that a run prefers. -/
inductive ExtractorKind where
  | pattern
  | model
  deriving DecidableEq, Repr

structure ExtractionSettings where
  /-- Whether the model may be asked at all. -/
  enabled : Bool := false
  primary : ExtractorKind := .pattern
  deriving DecidableEq

structure ModelSettings where
  /-- Address of the model service; its scheme may be left out. -/
  url : String := "http://127.0.0.1:11434"
  /-- Empty for the default model. -/
  model : String := ""
  probeTimeoutMs : UInt64 := 2000
  requestTimeoutSecs : UInt64 := 120
  deriving DecidableEq

structure LoggingSettings where
  level : String := "info"
  json : Bool := false
  /-- Whether lines name the file they come from. -/
  location : Bool := false
  deriving DecidableEq

structure Settings where
  extraction : ExtractionSettings := {}
  model : ModelSettings := {}
  logging : LoggingSettings := {}
  deriving DecidableEq

def defaultModel : String := "llama3.2:3b"

/-- The configured model, or the default if none is named. -/
def ModelSettings.modelOrDefault (settings : ModelSettings) : String :=
  if (Text.trimmed settings.model).isEmpty then defaultModel else Text.trimmed settings.model

end DevlogGraph
