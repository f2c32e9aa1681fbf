import DevlogGraph.Schema.Mismatch
import DevlogGraph.Settings.Basic

/-! The written form of settings, whatever the format: sections of named scalars. All of them may
be left out. -/
namespace DevlogGraph

/-- The types of single settings. -/
inductive Scalar : Type → Type where
  | flag : Scalar Bool
  | text : Scalar String
  | count : Scalar UInt64
  | extractor : Scalar ExtractorKind

/-- A named setting of a section of type `σ`. -/
structure Setting (σ : Type) where
  {type : Type}
  name : String
  scalar : Scalar type
  put : σ → type → σ

/-- A section of type `β` within `σ`. -/
structure Section (σ : Type) where
  {type : Type}
  name : String
  /-- What messages call a value that should be this section. -/
  title : String
  settings : List (Setting type)
  get : σ → type
  put : σ → type → σ

/-- The names of extractors in files, each exactly as written here. -/
def extractorNames : List (String × ExtractorKind) := [
  ("pattern", .pattern), ("regex", .pattern), ("llm", .model), ("model", .model),
  ("ollama", .model)]

def extractorNamed (name : String) : Except Schema.Mismatch ExtractorKind :=
  match extractorNames.lookup name with
  | some kind => .ok kind
  | none => .error (.unknownVariant name (extractorNames.map (·.1)))

def ExtractorKind.name : ExtractorKind → String
  | pattern => "pattern"
  | model => "model"

def ExtractionSettings.settings : List (Setting ExtractionSettings) := [
  ⟨"enabled", .flag, fun s value => { s with enabled := value }⟩,
  ⟨"primary_extractor", .extractor, fun s value => { s with primary := value }⟩]

def ModelSettings.settings : List (Setting ModelSettings) := [
  ⟨"ollama_url", .text, fun s value => { s with url := value }⟩,
  ⟨"model", .text, fun s value => { s with model := value }⟩,
  ⟨"probe_timeout_ms", .count, fun s value => { s with probeTimeoutMs := value }⟩,
  ⟨"timeout_secs", .count, fun s value => { s with requestTimeoutSecs := value }⟩]

def LoggingSettings.settings : List (Setting LoggingSettings) := [
  ⟨"level", .text, fun s value => { s with level := value }⟩,
  ⟨"json_format", .flag, fun s value => { s with json := value }⟩,
  ⟨"include_location", .flag, fun s value => { s with location := value }⟩]

def Settings.sections : List (Section Settings) := [
  ⟨"extraction", "struct ExtractionConfig", ExtractionSettings.settings, (·.extraction),
    fun s value => { s with extraction := value }⟩,
  ⟨"llm", "struct LlmConfig", ModelSettings.settings, (·.model),
    fun s value => { s with model := value }⟩,
  ⟨"logging", "struct LoggingConfig", LoggingSettings.settings, (·.logging),
    fun s value => { s with logging := value }⟩]

def Settings.title : String := "struct AppConfig"

end DevlogGraph
