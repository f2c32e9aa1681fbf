import DevlogGraph.Json.Record
import DevlogGraph.Json.Write
import DevlogGraph.Settings.Section

/-! Settings as JSON. -/
namespace DevlogGraph.Record

open Json Schema

def scalar : Scalar β → Reader β
  | .flag => flag
  | .text => text
  | .count => word64
  | .extractor => variant extractorNamed

/-- A section and the names that have been read into it. -/
structure Partial (σ : Type) where
  value : σ
  seen : List String := []

/-- A record whose missing fields keep their value in `start`. -/
def partialLayout (title : String) (start : σ) (fields : List (Slot (Partial σ))) :
    Layout (Partial σ) σ where
  title := title
  sized := title
  fields := fields
  closed := false
  partly := true
  start := ⟨start, []⟩
  finish state := .ok state.value

def partialField (name : String) (read : σ → Reader σ) : Slot (Partial σ) where
  name := name
  filled state := state.seen.contains name
  read state := do
    let value ← read state.value
    pure ⟨value, name :: state.seen⟩

def settingField (setting : Setting σ) : Slot (Partial σ) :=
  partialField setting.name fun state => do
    let value ← scalar setting.scalar
    pure (setting.put state value)

def sectionField (part : Section σ) : Slot (Partial σ) :=
  partialField part.name fun state => do
    let value ← (partialLayout part.title (part.get state)
      (part.settings.map settingField)).read
    pure (part.put state value)

def settingsLayout : Layout (Partial Settings) Settings :=
  partialLayout Settings.title {} (Settings.sections.map sectionField)

def ofCount (value : UInt64) : Value := .number (.natural value.toNat)

def ofSettings (settings : Settings) : Value := .object [
  ("extraction", .object [
    ("enabled", .flag settings.extraction.enabled),
    ("primary_extractor", .text settings.extraction.primary.name)]),
  ("llm", .object [
    ("ollama_url", .text settings.model.url),
    ("model", .text settings.model.model),
    ("probe_timeout_ms", ofCount settings.model.probeTimeoutMs),
    ("timeout_secs", ofCount settings.model.requestTimeoutSecs)]),
  ("logging", .object [
    ("level", .text settings.logging.level),
    ("json_format", .flag settings.logging.json),
    ("include_location", .flag settings.logging.location)])]

end DevlogGraph.Record
