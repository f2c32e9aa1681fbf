import DevlogGraph.Pipeline
import DevlogGraph.Service.Client
import DevlogGraph.Settings.Basic

/-! Pipelines as the settings ask for them. -/
namespace DevlogGraph

/-- A pipeline, and what the log was told while it was put together. -/
structure Assembly where
  pipeline : Pipeline
  events : List Event := []

/-- The model is asked only if it is enabled and preferred, and this run does not forbid it. -/
def Settings.wantsModel (settings : Settings) (forcePattern : Bool) : Bool :=
  settings.extraction.enabled && settings.extraction.primary = .model && !forcePattern

namespace Assembly

/-- Fixed rules, and then the model if its service can be addressed. -/
def withModel (settings : ModelSettings) (network : Service.Network) : Assembly :=
  match Model.Extractor.ofSettings settings network with
  | .ok extractor => { pipeline := Pipeline.patternOnly.register (.ofModel extractor) }
  | .error failure => {
      pipeline := .patternOnly
      events := [.modelUnavailable failure.message] }

def ofSettings (settings : Settings) (forcePattern : Bool) (network : Service.Network) :
    Assembly :=
  if settings.wantsModel forcePattern then withModel settings.model network
  else { pipeline := .patternOnly }

end Assembly

end DevlogGraph
