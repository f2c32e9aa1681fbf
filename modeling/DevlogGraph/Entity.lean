import DevlogGraph.Name

/-! Named things found in a devlog. -/
namespace DevlogGraph

structure Entity where
  /-- The key under which findings are merged. -/
  name : String
  kind : String
  /-- Reliability of the finding, from 0 to 1. -/
  confidence : Float
  /-- The extractor that found it. -/
  source : String

/-- Bring a score into the unit interval; a NaN and a negative zero stay. -/
def clampUnit (score : Float) : Float :=
  if score < 0 then 0 else if 1 < score then 1 else score

/-- A finding under its normal name. -/
def Entity.of (name kind : String) (confidence : Float) (source : String) : Entity where
  name := normalName name
  kind := kind
  confidence := clampUnit confidence
  source := source

end DevlogGraph
