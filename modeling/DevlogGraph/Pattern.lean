import DevlogGraph.Extraction
import DevlogGraph.Pattern.Arrow
import DevlogGraph.Pattern.Entities

/-! Extraction by fixed rules. It needs no service and never fails. -/
namespace DevlogGraph.Pattern

def extract (text : String) : Extraction where
  entities := entities text
  relationships := relationships text

end DevlogGraph.Pattern
