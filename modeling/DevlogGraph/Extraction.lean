import DevlogGraph.Entity
import DevlogGraph.Relationship

/-! What extractors produce, and what a whole run reports. -/
namespace DevlogGraph

/-- The findings of one extractor. -/
structure Extraction where
  entities : List Entity := []
  relationships : List Relationship := []

end DevlogGraph
