import DevlogGraph.Name

/-! Directed, typed edges between names. -/
namespace DevlogGraph

/-- The ends need not be entities of the same extraction. -/
structure Relationship where
  source : String
  target : String
  kind : String
  deriving DecidableEq

/-- An edge between normal names; the kind stays as given. -/
def Relationship.of (source target kind : String) : Relationship where
  source := normalName source
  target := normalName target
  kind := kind

/-- What two edges must share to count as the same connection. -/
def Relationship.ends (edge : Relationship) : String × String := (edge.source, edge.target)

end DevlogGraph
