import DevlogGraph.Entity

/-! Entities of several extractors in one list, one a name. -/
namespace DevlogGraph

/-- Entities in the order of first sight, and the slot of each name. -/
structure Merger where
  entities : List Entity := []
  slots : List (String × Nat) := []

namespace Merger

/-- A new name takes a new slot; a known one changes hands only for a higher confidence. -/
def offer (merger : Merger) (entity : Entity) : Merger :=
  match merger.slots.lookup entity.name with
  | some slot =>
      match merger.entities[slot]? with
      | some held =>
          if held.confidence < entity.confidence then
            { merger with entities := merger.entities.set slot entity }
          else merger
      | none => merger
  | none => {
      entities := merger.entities ++ [entity]
      slots := merger.slots ++ [(entity.name, merger.entities.length)] }

def offerAll (merger : Merger) (entities : List Entity) : Merger := entities.foldl offer merger

end Merger

end DevlogGraph
