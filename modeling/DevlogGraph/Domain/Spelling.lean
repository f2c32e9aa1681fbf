import DevlogGraph.Domain.DisallowedTable
import DevlogGraph.Domain.ExpandedTable
import DevlogGraph.Domain.MappedTable
import DevlogGraph.Text.Composed
import DevlogGraph.Text.Span

/-! The one spelling of a domain name among those that count as the same name. -/
namespace DevlogGraph.Domain

open Text

/-- What a character becomes; `none` if no name may have it. -/
def spelled? (c : Char) : Option (List Char) :=
  let point := c.toNat
  if inSpans ignoredSpans point then some []
  else if inSpans disallowedSpans point then none
  else match mappedTexts.lookup point with
    | some points => some (points.map Char.ofNat)
    | none => some [Char.ofNat ((mappedPairs.lookup point).getD (shifted mappedRuns point))]

def spelling? (name : List Char) : Option (List Char) :=
  (name.mapM spelled?).map fun pieces => composed pieces.flatten

end DevlogGraph.Domain
