import DevlogGraph.Text.Blank
import DevlogGraph.Text.LetterCase

/-! Names are compared in one form: trimmed and lower-case. -/
namespace DevlogGraph

/-- The form under which a name is stored and looked up. -/
def normalName (name : String) : String :=
  String.ofList (Text.lowercase (Text.trim name.toList))

end DevlogGraph
