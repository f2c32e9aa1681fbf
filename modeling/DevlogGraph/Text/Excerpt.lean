/-! A bounded beginning of a text. -/
namespace DevlogGraph.Text

/-- The text itself if it has at most `limit` characters, else that many and three dots. -/
def excerpt (limit : Nat) (text : String) : String :=
  let characters := text.toList
  if characters.length ≤ limit then text
  else String.ofList (characters.take limit) ++ "..."

end DevlogGraph.Text
