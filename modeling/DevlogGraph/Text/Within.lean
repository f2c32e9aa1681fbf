/-! Looking for something anywhere in a text. -/
namespace DevlogGraph.Text

/-- The test holds at some place of the text, the end included. -/
def somewhere (test : List Char → Bool) : List Char → Bool
  | [] => test []
  | c :: rest => test (c :: rest) || somewhere test rest

def holds (part text : List Char) : Bool := somewhere part.isPrefixOf text

end DevlogGraph.Text
