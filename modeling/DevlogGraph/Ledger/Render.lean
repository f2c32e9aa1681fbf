import DevlogGraph.Ledger.Mention
import DevlogGraph.Relationship
import DevlogGraph.Text.Within

/-! Write-back: a devlog with the edges appended that it does not mention, each on a line that
later runs read again. -/
namespace DevlogGraph.Ledger

def header : String := "### Architectural Relationships"

def formatHint : String :=
  "<!-- Format: [From Entity] -> [To Entity] (relationship type) -->"

def line (edge : Relationship) : String :=
  s!"- {edge.source} -> {edge.target} ({edge.kind})"

/-- The first edge of each pair of ends. -/
def distinct : List Relationship → List Relationship
  | [] => []
  | edge :: rest => edge :: (distinct rest).filter fun other => other.ends != edge.ends

def mentionsEdge (content : String) (edge : Relationship) : Bool :=
  mentions content.toList edge.source.toList edge.target.toList

/-- The edges to append. -/
def missing (content : String) (edges : List Relationship) : List Relationship :=
  (distinct edges).filter fun edge => !mentionsEdge content edge

def endsWith (ending text : List Char) : Bool := ending.isSuffixOf text

/-- What stands between the old content and the new lines: the header comes once, after an empty
line unless the content is empty. -/
def separator (content : List Char) : String :=
  if Text.holds header.toList content then
    if endsWith ['\n'] content then "" else "\n"
  else
    let gap :=
      if content.isEmpty then ""
      else if endsWith ['\n', '\n'] content then ""
      else if endsWith ['\n'] content then "\n"
      else "\n\n"
    gap ++ header ++ "\n" ++ formatHint ++ "\n"

def linesText (edges : List Relationship) : String :=
  String.join (edges.map fun edge => line edge ++ "\n")

/-- The new content, or nothing if every edge is mentioned. -/
def render (content : String) (edges : List Relationship) : Option String :=
  match missing content edges with
  | [] => none
  | added => some (content ++ separator content.toList ++ linesText added)

end DevlogGraph.Ledger
