import DevlogGraph.Relationship
import DevlogGraph.Text.Lines

/-! Relationship lines: `- from -> to` or `- from -> to (kind)`, one edge a line. -/
namespace DevlogGraph.Pattern

open Text

/-- The kind of an edge whose line names none. -/
def defaultKind : String := "depends_on"

/-- What stands behind `- ` at the start of a line. -/
def itemText (line : List Char) : Option (List Char) :=
  match trimStart line with
  | '-' :: rest => if rest.head?.any isBlank then some (trimStart rest) else none
  | _ => none

/-- An arrow between blanks, with a visible character behind it; the answer starts there. -/
def arrowTarget? (text : List Char) : Option (List Char) :=
  if text.head?.any isBlank then
    match trimStart text with
    | '-' :: '>' :: rest =>
        if rest.head?.any isBlank && !(trimStart rest).isEmpty then some (trimStart rest) else none
    | _ => none
  else none

/-- Split at the first arrow that has text before it. -/
def splitArrow : List Char → Option (List Char × List Char)
  | [] => none
  | c :: rest =>
      match arrowTarget? rest with
      | some target => some ([c], target)
      | none => (splitArrow rest).map fun (before, target) => (c :: before, target)

/-- A kind in parentheses, set off by blanks, that ends the text. -/
def parenthesised? (text : List Char) : Option (List Char) :=
  if text.head?.any isBlank then
    match trimStart text with
    | '(' :: rest =>
        if rest.getLast? = some ')' && !rest.dropLast.contains ')' then some rest.dropLast
        else none
    | _ => none
  else none

/-- Split before the first parenthesised kind that has text before it. -/
def splitKind : List Char → List Char × Option (List Char)
  | [] => ([], none)
  | c :: rest =>
      match parenthesised? rest with
      | some kind => ([c], some kind)
      | none =>
          let (before, kind) := splitKind rest
          (c :: before, kind)

/-- A written kind is trimmed; a blank one counts as none. -/
def kindOf (written : Option (List Char)) : String :=
  match written.map trim with
  | some (c :: kind) => String.ofList (c :: kind)
  | _ => defaultKind

/-- The edge that a line states, if both of its ends have a name. -/
def relationshipOfLine (line : List Char) : Option Relationship :=
  match (itemText line).bind splitArrow with
  | none => none
  | some (source, rest) =>
      let (target, kind) := splitKind (trimEnd rest)
      let source := normalName (String.ofList source)
      let target := normalName (String.ofList target)
      if source.isEmpty || target.isEmpty then none
      else some (.of source target (kindOf kind))

def relationships (text : String) : List Relationship :=
  (lines text.toList).filterMap relationshipOfLine

end DevlogGraph.Pattern
