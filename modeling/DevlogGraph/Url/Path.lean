import DevlogGraph.Text.Lines
import DevlogGraph.Url.Percent

/-! Paths of web addresses: segments with slashes between them, where one or two dots lead to the
same or to the upper level. -/
namespace DevlogGraph.Url.Path

open Text

/-- A point may be written in its escaped form. -/
def dotForms : List (List Char) := [['.'], ['%', '2', 'e']]

def isDot (segment : List Char) : Bool := dotForms.contains (segment.map Char.toLower)

def isDotPair (segment : List Char) : Bool :=
  (dotForms.flatMap fun first => dotForms.map (first ++ ·)).contains (segment.map Char.toLower)

/-- A segment that names a drive is never left. -/
def isDrive : List Char → Bool
  | [letter, mark] => letter.isAlpha && (mark = ':' || mark = '|')
  | _ => false

def upper (segments : List (List Char)) : List (List Char) :=
  if segments.getLast?.any isDrive then segments else segments.dropLast

/-- Follow segments from the level that `level` leads to. -/
def follow (level : List (List Char)) : List (List Char) → List (List Char)
  | [] => level
  | [last] =>
      if isDotPair last then upper level ++ [[]]
      else if isDot last then level ++ [[]]
      else level ++ [last]
  | segment :: later =>
      if isDotPair segment then follow (upper level) later
      else if isDot segment then follow level later
      else follow (level ++ [segment]) later

/-- The segments of a path; a backslash counts as a slash. -/
def read (text : List Char) : List (List Char) :=
  let slashed := text.map fun c => if c = '\\' then '/' else c
  let relative := match slashed with
    | '/' :: rest => rest
    | rest => rest
  follow [] ((pieces '/' relative).map (escaped hiddenInPath))

def text (segments : List (List Char)) : List Char := segments.flatMap ('/' :: ·)

end DevlogGraph.Url.Path
