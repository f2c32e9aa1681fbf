import DevlogGraph.Text.Blank
import DevlogGraph.Text.Fold
import DevlogGraph.Text.Within

/-! Whether a devlog already mentions an edge: one name, an arrow, the other name, whatever the
case of the letters and the blanks around the arrow. -/
namespace DevlogGraph.Ledger

open Text

/-- The text behind a name that stands at its start in any case. -/
def behind? : List Char → List Char → Option (List Char)
  | [], text => some text
  | _ :: _, [] => none
  | letter :: name, c :: text => if sameFold letter c then behind? name text else none

/-- The test holds at some place reached over blanks alone. -/
def acrossBlanks (test : List Char → Bool) : List Char → Bool
  | [] => test []
  | c :: rest => test (c :: rest) || (isBlank c && acrossBlanks test rest)

def startsWithTarget (target text : List Char) : Bool := (behind? target text).isSome

def startsWithArrow (target : List Char) : List Char → Bool
  | '-' :: '>' :: rest => acrossBlanks (startsWithTarget target) rest
  | _ => false

/-- The edge is mentioned right here. -/
def mentionedHere (source target text : List Char) : Bool :=
  match behind? source text with
  | some rest => acrossBlanks (startsWithArrow target) rest
  | none => false

def mentions (content source target : List Char) : Bool :=
  somewhere (mentionedHere source target) content

end DevlogGraph.Ledger
