import DevlogGraph.Domain.DirectionTable
import DevlogGraph.Text.Span

/-! Writing direction in domain names: a name with letters that are written from right to left
must not mix directions inside a label. -/
namespace DevlogGraph.Domain

open Text

inductive Direction where
  | left
  | right
  | arabicNumber
  | europeanNumber
  | neutral
  | carried
  deriving DecidableEq

def Direction.of (c : Char) : Direction :=
  if inSpans rightSpans c.toNat then right
  else if inSpans arabicNumberSpans c.toNat then arabicNumber
  else if inSpans europeanNumberSpans c.toNat then europeanNumber
  else if inSpans neutralSpans c.toNat then neutral
  else if inSpans carriedSpans c.toNat then carried
  else left

/-- The directions without the marks at the end. -/
def withoutMarks (directions : List Direction) : List Direction :=
  (directions.reverse.dropWhile (· = .carried)).reverse

/-- A label from left to right ends in a letter or a European number. -/
def runsLeft (directions : List Direction) : Bool :=
  directions.all (fun direction => direction ≠ .right && direction ≠ .arabicNumber) &&
    match (withoutMarks directions).getLast? with
    | some last => last = .left || last = .europeanNumber
    | none => false

/-- A label from right to left ends in a letter or a number, and has one kind of numbers. -/
def runsRight (directions : List Direction) : Bool :=
  directions.all (· ≠ .left) &&
    !(directions.contains .arabicNumber && directions.contains .europeanNumber) &&
    match (withoutMarks directions).getLast? with
    | some last => last = .right || last = .europeanNumber || last = .arabicNumber
    | none => false

/-- The first letter tells the direction of a label. -/
def hasOneDirection (label : List Char) : Bool :=
  let directions := label.map Direction.of
  match directions with
  | [] => true
  | .left :: _ => runsLeft directions
  | .right :: _ => runsRight directions
  | _ => false

def runsFromRight (label : List Char) : Bool :=
  label.any fun c => Direction.of c = .right || Direction.of c = .arabicNumber

/-- Directions matter as soon as one label has something written from right to left. -/
def directionsFit (labels : List (List Char)) : Bool :=
  !labels.any runsFromRight || labels.all hasOneDirection

end DevlogGraph.Domain
