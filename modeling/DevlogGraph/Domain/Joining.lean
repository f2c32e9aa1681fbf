import DevlogGraph.Domain.JoiningTable
import DevlogGraph.Text.Composed

/-! The invisible joiner and non-joiner, which a label may have only where they show. -/
namespace DevlogGraph.Domain

open Text

def nonJoiner : Char := '\u200C'

def joiner : Char := '\u200D'

/-- The class of the marks that suppress a vowel and so bind the next letter. -/
def bindingClass : Nat := 9

def joinsNext (c : Char) : Bool :=
  inSpans joinsBothSpans c.toNat || inSpans joinsLeftSpans c.toNat

def joinsPrevious (c : Char) : Bool :=
  inSpans joinsBothSpans c.toNat || inSpans joinsRightSpans c.toNat

def isPassedOver (c : Char) : Bool := inSpans joinsThroughSpans c.toNat

/-- The next character that joining does not pass over is as asked. -/
def reaches (asked : Char → Bool) (text : List Char) : Bool :=
  match text.dropWhile isPassedOver with
  | [] => false
  | c :: _ => asked c

/-- `before` holds the characters before `text`, the nearest first. -/
def joinersFit (before : List Char) : List Char → Bool
  | [] => true
  | c :: rest =>
      let bound := before.head?.any fun last => combiningClass last.toNat == bindingClass
      let fits :=
        if c = nonJoiner then bound || (reaches joinsNext before && reaches joinsPrevious rest)
        else if c = joiner then bound
        else true
      fits && joinersFit (c :: before) rest

end DevlogGraph.Domain
