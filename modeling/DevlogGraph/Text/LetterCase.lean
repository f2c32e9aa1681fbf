import DevlogGraph.Text.LetterCaseTable

/-! Full lower-casing: the dotted capital I becomes two characters, and a capital sigma takes its
final form at the end of a word. -/
namespace DevlogGraph.Text

def isCased (c : Char) : Bool := inSpans casedSpans c.toNat

def isCaseIgnorable (c : Char) : Bool := inSpans caseIgnorableSpans c.toNat

/-- The lower-case form of a character outside any context. -/
def lowerChar (c : Char) : List Char :=
  if c = 'İ' then ['i', '\u0307'] else [Char.ofNat (shifted lowerShifts c.toNat)]

/-- A cased letter comes next, once the characters that case rules look through are passed. -/
def casedNext (text : List Char) : Bool :=
  (text.dropWhile isCaseIgnorable).head?.any isCased

/-- A sigma is final when a cased letter stands before it in the word and none after it. -/
def isFinalSigma (before after : List Char) : Bool :=
  casedNext before && !casedNext after

/-- Lower-case the text, given the characters before it with the nearest first. -/
def lowercaseAfter : List Char → List Char → List Char
  | _, [] => []
  | before, c :: after =>
      (if c = 'Σ' then [if isFinalSigma before after then 'ς' else 'σ'] else lowerChar c) ++
        lowercaseAfter (c :: before) after

def lowercase (text : List Char) : List Char := lowercaseAfter [] text

end DevlogGraph.Text
