import DevlogGraph.Toml.Scan

/-! Blanks, comments and the ends of lines. -/
namespace DevlogGraph.Toml

open Scanner

def isBlank (c : Char) : Bool := c == ' ' || c == '\t'

def isNonAscii (c : Char) : Bool := 0x80 ≤ c.toNat

/-- Characters that may stand in a comment. -/
def isCommentChar (c : Char) : Bool :=
  c == '\t' || (' ' ≤ c && c ≤ '~') || isNonAscii c

def blanks : Scanner (List Char) := takeWhile isBlank

def comment : Scanner Unit := do
  let _ ← char '#'
  let _ ← takeWhile isCommentChar
  pure ()

/-- A line feed, perhaps after a carriage return. -/
def newline : Scanner Unit :=
  orElse (do let _ ← char '\n') (do
    let _ ← char '\r'
    let _ ← char '\n')

def lineEnding : Scanner Unit := orElse newline endOfText

/-- What may follow on a line that is complete. -/
def lineTrailing : Scanner Unit := do
  let _ ← blanks
  let _ ← optional comment
  lineEnding

/-- The same, and a message says what could have come. -/
def lineTrailingExpected : Scanner Unit := must (expecting ["newline", "`#`"] lineTrailing)

/-- Blanks and line ends, any number of them. -/
def blankLines : Scanner Unit := do
  let _ ← many (orElse newline (do let _ ← takeSome isBlank))

/-- Blanks, line ends and comments. -/
def betweenItems : Scanner Unit := do
  let _ ← many (orElse (do
    let _ ← orElse (do let _ ← takeSome isBlank) newline
    blankLines) comment)

end DevlogGraph.Toml
