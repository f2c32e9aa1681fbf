import DevlogGraph.Text.Hex
import DevlogGraph.Toml.Trivia

/-! Texts in quotes, on one line or on several. -/
namespace DevlogGraph.Toml

open Scanner

def isHexDigit (c : Char) : Bool := (Text.hexValue c).isSome

def ofHex (digits : List Char) : Nat :=
  digits.foldl (fun total c => total * 16 + (Text.hexValue c).getD 0) 0

def isBasicChar (c : Char) : Bool :=
  c == ' ' || c == '\t' || c == '!' || ('#' ≤ c && c ≤ '[') || (']' ≤ c && c ≤ '~') ||
    isNonAscii c

def isLiteralChar (c : Char) : Bool :=
  c == '\t' || (' ' ≤ c && c ≤ '&') || ('(' ≤ c && c ≤ '~') || isNonAscii c

def outOfRange : String := "value is out of range"

def isScalar (point : Nat) : Bool := point < 0xD800 || (0xDFFF < point && point < 0x110000)

/-- A character by the digits of its code point. -/
def hexEscape (width : Nat) : Scanner Char :=
  meaning
    (meaning (takeBetween 0 width isHexDigit) fun digits =>
      if digits.length = width then .ok digits else .error "")
    fun digits =>
      if isScalar (ofHex digits) then .ok (Char.ofNat (ofHex digits)) else .error outOfRange

def escapeChoices : List String :=
  ["`b`", "`f`", "`n`", "`r`", "`t`", "`u`", "`U`", "`\\`", "`\"`"]

/-- The character that an escape stands for. -/
def escape : Scanner Char := do
  let _ ← char '\\'
  match ← any with
  | 'b' => pure '\x08'
  | 'f' => pure '\x0c'
  | 'n' => pure '\n'
  | 'r' => pure '\r'
  | 't' => pure '\t'
  | '\\' => pure '\\'
  | '"' => pure '"'
  | 'u' => labelled "unicode 4-digit hex code" (must (hexEscape 4))
  | 'U' => labelled "unicode 8-digit hex code" (must (hexEscape 8))
  | _ => expecting escapeChoices (labelled "escape sequence" (must fail))

def single (scanner : Scanner Char) : Scanner (List Char) := do
  let c ← scanner
  pure [c]

def basicText : Scanner (List Char) := do
  let _ ← char '"'
  let parts ← many (orElse (takeSome isBasicChar) (single escape))
  let _ ← labelled "basic string" (must (char '"'))
  pure parts.flatten

def literalText : Scanner (List Char) :=
  labelled "literal string" do
    let _ ← char '\''
    let body ← takeWhile isLiteralChar
    let _ ← must (char '\'')
    pure body

/-- A backslash at the end of a line removes the blanks and line ends after it. -/
def foldedLine : Scanner Unit := do
  let _ ← char '\\'
  let _ ← blanks
  newline
  blankLines

def foldedLines : Scanner (List Char) := do
  foldedLine
  let _ ← many foldedLine
  pure []

def lineFeed : Scanner (List Char) := do
  newline
  pure ['\n']

def basicPart : Scanner (List Char) :=
  orElse (takeSome isBasicChar) (orElse foldedLines (orElse (single escape) lineFeed))

/-- What follows is not taken. -/
def ahead (scanner : Scanner α) : Scanner Unit := fun cursor =>
  match scanner cursor with
  | .found _ _ => .found () cursor
  | .missed problem => .missed { problem with place := cursor }
  | .broken problem => .broken { problem with place := cursor }

/-- One or two quotes, with something else behind them. -/
def quotesBefore (quote : String) (next : Scanner α) : Scanner (List Char) :=
  orElse (do word (quote ++ quote); ahead next; pure (quote ++ quote).toList)
    (do word quote; ahead next; pure quote.toList)

/-- Parts, and quotes that are followed by more parts. -/
def textWithQuotes (quote : String) (part : Scanner (List Char)) : Scanner (List Char) := do
  let parts ← many part
  let quoted ← many do
    let quotes ← quotesBefore quote part
    let first ← part
    let later ← many part
    pure (quotes ++ first ++ later.flatten)
  let last ← optional (quotesBefore quote (word (quote ++ quote ++ quote)))
  pure (parts.flatten ++ quoted.flatten ++ last.getD [])

def basicLines : Scanner (List Char) :=
  labelled "multiline basic string" do
    word "\"\"\""
    let _ ← optional newline
    let body ← must (textWithQuotes "\"" basicPart)
    must (word "\"\"\"")
    pure body

def literalPart : Scanner (List Char) := orElse (single (one isLiteralChar)) lineFeed

def literalLines : Scanner (List Char) :=
  labelled "multiline literal string" do
    word "'''"
    let _ ← optional newline
    let body ← must (textWithQuotes "'" literalPart)
    must (word "'''")
    pure body

def text : Scanner (List Char) :=
  orElse basicLines (orElse basicText (orElse literalLines literalText))

end DevlogGraph.Toml
