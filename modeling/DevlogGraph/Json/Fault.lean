import DevlogGraph.Schema.Mismatch
import DevlogGraph.Text.Width

/-! Why and where the reading of a JSON text ends. -/
namespace DevlogGraph.Json

/-- What was being read when the text ended. -/
inductive Part where
  | value
  | list
  | object
  | text
  deriving DecidableEq

inductive Fault where
  | unexpectedEnd (part : Part)
  | expectedColon
  | expectedListCommaOrEnd
  | expectedObjectCommaOrEnd
  | expectedIdent
  | expectedValue
  | invalidEscape
  | invalidNumber
  | numberOutOfRange
  | controlCharacter
  | keyMustBeText
  | loneSurrogate
  | unfinishedSurrogate
  | trailingComma
  | trailingCharacters
  | tooDeep
  | mismatch (found : Schema.Mismatch)

def Fault.message : Fault → String
  | unexpectedEnd .value => "EOF while parsing a value"
  | unexpectedEnd .list => "EOF while parsing a list"
  | unexpectedEnd .object => "EOF while parsing an object"
  | unexpectedEnd .text => "EOF while parsing a string"
  | expectedColon => "expected `:`"
  | expectedListCommaOrEnd => "expected `,` or `]`"
  | expectedObjectCommaOrEnd => "expected `,` or `\x7d`"
  | expectedIdent => "expected ident"
  | expectedValue => "expected value"
  | invalidEscape => "invalid escape"
  | invalidNumber => "invalid number"
  | numberOutOfRange => "number out of range"
  | controlCharacter => "control character (\\u0000-\\u001F) found while parsing a string"
  | keyMustBeText => "key must be a string"
  | loneSurrogate => "lone leading surrogate in hex escape"
  | unfinishedSurrogate => "unexpected end of hex escape"
  | trailingComma => "trailing comma"
  | trailingCharacters => "trailing characters"
  | tooDeep => "recursion limit exceeded"
  | mismatch found => found.message Decimal.compactText

/-- A fault at a place, given by the number of bytes that follow it. -/
structure Located where
  fault : Fault
  left : Nat

/-- A line, counted from one, and the bytes before the place in that line. -/
structure Position where
  line : Nat
  column : Nat

/-- Walk over `count` bytes of the text; the place may lie inside a character. -/
def Position.advance : Position → Nat → List Char → Position
  | position, _, [] => position
  | position, count, c :: rest =>
      if count < c.utf8Size then { position with column := position.column + count }
      else if c = '\n' then Position.advance ⟨position.line + 1, 0⟩ (count - c.utf8Size) rest
      else Position.advance { position with column := position.column + c.utf8Size }
        (count - c.utf8Size) rest

def Located.position (found : Located) (text : List Char) : Position :=
  Position.advance ⟨1, 0⟩ (Text.byteCount text - found.left) text

def Located.message (found : Located) (text : List Char) : String :=
  let position := found.position text
  s!"{found.fault.message} at line {Decimal.text position.line} column {Decimal.text position.column}"

end DevlogGraph.Json
