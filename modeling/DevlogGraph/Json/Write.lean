import DevlogGraph.Json.Value

/-! Compact JSON text. -/
namespace DevlogGraph.Json

def hexDigit (n : Nat) : Char := if n < 10 then Char.ofNat (48 + n) else Char.ofNat (87 + n)

/-- Quotes, backslashes and controls are escaped; all else stands for itself. -/
def escapedChar (c : Char) : List Char :=
  match c with
  | '"' => ['\\', '"']
  | '\\' => ['\\', '\\']
  | '\x08' => ['\\', 'b']
  | '\x0c' => ['\\', 'f']
  | '\n' => ['\\', 'n']
  | '\r' => ['\\', 'r']
  | '\t' => ['\\', 't']
  | c =>
      if c.toNat < 0x20 then
        ['\\', 'u', '0', '0', hexDigit (c.toNat / 16), hexDigit (c.toNat % 16)]
      else [c]

def writeText (text : String) : List Char :=
  '"' :: text.toList.flatMap escapedChar ++ ['"']

def writeFlag (value : Bool) : List Char :=
  if value then ['t', 'r', 'u', 'e'] else ['f', 'a', 'l', 's', 'e']

def writeNull : List Char := ['n', 'u', 'l', 'l']

/-- Doubles that are not finite have no JSON form. -/
def writeReal (value : Float) : List Char :=
  if value.isFinite then (Decimal.compactText value).toList else writeNull

def writeNumber : Number → List Char
  | .natural value => Decimal.digits value
  | .negative magnitude => '-' :: Decimal.digits magnitude
  | .real value => writeReal value

/-- Parts with a comma between any two. -/
def commaSeparated : List (List Char) → List Char
  | [] => []
  | [last] => last
  | part :: later => part ++ ',' :: commaSeparated later

def writeMember (name : String) (value : List Char) : List Char := writeText name ++ ':' :: value

mutual

def Value.write : Value → List Char
  | .null => writeNull
  | .flag value => writeFlag value
  | .number value => writeNumber value
  | .text value => writeText value
  | .list items => '[' :: commaSeparated (writeItems items) ++ [']']
  | .object members => '\x7b' :: commaSeparated (writeMembers members) ++ ['\x7d']

def writeItems : List Value → List (List Char)
  | [] => []
  | item :: later => item.write :: writeItems later

def writeMembers : List (String × Value) → List (List Char)
  | [] => []
  | (name, item) :: later => writeMember name item.write :: writeMembers later

end

def Value.compact (value : Value) : String := String.ofList value.write

end DevlogGraph.Json
