/-! Decimal digits of natural numbers, both ways. -/
namespace DevlogGraph.Decimal

def isDigit (c : Char) : Bool := '0' ≤ c && c ≤ '9'

def digitValue (c : Char) : Nat := c.toNat - '0'.toNat

def digits (n : Nat) : List Char := Nat.toDigits 10 n

def text (n : Nat) : String := String.ofList (digits n)

/-- Digits with zeros in front up to the width. -/
def padded (width n : Nat) : List Char :=
  List.replicate (width - (digits n).length) '0' ++ digits n

def ofDigits (text : List Char) : Nat :=
  text.foldl (fun total c => total * 10 + digitValue c) 0

/-- One or more digits, with an optional plus sign, and a value below `2 ^ 64`. -/
def readWord (text : String) : Option UInt64 :=
  let body := match text.toList with
    | '+' :: rest => rest
    | rest => rest
  if body.isEmpty || !body.all isDigit then none
  else if ofDigits body < UInt64.size then some (UInt64.ofNat (ofDigits body)) else none

end DevlogGraph.Decimal
