import DevlogGraph.Text.Hex
import DevlogGraph.Text.Utf8

/-! Characters that an address writes as bytes, each as a percent sign and two hexadecimal
digits. -/
namespace DevlogGraph.Url

open Text

/-- Characters without a shape, and all that are not plain, are never written as they are. -/
def isHidden (c : Char) : Bool := c.toNat < 0x20 || 0x7F ≤ c.toNat

def hiddenInFragment (c : Char) : Bool :=
  isHidden c || [' ', '"', '<', '>', '\x60'].contains c

def hiddenInQuery (c : Char) : Bool :=
  isHidden c || [' ', '"', '#', '<', '>', '\''].contains c

def hiddenInPath (c : Char) : Bool :=
  hiddenInFragment c || ['#', '?', '\x7b', '\x7d'].contains c

def hiddenInUser (c : Char) : Bool :=
  hiddenInPath c || ['/', ':', ';', '=', '@', '[', '\\', ']', '^', '|'].contains c

def hexDigit (value : Nat) : Char :=
  if value < 10 then Char.ofNat ('0'.toNat + value) else Char.ofNat ('A'.toNat + value - 10)

def escapedByte (byte : UInt8) : List Char :=
  ['%', hexDigit (byte.toNat / 16), hexDigit (byte.toNat % 16)]

def escapedChar (hidden : Char → Bool) (c : Char) : List Char :=
  if hidden c then (String.utf8EncodeChar c).flatMap escapedByte else [c]

def escaped (hidden : Char → Bool) (text : List Char) : List Char :=
  text.flatMap (escapedChar hidden)

/-- The bytes of a text; a percent sign without two digits after it stands for itself. -/
def unescaped : List Char → List UInt8
  | [] => []
  | '%' :: high :: low :: rest =>
      match hexValue high, hexValue low with
      | some upper, some lower => UInt8.ofNat (upper * 16 + lower) :: unescaped rest
      | _, _ => '%'.toNat.toUInt8 :: unescaped (high :: low :: rest)
  | c :: rest => String.utf8EncodeChar c ++ unescaped rest

end DevlogGraph.Url
