import DevlogGraph.Text.Blank
import DevlogGraph.Text.Lines
import DevlogGraph.Text.Surrogate
import DevlogGraph.Text.Utf8

/-! Bytes as text in the charset that their content type names. Bytes that are no text become
replacement characters. -/
namespace DevlogGraph.Text

inductive Charset where
  | utf8
  | utf16 (bigEndian : Bool)
  /-- One byte for each character of the western European languages. -/
  | western
  deriving DecidableEq

namespace Charset

/-- Names in lower case. -/
def names : List (String × Charset) := [
  ("utf-8", utf8), ("utf8", utf8), ("unicode-1-1-utf-8", utf8), ("unicode11utf8", utf8),
  ("unicode20utf8", utf8), ("x-unicode20utf8", utf8),
  ("utf-16", utf16 false), ("utf-16le", utf16 false), ("csunicode", utf16 false),
  ("iso-10646-ucs-2", utf16 false), ("ucs-2", utf16 false), ("unicode", utf16 false),
  ("unicodefeff", utf16 false), ("utf-16be", utf16 true), ("unicodefffe", utf16 true),
  ("windows-1252", western), ("cp1252", western), ("x-cp1252", western), ("ascii", western),
  ("us-ascii", western), ("ansi_x3.4-1968", western), ("iso-8859-1", western),
  ("iso8859-1", western), ("iso88591", western), ("iso_8859-1", western),
  ("iso_8859-1:1987", western), ("iso-ir-100", western), ("csisolatin1", western),
  ("latin1", western), ("l1", western), ("ibm819", western), ("cp819", western)]

/-- The parameter `charset` of a content type. -/
def parameter? (contentType : List Char) : Option (List Char) :=
  (pieces ';' contentType).drop 1 |>.findSome? fun part =>
    let name := trim (part.takeWhile (· != '='))
    let value := trim ((part.dropWhile (· != '=')).drop 1)
    if name.map Char.toLower = "charset".toList then some (value.filter (· != '"')) else none

/-- UTF-8 where no known charset is named. -/
def ofContentType (contentType : String) : Charset :=
  match parameter? contentType.toList with
  | none => utf8
  | some name => (names.lookup (String.ofList (name.map Char.toLower))).getD utf8

/-- The characters of the bytes from 0x80 to 0x9F. -/
def westernExtras : List Nat := [
  0x20AC, 0x81, 0x201A, 0x192, 0x201E, 0x2026, 0x2020, 0x2021, 0x2C6, 0x2030, 0x160, 0x2039,
  0x152, 0x8D, 0x17D, 0x8F, 0x90, 0x2018, 0x2019, 0x201C, 0x201D, 0x2022, 0x2013, 0x2014, 0x2DC,
  0x2122, 0x161, 0x203A, 0x153, 0x9D, 0x17E, 0x178]

def westernChar (byte : UInt8) : Char :=
  if 0x80 ≤ byte && byte < 0xA0 then
    Char.ofNat ((westernExtras[byte.toNat - 0x80]?).getD byte.toNat)
  else Char.ofNat byte.toNat

/-- Units of two bytes; a single byte at the end makes no unit. -/
def units (bigEndian : Bool) : List UInt8 → List (Option Nat)
  | [] => []
  | [_] => [none]
  | first :: second :: rest =>
      let unit := if bigEndian then first.toNat * 256 + second.toNat
        else second.toNat * 256 + first.toNat
      some unit :: units bigEndian rest

/-- Two surrogates make one character, and one alone makes none. -/
def ofUnits : List (Option Nat) → List Char
  | [] => []
  | some high :: some low :: rest =>
      if isHighSurrogate high && isLowSurrogate low then
        Char.ofNat (pairValue high low) :: ofUnits rest
      else if isHighSurrogate high || isLowSurrogate high then '\uFFFD' :: ofUnits (some low :: rest)
      else Char.ofNat high :: ofUnits (some low :: rest)
  | some unit :: rest =>
      (if isHighSurrogate unit || isLowSurrogate unit then '\uFFFD' else Char.ofNat unit) :: ofUnits rest
  | none :: rest => '\uFFFD' :: ofUnits rest

/-- A mark at the start tells the charset, whatever was named, and is not part of the text. -/
def marked (named : Charset) (bytes : List UInt8) : Charset × List UInt8 :=
  match bytes with
  | 0xEF :: 0xBB :: 0xBF :: rest => (utf8, rest)
  | 0xFE :: 0xFF :: rest => (utf16 true, rest)
  | 0xFF :: 0xFE :: rest => (utf16 false, rest)
  | _ => (named, bytes)

def decode (named : Charset) (bytes : List UInt8) : List Char :=
  match marked named bytes with
  | (utf8, bytes) => decodeLossy bytes
  | (utf16 bigEndian, bytes) => ofUnits (units bigEndian bytes)
  | (western, bytes) => bytes.map westernChar

end Charset

end DevlogGraph.Text
