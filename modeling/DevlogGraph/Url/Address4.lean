import DevlogGraph.Decimal.Digits
import DevlogGraph.Text.Hex
import DevlogGraph.Text.Lines

/-! Addresses of four bytes. They are written as up to four numbers, of which the last fills all
bytes that are left; a number may be octal or hexadecimal. -/
namespace DevlogGraph.Url

open Text

namespace Address4

/-- The number that the digits of a base write, if all are digits of the base. -/
def natural? (base : Nat) (digits : List Char) : Option Nat := do
  let values ← digits.mapM hexValue
  if values.all (· < base) then some (values.foldl (fun total value => total * base + value) 0)
  else none

/-- No digit at all counts as zero after a sign of the base. -/
def number? : List Char → Option Nat
  | [] => none
  | '0' :: 'x' :: digits => natural? 16 digits
  | '0' :: 'X' :: digits => natural? 16 digits
  | ['0'] => some 0
  | '0' :: digits => natural? 8 digits
  | digits => natural? 10 digits

/-- The parts between points, without an empty one at the end. -/
def parts (name : List Char) : List (List Char) :=
  let found := pieces '.' name
  if found.getLast? = some [] then found.dropLast else found

/-- A name whose last part is a number is an address or nothing. -/
def claims (name : List Char) : Bool :=
  match (parts name).getLast? with
  | none => false
  | some [] => false
  | some last => last.all Decimal.isDigit || (number? last).isSome

/-- All but the last number are bytes; the last one has the bytes that are left. -/
def ofNumbers? (numbers : List Nat) : Option Nat := do
  let last ← numbers.getLast?
  let front := numbers.dropLast
  if 3 < front.length || Nat.pow 256 (4 - front.length) ≤ last || front.any (256 ≤ ·) then none
  else some (front.foldr (fun byte rest => byte * 16777216 + rest / 256) 0 + last)

def read? (name : List Char) : Option Nat := (parts name).mapM number? >>= ofNumbers?

def text (address : Nat) : List Char :=
  List.intercalate ['.'] ([16777216, 65536, 256, 1].map fun unit =>
    Decimal.digits (address / unit % 256))

end Address4

end DevlogGraph.Url
