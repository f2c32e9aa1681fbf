import DevlogGraph.Decimal.Digits
import DevlogGraph.Text.Hex
import DevlogGraph.Text.Lines

/-! Addresses of eight groups of two bytes. Two colons together stand for zero groups, as many as
are missing, and the last two groups may be written as four bytes. -/
namespace DevlogGraph.Url

open Text

namespace Address6

/-- One to four hexadecimal digits. -/
def group? (text : List Char) : Option Nat := do
  let values ← text.mapM hexValue
  if values.isEmpty || 4 < values.length then none
  else some (values.foldl (fun total value => total * 16 + value) 0)

/-- A number below 256 without a zero in front. -/
def byte? (text : List Char) : Option Nat :=
  if text.isEmpty || !text.all Decimal.isDigit then none
  else if text.head? = some '0' && text.length ≠ 1 then none
  else if Decimal.ofDigits text < 256 then some (Decimal.ofDigits text) else none

/-- Four bytes make two groups. -/
def bytes? (text : List Char) : Option (List Nat) := do
  match ← (pieces '.' text).mapM byte? with
  | [a, b, c, d] => some [a * 256 + b, c * 256 + d]
  | _ => none

/-- Groups with colons between them; only the last one may be written in bytes. -/
def groupsOf? : List (List Char) → Option (List Nat)
  | [] => some []
  | [last] => if last.contains '.' then bytes? last else (group? last).map ([·])
  | first :: later => do return (← group? first) :: (← groupsOf? later)

def groups? (text : List Char) : Option (List Nat) :=
  if text.isEmpty then some [] else groupsOf? (pieces ':' text)

/-- What stands before and after the first two colons together. -/
def cut? : List Char → Option (List Char × List Char)
  | ':' :: ':' :: rest => some ([], rest)
  | [] => none
  | c :: rest => (cut? rest).map fun (before, after) => (c :: before, after)

def size : Nat := 8

def read? (text : List Char) : Option (List Nat) := do
  match cut? text with
  | none =>
      let groups ← groups? text
      if groups.length = size then some groups else none
  | some (before, after) =>
      let front ← groups? before
      let back ← groups? after
      if before.contains '.' || size ≤ front.length + back.length then none
      else some (front ++ List.replicate (size - front.length - back.length) 0 ++ back)

/-- How many zeros stand at the start. -/
def zeros (groups : List Nat) : Nat := (groups.takeWhile (· = 0)).length

/-- The start and the length of the longest run of zeros, the first of equals. -/
def longestZeros (groups : List Nat) : Nat × Nat :=
  (List.range groups.length).foldl
    (fun best start =>
      let length := zeros (groups.drop start)
      if best.2 < length then (start, length) else best)
    (0, 0)

def groupText (group : Nat) : List Char := Nat.toDigits 16 group

def groupsText (groups : List Nat) : List Char :=
  List.intercalate [':'] (groups.map groupText)

/-- The longest run of two or more zeros is left out. -/
def text (groups : List Nat) : List Char :=
  let (start, length) := longestZeros groups
  if length < 2 then groupsText groups
  else groupsText (groups.take start) ++ [':', ':'] ++ groupsText (groups.drop (start + length))

end Address6

end DevlogGraph.Url
