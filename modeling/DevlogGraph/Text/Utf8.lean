/-! UTF-8 text that may hold malformed bytes. -/
namespace DevlogGraph.Text

def isContinuation (byte : UInt8) : Bool := 0x80 ≤ byte && byte ≤ 0xBF

/-- The bytes that may follow a lead byte, and how many continuation bytes come in all. -/
structure Lead where
  low : UInt8
  high : UInt8
  count : Nat

def lead? (byte : UInt8) : Option Lead :=
  if byte < 0x80 then some ⟨0, 0, 0⟩
  else if byte < 0xC2 then none
  else if byte < 0xE0 then some ⟨0x80, 0xBF, 1⟩
  else if byte = 0xE0 then some ⟨0xA0, 0xBF, 2⟩
  else if byte = 0xED then some ⟨0x80, 0x9F, 2⟩
  else if byte < 0xF0 then some ⟨0x80, 0xBF, 2⟩
  else if byte = 0xF0 then some ⟨0x90, 0xBF, 3⟩
  else if byte < 0xF4 then some ⟨0x80, 0xBF, 3⟩
  else if byte = 0xF4 then some ⟨0x80, 0x8F, 3⟩
  else none

/-- How many bytes after the lead byte belong to its sequence, up to `count`. -/
def continuing (lead : Lead) (rest : List UInt8) : Nat :=
  match rest with
  | [] => 0
  | byte :: more =>
      if lead.count = 0 then 0
      else if lead.low ≤ byte && byte ≤ lead.high then
        1 + ((more.take (lead.count - 1)).takeWhile isContinuation).length
      else 0

/-- The code point of a complete sequence. -/
def codePoint (first : UInt8) (rest : List UInt8) : Nat :=
  let start := match rest.length with
    | 0 => first.toNat
    | 1 => first.toNat % 0x20
    | 2 => first.toNat % 0x10
    | _ => first.toNat % 0x08
  rest.foldl (fun total byte => total * 0x40 + byte.toNat % 0x40) start

/-- Characters and malformed stretches, first passing over bytes that are already taken. -/
def scanUtf8 : Nat → List UInt8 → List (Option Char)
  | _, [] => []
  | skip + 1, _ :: rest => scanUtf8 skip rest
  | 0, first :: rest =>
      match lead? first with
      | none => none :: scanUtf8 0 rest
      | some lead =>
          let taken := continuing lead rest
          let unit := if taken = lead.count then some (Char.ofNat (codePoint first (rest.take taken)))
            else none
          unit :: scanUtf8 taken rest

/-- Each malformed stretch is shown as a replacement character. -/
def decodeLossy (bytes : List UInt8) : List Char :=
  (scanUtf8 0 bytes).map fun unit => unit.getD '\uFFFD'

/-- The text, if no byte is malformed. -/
def decodeUtf8? (bytes : List UInt8) : Option (List Char) := (scanUtf8 0 bytes).mapM id

end DevlogGraph.Text
