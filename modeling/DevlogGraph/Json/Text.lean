import DevlogGraph.Json.Reader
import DevlogGraph.Text.Hex
import DevlogGraph.Text.Surrogate

/-! Text values: escapes, surrogate pairs, and passing over a text without reading it. -/
namespace DevlogGraph.Json

open Reader Text

/-- Four hexadecimal digits: their value. -/
def fourHex (text : List Char) : Except Located Nat :=
  if Text.byteCount text < 4 then .error ⟨.unexpectedEnd .text, 0⟩
  else
    let value := (text.take 4).foldl (fun total c => do
      let sum ← total
      let digit ← hexValue c
      pure (sum * 16 + digit)) (some 0)
    match value with
    | some value => .ok value
    | none => .error ⟨.invalidEscape, Text.byteCount text - 4⟩

/-- The second half of a pair, written as an escape of its own. -/
def lowHalf (high : Nat) (text : List Char) : Except Located (Char × Nat) :=
  match text with
  | '\\' :: 'u' :: rest => do
      let low ← fourHex rest
      if isLowSurrogate low then pure (Char.ofNat (pairValue high low), 11)
      else .error ⟨.loneSurrogate, Text.byteCount rest - 4⟩
  | ['\\'] => .error ⟨.unexpectedEnd .text, 0⟩
  | '\\' :: rest => .error ⟨.unfinishedSurrogate, Text.byteCount rest - 1⟩
  | [] => .error ⟨.unexpectedEnd .text, 0⟩
  | text => .error ⟨.unfinishedSurrogate, Text.byteCount text - 1⟩

def simpleEscape : Char → Option Char
  | '"' => some '"'
  | '\\' => some '\\'
  | '/' => some '/'
  | 'b' => some '\x08'
  | 'f' => some '\x0c'
  | 'n' => some '\n'
  | 'r' => some '\r'
  | 't' => some '\t'
  | _ => none

/-- The character of an escape, from behind the backslash, and how many characters it takes. -/
def escaped (text : List Char) : Except Located (Char × Nat) :=
  match text with
  | [] => .error ⟨.unexpectedEnd .text, 0⟩
  | 'u' :: rest => do
      let unit ← fourHex rest
      if isLowSurrogate unit then .error ⟨.loneSurrogate, Text.byteCount rest - 4⟩
      else if isHighSurrogate unit then lowHalf unit (rest.drop 4)
      else pure (Char.ofNat unit, 5)
  | c :: rest =>
      match simpleEscape c with
      | some plain => .ok (plain, 1)
      | none => .error ⟨.invalidEscape, Text.byteCount (c :: rest) - 1⟩

def Step.prepend (c : Char) : Step (List Char) → Step (List Char)
  | .done text rest => .done (c :: text) rest
  | step => step

/-- The characters up to the closing quote, first passing over those an escape has taken. -/
def textBody : Nat → Reader (List Char)
  | _, [] => .stuck ⟨.unexpectedEnd .text, 0⟩
  | skip + 1, _ :: rest => textBody skip rest
  | 0, c :: rest =>
      if c = '"' then .done [] rest
      else if c = '\\' then
        match escaped rest with
        | .ok (plain, taken) => (textBody taken rest).prepend plain
        | .error found => .stuck found
      else if c.toNat < 0x20 then .stuck ⟨.controlCharacter, Text.byteCount rest⟩
      else (textBody 0 rest).prepend c

/-- A text, from behind its opening quote. -/
def textTail : Reader String := do
  let body ← textBody 0
  pure (String.ofList body)

/-- How many characters an escape takes in a text that is not read. -/
def escapeLength (text : List Char) : Except Located Nat :=
  match text with
  | [] => .error ⟨.unexpectedEnd .text, 0⟩
  | 'u' :: rest => do
      let _ ← fourHex rest
      pure 5
  | c :: rest =>
      if (simpleEscape c).isSome then .ok 1 else .error ⟨.invalidEscape, Text.byteCount (c :: rest) - 1⟩

/-- Pass over a text, from behind its opening quote. -/
def skipTextBody : Nat → Reader Unit
  | _, [] => .stuck ⟨.unexpectedEnd .text, 0⟩
  | skip + 1, _ :: rest => skipTextBody skip rest
  | 0, c :: rest =>
      if c = '"' then .done () rest
      else if c = '\\' then
        match escapeLength rest with
        | .ok taken => skipTextBody taken rest
        | .error found => .stuck found
      else if c.toNat < 0x20 then .stuck ⟨.controlCharacter, Text.byteCount (c :: rest)⟩
      else skipTextBody 0 rest

end DevlogGraph.Json
