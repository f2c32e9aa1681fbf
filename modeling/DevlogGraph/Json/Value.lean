import DevlogGraph.Json.Number
import DevlogGraph.Json.Text

/-! JSON values of any shape. -/
namespace DevlogGraph.Json

open Reader

inductive Value where
  | null
  | flag (value : Bool)
  | number (value : Number)
  | text (value : String)
  | list (items : List Value)
  | object (members : List (String × Value))

/-- Whether a list has another item; `first` before the first one. -/
def hasItem (first : Bool) : Reader Bool := do
  match ← peekVisible with
  | none => failNext (.unexpectedEnd .list)
  | some ']' => pure false
  | some c =>
      if first then pure true
      else if c = ',' then
        advance
        match ← peekVisible with
        | some ']' => failNext .trailingComma
        | some _ => pure true
        | none => failNext (.unexpectedEnd .value)
      else failNext .expectedListCommaOrEnd

/-- Whether an object has another member; the opening quote of its key is next. -/
def hasMember (first : Bool) : Reader Bool := do
  match ← peekVisible with
  | none => failNext (.unexpectedEnd .object)
  | some '\x7d' => pure false
  | some c =>
      if first then if c = '"' then pure true else failNext .keyMustBeText
      else if c = ',' then
        advance
        match ← peekVisible with
        | some '"' => pure true
        | some '\x7d' => failNext .trailingComma
        | some _ => failNext .keyMustBeText
        | none => failNext (.unexpectedEnd .value)
      else failNext .expectedObjectCommaOrEnd

/-- The key of a member. -/
def key : Reader String := do
  advance
  textTail

def colon : Reader Unit := do
  match ← peekVisible with
  | some ':' => advance
  | some _ => failNext .expectedColon
  | none => failNext (.unexpectedEnd .object)

/-- Items until the closing bracket, which is not taken. The fuel bounds their number. -/
def itemsWith (item : Reader α) : Nat → Bool → Reader (List α)
  | 0, _ => fail .tooDeep
  | fuel + 1, first => do
      if ← hasItem first then
        let head ← item
        let tail ← itemsWith item fuel false
        pure (head :: tail)
      else pure []

/-- Members until the closing brace, which is not taken. The fuel bounds their number. -/
def membersWith (item : Reader α) : Nat → Bool → Reader (List (String × α))
  | 0, _ => fail .tooDeep
  | fuel + 1, first => do
      if ← hasMember first then
        let name ← key
        colon
        let head ← item
        let tail ← membersWith item fuel false
        pure ((name, head) :: tail)
      else pure []

def items (item : Reader α) : Reader (List α) := fun text =>
  itemsWith item (text.length + 1) true text

def members (item : Reader α) : Reader (List (String × α)) := fun text =>
  membersWith item (text.length + 1) true text

/-- How a list or an object ends: the text behind the last step taken, and a fault if it does not
end there. -/
structure Ending where
  rest : List Char
  found : Option Located

def listEnding (text : List Char) : Ending :=
  match text.dropWhile isSpace with
  | ']' :: rest => ⟨rest, none⟩
  | ',' :: rest =>
      let rest := rest.dropWhile isSpace
      ⟨rest, some ⟨if rest.head? = some ']' then .trailingComma else .trailingCharacters,
        Text.byteCount rest - 1⟩⟩
  | [] => ⟨[], some ⟨.unexpectedEnd .list, 0⟩⟩
  | rest => ⟨rest, some ⟨.trailingCharacters, Text.byteCount rest - 1⟩⟩

def objectEnding (text : List Char) : Ending :=
  match text.dropWhile isSpace with
  | '\x7d' :: rest => ⟨rest, none⟩
  | ',' :: rest => ⟨',' :: rest, some ⟨.trailingComma, Text.byteCount rest⟩⟩
  | [] => ⟨[], some ⟨.unexpectedEnd .object, 0⟩⟩
  | rest => ⟨rest, some ⟨.trailingCharacters, Text.byteCount rest - 1⟩⟩

/-- Close what a reader has opened. A mismatch inside is placed where the ending stops. -/
def closed (ending : List Char → Ending) (reader : Reader α) : Reader α := fun text =>
  match reader text with
  | .done value rest =>
      match ending rest with
      | ⟨after, none⟩ => .done value after
      | ⟨_, some found⟩ => .stuck found
  | .stuck found => .stuck found
  | .refused found rest => .refused found (ending rest).rest

/-- A value whose items are read by `inner`; without it, lists and objects are too deep. -/
def valueWith (inner : Option (Reader Value)) : Reader Value := settled do
  match ← peekVisible with
  | none => failNext (.unexpectedEnd .value)
  | some 'n' => advance; word ['u', 'l', 'l']; pure .null
  | some 't' => advance; word ['r', 'u', 'e']; pure (.flag true)
  | some 'f' => advance; word ['a', 'l', 's', 'e']; pure (.flag false)
  | some '-' => advance; return .number (← number true)
  | some '"' => advance; return .text (← textTail)
  | some '[' =>
      match inner with
      | none => failNext .tooDeep
      | some item => advance; return .list (← closed listEnding (items item))
  | some '\x7b' =>
      match inner with
      | none => failNext .tooDeep
      | some item => advance; return .object (← closed objectEnding (members item))
  | some c =>
      if Decimal.isDigit c then return .number (← number false) else failNext .expectedValue

/-- A value in which lists and objects nest at most `depth` deep. -/
def value : Nat → Reader Value
  | 0 => valueWith none
  | depth + 1 => valueWith (some (value depth))

/-- Only white space may follow. -/
def nothingMore : Reader Unit := do
  match ← peekVisible with
  | some _ => failNext .trailingCharacters
  | none => pure ()

/-- Read a whole text. -/
def readAll (reader : Reader α) (text : List Char) : Except Located α :=
  match (reader text).settle with
  | .done value rest =>
      match nothingMore rest with
      | .stuck found => .error found
      | _ => .ok value
  | .stuck found => .error found
  | .refused found rest => .error ⟨.mismatch found, Text.byteCount rest⟩

/-- The deepest nesting of lists and objects in a text. -/
def depthLimit : Nat := 127

def Value.parse (text : String) : Except Located Value := readAll (value depthLimit) text.toList

end DevlogGraph.Json
