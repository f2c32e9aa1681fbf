import DevlogGraph.Json.Fault

/-! Steps of reading: a value and the text behind it, or the first fault. -/
namespace DevlogGraph.Json

inductive Step (α : Type) where
  | done (value : α) (rest : List Char)
  | stuck (found : Located)
  /-- The value does not fit; the place is settled where the enclosing record ends. -/
  | refused (found : Schema.Mismatch) (rest : List Char)

def Reader (α : Type) : Type := List Char → Step α

namespace Step

def bind (step : Step α) (next : α → Reader β) : Step β :=
  match step with
  | done value rest => next value rest
  | stuck found => stuck found
  | refused found rest => refused found rest

/-- A mismatch takes the place where reading stands. -/
def settle (step : Step α) : Step α :=
  match step with
  | refused found rest => stuck ⟨.mismatch found, Text.byteCount rest⟩
  | step => step

end Step

namespace Reader

instance : Monad Reader where
  pure value := fun rest => .done value rest
  bind reader next := fun text => (reader text).bind next

/-- Fail at the place where reading stands. -/
def fail (fault : Fault) : Reader α := fun rest => .stuck ⟨fault, Text.byteCount rest⟩

/-- Fail just behind the next byte, if there is one. -/
def failNext (fault : Fault) : Reader α := fun rest => .stuck ⟨fault, Text.byteCount rest - 1⟩

def refuse (found : Schema.Mismatch) : Reader α := fun rest => .refused found rest

def settled (reader : Reader α) : Reader α := fun text => (reader text).settle

def isSpace (c : Char) : Bool := c == ' ' || c == '\n' || c == '\t' || c == '\r'

/-- Pass over white space. -/
def skipSpace : Reader Unit := fun text => .done () (text.dropWhile isSpace)

/-- The next character, which is not taken. -/
def peek : Reader (Option Char) := fun text => .done text.head? text

def advance : Reader Unit := fun text => .done () (text.drop 1)

/-- The next visible character, which is not taken. -/
def peekVisible : Reader (Option Char) := do
  skipSpace
  peek

/-- Take exactly these characters, the rest of a word. -/
def word : List Char → Reader Unit
  | [], text => .done () text
  | _ :: _, [] => .stuck ⟨.unexpectedEnd .value, 0⟩
  | expected :: more, c :: rest =>
      if c = expected then word more rest else .stuck ⟨.expectedIdent, Text.byteCount (c :: rest) - 1⟩

end Reader

end DevlogGraph.Json
