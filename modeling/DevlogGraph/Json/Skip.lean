import DevlogGraph.Json.Number
import DevlogGraph.Json.Text

/-! Passing over a value that nobody asked for. Only its grammar is checked, at any depth. -/
namespace DevlogGraph.Json

open Reader

mutual

/-- One value; the fuel bounds the number of steps, and the length of the text is enough. -/
def skipValueWithin : Nat → Reader Unit
  | 0 => fail .tooDeep
  | fuel + 1 => do
      match ← peekVisible with
      | none => failNext (.unexpectedEnd .value)
      | some 'n' => advance; word ['u', 'l', 'l']
      | some 't' => advance; word ['r', 'u', 'e']
      | some 'f' => advance; word ['a', 'l', 's', 'e']
      | some '-' => advance; skipNumber
      | some '"' => advance; skipTextBody 0
      | some '[' =>
          advance
          match ← peekVisible with
          | some ']' => advance
          | none => failNext (.unexpectedEnd .list)
          | some _ => skipItemsWithin fuel
      | some '\x7b' =>
          advance
          match ← peekVisible with
          | some '\x7d' => advance
          | none => failNext (.unexpectedEnd .object)
          | some _ => skipMembersWithin fuel
      | some c => if Decimal.isDigit c then skipNumber else failNext .expectedValue

/-- The items of a list, the first one next, and the closing bracket. -/
def skipItemsWithin : Nat → Reader Unit
  | 0 => fail .tooDeep
  | fuel + 1 => do
      skipValueWithin fuel
      match ← peekVisible with
      | some ',' => advance; skipItemsWithin fuel
      | some ']' => advance
      | some _ => failNext .expectedListCommaOrEnd
      | none => failNext (.unexpectedEnd .list)

/-- The members of an object, the first one next, and the closing brace. -/
def skipMembersWithin : Nat → Reader Unit
  | 0 => fail .tooDeep
  | fuel + 1 => do
      match ← peekVisible with
      | some '"' => advance
      | some _ => failNext .keyMustBeText
      | none => failNext (.unexpectedEnd .object)
      skipTextBody 0
      match ← peekVisible with
      | some ':' => advance
      | some _ => failNext .expectedColon
      | none => failNext (.unexpectedEnd .object)
      skipValueWithin fuel
      match ← peekVisible with
      | some ',' => advance; skipMembersWithin fuel
      | some '\x7d' => advance
      | some _ => failNext .expectedObjectCommaOrEnd
      | none => failNext (.unexpectedEnd .object)

end

def skipValue : Reader Unit := fun text => skipValueWithin (2 * text.length + 2) text

end DevlogGraph.Json
