import DevlogGraph.Json.Skip
import DevlogGraph.Json.Value

/-! Reading values of a known shape: scalars, lists, and records that are written as an object or,
field after field, as a list. -/
namespace DevlogGraph.Json

open Reader Schema

/-- A value of another type stands here. -/
def wrongType (expected : String) : Reader α := settled do
  match ← peek with
  | some 'n' => advance; word ['u', 'l', 'l']; refuse (.wrongType .empty expected)
  | some 't' => advance; word ['r', 'u', 'e']; refuse (.wrongType (.flag true) expected)
  | some 'f' => advance; word ['a', 'l', 's', 'e']; refuse (.wrongType (.flag false) expected)
  | some '-' =>
      advance
      let found ← number true
      refuse (.wrongType found.found expected)
  | some '"' =>
      advance
      let found ← textTail
      refuse (.wrongType (.text found) expected)
  | some '[' => refuse (.wrongType .sequence expected)
  | some '\x7b' => refuse (.wrongType .map expected)
  | some c =>
      if Decimal.isDigit c then
        let found ← number false
        refuse (.wrongType found.found expected)
      else failNext .expectedValue
  | none => failNext .expectedValue

/-- A text that means something: `meaning` may refuse it. -/
def textAs (expected : String) (meaning : String → Except Mismatch α) : Reader α := settled do
  match ← peekVisible with
  | none => failNext (.unexpectedEnd .value)
  | some '"' =>
      advance
      let found ← textTail
      match meaning found with
      | .ok value => pure value
      | .error mismatch => refuse mismatch
  | some _ => wrongType expected

def text : Reader String := textAs "a string" .ok

def flag : Reader Bool := settled do
  match ← peekVisible with
  | none => failNext (.unexpectedEnd .value)
  | some 't' => advance; word ['r', 'u', 'e']; pure true
  | some 'f' => advance; word ['a', 'l', 's', 'e']; pure false
  | some _ => wrongType "a boolean"

/-- A number that means something: `meaning` may refuse it. -/
def numberAs (expected : String) (meaning : Number → Except Mismatch α) : Reader α := settled do
  let accept (found : Number) : Reader α :=
    match meaning found with
    | .ok value => pure value
    | .error mismatch => refuse mismatch
  match ← peekVisible with
  | none => failNext (.unexpectedEnd .value)
  | some '-' =>
      advance
      accept (← number true)
  | some c =>
      if Decimal.isDigit c then accept (← number false) else wrongType expected

def real : Reader Float := numberAs "f64" fun found => .ok found.toFloat

/-- A natural number below `limit`; `expected` is what messages call it. -/
def natural (limit : Nat) (expected : String) : Reader Nat := numberAs expected fun
  | .natural value =>
      if value < limit then .ok value else .error (.wrongValue (.natural value) expected)
  | .negative magnitude => .error (.wrongValue (.negative magnitude) expected)
  | .real value => .error (.wrongType (.real value) expected)

def word64 : Reader UInt64 := do
  let value ← natural UInt64.size "u64"
  pure (UInt64.ofNat value)

/-- An absent value is written as `null`. -/
def optional (reader : Reader α) : Reader (Option α) := do
  match ← peekVisible with
  | some 'n' => advance; word ['u', 'l', 'l']; pure none
  | _ => return some (← reader)

def list (item : Reader α) : Reader (List α) := settled do
  match ← peekVisible with
  | none => failNext (.unexpectedEnd .value)
  | some '[' => advance; closed listEnding (items item)
  | some _ => wrongType "a sequence"

/-- A field of a record that is built up in states of type `σ`. -/
structure Slot (σ : Type) where
  name : String
  /-- The field has been read before. -/
  filled : σ → Bool
  read : σ → Reader σ

/-- How a record is written. -/
structure Layout (σ α : Type) where
  /-- What messages call the record. -/
  title : String
  /-- What messages call the record when it is too short. -/
  sized : String
  fields : List (Slot σ)
  /-- Fields of other names are refused; otherwise they are passed over. -/
  closed : Bool
  /-- Fields that are not written keep the value they start with. -/
  partly : Bool
  start : σ
  finish : σ → Except Mismatch α

namespace Layout

def finished (layout : Layout σ α) (state : σ) : Reader α :=
  match layout.finish state with
  | .ok value => pure value
  | .error mismatch => refuse mismatch

/-- Read one member, whose key is `name`. -/
def member (layout : Layout σ α) (name : String) (state : σ) : Reader σ :=
  match layout.fields.find? fun field => field.name == name with
  | some field =>
      if field.filled state then refuse (.duplicate name)
      else do
        colon
        field.read state
  | none =>
      if layout.closed then refuse (.unknownField name (layout.fields.map (·.name)))
      else do
        colon
        skipValue
        pure state

/-- Members until the closing brace, which is not taken. The fuel bounds their number. -/
def membersFrom (layout : Layout σ α) : Nat → Bool → σ → Reader α
  | 0, _, _ => fail .tooDeep
  | fuel + 1, first, state => do
      if ← hasMember first then
        let name ← key
        let state ← layout.member name state
        layout.membersFrom fuel false state
      else layout.finished state

/-- One element for each field, in the order of the fields. -/
def elementsFrom (layout : Layout σ α) : List (Slot σ) → Nat → σ → Reader α
  | [], _, state => layout.finished state
  | field :: later, index, state => do
      if ← hasItem (index == 0) then
        let state ← field.read state
        layout.elementsFrom later (index + 1) state
      else if layout.partly then layout.elementsFrom later index state
      else refuse (.wrongLength index layout.sized)

def read (layout : Layout σ α) : Reader α := settled do
  match ← peekVisible with
  | none => failNext (.unexpectedEnd .value)
  | some '[' =>
      advance
      Json.closed listEnding (layout.elementsFrom layout.fields 0 layout.start)
  | some '\x7b' =>
      advance
      Json.closed objectEnding fun rest => layout.membersFrom (rest.length + 1) true layout.start rest
  | some _ => wrongType layout.title

end Layout

/-- A choice among names, also written as an object that maps the name to `null`. -/
def variant (meaning : String → Except Mismatch α) : Reader α := do
  match ← peekVisible with
  | some '"' => textAs "variant identifier" meaning
  | some '\x7b' =>
      advance
      let found ← textAs "variant identifier" meaning
      colon
      nothing
      match ← peekVisible with
      | some '\x7d' => advance; pure found
      | some _ => fail .expectedValue
      | none => fail (.unexpectedEnd .object)
  | some _ => failNext .expectedValue
  | none => failNext (.unexpectedEnd .value)
where
  nothing : Reader Unit := settled do
    match ← peekVisible with
    | none => failNext (.unexpectedEnd .value)
    | some 'n' => advance; word ['u', 'l', 'l']
    | some _ => wrongType "unit"

end DevlogGraph.Json
