import DevlogGraph.Decimal.Shortest
import DevlogGraph.Text.Quoted

/-! Data that has the wrong shape for what it should be. -/
namespace DevlogGraph.Schema

/-- A value as it was found, in as much detail as messages show. -/
inductive Found where
  | empty
  | flag (value : Bool)
  | natural (value : Nat)
  | negative (magnitude : Nat)
  | real (value : Float)
  | text (value : String)
  | sequence
  | map

inductive Mismatch where
  | wrongType (found : Found) (expected : String)
  | wrongValue (found : Found) (expected : String)
  | wrongLength (length : Nat) (expected : String)
  | missing (name : String)
  | duplicate (name : String)
  | unknownField (name : String) (known : List String)
  | unknownVariant (name : String) (known : List String)
  /-- None of the alternatives of a choice fits. -/
  | noAlternative (choice : String)
  | other (reason : String)

/-- What is found, given the spelling of real numbers. -/
def Found.message (realText : Float → String) : Found → String
  | empty => "null"
  | flag value => s!"boolean `{value}`"
  | natural value => s!"integer `{Decimal.text value}`"
  | negative magnitude => s!"integer `-{Decimal.text magnitude}`"
  | real value => s!"floating point `{realText value}`"
  | text value => s!"string {Text.quoted value}"
  | sequence => "sequence"
  | map => "map"

/-- Names in backticks: one alone, two with `or`, more after `one of`. -/
def oneOf : List String → String
  | [] => "there are none"
  | [name] => s!"expected `{name}`"
  | [first, second] => s!"expected `{first}` or `{second}`"
  | names => "expected one of " ++ ", ".intercalate (names.map fun name => s!"`{name}`")

def Mismatch.message (realText : Float → String) : Mismatch → String
  | wrongType found expected => s!"invalid type: {found.message realText}, expected {expected}"
  | wrongValue found expected => s!"invalid value: {found.message realText}, expected {expected}"
  | wrongLength length expected => s!"invalid length {Decimal.text length}, expected {expected}"
  | missing name => s!"missing field `{name}`"
  | duplicate name => s!"duplicate field `{name}`"
  | unknownField name known => s!"unknown field `{name}`, {oneOf known}"
  | unknownVariant name known => s!"unknown variant `{name}`, {oneOf known}"
  | noAlternative choice => s!"data did not match any variant of {choice}"
  | other reason => reason

end DevlogGraph.Schema
