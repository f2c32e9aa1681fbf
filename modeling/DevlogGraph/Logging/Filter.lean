import DevlogGraph.Decimal.Digits
import DevlogGraph.Event
import DevlogGraph.Text.Blank
import DevlogGraph.Text.Lines
import DevlogGraph.Text.Word

/-! Which events are shown: directives with commas between them, each about the targets that begin
with a text. The most specific directive that covers an event decides. -/
namespace DevlogGraph.Logging

open Text

/-- The lowest level that is shown; `none` shows nothing. -/
abbrev Threshold := Option Level

def Threshold.admits (threshold : Threshold) (level : Level) : Bool :=
  match threshold with
  | none => false
  | some lowest => lowest.severity ≤ level.severity

/-- The names of the thresholds; the position of a name is its number. -/
def thresholds : List (String × Threshold) := [
  ("off", none), ("error", some .error), ("warn", some .warn), ("info", some .info),
  ("debug", some .debug), ("trace", some .trace)]

/-- The threshold with that name, in any case, or that number. -/
def Threshold.read? (word : List Char) : Option Threshold :=
  match Decimal.readWord (String.ofList word) with
  | some number => thresholds[number.toNat]?.map (·.2)
  | none => thresholds.lookup (String.ofList (word.map Char.toLower))

/-- What a directive asks of an event apart from its target. -/
inductive Scope where
  | everywhere
  /-- The event carries a field of that name. -/
  | carrying (field : List Char)
  /-- The event happens inside a certain span. -/
  | insideSpan
  deriving DecidableEq

structure Directive where
  threshold : Threshold := some .trace
  /-- How the targets begin that the directive is about; `none` for all targets. -/
  target : Option (List Char) := none
  scope : Scope := .everywhere
  deriving DecidableEq

-- The shape of a directive is read off its text without the blanks around it, and its words are cut at
-- the same positions out of the text as it stands: below, `text` and `whole` go forward together.

def readThreshold? (whole : List Char) : Option Threshold :=
  if whole.isEmpty then some (some .trace) else Threshold.read? whole

/-- After the brackets: nothing, or `=` and a threshold. -/
def afterScope? (target : Option (List Char)) (scope : Scope) (text whole : List Char) :
    Option Directive :=
  match text with
  | [] => some { target := target, scope := scope }
  | '=' :: _ => (readThreshold? (whole.drop 1)).map fun threshold => ⟨threshold, target, scope⟩
  | _ => none

/-- A field in braces. One with a value is about spans, and so is one after the name of a span. -/
def field? (target : Option (List Char)) (named : Bool) (text whole : List Char) :
    Option Directive :=
  let size := (text.takeWhile (· != '}')).length
  let field := whole.take size
  match text.drop size with
  | '}' :: ']' :: rest =>
      if size = 0 then none
      else
        let scope := if named || field.contains '=' then .insideSpan else .carrying field
        afterScope? target scope rest (whole.drop (size + 2))
  | _ => none

/-- The rest of a pair of brackets: the name of a span, a field, or both. -/
def span? (target : Option (List Char)) (text whole : List Char) : Option Directive :=
  let size := (text.takeWhile fun c => c != ']' && c != '{').length
  match text.drop size with
  | ']' :: rest => afterScope? target .insideSpan rest (whole.drop (size + 1))
  | '{' :: rest => field? target (size != 0) rest (whole.drop (size + 1))
  | _ => none

/-- How a word in front of all brackets may begin. -/
def beginsWord (c : Char) : Bool := isAlphanumeric c || ['-', ':', '_'].contains c

/-- A word alone is a threshold if it can be one, and else a target. -/
def Directive.ofWord (word : List Char) : Directive :=
  match Threshold.read? word with
  | some threshold => { threshold := threshold }
  | none => { target := some word }

def Directive.read? (whole : List Char) : Option Directive :=
  match trim whole with
  | [] => none
  | '[' :: rest => span? none rest (whole.drop 1)
  | first :: rest =>
      let text := first :: rest
      let size := (text.takeWhile fun c => c != '=' && c != '[').length
      let target := whole.take size
      if !beginsWord first then none
      else match text.drop size with
        | [] => some (.ofWord whole)
        | '=' :: _ => (readThreshold? (whole.drop (size + 1))).map fun threshold =>
            { threshold := threshold, target := some target }
        | _ :: rest => span? (some target) rest (whole.drop (size + 1))

/-- Whether the directive is about events of this target with these fields. -/
def Directive.covers (directive : Directive) (target : List Char) (fields : List (List Char)) :
    Bool :=
  (directive.target.all fun start => start.isPrefixOf target) &&
    match directive.scope with
    | .everywhere => true
    | .carrying field => fields.contains field
    | .insideSpan => false

/-- A longer target is more specific; between equal targets, one that asks for a field. -/
def Directive.specificity (directive : Directive) : Nat :=
  let length := match directive.target with
    | none => 0
    | some start => start.length + 1
  2 * length + if directive.scope = .everywhere then 0 else 1

abbrev Filter := List Directive

namespace Filter

def read? (text : String) : Option Filter :=
  ((pieces ',' text.toList).filter fun piece => !piece.isEmpty).mapM Directive.read?

/-- The last of the most specific directives that cover the event. -/
def decisive? (filter : Filter) (target : List Char) (fields : List (List Char)) :
    Option Directive :=
  (filter.filter fun directive => directive.covers target fields).foldl
    (fun best directive => match best with
      | none => some directive
      | some leader =>
          if leader.specificity ≤ directive.specificity then some directive else some leader)
    none

/-- An event that no directive covers is not shown. -/
def shows (filter : Filter) (level : Level) (target : String) (fields : List String) : Bool :=
  match filter.decisive? target.toList (fields.map String.toList) with
  | none => false
  | some directive => directive.threshold.admits level

end Filter

end DevlogGraph.Logging
