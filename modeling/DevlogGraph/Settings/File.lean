import DevlogGraph.Ledger.File
import DevlogGraph.Settings.Section
import DevlogGraph.Settings.Error
import DevlogGraph.Toml.Excerpt

/-! Settings from a file. -/
namespace DevlogGraph

open Schema
open Toml (Node Table Key Span)

namespace Settings

/-- A value that does not fit, and where it stands if that is known. -/
structure Misfit where
  message : String
  span : Option Span

def Misfit.of (found : Mismatch) (span : Option Span) : Misfit :=
  ⟨found.message Decimal.positionalText, span⟩

/-- Give a misfit a place unless it has one. -/
def located (span : Option Span) (result : Except Misfit α) : Except Misfit α :=
  result.mapError fun misfit => { misfit with span := misfit.span <|> span }

/-- What messages call a value. -/
def found : Node → Found
  | .text value _ => .text value
  | .integer value _ => if value < 0 then .negative value.natAbs else .natural value.natAbs
  | .real value _ => .real value
  | .flag value _ => .flag value
  | .moment _ => .map
  | .array .. => .sequence
  | .inlineTable _ => .map
  | .table _ => .map
  | .tables _ => .sequence

def wrongType (node : Node) (expected : String) : Except Misfit α :=
  .error (.of (.wrongType (found node) expected) node.span?)

/-- A choice that carries nothing has an empty table as its value. -/
def emptyChoice (node : Node) : Except Misfit Unit :=
  match node with
  | .table table => checkEmpty table.entries.isEmpty "expected empty table"
  | .inlineTable table => checkEmpty table.entries.isEmpty "expected empty table"
  | .array items _ => checkEmpty items.isEmpty "expected empty array"
  | .tables items => checkEmpty items.isEmpty "expected empty array"
  | node => .error ⟨s!"expected table, found {node.typeName}", node.span?⟩
where
  checkEmpty (isEmpty : Bool) (message : String) : Except Misfit Unit :=
    if isEmpty then .ok () else .error ⟨message, node.span?⟩

/-- A choice by name, alone or as the only key of a table. -/
def choice (read : String → Except Mismatch β) (node : Node) : Except Misfit β :=
  let byName (name : String) (span : Option Span) : Except Misfit β :=
    (read name).mapError fun mismatch => .of mismatch span
  let byTable (table : Table) : Except Misfit β :=
    match table.entries with
    | [] => .error ⟨"wanted exactly 1 element, found 0 elements", node.span?⟩
    | [(key, value)] => do
        let chosen ← byName key.name (some key.span)
        emptyChoice value
        pure chosen
    | _ => .error ⟨"wanted exactly 1 element, more than 1 element", node.span?⟩
  match node with
  | .text name span => byName name (some span)
  | .inlineTable table => byTable table
  | .table table => byTable table
  | node => .error ⟨"wanted string or table", node.span?⟩

def scalar : Scalar β → Node → Except Misfit β
  | .flag, .flag value _ => .ok value
  | .flag, node => wrongType node "a boolean"
  | .text, .text value _ => .ok value
  | .text, node => wrongType node "a string"
  | .count, .integer value span =>
      if 0 ≤ value then .ok (UInt64.ofNat value.natAbs)
      else .error (.of (.wrongValue (.negative value.natAbs) "u64") (some span))
  | .count, node => wrongType node "u64"
  | .extractor, node => choice extractorNamed node

/-- Values by name; names that mean nothing are passed over. -/
def fromEntries (put : σ → String → Node → Except Misfit σ) (start : σ)
    (entries : List (Key × Node)) : Except Misfit σ :=
  entries.foldlM (fun state (key, node) =>
    located (node.span? <|> some key.span) (put state key.name node)) start

/-- Values in the order of the names; a missing end is left as it is. -/
def fromItems (put : σ → String → Node → Except Misfit σ) (start : σ) (names : List String)
    (items : List Node) : Except Misfit σ :=
  (names.zip items).foldlM (fun state (name, node) => put state name node) start

/-- A record as a table, or as an array in the order of its names. -/
def record (title : String) (names : List String) (put : σ → String → Node → Except Misfit σ)
    (start : σ) (node : Node) : Except Misfit σ :=
  located node.span? (match node with
    | .table table => fromEntries put start table.entries
    | .inlineTable table => fromEntries put start table.entries
    | .array items _ => fromItems put start names items
    | .tables items => fromItems put start names (items.map .table)
    | node => wrongType node title)

def putSetting (settings : List (Setting σ)) (state : σ) (name : String) (node : Node) :
    Except Misfit σ :=
  match settings.find? fun setting => setting.name == name with
  | none => .ok state
  | some setting => do
      let value ← scalar setting.scalar node
      pure (setting.put state value)

def putSection (settings : Settings) (name : String) (node : Node) : Except Misfit Settings :=
  match sections.find? fun part => part.name == name with
  | none => .ok settings
  | some part => do
      let value ← record part.title (part.settings.map (·.name)) (putSetting part.settings)
        (part.get settings) node
      pure (part.put settings value)

def ofTable (table : Table) : Except Misfit Settings :=
  record title (sections.map (·.name)) putSection {} (.table table)

/-- The settings in a document, or a message with the line that is at fault. -/
def ofDocument (text : String) : Except String Settings :=
  match Toml.parse text.toList with
  | .error error => .error (error.render text.toList)
  | .ok table =>
      match ofTable table with
      | .ok settings => .ok settings
      | .error misfit => .error ((⟨misfit.message, misfit.span⟩ : Toml.Error).render text.toList)

/-- The settings in a file. -/
def ofFile (path : String) (file : Ledger.File) : Except SettingsError Settings :=
  match Ledger.readText file with
  | .error reason => .error (.unreadable path reason)
  | .ok text => (ofDocument text).mapError (.malformed path)

end Settings

end DevlogGraph
