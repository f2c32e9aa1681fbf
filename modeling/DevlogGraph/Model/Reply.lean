import DevlogGraph.Extraction
import DevlogGraph.Failure
import DevlogGraph.Record.Findings

/-! Replies of a model: a JSON object with entities and relationships, perhaps in a code fence. -/
namespace DevlogGraph.Model

open Json Schema Text

def sourceTag : String := "llm"

def confidence : Float := 1.0

/-- Names with fewer characters are dropped. -/
def shortestName : Nat := 2

def fence : List Char := ['\x60', '\x60', '\x60']

def jsonFence : List Char := fence ++ ['j', 's', 'o', 'n']

def withoutPrefix? (start text : List Char) : Option (List Char) :=
  if start.isPrefixOf text then some (text.drop start.length) else none

def withoutOpeningFence (text : List Char) : List Char :=
  (withoutPrefix? jsonFence text <|> withoutPrefix? fence text).getD text

def withoutClosingFence (text : List Char) : List Char :=
  if fence.isSuffixOf text then text.take (text.length - fence.length) else text

/-- The payload of a reply. -/
def cleaned (reply : List Char) : List Char :=
  trim (withoutClosingFence (withoutOpeningFence (trim reply)))

/-- An entity as a model writes it, with one name or several. -/
structure ReplyEntity where
  names : List String
  kind : String

structure ReplyRelationship where
  source : String
  target : String
  kind : String

structure ReplyBody where
  entities : List ReplyEntity
  relationships : List ReplyRelationship

/-- How deep lists and objects may nest in the place of a name. -/
def nameDepth : Nat := 124

def textOf? : Value → Option String
  | .text value => some value
  | _ => none

/-- One name, or a list of names. -/
def namesOf? : Value → Option (List String)
  | .text value => some [value]
  | .list items => items.mapM textOf?
  | _ => none

def names : Reader (List String) := do
  let found ← Json.value nameDepth
  match namesOf? found with
  | some names => pure names
  | none => Reader.refuse (.noAlternative "untagged enum NameField")

structure ReplyEntityParts where
  names : Option (List String) := none
  kind : Option String := none

def entityLayout : Layout ReplyEntityParts ReplyEntity where
  title := "struct RawEntity"
  sized := "struct RawEntity with 2 elements"
  fields := [
    Record.slot "name" (·.names) (fun parts value => { parts with names := some value }) names,
    Record.slot "type" (·.kind) (fun parts value => { parts with kind := some value }) text]
  closed := false
  partly := false
  start := {}
  finish parts := do
    let names ← Record.required "name" parts.names
    let kind ← Record.required "type" parts.kind
    pure ⟨names, kind⟩

structure ReplyRelationshipParts where
  source : Option String := none
  target : Option String := none
  kind : Option String := none

def relationshipLayout : Layout ReplyRelationshipParts ReplyRelationship where
  title := "struct RawRelationship"
  sized := "struct RawRelationship with 3 elements"
  fields := [
    Record.slot "from" (·.source) (fun parts value => { parts with source := some value }) text,
    Record.slot "to" (·.target) (fun parts value => { parts with target := some value }) text,
    Record.slot "type" (·.kind) (fun parts value => { parts with kind := some value }) text]
  closed := false
  partly := false
  start := {}
  finish parts := do
    let source ← Record.required "from" parts.source
    let target ← Record.required "to" parts.target
    let kind ← Record.required "type" parts.kind
    pure ⟨source, target, kind⟩

structure ReplyBodyParts where
  entities : Option (List ReplyEntity) := none
  relationships : Option (List ReplyRelationship) := none

def replyLayout : Layout ReplyBodyParts ReplyBody where
  title := "struct RawResponse"
  sized := "struct RawResponse with 2 elements"
  fields := [
    Record.slot "entities" (·.entities) (fun parts value => { parts with entities := some value })
      (list entityLayout.read),
    Record.slot "relationships" (·.relationships)
      (fun parts value => { parts with relationships := some value })
      (list relationshipLayout.read)]
  closed := true
  partly := false
  start := {}
  finish parts := do
    let entities ← Record.required "entities" parts.entities
    let relationships ← Record.required "relationships" parts.relationships
    pure ⟨entities, relationships⟩

/-- One entity for each name that is long enough. -/
def ReplyEntity.entities (raw : ReplyEntity) : List Entity :=
  raw.names.filterMap fun name =>
    if (normalName name).length < shortestName then none
    else some (.of (normalName name) raw.kind confidence sourceTag)

/-- The edge, if both of its ends have a name. -/
def ReplyRelationship.relationship? (raw : ReplyRelationship) : Option Relationship :=
  if (normalName raw.source).isEmpty || (normalName raw.target).isEmpty then none
  else some (.of (normalName raw.source) (normalName raw.target) raw.kind)

def ReplyBody.extraction (raw : ReplyBody) : Extraction where
  entities := raw.entities.flatMap ReplyEntity.entities
  relationships := raw.relationships.filterMap ReplyRelationship.relationship?

/-- What a reply says. A failure keeps the beginning of the whole reply, fences and all. -/
def readReply (reply : String) : Except Failure Extraction :=
  let payload := cleaned reply.toList
  match readAll replyLayout.read payload with
  | .ok raw => .ok raw.extraction
  | .error found => .error (.ofReply (found.message payload) reply)

end DevlogGraph.Model
