import DevlogGraph.Json.Record
import DevlogGraph.Json.Write
import DevlogGraph.Report

/-! The stored form of entities, relationships and reports. -/
namespace DevlogGraph.Record

open Json Schema

/-- A field that must be there. -/
def required (name : String) : Option α → Except Mismatch α
  | some value => .ok value
  | none => .error (.missing name)

/-- A field that is kept in an optional slot of the state. -/
def slot (name : String) (get : σ → Option β) (put : σ → β → σ) (reader : Reader β) : Slot σ where
  name := name
  filled state := (get state).isSome
  read state := do
    let value ← reader
    pure (put state value)

structure EntityParts where
  name : Option String := none
  kind : Option String := none
  confidence : Option Float := none
  source : Option String := none

def entityLayout : Layout EntityParts Entity where
  title := "struct Entity"
  sized := "struct Entity with 4 elements"
  fields := [
    slot "name" (·.name) (fun parts value => { parts with name := some value }) text,
    slot "type" (·.kind) (fun parts value => { parts with kind := some value }) text,
    slot "confidence" (·.confidence) (fun parts value => { parts with confidence := some value })
      real,
    slot "source" (·.source) (fun parts value => { parts with source := some value }) text]
  closed := false
  partly := false
  start := {}
  finish parts := do
    let name ← required "name" parts.name
    let kind ← required "type" parts.kind
    let confidence ← required "confidence" parts.confidence
    let source ← required "source" parts.source
    pure ⟨name, kind, confidence, source⟩

structure RelationshipParts where
  source : Option String := none
  target : Option String := none
  kind : Option String := none

def relationshipLayout : Layout RelationshipParts Relationship where
  title := "struct Relationship"
  sized := "struct Relationship with 3 elements"
  fields := [
    slot "from_entity" (·.source) (fun parts value => { parts with source := some value }) text,
    slot "to_entity" (·.target) (fun parts value => { parts with target := some value }) text,
    slot "type" (·.kind) (fun parts value => { parts with kind := some value }) text]
  closed := false
  partly := false
  start := {}
  finish parts := do
    let source ← required "from_entity" parts.source
    let target ← required "to_entity" parts.target
    let kind ← required "type" parts.kind
    pure ⟨source, target, kind⟩

structure ElapsedParts where
  seconds : Option Nat := none
  nanos : Option Nat := none

def elapsedLayout : Layout ElapsedParts Elapsed where
  title := "struct Duration"
  sized := "struct Duration"
  fields := [
    slot "secs" (·.seconds) (fun parts value => { parts with seconds := some value })
      (natural UInt64.size "u64"),
    slot "nanos" (·.nanos) (fun parts value => { parts with nanos := some value })
      (natural UInt32.size "u32")]
  closed := true
  partly := false
  start := {}
  finish parts := do
    let seconds ← required "secs" parts.seconds
    let nanos ← required "nanos" parts.nanos
    if seconds + nanos / 1000000000 < UInt64.size then pure (.of seconds nanos)
    else throw (.other "overflow deserializing Duration")

structure ReportParts where
  entities : Option (List Entity) := none
  relationships : Option (List Relationship) := none
  elapsed : Option Elapsed := none
  extractor : Option String := none

def reportLayout : Layout ReportParts Report where
  title := "struct ExtractionResult"
  sized := "struct ExtractionResult with 4 elements"
  fields := [
    slot "entities" (·.entities) (fun parts value => { parts with entities := some value })
      (list entityLayout.read),
    slot "relationships" (·.relationships)
      (fun parts value => { parts with relationships := some value })
      (list relationshipLayout.read),
    slot "duration" (·.elapsed) (fun parts value => { parts with elapsed := some value })
      elapsedLayout.read,
    slot "extractor" (·.extractor) (fun parts value => { parts with extractor := some value })
      text]
  closed := false
  partly := false
  start := {}
  finish parts := do
    let entities ← required "entities" parts.entities
    let relationships ← required "relationships" parts.relationships
    let elapsed ← required "duration" parts.elapsed
    let extractor ← required "extractor" parts.extractor
    pure ⟨entities, relationships, elapsed, extractor⟩

def ofEntity (entity : Entity) : Value := .object [
  ("name", .text entity.name), ("type", .text entity.kind),
  ("confidence", .number (.real entity.confidence)), ("source", .text entity.source)]

def ofRelationship (edge : Relationship) : Value := .object [
  ("from_entity", .text edge.source), ("to_entity", .text edge.target), ("type", .text edge.kind)]

def ofElapsed (elapsed : Elapsed) : Value := .object [
  ("secs", .number (.natural elapsed.seconds)), ("nanos", .number (.natural elapsed.nanos))]

def ofReport (report : Report) : Value := .object [
  ("entities", .list (report.entities.map ofEntity)),
  ("relationships", .list (report.relationships.map ofRelationship)),
  ("duration", ofElapsed report.elapsed), ("extractor", .text report.extractor)]

end DevlogGraph.Record
