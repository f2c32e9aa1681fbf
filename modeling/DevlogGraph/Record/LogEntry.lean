import DevlogGraph.Record.Findings

/-! The stored form of the extraction log. -/
namespace DevlogGraph.Record

open Json Schema

structure LogEntryParts where
  session : Option (Option String) := none
  extractor : Option String := none
  inputLength : Option Nat := none
  entitiesFound : Option Nat := none
  milliseconds : Option Nat := none
  recordedAt : Option Time.Instant := none

def instant : Reader Time.Instant :=
  textAs "an RFC 3339 formatted date and time string" fun found =>
    match Time.Instant.read found with
    | .ok value => .ok value
    | .error problem => .error (.other problem.message)

def logEntryLayout : Layout LogEntryParts LogEntry where
  title := "struct ExtractionLogEntry"
  sized := "struct ExtractionLogEntry with 6 elements"
  fields := [
    slot "session_id" (·.session) (fun parts value => { parts with session := some value })
      (optional text),
    slot "extractor" (·.extractor) (fun parts value => { parts with extractor := some value })
      text,
    slot "input_length" (·.inputLength)
      (fun parts value => { parts with inputLength := some value }) (natural UInt64.size "usize"),
    slot "entities_found" (·.entitiesFound)
      (fun parts value => { parts with entitiesFound := some value }) (natural UInt64.size "usize"),
    slot "duration_ms" (·.milliseconds)
      (fun parts value => { parts with milliseconds := some value }) (natural UInt64.size "u64"),
    slot "recorded_at" (·.recordedAt) (fun parts value => { parts with recordedAt := some value })
      instant]
  closed := false
  partly := false
  start := {}
  finish parts := do
    let extractor ← required "extractor" parts.extractor
    let inputLength ← required "input_length" parts.inputLength
    let entitiesFound ← required "entities_found" parts.entitiesFound
    let milliseconds ← required "duration_ms" parts.milliseconds
    let recordedAt ← required "recorded_at" parts.recordedAt
    pure {
      session := parts.session.getD none
      extractor := extractor
      inputLength := UInt64.ofNat inputLength
      entitiesFound := UInt64.ofNat entitiesFound
      milliseconds := UInt64.ofNat milliseconds
      recordedAt := recordedAt }

def ofWord (value : UInt64) : Value := .number (.natural value.toNat)

def ofLogEntry (entry : LogEntry) : Value := .object [
  ("session_id", match entry.session with
    | some session => .text session
    | none => .null),
  ("extractor", .text entry.extractor), ("input_length", ofWord entry.inputLength),
  ("entities_found", ofWord entry.entitiesFound), ("duration_ms", ofWord entry.milliseconds),
  ("recorded_at", .text entry.recordedAt.write)]

end DevlogGraph.Record
