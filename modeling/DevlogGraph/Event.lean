/-! What a run tells the log. -/
namespace DevlogGraph

inductive Level where
  | trace
  | debug
  | info
  | warn
  | error
  deriving DecidableEq, Repr

def Level.name : Level → String
  | trace => "TRACE"
  | debug => "DEBUG"
  | info => "INFO"
  | warn => "WARN"
  | error => "ERROR"

/-- Levels from the least to the most severe. -/
def Level.severity : Level → Nat
  | trace => 0
  | debug => 1
  | info => 2
  | warn => 3
  | error => 4

inductive Event where
  | settingOverridden (key : String)
  | modelNotListed (model : String)
  /-- A reply of that many bytes arrived. -/
  | replyReceived (model : String) (size : Nat)
  | extractorFinished (extractor : String) (entities relationships : Nat)
  | extractorFailed (extractor reason : String)
  /-- A run is over. Its line in the log has one more field, `duration_ms`: the time the run took, which
  the report holds. That field is left out here. -/
  | extractionComplete (extractor : String) (entities relationships : Nat)
  | modelUnavailable (reason : String)
  | writtenBack (path : String) (appended : Nat)
  deriving DecidableEq

/-- A value attached to an event. -/
inductive Detail where
  | text (value : String)
  | count (value : Nat)

namespace Event

def level : Event → Level
  | settingOverridden _ => .debug
  | modelNotListed _ => .debug
  | replyReceived .. => .debug
  | extractorFinished .. => .debug
  | extractorFailed .. => .warn
  | extractionComplete .. => .info
  | modelUnavailable _ => .warn
  | writtenBack .. => .info

def message : Event → String
  | settingOverridden _ => "configuration overridden"
  | modelNotListed _ => "model not listed by service, generating anyway"
  | replyReceived .. => "model response received"
  | extractorFinished .. => "extractor finished"
  | extractorFailed .. => "extractor failed, skipping"
  | extractionComplete .. => "extraction complete"
  | modelUnavailable _ => "model extractor unavailable, continuing with patterns only"
  | writtenBack .. => "crystallized relationships"

/-- The fields of the event's line in the log, but for the `duration_ms` of a run. -/
def details : Event → List (String × Detail)
  | settingOverridden key => [("key", .text key)]
  | modelNotListed model => [("model", .text model)]
  | replyReceived model size => [("model", .text model), ("bytes", .count size)]
  | extractorFinished extractor entities relationships => [
      ("extractor", .text extractor), ("entities", .count entities),
      ("relationships", .count relationships)]
  | extractorFailed extractor reason => [("extractor", .text extractor), ("error", .text reason)]
  | extractionComplete extractor entities relationships => [
      ("extractor", .text extractor), ("entities", .count entities),
      ("relationships", .count relationships)]
  | modelUnavailable reason => [("error", .text reason)]
  | writtenBack path appended => [("path", .text path), ("appended", .count appended)]

end Event

end DevlogGraph
