import DevlogGraph.Extraction
import DevlogGraph.Time.Instant

/-! The outcome of a run over all extractors, and the line it leaves in the extraction log. -/
namespace DevlogGraph

/-- A span of time; less than a second is counted in nanoseconds. -/
structure Elapsed where
  seconds : Nat
  nanos : Nat
  deriving DecidableEq

/-- Whole seconds among the nanoseconds are carried over. -/
def Elapsed.of (seconds nanos : Nat) : Elapsed :=
  ⟨seconds + nanos / 1000000000, nanos % 1000000000⟩

def Elapsed.milliseconds (elapsed : Elapsed) : Nat :=
  elapsed.seconds * 1000 + elapsed.nanos / 1000000

structure Report where
  /-- At most one entity a name, in the order of first sight. -/
  entities : List Entity
  relationships : List Relationship
  elapsed : Elapsed
  /-- The extractors that contributed. -/
  extractor : String

namespace Report

/-- The entity that a name, in any spelling, stands for. -/
def entity? (report : Report) (name : String) : Option Entity :=
  report.entities.find? fun entity => entity.name == normalName name

end Report

structure LogEntry where
  session : Option String
  extractor : String
  /-- Size of the devlog in bytes. -/
  inputLength : UInt64
  entitiesFound : UInt64
  milliseconds : UInt64
  recordedAt : Time.Instant

/-- The log line of a run over `input` that is recorded at `now`. -/
def Report.logEntry (report : Report) (session : Option String) (input : String)
    (now : Time.Instant) : LogEntry where
  session := session
  extractor := report.extractor
  inputLength := UInt64.ofNat input.utf8ByteSize
  entitiesFound := UInt64.ofNat report.entities.length
  milliseconds := UInt64.ofNat report.elapsed.milliseconds
  recordedAt := now

end DevlogGraph
