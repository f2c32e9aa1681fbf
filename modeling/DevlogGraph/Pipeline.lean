import DevlogGraph.Clock
import DevlogGraph.Merge
import DevlogGraph.Model.Extractor
import DevlogGraph.Pattern
import DevlogGraph.Report

/-! Extractors run one after another, and their findings are merged. One that fails is skipped. -/
namespace DevlogGraph

structure Extractor where
  name : String
  extract : String → Clock → Trace (Except Failure Extraction)

namespace Extractor

/-- An extractor whose answer does not depend on the devlog. -/
def fixed (name : String) (answer : Except Failure Extraction) : Extractor where
  name := name
  extract _ clock := { outcome := answer, clock := clock }

def pattern : Extractor where
  name := Pattern.sourceTag
  extract devlog clock := { outcome := .ok (Pattern.extract devlog), clock := clock }

def ofModel (extractor : Model.Extractor) : Extractor where
  name := Model.sourceTag
  extract devlog clock := extractor.extract devlog clock

end Extractor

/-- Findings so far, and the extractors they came from. -/
structure Findings where
  merger : Merger := {}
  relationships : List Relationship := []
  contributors : List String := []

namespace Findings

def add (findings : Findings) (name : String) (found : Extraction) : Findings where
  merger := findings.merger.offerAll found.entities
  relationships := findings.relationships ++ found.relationships
  contributors := findings.contributors ++ [name]

/-- The contributors joined by `+`, or `none`. -/
def label (findings : Findings) : String :=
  if findings.contributors.isEmpty then "none" else "+".intercalate findings.contributors

end Findings

structure Pipeline where
  extractors : List Extractor

namespace Pipeline

/-- Extraction by fixed rules only. -/
def patternOnly : Pipeline := ⟨[.pattern]⟩

def register (pipeline : Pipeline) (extractor : Extractor) : Pipeline :=
  ⟨pipeline.extractors ++ [extractor]⟩

def names (pipeline : Pipeline) : List String := pipeline.extractors.map (·.name)

/-- Run one extractor and take in what it finds. -/
def step (devlog : String) (extractor : Extractor) (findings : Findings) (clock : Clock) :
    Trace Findings :=
  (extractor.extract devlog clock).andThen fun
    | .ok found, clock => {
        outcome := findings.add extractor.name found
        events := [.extractorFinished extractor.name found.entities.length
          found.relationships.length]
        clock := clock }
    | .error failure, clock => {
        outcome := findings
        events := [.extractorFailed extractor.name failure.message]
        clock := clock }

def collect (devlog : String) : List Extractor → Findings → Clock → Trace Findings
  | [], findings, clock => { outcome := findings, clock := clock }
  | extractor :: later, findings, clock =>
      (step devlog extractor findings clock).andThen (collect devlog later)

/-- Run all extractors in the order of their registration. -/
def run (pipeline : Pipeline) (devlog : String) (clock : Clock) : Trace Report :=
  (collect devlog pipeline.extractors {} clock).andThen fun findings after =>
    let elapsed := after.now - clock.now
    let report : Report := {
      entities := findings.merger.entities
      relationships := findings.relationships
      elapsed := ⟨elapsed / 1000, elapsed % 1000 * 1000000⟩
      extractor := findings.label }
    {
      outcome := report
      events := [.extractionComplete report.extractor report.entities.length
        report.relationships.length]
      clock := after }

end Pipeline

end DevlogGraph
