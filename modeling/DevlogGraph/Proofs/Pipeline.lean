import DevlogGraph.Pipeline
import DevlogGraph.Proofs.Merge

/-! Runs of a pipeline, extractor by extractor: the report is the merge of what succeeded, and what
failed leaves nothing but its line in the log. -/
namespace DevlogGraph

/-- What one extractor did when its turn came. -/
structure Turn where
  name : String
  trace : Trace (Except Failure Extraction)

namespace Turn

def answer (turn : Turn) : String × Except Failure Extraction := (turn.name, turn.trace.outcome)

/-- The line that closes a turn in the log. -/
def verdict (turn : Turn) : Event :=
  match turn.trace.outcome with
  | .ok found =>
      .extractorFinished turn.name found.entities.length found.relationships.length
  | .error failure => .extractorFailed turn.name failure.message

end Turn

/-- The answers that are no failures, with the names of their extractors. -/
def successes (answers : List (String × Except Failure Extraction)) :
    List (String × Extraction) :=
  answers.filterMap fun (name, answer) => answer.toOption.map (name, ·)

@[simp]
theorem successes_nil : successes [] = [] := rfl

@[simp]
theorem successes_ok (name : String) (found : Extraction)
    (later : List (String × Except Failure Extraction)) :
    successes ((name, .ok found) :: later) = (name, found) :: successes later := rfl

@[simp]
theorem successes_error (name : String) (failure : Failure)
    (later : List (String × Except Failure Extraction)) :
    successes ((name, .error failure) :: later) = successes later := rfl

theorem successes_append (first second : List (String × Except Failure Extraction)) :
    successes (first ++ second) = successes first ++ successes second :=
  List.filterMap_append

/-- The report adds up to these findings, taken in this order. -/
structure Report.MergedFrom (report : Report) (found : List (String × Extraction)) : Prop where
  entities : report.entities = Merger.settleAll [] (found.flatMap (·.2.entities))
  relationships : report.relationships = found.flatMap (·.2.relationships)
  extractor : report.extractor =
    if found.isEmpty then "none" else "+".intercalate (found.map (·.1))

/-- Two reports that may differ only in the time they took. -/
structure Report.Agrees (report other : Report) : Prop where
  entities : report.entities = other.entities
  relationships : report.relationships = other.relationships
  extractor : report.extractor = other.extractor

theorem Report.MergedFrom.agrees {report other : Report} (first : report.MergedFrom found)
    (second : other.MergedFrom found) : report.Agrees other where
  entities := first.entities.trans second.entities.symm
  relationships := first.relationships.trans second.relationships.symm
  extractor := first.extractor.trans second.extractor.symm

namespace Findings

def addAll (findings : Findings) (found : List (String × Extraction)) : Findings :=
  found.foldl (fun findings (name, extraction) => findings.add name extraction) findings

theorem addAll_merger (findings : Findings) (found : List (String × Extraction)) :
    (findings.addAll found).merger =
      findings.merger.offerAll (found.flatMap (·.2.entities)) := by
  induction found generalizing findings with
  | nil => rfl
  | cons first rest ih =>
    have step : findings.addAll (first :: rest) = (findings.add first.1 first.2).addAll rest := rfl
    rw [step, ih, List.flatMap_cons, Merger.offerAll_append]
    rfl

theorem addAll_relationships (findings : Findings) (found : List (String × Extraction)) :
    (findings.addAll found).relationships =
      findings.relationships ++ found.flatMap (·.2.relationships) := by
  induction found generalizing findings with
  | nil => simp [addAll]
  | cons first rest ih =>
    have step : findings.addAll (first :: rest) = (findings.add first.1 first.2).addAll rest := rfl
    rw [step, ih]
    simp [add]

theorem addAll_contributors (findings : Findings) (found : List (String × Extraction)) :
    (findings.addAll found).contributors = findings.contributors ++ found.map (·.1) := by
  induction found generalizing findings with
  | nil => simp [addAll]
  | cons first rest ih =>
    have step : findings.addAll (first :: rest) = (findings.add first.1 first.2).addAll rest := rfl
    rw [step, ih]
    simp [add]

end Findings

namespace Pipeline

/-- The turns of a run; each extractor starts where the one before it ended. -/
def turns (devlog : String) : List Extractor → Clock → List Turn
  | [], _ => []
  | extractor :: later, clock =>
      let trace := extractor.extract devlog clock
      ⟨extractor.name, trace⟩ :: turns devlog later trace.clock

/-- The time at which the last turn ends. -/
def afterTurns (devlog : String) : List Extractor → Clock → Clock
  | [], clock => clock
  | extractor :: later, clock => afterTurns devlog later (extractor.extract devlog clock).clock

theorem turns_append (devlog : String) (first second : List Extractor) (clock : Clock) :
    turns devlog (first ++ second) clock =
      turns devlog first clock ++ turns devlog second (afterTurns devlog first clock) := by
  induction first generalizing clock with
  | nil => rfl
  | cons extractor later ih => simp [turns, afterTurns, ih]

theorem afterTurns_append (devlog : String) (first second : List Extractor) (clock : Clock) :
    afterTurns devlog (first ++ second) clock =
      afterTurns devlog second (afterTurns devlog first clock) := by
  induction first generalizing clock with
  | nil => rfl
  | cons extractor later ih => simp [afterTurns, ih]

theorem turns_names (devlog : String) (extractors : List Extractor) (clock : Clock) :
    (turns devlog extractors clock).map (·.name) = extractors.map (·.name) := by
  induction extractors generalizing clock with
  | nil => rfl
  | cons extractor later ih => simp [turns, ih]

/-- A turn adds its findings, or nothing, and its verdict. -/
private theorem step_eq (devlog : String) (extractor : Extractor) (findings : Findings)
    (clock : Clock) :
    let trace := extractor.extract devlog clock
    let turn : Turn := ⟨extractor.name, trace⟩
    step devlog extractor findings clock = {
      outcome := findings.addAll (successes [turn.answer])
      made := trace.made
      events := trace.events ++ [turn.verdict]
      clock := trace.clock } := by
  cases answered : (extractor.extract devlog clock).outcome with
  | ok found =>
    simp [step, Trace.andThen, Turn.answer, Turn.verdict, answered, Findings.addAll]
  | error failure =>
    simp [step, Trace.andThen, Turn.answer, Turn.verdict, answered, Findings.addAll]

theorem collect_eq (devlog : String) (extractors : List Extractor) (findings : Findings)
    (clock : Clock) :
    let turns := turns devlog extractors clock
    collect devlog extractors findings clock = {
      outcome := findings.addAll (successes (turns.map (·.answer)))
      made := turns.flatMap (·.trace.made)
      events := turns.flatMap fun turn => turn.trace.events ++ [turn.verdict]
      clock := afterTurns devlog extractors clock } := by
  induction extractors generalizing findings clock with
  | nil => rfl
  | cons extractor later ih =>
    have split (first : Turn) (rest : List Turn) :
        successes ((first :: rest).map (·.answer)) =
          successes [first.answer] ++ successes (rest.map (·.answer)) :=
      successes_append [first.answer] _
    simp only [collect, Trace.andThen, step_eq, ih, turns, afterTurns, split]
    simp [Findings.addAll]

variable (pipeline : Pipeline) (devlog : String) (clock : Clock)

theorem run_merged : (pipeline.run devlog clock).outcome.MergedFrom
    (successes ((turns devlog pipeline.extractors clock).map (·.answer))) := by
  simp only [run, Trace.andThen, collect_eq]
  constructor
  · simp only [Findings.addAll_merger, Merger.offerAll_entities]
  · simp only [Findings.addAll_relationships, List.nil_append]
  · simp only [Findings.label, Findings.addAll_contributors, List.nil_append, List.isEmpty_map]

theorem run_made : (pipeline.run devlog clock).made =
    (turns devlog pipeline.extractors clock).flatMap (·.trace.made) := by
  simp [run, Trace.andThen, collect_eq]

theorem run_clock : (pipeline.run devlog clock).clock =
    afterTurns devlog pipeline.extractors clock := by
  simp [run, Trace.andThen, collect_eq]

theorem run_events :
    let report := (pipeline.run devlog clock).outcome
    (pipeline.run devlog clock).events =
      ((turns devlog pipeline.extractors clock).flatMap fun turn =>
        turn.trace.events ++ [turn.verdict]) ++
      [.extractionComplete report.extractor report.entities.length
        report.relationships.length] := by
  simp [run, Trace.andThen, collect_eq]

/-- Outcomes are assigned to extractors: whenever its turn comes, each answers with its own. -/
def Assigned (outcome : Extractor → Except Failure Extraction) : Prop :=
  ∀ extractor ∈ pipeline.extractors, ∀ clock,
    (extractor.extract devlog clock).outcome = outcome extractor

variable {pipeline devlog}

theorem Assigned.answers {outcome : Extractor → Except Failure Extraction}
    (assigned : Assigned pipeline devlog outcome) (clock : Clock) :
    (turns devlog pipeline.extractors clock).map (·.answer) =
      pipeline.extractors.map fun extractor => (extractor.name, outcome extractor) := by
  obtain ⟨extractors⟩ := pipeline
  induction extractors generalizing clock with
  | nil => rfl
  | cons extractor later ih =>
    have first := assigned extractor (List.mem_cons_self ..) clock
    have rest : Assigned ⟨later⟩ devlog outcome :=
      fun other member => assigned other (List.mem_cons_of_mem _ member)
    rw [turns, List.map_cons, List.map_cons, ih _ rest, Turn.answer, first]

/-- The pipeline without the extractors that fail. -/
def withoutFailing (pipeline : Pipeline) (outcome : Extractor → Except Failure Extraction) :
    Pipeline :=
  ⟨pipeline.extractors.filter fun extractor => (outcome extractor).isOk⟩

private theorem Assigned.withoutFailing {outcome : Extractor → Except Failure Extraction}
    (assigned : Assigned pipeline devlog outcome) :
    Assigned (pipeline.withoutFailing outcome) devlog outcome :=
  fun extractor member => assigned extractor (List.mem_of_mem_filter member)

/-- A failing extractor adds no success, wherever it stands. -/
private theorem successes_withoutFailing (outcome : Extractor → Except Failure Extraction)
    (extractors : List Extractor) :
    successes ((extractors.filter fun extractor => (outcome extractor).isOk).map
      fun extractor => (extractor.name, outcome extractor)) =
    successes (extractors.map fun extractor => (extractor.name, outcome extractor)) := by
  induction extractors with
  | nil => rfl
  | cons extractor later ih =>
    rw [List.filter_cons, List.map_cons]
    cases answered : outcome extractor with
    | ok found =>
      have kept : (Except.ok found : Except Failure Extraction).isOk = true := rfl
      rw [if_pos kept, List.map_cons, answered, successes_ok, successes_ok, ih]
    | error failure =>
      have dropped : (Except.error failure : Except Failure Extraction).isOk = false := rfl
      rw [if_neg (by simp [dropped]), successes_error, ih]

/-- The report merges what the successful extractors found, in the order of registration, and the
log tells each verdict in that order. Extractors that fail may as well not be there. -/
theorem run_merges_successes (pipeline : Pipeline) (devlog : String) (clock : Clock) :
    let turns := turns devlog pipeline.extractors clock
    let trace := pipeline.run devlog clock
    let report := trace.outcome
    turns.map (·.name) = pipeline.names ∧
    report.MergedFrom (successes (turns.map (·.answer))) ∧
    trace.events =
      (turns.flatMap fun turn => turn.trace.events ++ [turn.verdict]) ++
      [.extractionComplete report.extractor report.entities.length report.relationships.length] ∧
    ∀ outcome, Assigned pipeline devlog outcome →
      report.MergedFrom (successes (pipeline.extractors.map fun extractor =>
        (extractor.name, outcome extractor))) ∧
      ∀ start, report.Agrees ((pipeline.withoutFailing outcome).run devlog start).outcome := by
  refine ⟨turns_names .., run_merged .., run_events .., ?_⟩
  intro outcome assigned
  have merged := run_merged pipeline devlog clock
  rw [assigned.answers] at merged
  refine ⟨merged, ?_⟩
  intro start
  have alone := run_merged (pipeline.withoutFailing outcome) devlog start
  rw [assigned.withoutFailing.answers] at alone
  exact merged.agrees (successes_withoutFailing outcome pipeline.extractors ▸ alone)

theorem run_merges_successes_around_failure :
    let edge : Relationship := ⟨"api", "db", "writes"⟩
    let first := Extractor.fixed "first" (.ok { relationships := [edge] })
    let broken := Extractor.fixed "broken" (.error .cancelled)
    let last := Extractor.fixed "last" (.ok { relationships := [edge] })
    let report := (run ⟨[first, broken, last]⟩ "" {}).outcome
    Assigned ⟨[first, broken, last]⟩ "" (fun extractor => (extractor.extract "" {}).outcome) ∧
    report.relationships = [edge, edge] ∧ report.extractor = "first+last" ∧
    report.Agrees (run ⟨[first, last]⟩ "" {}).outcome := by
  intro edge first broken last report
  have assigned : Assigned ⟨[first, broken, last]⟩ ""
      (fun extractor => (extractor.extract "" {}).outcome) := by
    intro extractor member clock
    simp only [List.mem_cons, List.not_mem_nil, or_false] at member
    rcases member with rfl | rfl | rfl <;> rfl
  obtain ⟨merged, alone⟩ :=
    (run_merges_successes ⟨[first, broken, last]⟩ "" {}).2.2.2 _ assigned
  exact ⟨assigned, merged.relationships, merged.extractor, alone {}⟩

end Pipeline

end DevlogGraph
