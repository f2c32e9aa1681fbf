import DevlogGraph.Proofs.Model.Reply
import DevlogGraph.Proofs.Pattern.Entities
import DevlogGraph.Proofs.Pipeline

/-! A model registered after the rules: where it answers it has the last word on a name, and where
it fails the findings of the rules stand. -/
namespace DevlogGraph

/-- The report has the findings of a model on top of those of the rules. -/
structure Report.Overrides (report : Report) (patterns found : Extraction) : Prop where
  names : report.entities.map (·.name) = patterns.entities.map (·.name) ++
    (found.entities.map (·.name)).eraseDups.filter
      fun name => !(patterns.entities.map (·.name)).contains name
  overridden : ∀ entity ∈ report.entities, ∀ first,
    found.entities.find? (·.name == entity.name) = some first →
      entity = first ∧ entity.confidence = 1.0 ∧ entity.source = "llm"
  untouched : ∀ entity ∈ report.entities,
    found.entities.find? (·.name == entity.name) = none →
      entity ∈ patterns.entities ∧ entity.confidence = 0.8 ∧ entity.source = "pattern" ∧
        entity.kind = "component"
  relationships : report.relationships = patterns.relationships ++ found.relationships
  extractor : report.extractor = "pattern+llm"

namespace Pipeline

/-- Rules alone report what they find, each entity once. -/
private theorem run_patternOnly (devlog : String) (clock : Clock) :
    let report := (patternOnly.run devlog clock).outcome
    report.entities = Pattern.entities devlog ∧
      report.relationships = Pattern.relationships devlog ∧ report.extractor = "pattern" := by
  have merged := run_merged patternOnly devlog clock
  refine ⟨?_, merged.relationships.trans (List.append_nil _), merged.extractor⟩
  have alone : Merger.settleAll [] (Pattern.entities devlog) = Pattern.entities devlog :=
    Merger.settleAll_fresh (Pattern.entities_names_nodup devlog)
  refine merged.entities.trans (Eq.trans ?_ alone)
  exact congrArg (Merger.settleAll []) (List.append_nil _)

/-- The answers of rules and model, in this order. -/
private theorem run_over_patterns (model : Model.Extractor) (devlog : String) (clock : Clock) :
    ((patternOnly.register (.ofModel model)).run devlog clock).outcome.MergedFrom
      (successes [("pattern", .ok (Pattern.extract devlog)),
        ("llm", (model.extract devlog clock).outcome)]) :=
  run_merged (patternOnly.register (.ofModel model)) devlog clock

private theorem overrides_of_merged {report : Report} {found : Extraction} (devlog : String)
    (stamped : ∀ entity ∈ found.entities,
      entity.confidence = Model.confidence ∧ entity.source = Model.sourceTag)
    (merged : report.MergedFrom [("pattern", Pattern.extract devlog), ("llm", found)]) :
    report.Overrides (Pattern.extract devlog) found := by
  have distinct := Pattern.entities_names_nodup devlog
  have layered : report.entities =
      Merger.settleAll (Pattern.entities devlog) found.entities := by
    have alone : Merger.settleAll [] (Pattern.entities devlog) = Pattern.entities devlog :=
      Merger.settleAll_fresh distinct
    calc report.entities
        = Merger.settleAll [] (Pattern.entities devlog ++ (found.entities ++ [])) := merged.entities
      _ = Merger.settleAll (Pattern.entities devlog) found.entities := by
        rw [List.append_nil, Merger.settleAll_append, alone]
  have holder {entity : Entity} (member : entity ∈ report.entities) :
      (Merger.holder? entity.name found.entities).or
        (Merger.holder? entity.name (Pattern.entities devlog)) = some entity := by
    rw [layered] at member
    have held := Merger.holder_of_mem (Merger.settleAll_nodup distinct _) member
    rwa [Merger.holder_settleAll_of_stronger Pattern.entityConfidence Model.confidence
      (fun _ inside => (Pattern.entity_stamp inside).2.1)
      (fun other inside => (stamped other inside).1) (by decide) (by decide)] at held
  constructor
  · rw [layered]
    exact Merger.settleAll_names _ _
  · intro entity member first found_first
    have held := holder member
    rw [Merger.holder?, found_first, Option.some_or, Option.some.injEq] at held
    subst held
    obtain ⟨score, source⟩ := stamped first (List.mem_of_find?_eq_some found_first)
    exact ⟨rfl, score, source⟩
  · intro entity member absent
    have held := holder member
    rw [Merger.holder?, absent, Option.none_or] at held
    have inside : entity ∈ Pattern.entities devlog := List.mem_of_find?_eq_some held
    obtain ⟨kind, score, source⟩ := Pattern.entity_stamp inside
    exact ⟨inside, score, source, kind⟩
  · rw [merged.relationships]
    exact congrArg _ (List.append_nil _)
  · exact merged.extractor

/-- A model after the rules never loses what the rules find. If it fails, for whatever reason, the
report is that of the rules alone; if it answers, its first word on each name replaces that of the
rules in place, and the rest of what it says comes behind. -/
theorem run_overrides_or_degrades (model : Model.Extractor) (devlog : String) (clock : Clock) :
    let report := ((patternOnly.register (.ofModel model)).run devlog clock).outcome
    (∀ start, let alone := (patternOnly.run devlog start).outcome
      alone.entities = (Pattern.extract devlog).entities ∧
        alone.relationships = (Pattern.extract devlog).relationships ∧
        alone.extractor = "pattern") ∧
    (∀ failure, (model.extract devlog clock).outcome = .error failure →
      ∀ start, report.Agrees (patternOnly.run devlog start).outcome) ∧
    ∀ found, (model.extract devlog clock).outcome = .ok found →
      report.Overrides (Pattern.extract devlog) found := by
  refine ⟨run_patternOnly devlog, ?_, ?_⟩
  · intro failure failed start
    have merged := run_over_patterns model devlog clock
    rw [failed] at merged
    exact merged.agrees (run_merged patternOnly devlog start)
  · intro found answered
    have merged := run_over_patterns model devlog clock
    rw [answered] at merged
    obtain ⟨reply, read⟩ := Model.Extractor.extract_ok answered
    exact overrides_of_merged devlog (Model.readReply_stamp read) merged

/-- A model that names an entity of the rules again, and one that is stopped before its probe. -/
theorem run_overrides_with_reply_and_degrades_when_stopped :
    let reply := "\x7b\"entities\":[\x7b\"name\":[\"Database\",\"NGINX\"]," ++
      "\"type\":\"server\"\x7d],\"relationships\":[]\x7d"
    let model : Model.Extractor := ⟨"small", 5, ⟨⟨3, .ok []⟩, fun _ => ⟨7, .ok reply⟩⟩⟩
    let devlog := "LoginPage behind nginx"
    let pipeline := patternOnly.register (.ofModel model)
    let report := (pipeline.run devlog {}).outcome
    (report.extractor = "pattern+llm" ∧
      report.entities.map (·.name) = ["loginpage", "nginx", "database"]) ∧
    (model.extract devlog {cancelled := true}).outcome = .error .cancelled ∧
    (pipeline.run devlog {cancelled := true}).outcome.Agrees
      (patternOnly.run devlog {}).outcome := by
  intro reply model devlog pipeline report
  obtain ⟨_, _, overrides⟩ := run_overrides_or_degrades model devlog {}
  obtain ⟨_, degrades, _⟩ := run_overrides_or_degrades model devlog {cancelled := true}
  have stopped : (model.extract devlog {cancelled := true}).outcome = .error .cancelled := rfl
  refine ⟨?_, stopped, degrades .cancelled stopped {}⟩
  have said : ((model.extract devlog {}).outcome.toOption.map fun found =>
      found.entities.map (·.name)) = some ["database", "nginx"] := by
    decide +kernel
  cases answered : (model.extract devlog {}).outcome with
  | error failure =>
    rw [answered] at said
    cases said
  | ok found =>
    rw [answered] at said
    have names : found.entities.map (·.name) = ["database", "nginx"] := Option.some.inj said
    have layered := overrides found answered
    refine ⟨layered.extractor, ?_⟩
    rw [layered.names, names]
    decide +kernel

end Pipeline

end DevlogGraph
