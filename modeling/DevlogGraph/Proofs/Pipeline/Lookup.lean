import DevlogGraph.Proofs.Merge.Winner
import DevlogGraph.Proofs.Model.Reply
import DevlogGraph.Proofs.Name
import DevlogGraph.Proofs.Pipeline

/-! Looking up entities in a report. Each name stands for the winner among all entities that were
offered under it, in whatever spelling. -/
namespace DevlogGraph

/-- An entity before its name and its score are brought into form. -/
structure Draft where
  name : String
  kind : String
  confidence : Float
  source : String

def Draft.entity (draft : Draft) : Entity :=
  .of draft.name draft.kind draft.confidence draft.source

/-- Whatever the extractor finds, its entities come from drafts. -/
def Extractor.Drafting (extractor : Extractor) : Prop :=
  ∀ devlog clock found, (extractor.extract devlog clock).outcome = .ok found →
    ∃ drafts : List Draft, found.entities = drafts.map Draft.entity

theorem pattern_drafting : Extractor.pattern.Drafting := by
  intro devlog clock found answered
  have same : Pattern.extract devlog = found := Except.ok.inj answered
  refine ⟨(Pattern.words devlog.toList).map fun word => ⟨String.ofList word, Pattern.entityKind,
    Pattern.entityConfidence, Pattern.sourceTag⟩, ?_⟩
  rw [← same, Pattern.extract, Pattern.entities, List.map_map]
  rfl

private theorem replyEntity_drafts (raw : Model.ReplyEntity) :
    ∃ drafts : List Draft, raw.entities = drafts.map Draft.entity := by
  refine ⟨raw.names.filterMap fun name =>
    if (normalName name).length < Model.shortestName then none
    else some ⟨normalName name, raw.kind, Model.confidence, Model.sourceTag⟩, ?_⟩
  rw [Model.ReplyEntity.entities, List.map_filterMap]
  apply List.filterMap_congr
  intro name _
  split <;> rfl

/-- Lists of drafts one after another. -/
private theorem flatMap_drafts {entities : α → List Entity} {items : List α}
    (drafted : ∀ item ∈ items, ∃ drafts : List Draft, entities item = drafts.map Draft.entity) :
    ∃ drafts : List Draft, items.flatMap entities = drafts.map Draft.entity := by
  induction items with
  | nil => exact ⟨[], rfl⟩
  | cons item later ih =>
    obtain ⟨here, others⟩ := List.forall_mem_cons.mp drafted
    obtain ⟨first, first_eq⟩ := here
    obtain ⟨rest, rest_eq⟩ := ih others
    exact ⟨first ++ rest, by rw [List.flatMap_cons, first_eq, rest_eq, List.map_append]⟩

theorem ofModel_drafting (extractor : Model.Extractor) :
    (Extractor.ofModel extractor).Drafting := by
  intro devlog clock found answered
  obtain ⟨reply, read⟩ := Model.Extractor.extract_ok answered
  unfold Model.readReply at read
  dsimp only at read
  split at read
  · cases read
    exact flatMap_drafts fun raw _ => replyEntity_drafts raw
  · cases read

/-- What the names of a report stand for, given the drafts behind all the findings. -/
structure Report.Lookups (report : Report) (drafts : List Draft) : Prop where
  distinct : (report.entities.map (·.name)).Nodup
  normal : ∀ entity ∈ report.entities, normalName entity.name = entity.name
  known : ∀ name, (report.entity? name).isSome = true ↔
    ∃ draft ∈ drafts, normalName draft.name = normalName name
  winner : ∀ name entity, report.entity? name = some entity ↔
    Merger.Wins ((drafts.filter fun draft => normalName draft.name == normalName name).map
      Draft.entity) entity
  own : ∀ entity ∈ report.entities, report.entity? entity.name = some entity
  alike : ∀ name other, normalName name = normalName other →
    report.entity? name = report.entity? other

theorem Report.entity?_eq_holder (report : Report) (name : String) :
    report.entity? name = Merger.holder? (normalName name) report.entities := rfl

private theorem filter_drafts (drafts : List Draft) (name : String) :
    (drafts.map Draft.entity).filter (·.name == name) =
      (drafts.filter fun draft => normalName draft.name == name).map Draft.entity := by
  rw [List.filter_map]
  rfl

private theorem lookups_of_settled {report : Report} {drafts : List Draft}
    (settled : report.entities = Merger.settleAll [] (drafts.map Draft.entity)) :
    report.Lookups drafts := by
  have winner (name : String) (entity : Entity) : report.entity? name = some entity ↔
      Merger.Wins ((drafts.filter fun draft => normalName draft.name == normalName name).map
        Draft.entity) entity := by
    rw [Report.entity?_eq_holder, settled, Merger.holder_settleAll, filter_drafts]
    exact Merger.foldl_challenge_iff
  have distinct : (report.entities.map (·.name)).Nodup :=
    settled ▸ Merger.settleAll_nodup (by simp) _
  have normal : ∀ entity ∈ report.entities, normalName entity.name = entity.name := by
    intro entity member
    have offered : entity.name ∈ (drafts.map Draft.entity).map (·.name) := by
      have listed : entity.name ∈ report.entities.map (·.name) := List.mem_map_of_mem member
      rw [settled, Merger.settleAll_names] at listed
      simpa using listed
    rw [List.map_map] at offered
    obtain ⟨draft, _, same⟩ := List.mem_map.mp offered
    rw [← same]
    exact normalName_normalName draft.name
  refine ⟨distinct, normal, ?_, winner, ?_, ?_⟩
  · intro name
    rw [Option.isSome_iff_exists, exists_congr (winner name), Merger.exists_wins_iff, Ne,
      List.map_eq_nil_iff, List.filter_eq_nil_iff]
    simp
  · intro entity member
    rw [Report.entity?_eq_holder, normal entity member]
    exact Merger.holder_of_mem distinct member
  · intro name other same
    rw [Report.entity?_eq_holder, Report.entity?_eq_holder, same]

namespace Pipeline

/-- All entities that the successful extractors found, in the order of their turns. -/
def emitted (pipeline : Pipeline) (devlog : String) (clock : Clock) : List Entity :=
  (successes ((turns devlog pipeline.extractors clock).map (·.answer))).flatMap (·.2.entities)

/-- A success is what some extractor found when its turn came. -/
private theorem of_mem_successes {extractors : List Extractor}
    (member : success ∈ successes ((turns devlog extractors clock).map (·.answer))) :
    ∃ extractor ∈ extractors, ∃ start,
      (extractor.extract devlog start).outcome = .ok success.2 := by
  induction extractors generalizing clock with
  | nil => cases member
  | cons extractor later ih =>
    rw [turns, List.map_cons, Turn.answer] at member
    cases answered : (extractor.extract devlog clock).outcome with
    | ok found =>
      simp only [answered, successes_ok] at member
      rcases List.mem_cons.mp member with rfl | after
      · exact ⟨extractor, by simp, clock, answered⟩
      · obtain ⟨other, listed, start, done⟩ := ih after
        exact ⟨other, by simp [listed], start, done⟩
    | error failure =>
      simp only [answered, successes_error] at member
      obtain ⟨other, listed, start, done⟩ := ih member
      exact ⟨other, by simp [listed], start, done⟩

/-- In the report of a run each name, in any spelling, stands for the winner among all findings that
were drafted under it, and nothing else stands in the report. The two extractors of this project are
such that this applies to them. -/
theorem run_lookups (pipeline : Pipeline) (devlog : String) (clock : Clock)
    (drafting : ∀ extractor ∈ pipeline.extractors, extractor.Drafting) :
    (∃ drafts : List Draft, pipeline.emitted devlog clock = drafts.map Draft.entity) ∧
    (∀ drafts : List Draft, pipeline.emitted devlog clock = drafts.map Draft.entity →
      (pipeline.run devlog clock).outcome.Lookups drafts) ∧
    Extractor.pattern.Drafting ∧ ∀ model, (Extractor.ofModel model).Drafting := by
  refine ⟨?_, ?_, pattern_drafting, ofModel_drafting⟩
  · apply flatMap_drafts
    intro success member
    obtain ⟨extractor, listed, start, done⟩ := of_mem_successes member
    exact drafting extractor listed devlog start success.2 done
  · intro drafts same
    apply lookups_of_settled
    rw [← same]
    exact (run_merged pipeline devlog clock).entities

/-- A score that is not a number keeps its name, a higher one takes it over, and failures leave
nothing. -/
theorem run_lookups_of_unscored_and_outbid :
    let unscored : Draft := ⟨"Gateway ", "a", 0.0 / 0.0, "first"⟩
    let low : Draft := ⟨" ΛΌΓΟΣ", "b", -3.0, "first"⟩
    let late : Draft := ⟨"gateway", "c", 1.0, "second"⟩
    let high : Draft := ⟨"Λόγος", "d", 0.5, "second"⟩
    let first := Extractor.fixed "first" (.ok { entities := [unscored.entity, low.entity] })
    let broken := Extractor.fixed "broken" (.error .cancelled)
    let second := Extractor.fixed "second" (.ok { entities := [late.entity, high.entity] })
    let report := (run ⟨[first, broken, second]⟩ "" {}).outcome
    (∀ extractor ∈ [first, broken, second], extractor.Drafting) ∧
    report.Lookups [unscored, low, late, high] ∧
    report.entity? "GATEWAY" = some unscored.entity ∧
    report.entity? "λΌγος\t" = some high.entity ∧ report.entity? "other" = none := by
  intro unscored low late high first broken second report
  have drafting : ∀ extractor ∈ [first, broken, second], extractor.Drafting := by
    simp only [List.forall_mem_cons]
    refine ⟨?_, ?_, ?_, by simp⟩
    · intro devlog clock found answered
      cases answered
      exact ⟨[unscored, low], rfl⟩
    · intro devlog clock found answered
      cases answered
    · intro devlog clock found answered
      cases answered
      exact ⟨[late, high], rfl⟩
  have lookups : report.Lookups [unscored, low, late, high] :=
    (run_lookups ⟨[first, broken, second]⟩ "" {} drafting).2.1 _ rfl
  have gateway : ["Gateway ", "gateway", "GATEWAY"].map normalName =
      ["gateway", "gateway", "gateway"] := by decide +kernel
  have word : [" ΛΌΓΟΣ", "Λόγος", "λΌγος\t"].map normalName = ["λόγος", "λόγος", "λόγος"] := by
    decide +kernel
  have absent : normalName "other" = "other" := by decide +kernel
  have below : low.entity.confidence < high.entity.confidence :=
    (by decide +kernel : clampUnit (-3.0) < clampUnit 0.5)
  simp only [List.map_cons, List.map_nil, List.cons.injEq, and_true] at gateway word
  refine ⟨drafting, lookups, ?_, ?_, ?_⟩
  · refine (lookups.winner _ _).mpr ⟨[], [late.entity], ?_, by simp, by simp, ?_⟩
    · simp [unscored, low, late, high, gateway, word]
    · intro other member
      rw [List.mem_singleton.mp member]
      exact (by decide +kernel : ¬ clampUnit (0.0 / 0.0) < clampUnit 1.0)
  · refine (lookups.winner _ _).mpr ⟨[low.entity], [], ?_, ?_, ?_, by simp⟩
    · simp [unscored, low, late, high, gateway, word]
    · intro first starts
      obtain rfl : low.entity = first := by simpa using starts
      exact below
    · intro other member _
      rw [List.mem_singleton.mp member]
      exact below
  · rw [← Option.not_isSome_iff_eq_none, lookups.known]
    simp [unscored, low, late, high, gateway, word, absent]

end Pipeline

end DevlogGraph
