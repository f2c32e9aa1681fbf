import DevlogGraph.Model.Extractor

/-! What a model says comes out of a readable reply, and carries the mark of models. -/
namespace DevlogGraph.Model

theorem clampUnit_confidence : clampUnit confidence = confidence := by
  have above : ¬ confidence < 0 := by decide
  have below : ¬ 1 < confidence := by decide
  rw [clampUnit, if_neg above, if_neg below]

/-- What is the same for all entities of a reply. -/
private theorem replyEntity_stamp {raw : ReplyEntity} (member : entity ∈ raw.entities) :
    entity.confidence = confidence ∧ entity.source = sourceTag := by
  obtain ⟨name, _, kept⟩ := List.mem_filterMap.mp member
  split at kept
  · cases kept
  · have made := Option.some.inj kept
    subst made
    exact ⟨clampUnit_confidence, rfl⟩

theorem readReply_stamp (read : readReply reply = .ok found) :
    ∀ entity ∈ found.entities, entity.confidence = confidence ∧ entity.source = sourceTag := by
  unfold readReply at read
  dsimp only at read
  split at read
  · cases read
    intro entity member
    obtain ⟨raw, _, inside⟩ := List.mem_flatMap.mp member
    exact replyEntity_stamp inside
  · cases read

/-- A model that answers has sent a reply that can be read. -/
theorem Extractor.extract_ok {extractor : Extractor}
    (answered : (extractor.extract devlog clock).outcome = .ok found) :
    ∃ reply, readReply reply = .ok found := by
  unfold extract at answered
  simp only [Trace.andThen] at answered
  cases probed : (extractor.probe clock).outcome with
  | error failure =>
    rw [probed] at answered
    cases answered
  | ok _ =>
    rw [probed] at answered
    simp only at answered
    cases generated : (extractor.generate devlog (extractor.probe clock).clock).outcome with
    | error failure =>
      rw [generated] at answered
      cases answered
    | ok reply =>
      rw [generated] at answered
      dsimp only at answered
      exact ⟨reply, answered⟩

end DevlogGraph.Model
