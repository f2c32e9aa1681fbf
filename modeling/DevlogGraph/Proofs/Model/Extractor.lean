import DevlogGraph.Model.Extractor
import DevlogGraph.Proofs.Clock

/-! A model extractor makes one call and waits, then perhaps a second one. A cancellation ends the
wait, and after it there is no call. -/
namespace DevlogGraph.Model.Extractor

variable (extractor : Extractor) (devlog : String)

/-- How long a probe can take. -/
def probeLength : Nat := min extractor.service.models.delay extractor.probeTimeout

def request : Request := jsonRequest extractor.model (prompt devlog)

private theorem probe_cancelled (cancelled : clock.cancelled = true) :
    extractor.probe clock = { outcome := .error .cancelled, clock := clock } :=
  if_pos cancelled

theorem extract_cancelled (cancelled : clock.cancelled = true) :
    extractor.extract devlog clock = { outcome := .error .cancelled, clock := clock } := by
  rw [extract, probe_cancelled extractor cancelled]
  rfl

private theorem probe_timely : Timely extractor.probe := by
  cases answered : extractor.probeAnswer with
  | error failure =>
    refine timely_of_wait .listModels extractor.probeLength (.error failure) [] ?_
    intro clock running
    rw [probe, if_neg (by simp [running]), answered]
    rfl
  | ok models =>
    refine timely_of_wait .listModels extractor.probeLength (.ok ())
      (if models.contains extractor.model then [] else [.modelNotListed extractor.model]) ?_
    intro clock running
    rw [probe, if_neg (by simp [running]), answered]
    rfl

private theorem generate_timely : Timely (extractor.generate devlog) := by
  let reply := extractor.service.reply (extractor.request devlog)
  refine timely_of_wait (.generate (extractor.request devlog)) reply.delay
    (reply.answer.mapError generationFailure) [] ?_
  intro clock running
  have shape : extractor.generate devlog clock = {
      outcome := if (clock.wait reply.delay).cancelled then .error .cancelled
        else reply.answer.mapError generationFailure
      made := [⟨clock.now, .generate (extractor.request devlog)⟩]
      clock := clock.wait reply.delay } := by
    rw [generate, if_neg (by simp [running])]
    rfl
  rw [shape]
  cases (clock.wait reply.delay).cancelled <;> rfl

theorem extract_timely : Timely (extractor.extract devlog) := by
  refine Timely.andThen extractor.probe_timely (fun _ _ => rfl) ?_
  intro _
  refine Timely.andThen (extractor.generate_timely devlog) (fun _ _ => rfl) ?_
  intro reply
  exact timely_of_still (readReply reply)
    [.replyReceived extractor.model reply.utf8ByteSize] fun _ => rfl

private theorem probe_calm (start : Nat) : (extractor.probe (.calm start)).clock =
      .calm (start + extractor.probeLength) ∧
    (extractor.probe (.calm start)).made = [⟨start, .listModels⟩] ∧
    (extractor.probe (.calm start)).outcome = extractor.probeAnswer.map fun _ => () := by
  have running : ¬ (Clock.calm start).cancelled = true := by simp [Clock.calm]
  rw [probe, if_neg running]
  cases extractor.probeAnswer <;> exact ⟨rfl, rfl, rfl⟩

private theorem generate_calm (start : Nat) : (extractor.generate devlog (.calm start)).clock =
      .calm (start + (extractor.service.reply (extractor.request devlog)).delay) ∧
    (extractor.generate devlog (.calm start)).made =
      [⟨start, .generate (extractor.request devlog)⟩] :=
  ⟨rfl, rfl⟩

/-- A cancellation during the probe: there is one call. -/
theorem extract_cut_in_probe {start : Nat} (started : start ≤ instant)
    (short : instant < start + extractor.probeLength) :
    (extractor.extract devlog (.due start instant)).outcome = .error .cancelled ∧
      (extractor.extract devlog (.due start instant)).clock = .stopped instant ∧
      (extractor.extract devlog (.due start instant)).made = [⟨start, .listModels⟩] := by
  obtain ⟨ended, made_calm, _⟩ := extractor.probe_calm start
  obtain ⟨outcome, stop, made⟩ :=
    extractor.probe_timely.cut start instant started (by rw [ended]; exact short)
  rw [made_calm, List.filter_cons_of_pos (by simpa using started)] at made
  dsimp only [extract, Trace.andThen]
  rw [outcome, stop, made]
  exact ⟨rfl, rfl, rfl⟩

/-- A cancellation during the generation: there are two. -/
theorem extract_cut_in_generation (start : Nat) (listed : extractor.probeAnswer = .ok models)
    (passed : start + extractor.probeLength ≤ instant)
    (short : instant < start + extractor.probeLength +
      (extractor.service.reply (extractor.request devlog)).delay) :
    (extractor.extract devlog (.due start instant)).outcome = .error .cancelled ∧
      (extractor.extract devlog (.due start instant)).clock = .stopped instant ∧
      (extractor.extract devlog (.due start instant)).made = [⟨start, .listModels⟩,
        ⟨start + extractor.probeLength, .generate (extractor.request devlog)⟩] := by
  obtain ⟨ended, made_calm, answered⟩ := extractor.probe_calm start
  obtain ⟨generated, asked⟩ := extractor.generate_calm devlog (start + extractor.probeLength)
  obtain ⟨outcome, stop, made⟩ := (extractor.generate_timely devlog).cut
    (start + extractor.probeLength) instant passed (by rw [generated]; exact short)
  rw [asked, List.filter_cons_of_pos (by simpa using passed)] at made
  dsimp only [extract, Trace.andThen]
  rw [extractor.probe_timely.due_of_ended ended passed, Trace.due_clock ended]
  dsimp only [Trace.due]
  rw [answered, listed, made_calm]
  dsimp only [Except.map]
  rw [outcome, stop, made]
  exact ⟨rfl, rfl, rfl⟩

end DevlogGraph.Model.Extractor
