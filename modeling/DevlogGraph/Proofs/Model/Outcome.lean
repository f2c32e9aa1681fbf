import DevlogGraph.Proofs.Model.Extractor
import DevlogGraph.Proofs.Model.Prompt
import DevlogGraph.Proofs.Model.Reply

/-! What an extraction that nobody cancels does, read off the two answers of the service. The probe
is a gate: a generation is asked for only behind it, and each failure is named after the side of the
gate on which it happened. -/
namespace DevlogGraph.Model

private theorem probeFailure_wrapped {failure : Failure}
    (other : ∀ reason, failure ≠ .unavailable reason) :
    probeFailure failure = .unavailable failure.message := by
  cases failure with
  | unavailable reason => exact absurd rfl (other reason)
  | _ => rfl

private theorem probeFailure_unavailable (failure : Failure) :
    ∃ reason, probeFailure failure = .unavailable reason := by
  cases failure <;> exact ⟨_, rfl⟩

private theorem generationFailure_unchanged {failure : Failure}
    (known : failure = .cancelled ∨ ∃ reason, failure = .transport reason) :
    generationFailure failure = failure := by
  rcases known with rfl | ⟨reason, rfl⟩ <;> rfl

private theorem generationFailure_wrapped {failure : Failure} (running : failure ≠ .cancelled)
    (other : ∀ reason, failure ≠ .transport reason) :
    generationFailure failure = .transport failure.message := by
  cases failure with
  | cancelled => exact absurd rfl running
  | transport reason => exact absurd rfl (other reason)
  | _ => rfl

private theorem generationFailure_ne_unavailable (failure : Failure) (reason : String) :
    generationFailure failure ≠ .unavailable reason := by
  cases failure <;> exact Failure.noConfusion

private theorem readReply_ne_unavailable (reply reason : String) :
    readReply reply ≠ .error (.unavailable reason) := by
  unfold readReply
  dsimp only
  split
  · intro same
    cases same
  · intro same
    exact Failure.noConfusion (Except.error.inj same)

namespace Extractor

variable (extractor : Extractor) (devlog : String)

/-- The probe answers in time, with these models. -/
structure Listed (found : List String) : Prop where
  answer : extractor.service.models.answer = .ok found
  in_time : extractor.service.models.delay ≤ extractor.probeTimeout

/-- What the service answers to the one generation it is asked for. -/
def reply : Delayed String := extractor.service.reply (extractor.request devlog)

/-- The event that tells of a model the service does not list. -/
def absence (found : List String) : List Event :=
  if found.contains extractor.model then [] else [.modelNotListed extractor.model]

private theorem probeAnswer_late (late : extractor.probeTimeout < extractor.service.models.delay) :
    extractor.probeAnswer = .error (.unavailable (timeoutReason extractor.probeTimeout)) :=
  if_neg (Nat.not_le_of_lt late)

private theorem probeAnswer_in_time
    (in_time : extractor.service.models.delay ≤ extractor.probeTimeout) :
    extractor.probeAnswer = extractor.service.models.answer.mapError probeFailure :=
  if_pos in_time

theorem probeAnswer_ok_iff : extractor.probeAnswer = .ok found ↔ extractor.Listed found := by
  constructor
  · intro answered
    by_cases in_time : extractor.service.models.delay ≤ extractor.probeTimeout
    · rw [extractor.probeAnswer_in_time in_time] at answered
      cases given : extractor.service.models.answer with
      | error failure =>
        rw [given] at answered
        cases answered
      | ok found =>
        rw [given] at answered
        exact ⟨given.trans answered, in_time⟩
    · rw [extractor.probeAnswer_late (Nat.lt_of_not_le in_time)] at answered
      cases answered
  · intro listed
    rw [extractor.probeAnswer_in_time listed.in_time, listed.answer]
    rfl

/-- A probe fails in one way only. -/
private theorem probeAnswer_error {failure : Failure}
    (failed : extractor.probeAnswer = .error failure) :
    ∃ reason, failure = .unavailable reason := by
  by_cases in_time : extractor.service.models.delay ≤ extractor.probeTimeout
  · rw [extractor.probeAnswer_in_time in_time] at failed
    cases given : extractor.service.models.answer with
    | ok found =>
      rw [given] at failed
      cases failed
    | error cause =>
      rw [given] at failed
      obtain ⟨reason, wrapped⟩ := probeFailure_unavailable cause
      exact ⟨reason, (Except.error.inj failed).symm.trans wrapped⟩
  · rw [extractor.probeAnswer_late (Nat.lt_of_not_le in_time)] at failed
    exact ⟨_, (Except.error.inj failed).symm⟩

/-- Behind a failed probe nothing happens. -/
theorem extract_unavailable (start : Nat) {failure : Failure}
    (failed : extractor.probeAnswer = .error failure) : extractor.extract devlog (.calm start) = {
      outcome := .error failure
      made := [⟨start, .listModels⟩]
      clock := .calm (start + extractor.probeLength) } := by
  have running : ¬ (Clock.calm start).cancelled = true := by simp [Clock.calm]
  rw [extract, probe, if_neg running, failed]
  rfl

/-- Behind a probe that succeeded there is one generation. -/
theorem extract_listed (start : Nat) (listed : extractor.Listed found) :
    extractor.extract devlog (.calm start) = {
      outcome := match (extractor.reply devlog).answer with
        | .ok reply => readReply reply
        | .error failure => .error (generationFailure failure)
      made := [⟨start, .listModels⟩,
        ⟨start + extractor.probeLength, .generate (extractor.request devlog)⟩]
      events := extractor.absence found ++ match (extractor.reply devlog).answer with
        | .ok reply => [.replyReceived extractor.model reply.utf8ByteSize]
        | .error _ => []
      clock := .calm (start + extractor.probeLength + (extractor.reply devlog).delay) } := by
  have running (instant : Nat) : ¬ (Clock.calm instant).cancelled = true := by simp [Clock.calm]
  have probed : extractor.probe (.calm start) = {
      outcome := .ok ()
      made := [⟨start, .listModels⟩]
      events := extractor.absence found
      clock := .calm (start + extractor.probeLength) } := by
    rw [probe, if_neg (running start), extractor.probeAnswer_ok_iff.mpr listed]
    rfl
  have generated : extractor.generate devlog (.calm (start + extractor.probeLength)) = {
      outcome := (extractor.reply devlog).answer.mapError generationFailure
      made := [⟨start + extractor.probeLength, .generate (extractor.request devlog)⟩]
      clock := .calm (start + extractor.probeLength + (extractor.reply devlog).delay) } := by
    unfold generate
    rw [if_neg (running _)]
    rfl
  rw [extract, probed]
  dsimp only [Trace.andThen]
  rw [generated]
  cases (extractor.reply devlog).answer <;> dsimp only [Except.mapError] <;> rfl

/-- The calls, the outcome and the log of an extraction, case by case. -/
structure Gated (trace : Trace (Except Failure Extraction)) : Prop where
  calls : trace.calls = [.listModels] ∨
    trace.calls = [.listModels, .generate (extractor.request devlog)]
  generates : Call.generate (extractor.request devlog) ∈ trace.calls ↔
    ∃ found, extractor.Listed found
  unavailable : (∃ reason, trace.outcome = .error (.unavailable reason)) ↔
    ¬ ∃ found, extractor.Listed found
  timed_out : extractor.probeTimeout < extractor.service.models.delay →
    trace.outcome = .error (.unavailable (timeoutReason extractor.probeTimeout))
  refused : extractor.service.models.delay ≤ extractor.probeTimeout →
    ∀ failure, extractor.service.models.answer = .error failure →
      (∀ reason, failure = .unavailable reason → trace.outcome = .error (.unavailable reason)) ∧
      ((∀ reason, failure ≠ .unavailable reason) →
        trace.outcome = .error (.unavailable failure.message))
  failed : ∀ found, extractor.Listed found →
    ∀ failure, (extractor.reply devlog).answer = .error failure →
      ((failure = .cancelled ∨ ∃ reason, failure = .transport reason) →
        trace.outcome = .error failure) ∧
      (failure ≠ .cancelled → (∀ reason, failure ≠ .transport reason) →
        trace.outcome = .error (.transport failure.message))
  replied : ∀ found, extractor.Listed found →
    ∀ reply, (extractor.reply devlog).answer = .ok reply →
      trace.outcome = readReply reply ∧ trace.events = extractor.absence found ++
        [.replyReceived extractor.model reply.utf8ByteSize]

private theorem gated_of_unavailable {start : Nat} {failure : Failure}
    (failed : extractor.probeAnswer = .error failure) :
    extractor.Gated devlog (extractor.extract devlog (.calm start)) := by
  have unlisted : ¬ ∃ found, extractor.Listed found := by
    rintro ⟨found, listed⟩
    rw [extractor.probeAnswer_ok_iff.mpr listed] at failed
    cases failed
  obtain ⟨reason, rfl⟩ := extractor.probeAnswer_error failed
  rw [extractor.extract_unavailable devlog start failed]
  refine ⟨.inl rfl, ?_, ?_, ?_, ?_, ?_, ?_⟩
  · simp [Trace.calls, unlisted]
  · exact iff_of_true ⟨reason, rfl⟩ unlisted
  · intro late
    rw [extractor.probeAnswer_late late] at failed
    dsimp only
    rw [Except.error.inj failed]
  · intro in_time cause given
    rw [extractor.probeAnswer_in_time in_time, given] at failed
    have passed : probeFailure cause = .unavailable reason := Except.error.inj failed
    constructor
    · rintro known rfl
      exact congrArg Except.error passed.symm
    · intro other
      rw [probeFailure_wrapped other] at passed
      exact congrArg Except.error passed.symm
  · intro found listed
    exact absurd ⟨found, listed⟩ unlisted
  · intro found listed
    exact absurd ⟨found, listed⟩ unlisted

private theorem gated_of_listed {start : Nat} (listed : extractor.Listed found) :
    extractor.Gated devlog (extractor.extract devlog (.calm start)) := by
  rw [extractor.extract_listed devlog start listed]
  refine ⟨.inr rfl, ?_, ?_, ?_, ?_, ?_, ?_⟩
  · exact iff_of_true (by simp [Trace.calls]) ⟨found, listed⟩
  · refine iff_of_false ?_ (fun unlisted => unlisted ⟨found, listed⟩)
    rintro ⟨reason, outcome⟩
    dsimp only at outcome
    split at outcome
    · exact readReply_ne_unavailable _ reason outcome
    · exact generationFailure_ne_unavailable _ reason (Except.error.inj outcome)
  · intro late
    exact absurd listed.in_time (Nat.not_le_of_lt late)
  · intro _ failure given
    rw [listed.answer] at given
    cases given
  · intro _ _ failure given
    rw [given]
    constructor
    · intro known
      exact congrArg Except.error (generationFailure_unchanged known)
    · intro running other
      exact congrArg Except.error (generationFailure_wrapped running other)
  · intro others again reply given
    have same : found = others := Except.ok.inj (listed.answer.symm.trans again.answer)
    rw [given, same]
    constructor <;> dsimp only

/-- The same service with another list of models. -/
def listing (found : List String) : Extractor :=
  { extractor with service := { extractor.service with
      models := { extractor.service.models with answer := .ok found } } }

/-- A model that is not listed costs one event, and only if the list arrives in time. -/
theorem extract_unlisted (start : Nat) (absent : extractor.model ∉ found) :
    let listed := (extractor.listing (extractor.model :: found)).extract devlog (.calm start)
    (extractor.listing found).extract devlog (.calm start) =
      if extractor.service.models.delay ≤ extractor.probeTimeout then
        { listed with events := .modelNotListed extractor.model :: listed.events }
      else listed := by
  intro listed
  by_cases in_time : extractor.service.models.delay ≤ extractor.probeTimeout
  · have with_model := (extractor.listing (extractor.model :: found)).extract_listed devlog start
      ⟨rfl, in_time⟩
    have without := (extractor.listing found).extract_listed devlog start ⟨rfl, in_time⟩
    have seen : (extractor.listing (extractor.model :: found)).absence
        (extractor.model :: found) = [] := by simp [absence, listing]
    have unseen : (extractor.listing found).absence found = [.modelNotListed extractor.model] := by
      simp [absence, listing, absent]
    rw [seen] at with_model
    rw [unseen] at without
    rw [if_pos in_time, without, show listed = _ from with_model]
    rfl
  · have late := Nat.lt_of_not_le in_time
    have with_model := (extractor.listing (extractor.model :: found)).extract_unavailable devlog
      start (probeAnswer_late _ late)
    have without := (extractor.listing found).extract_unavailable devlog start
      (probeAnswer_late _ late)
    rw [if_neg in_time, without, show listed = _ from with_model]
    rfl

/-- An extraction probes the service, and asks it for one generation exactly if the probe succeeds
in time, whatever models are listed. What goes wrong in the probe is unavailability, what goes wrong
behind it is transport, a cancellation by the service, or the reply itself. The request carries the
devlog as it stands, and different devlogs make different requests. -/
theorem extract_gated (extractor : Extractor) (devlog : String) (start : Nat) :
    extractor.Gated devlog (extractor.extract devlog (.calm start)) ∧
    (∀ found, extractor.model ∉ found →
      let listed := (extractor.listing (extractor.model :: found)).extract devlog (.calm start)
      (extractor.listing found).extract devlog (.calm start) =
        if extractor.service.models.delay ≤ extractor.probeTimeout then
          { listed with events := .modelNotListed extractor.model :: listed.events }
        else listed) ∧
    extractor.request devlog =
      ⟨extractor.model, promptStart ++ devlog ++ promptEnd, "json", false⟩ ∧
    (prompt devlog).toList = replaceFirst placeholder devlog.toList template ∧
    ∀ other, extractor.request other = extractor.request devlog → other = devlog := by
  refine ⟨?_, fun found => extractor.extract_unlisted devlog start, ?_,
    prompt_fills_template devlog, ?_⟩
  · cases answered : extractor.probeAnswer with
    | error failure => exact extractor.gated_of_unavailable devlog answered
    | ok found => exact extractor.gated_of_listed devlog (extractor.probeAnswer_ok_iff.mp answered)
  · rfl
  · intro other same
    simp only [request, jsonRequest, Request.mk.injEq, prompt_inj] at same
    exact same.2.1

/-- A list that arrives at the last moment and lacks the model lets the generation through, and what
stops that is transport; a list that arrives later does not, and a probe that the service cancels
counts as unavailability. -/
theorem extract_gated_at_the_deadline :
    let service (delay : Nat) (answer : Except Failure (List String)) : Service :=
      ⟨⟨delay, answer⟩, fun _ => ⟨7, .error (.io "reset")⟩⟩
    let model (delay : Nat) (answer : Except Failure (List String)) : Extractor :=
      ⟨"small", 5, service delay answer⟩
    let outcome (delay : Nat) (answer : Except Failure (List String)) :=
      ((model delay answer).extract "\x7bdevlog\x7d" (.calm 0)).outcome
    (model 5 (.ok [])).Listed [] ∧
    outcome 5 (.ok []) = .error (.transport "I/O error: reset") ∧
    outcome 6 (.ok []) = .error (.unavailable "availability probe timed out after 5ms") ∧
    outcome 5 (.error .cancelled) = .error (.unavailable "Extraction cancelled") := by
  intro service model outcome
  have listed : (model 5 (.ok [])).Listed [] := ⟨rfl, by decide⟩
  have at_deadline := (extract_gated (model 5 (.ok [])) "\x7bdevlog\x7d" 0).1
  have after_deadline := (extract_gated (model 6 (.ok [])) "\x7bdevlog\x7d" 0).1
  have cancelled := (extract_gated (model 5 (.error .cancelled)) "\x7bdevlog\x7d" 0).1
  have reset : (Failure.io "reset").message = "I/O error: reset" := by decide
  have late : timeoutReason 5 = "availability probe timed out after 5ms" := by decide
  refine ⟨listed, ?_, ?_, ?_⟩
  · rw [← reset]
    exact (at_deadline.failed [] listed (.io "reset") rfl).2 (by decide) (by simp)
  · rw [← late]
    exact after_deadline.timed_out (by decide)
  · exact (cancelled.refused (by decide) .cancelled rfl).2 (by simp)

end Extractor

end DevlogGraph.Model
