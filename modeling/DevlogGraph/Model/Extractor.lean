import DevlogGraph.Clock
import DevlogGraph.Model.Prompt
import DevlogGraph.Model.Reply

/-! Extraction by a model: probe the service, ask it, read the reply. -/
namespace DevlogGraph.Model

structure Extractor where
  model : String
  /-- How long the probe may take, in milliseconds. -/
  probeTimeout : Nat
  service : Service

/-- A request for a reply in one piece that is JSON. -/
def jsonRequest (model prompt : String) : Request := ⟨model, prompt, "json", false⟩

/-- Whatever goes wrong in the probe counts as the service being unavailable. -/
def probeFailure : Failure → Failure
  | .unavailable reason => .unavailable reason
  | failure => .unavailable failure.message

/-- Whatever goes wrong in a generation, other than a cancellation, counts as transport. -/
def generationFailure : Failure → Failure
  | .transport reason => .transport reason
  | .cancelled => .cancelled
  | failure => .transport failure.message

def timeoutReason (probeTimeout : Nat) : String :=
  s!"availability probe timed out after {Decimal.text probeTimeout}ms"

namespace Extractor

/-- The answer of the probe, unless the timeout comes first. -/
def probeAnswer (extractor : Extractor) : Except Failure (List String) :=
  let models := extractor.service.models
  if models.delay ≤ extractor.probeTimeout then models.answer.mapError probeFailure
  else .error (.unavailable (timeoutReason extractor.probeTimeout))

/-- Find out whether the service is there before asking it for a generation. -/
def probe (extractor : Extractor) (clock : Clock) : Trace (Except Failure Unit) :=
  if clock.cancelled then { outcome := .error .cancelled, clock := clock }
  else
    let made : List Made := [⟨clock.now, .listModels⟩]
    let clock := clock.wait (min extractor.service.models.delay extractor.probeTimeout)
    if clock.cancelled then { outcome := .error .cancelled, made := made, clock := clock }
    else match extractor.probeAnswer with
      | .error failure => { outcome := .error failure, made := made, clock := clock }
      | .ok models => {
          outcome := .ok ()
          made := made
          events := if models.contains extractor.model then []
            else [.modelNotListed extractor.model]
          clock := clock }

/-- Ask for a reply to the devlog. -/
def generate (extractor : Extractor) (devlog : String) (clock : Clock) :
    Trace (Except Failure String) :=
  if clock.cancelled then { outcome := .error .cancelled, clock := clock }
  else
    let request := jsonRequest extractor.model (prompt devlog)
    let reply := extractor.service.reply request
    let after := clock.wait reply.delay
    {
      outcome := if after.cancelled then .error .cancelled
        else reply.answer.mapError generationFailure
      made := [⟨clock.now, .generate request⟩]
      clock := after }

def extract (extractor : Extractor) (devlog : String) (clock : Clock) :
    Trace (Except Failure Extraction) :=
  (extractor.probe clock).andThen fun
    | .error failure, clock => { outcome := .error failure, clock := clock }
    | .ok (), clock => (extractor.generate devlog clock).andThen fun
      | .error failure, clock => { outcome := .error failure, clock := clock }
      | .ok reply, clock => {
          outcome := readReply reply
          events := [.replyReceived extractor.model reply.utf8ByteSize]
          clock := clock }

end Extractor

end DevlogGraph.Model
