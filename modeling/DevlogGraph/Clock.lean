import DevlogGraph.Event
import DevlogGraph.Failure

/-! Virtual time: it moves only while a run waits, and a cancellation takes effect in a wait. -/
namespace DevlogGraph

structure Clock where
  /-- Milliseconds since the start. -/
  now : Nat := 0
  /-- When the run will be cancelled, if ever. -/
  cancelAt : Option Nat := none
  cancelled : Bool := false

/-- Wait for some milliseconds, or until the cancellation if it comes before the end. -/
def Clock.wait (clock : Clock) (length : Nat) : Clock :=
  match clock.cancelAt with
  | some instant =>
      if instant < clock.now + length then
        { clock with now := max clock.now instant, cancelled := true }
      else { clock with now := clock.now + length }
  | none => { clock with now := clock.now + length }

/-- The instructions sent to a text-generation service. -/
structure Request where
  model : String
  prompt : String
  format : String
  stream : Bool
  deriving DecidableEq

/-- A call to a text-generation service. -/
inductive Call where
  | listModels
  | generate (request : Request)
  deriving DecidableEq

/-- A call, and when it was made. -/
structure Made where
  instant : Nat
  call : Call
  deriving DecidableEq

/-- What a piece of a run answers, and what it did on the way. -/
structure Trace (α : Type) where
  outcome : α
  made : List Made := []
  events : List Event := []
  clock : Clock

namespace Trace

/-- The calls in the order in which they were made. -/
def calls (trace : Trace α) : List Call := trace.made.map (·.call)

def map (f : α → β) (trace : Trace α) : Trace β := { trace with outcome := f trace.outcome }

/-- Go on from where a piece of a run ended. -/
def andThen (trace : Trace α) (next : α → Clock → Trace β) : Trace β :=
  let later := next trace.outcome trace.clock
  { later with made := trace.made ++ later.made, events := trace.events ++ later.events }

end Trace

/-- An answer that arrives after some milliseconds. -/
structure Delayed (α : Type) where
  delay : Nat
  answer : Except Failure α

/-- A text-generation service: the models it lists and its replies. -/
structure Service where
  models : Delayed (List String)
  reply : Request → Delayed String

end DevlogGraph
