import ModelGateway.Event.Basic
import ModelGateway.Generation.Generator

/-!
Steps of the services: how a step ends, and what it leaves behind on its way
there.
-/

namespace ModelGateway

structure Trace where
  requests : List GenerateRequest := []
  calls : List ModelCall := []
  events : List Event := []
  records : List Log.Record := []

namespace Trace

def append (s t : Trace) : Trace where
  requests := s.requests ++ t.requests
  calls := s.calls ++ t.calls
  events := s.events ++ t.events
  records := s.records ++ t.records

instance : Append Trace := ⟨append⟩

end Trace

structure Step (α : Type) where
  outcome : Outcome α
  trace : Trace := {}

namespace Step

variable {α β : Type}

def done (a : α) : Step α := ⟨.value a, {}⟩

def fail (f : Failure) : Step α := ⟨.failure f, {}⟩

def breakDown (message : Bytes) : Step α := ⟨.crash message, {}⟩

/-- Goes on with the value of a step; a failure or a breakdown ends it there. -/
def andThen (s : Step α) (f : α → Step β) : Step β :=
  match s.outcome with
  | .value a => ⟨(f a).outcome, s.trace ++ (f a).trace⟩
  | .failure e => ⟨.failure e, s.trace⟩
  | .crash message => ⟨.crash message, s.trace⟩

instance : Monad Step where
  pure := done
  bind := andThen

def write (record : Log.Record) : Step Unit :=
  ⟨.value (), { records := [record] }⟩

def publish (event : Event) : Step Unit :=
  ⟨.value (), { events := [event] }⟩

def ask (generator : Generator) (request : GenerateRequest) : Step Bytes :=
  let g := generator request
  ⟨g.outcome, { requests := [request], calls := g.calls, records := g.records }⟩

end Step

end ModelGateway
