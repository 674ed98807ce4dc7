import ModelGateway.Service.Step

namespace ModelGateway

structure Visit where
  requestId : Bytes := []
  now : Instant
  elapsed : Int := 0

structure ModelAccess where
  generator : Option Generator
  configured : Bool := true
  -- Whether there is anyone to publish events to.
  publishing : Bool := true

namespace ModelAccess

def event (v : Visit) (kind : EventKind) (route model : Bytes)
    (elapsed : Int) (failure : Option Failure) : Event :=
  { kind, route, model, elapsed
    timestamp := some v.now
    requestId := v.requestId
    errorType := ((failure.bind Failure.category?).map Category.name).getD []
    errorMessage := (failure.map Failure.text).getD [] }

def announce (a : ModelAccess) (e : Event) : Step Unit :=
  if a.publishing then Step.publish e else Step.done ()

/-- The generator, if the model is configured; otherwise the request is
rejected. -/
def require (a : ModelAccess) (v : Visit) (route model : Bytes) :
    Step Generator :=
  match a.configured, a.generator with
  | true, some generator => Step.done generator
  | _, _ => do
      a.announce (event v .rejected route model 0 (some .config))
      Step.fail .config

def abort {α : Type} (a : ModelAccess) (v : Visit)
    (route model : Bytes) (cause : Failure) : Step α := do
  let failure := Failure.provider (some cause)
  a.announce (event v .failed route model v.elapsed (some failure))
  Step.fail failure

def start (a : ModelAccess) (v : Visit) (route model : Bytes) : Step Unit :=
  a.announce (event v .started route model 0 none)

def generate (a : ModelAccess) (v : Visit) (route : Bytes)
    (generator : Generator) (r : GenerateRequest) :
    Step Bytes :=
  let asked := Step.ask generator r
  match asked.outcome with
  | .value text =>
      let last := a.announce (event v .completed route r.model v.elapsed none)
      ⟨.value text, asked.trace ++ last.trace⟩
  | .failure cause =>
      let last : Step Bytes := a.abort v route r.model cause
      ⟨last.outcome, asked.trace ++ last.trace⟩
  | .crash message => ⟨.crash message, asked.trace⟩

end ModelAccess

end ModelGateway
