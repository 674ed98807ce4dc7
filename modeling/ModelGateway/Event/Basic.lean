import ModelGateway.Json.Writer
import ModelGateway.Log
import ModelGateway.Time.Instant

namespace ModelGateway

inductive EventKind where
  | started
  | completed
  | failed
  | rejected
  | other (name : Bytes)
  deriving DecidableEq, Repr

namespace EventKind

def name : EventKind → Bytes
  | .started => "generation_started"
  | .completed => "generation_completed"
  | .failed => "generation_failed"
  | .rejected => "request_rejected"
  | .other name => name

def ofName (name : Bytes) : EventKind :=
  if name == utf8 "generation_started" then .started
  else if name == utf8 "generation_completed" then .completed
  else if name == utf8 "generation_failed" then .failed
  else if name == utf8 "request_rejected" then .rejected
  else .other name

end EventKind

structure Event where
  kind : EventKind
  -- When it happened; none until it is published.
  timestamp : Option Instant := none
  requestId : Bytes := []
  route : Bytes
  model : Bytes := []
  -- How long the request took, in nanoseconds.
  elapsed : Int := 0
  errorType : Bytes := []
  errorMessage : Bytes := []
  deriving DecidableEq, Repr

namespace Event

open Document in
def fields (e : Event) : List (Bytes × Document) :=
  [textField "event_type" e.kind.name,
    textField "timestamp" (e.timestamp.getD Instant.zero).text] ++
    optionalText "request_id" e.requestId ++ [textField "route" e.route] ++
    optionalText "model" e.model ++ [intField "processing_time" e.elapsed] ++
    optionalText "error_type" e.errorType ++
    optionalText "error_message" e.errorMessage

def document (e : Event) : Document := .object e.fields

open Document in
def logRecord (e : Event) : Log.Record :=
  let fields :=
    [textField "event_type" e.kind.name, textField "route" e.route,
      textField "model" e.model,
      intField "processing_time_ms" (Int.tdiv e.elapsed 1000000)] ++
      optionalText "request_id" e.requestId ++
      (if e.errorMessage.isEmpty then []
        else [textField "error" e.errorMessage,
          textField "error_type" e.errorType])
  match e.kind with
  | .started => ⟨.debug, "Generation started", fields⟩
  | .completed => ⟨.info, "Generation completed", fields⟩
  | .failed => ⟨.error, "Generation failed", fields⟩
  | .rejected => ⟨.warning, "Request rejected", fields⟩
  | .other _ => ⟨.info, "Generation event occurred", fields⟩

end Event

end ModelGateway
