import ModelGateway.Generation.Config
import ModelGateway.Generation.Payload
import ModelGateway.Generation.Response
import ModelGateway.Log

namespace ModelGateway

structure GenerateRequest where
  model : Bytes
  prompt : Bytes
  image : Option Payload := none
  options : Option (Fields Binary) := none

inductive ContentPart where
  | text (s : Bytes)
  | data (payload : Payload)

structure Content where
  role : Bytes
  parts : List ContentPart

structure ModelCall where
  model : Bytes
  contents : List Content
  config : Option Setting

inductive ModelReply where
  | response (r : Option ModelResponse)
  | failure (f : Failure)
  | crash (message : Bytes)

structure Generation where
  outcome : Outcome Bytes
  calls : List ModelCall := []
  records : List Log.Record := []

/-- A generator answers each request; it may call the model service and write
records. -/
abbrev Generator := GenerateRequest → Generation

namespace GenerateRequest

def content (r : GenerateRequest) : Content :=
  ⟨"user", .text r.prompt :: (r.image.map ContentPart.data).toList⟩

end GenerateRequest

open Document in
def callRecord (r : GenerateRequest) (elapsed : Int) (usage : Option Usage) :
    Log.Record :=
  let tokens :=
    match usage with
    | none => []
    | some u =>
        [intField "input_tokens" u.inputTokens,
          intField "output_tokens" u.outputTokens]
  ⟨.debug, "llm call",
    [textField "model" r.model, boolField "has_image" r.image.isSome,
      intField "duration_ms" elapsed] ++ tokens⟩

/-- The generator that asks the model service, given its reply to each call and
the time that takes. -/
def serviceGenerator (reply : ModelCall → ModelReply)
    (elapsed : Int) : Generator := fun r =>
  match GenerationConfig.decode (r.options.getD []) with
  | .error fault => { outcome := .failure (.plain fault.message) }
  | .ok config =>
      let call : ModelCall := ⟨r.model, [r.content], config⟩
      match reply call with
      | .crash message => { outcome := .crash message, calls := [call] }
      | .failure f => { outcome := .failure f, calls := [call] }
      | .response response =>
          match ModelResponse.text response with
          | .error fault => { outcome := fault.outcome, calls := [call] }
          | .ok text =>
              { outcome := .value text
                calls := [call]
                records := [callRecord r elapsed (response.bind (·.usage))] }

end ModelGateway
