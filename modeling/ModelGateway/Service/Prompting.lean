import ModelGateway.Prompt.Request
import ModelGateway.Service.Access

namespace ModelGateway

structure PromptService where
  access : ModelAccess
  defaultModel : Bytes

namespace PromptService

def route : Bytes := "/api/ai"

def check (s : PromptService) (v : Visit) : Step Generator :=
  s.access.require v route s.defaultModel

def generate (s : PromptService) (v : Visit) (r : PromptRequest) :
    Step Bytes := do
  let generator ← s.check v
  let model := r.model.getD s.defaultModel
  s.access.start v route model
  s.access.generate v route generator
    { model, prompt := r.prompt, options := some (r.options.getD []) }

def document (text : Bytes) : Document :=
  .object [("text", .string text)]

end PromptService

end ModelGateway
