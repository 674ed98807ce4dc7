import ModelGateway.Image.Decode
import ModelGateway.Locale.Messages
import ModelGateway.Service.Access

namespace ModelGateway

structure AnalysisRequest where
  -- The upload; none if no file came, which is not the same as an empty file.
  image : Option Bytes := none
  filename : Bytes := []
  prompt : Option Bytes := none

structure AnalysisService where
  access : ModelAccess
  model : Bytes
  language : Language

namespace AnalysisService

def route : Bytes := "/analyze"

def check (s : AnalysisService) (v : Visit) : Step Generator :=
  s.access.require v route s.model

open Document in
def sendingRecord (v : Visit) (r : AnalysisRequest) (decoded : Decoded) :
    Log.Record :=
  ⟨.debug, "Sending image to provider",
    [textField "request_id" v.requestId, textField "filename" r.filename,
      textField "format" decoded.format.name,
      intField "bytes" decoded.payload.data.length]⟩

def analyze (s : AnalysisService) (v : Visit) (r : AnalysisRequest) :
    Step Bytes := do
  let generator ← s.check v
  match r.image with
  | none => Step.fail (.validation s.language.noImage none)
  | some file =>
      s.access.start v route s.model
      match Decoded.decode file with
      | .error fault =>
          if fault.isBreakdown then Step.breakDown fault.message
          else s.access.abort v route s.model (.plain fault.message)
      | .ok decoded =>
          Step.write (sendingRecord v r decoded)
          s.access.generate v route generator
            { model := s.model
              prompt := r.prompt.getD s.language.defaultInstruction
              image := some decoded.payload }

def document (analysis : Bytes) : Document :=
  .object [("analysis", .string analysis), ("status", .string "success")]

end AnalysisService

end ModelGateway
