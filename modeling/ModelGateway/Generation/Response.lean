import ModelGateway.Generation.Outcome

namespace ModelGateway

/-- A part of an answer; parts other than texts have an empty text. -/
structure ResponsePart where
  text : Bytes := []
  thought : Bool := false
  deriving DecidableEq, Repr

structure ResponseContent where
  parts : List (Option ResponsePart) := []
  deriving DecidableEq, Repr

structure Candidate where
  content : Option ResponseContent := none
  finishReason : Bytes := []
  deriving DecidableEq, Repr

structure PromptFeedback where
  blockReason : Bytes := []
  deriving DecidableEq, Repr

structure Usage where
  inputTokens : Int := 0
  outputTokens : Int := 0
  deriving DecidableEq, Repr

structure ModelResponse where
  candidates : List (Option Candidate) := []
  feedback : Option PromptFeedback := none
  usage : Option Usage := none
  deriving DecidableEq, Repr

inductive ResponseFault where
  | blocked (reason : Bytes)
  | finished (reason : Bytes)
  | noCandidates
  -- A candidate or part is missing where one is announced.
  | broken
  deriving DecidableEq, Repr

namespace ResponseFault

def message : ResponseFault → Bytes
  | .blocked reason => utf8 "prompt blocked: " ++ reason
  | .finished reason =>
      utf8 "response has no text (finish reason: " ++ reason ++ utf8 ")"
  | .noCandidates => "response contains no candidates"
  | .broken =>
      "runtime error: invalid memory address or nil pointer dereference"

def outcome {α : Type} : ResponseFault → Outcome α
  | .broken => .crash ResponseFault.broken.message
  | fault => .failure (.plain fault.message)

end ResponseFault

namespace ResponsePart

def spoken (p : ResponsePart) : Bytes :=
  if p.thought then [] else p.text

end ResponsePart

namespace Candidate

def parts (c : Candidate) : List (Option ResponsePart) :=
  match c.content with
  | none => []
  | some content => content.parts

end Candidate

namespace ModelResponse

def blockReason (r : ModelResponse) : Bytes :=
  match r.feedback with
  | none => []
  | some feedback => feedback.blockReason

/-- The texts of the parts one after the other, thoughts left out. -/
def joinParts : List (Option ResponsePart) → Except ResponseFault Bytes
  | [] => .ok []
  | none :: _ => .error .broken
  | some part :: rest => (joinParts rest).map (part.spoken ++ ·)

def text : Option ModelResponse → Except ResponseFault Bytes
  | none => .error .noCandidates
  | some r =>
      match r.candidates with
      | [] =>
          .error (if r.blockReason.isEmpty then
            .noCandidates else .blocked r.blockReason)
      | none :: _ => .error .broken
      | some candidate :: _ =>
          if candidate.parts.isEmpty then
            .error (if candidate.finishReason.isEmpty then
              .noCandidates else .finished candidate.finishReason)
          else
            joinParts candidate.parts

end ModelResponse

end ModelGateway
