import ModelGateway.Json.Display
import ModelGateway.Json.Reader

namespace ModelGateway

structure PromptRequest where
  prompt : Bytes := []
  model : Option Bytes := none
  options : Option (Fields Binary) := none

inductive PromptFault where
  | mistyped (field : Bytes) (kind : Bytes) (wanted : Bytes)
  | numberTooLarge (field : Bytes) (number : Bytes)
  deriving DecidableEq, Repr

namespace PromptFault

def message : PromptFault → Bytes
  | .mistyped field kind wanted =>
      field ++ utf8 ": json: cannot unmarshal " ++ kind ++
        utf8 " into Go value of type " ++ wanted
  | .numberTooLarge field number =>
      field ++ utf8 ": json: cannot unmarshal number " ++ number ++
        utf8 " into Go value of type float64"

end PromptFault

namespace PromptRequest

def textOf (field : Bytes) (fields : Fields Bytes) :
    Except PromptFault (Option Bytes) :=
  match Fields.last? field fields with
  | none | some .null => .ok none
  | some (.string s) => .ok (some s)
  | some d => .error (.mistyped field d.kind "string")

def objectOf (field : Bytes) (fields : Fields Bytes) :
    Except PromptFault (Option (Fields Binary)) :=
  match Fields.last? field fields with
  | none | some .null => .ok none
  | some d =>
      match d with
      | .object _ =>
          match Document.toValue d with
          | .ok (.object options) => .ok (some options)
          | .ok _ => .ok none
          | .error number => .error (.numberTooLarge field number)
      | _ => .error (.mistyped field d.kind "map[string]interface \x7b\x7d")

/-- Reads the known fields of an object, one after the other, up to the first
that is mistyped. Other fields do not matter. With a fault comes an empty
request, whatever was read before it. -/
def typed (fields : Fields Bytes) : PromptRequest × Option PromptFault :=
  match textOf "prompt" fields with
  | .error fault => ({}, some fault)
  | .ok prompt =>
      match textOf "model" fields with
      | .error fault => ({}, some fault)
      | .ok model =>
          match objectOf "config" fields with
          | .error fault => ({}, some fault)
          | .ok options => (⟨prompt.getD [], model, options⟩, none)

def decode (fields : Fields Bytes) : Except PromptFault PromptRequest :=
  match typed fields with
  | (request, none) => .ok request
  | (_, some fault) => .error fault

end PromptRequest

end ModelGateway
