import ModelGateway.Generation.Key
import ModelGateway.Json.Basic

/-!
Options with every name in camel spelling, at every depth that holds options.
Two spellings of one name in one object are refused.
-/

namespace ModelGateway.Normalize

structure DuplicateKey where
  name : Bytes
  deriving DecidableEq, Repr

mutual

/-- Respells the names of an object's fields, those in `seen` being taken. -/
def fieldsFrom (seen : List Bytes) :
    List (Bytes × Value) → Except DuplicateKey (List (Bytes × Value))
  | [] => .ok []
  | (key, value) :: rest =>
      let name := Key.camel key
      if seen.contains name then
        .error ⟨name⟩
      else do
        let value ← field (Key.role name) value
        let rest ← fieldsFrom (name :: seen) rest
        return (name, value) :: rest

def field (role : Key.Role) : Value → Except DuplicateKey Value
  | .object fields =>
      match role with
      | .verbatim => .ok (.object fields)
      | .named => (namedFields fields).map .object
      | .ordinary => (fieldsFrom [] fields).map .object
  | .array items =>
      match role with
      | .ordinary => (values items).map .array
      | _ => .ok (.array items)
  | value => .ok value

def namedFields :
    List (Bytes × Value) → Except DuplicateKey (List (Bytes × Value))
  | [] => .ok []
  | (name, value) :: rest => do
      let value ← field .ordinary value
      let rest ← namedFields rest
      return (name, value) :: rest

def values : List Value → Except DuplicateKey (List Value)
  | [] => .ok []
  | value :: rest => do
      let value ← field .ordinary value
      let rest ← values rest
      return value :: rest

end

end ModelGateway.Normalize

namespace ModelGateway

/-- The fields with every option name in camel spelling. -/
def Normalize.fields (fields : Fields Binary) :
    Except Normalize.DuplicateKey (Fields Binary) :=
  Normalize.fieldsFrom [] fields

end ModelGateway
