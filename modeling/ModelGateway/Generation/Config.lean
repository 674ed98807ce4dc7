import ModelGateway.Generation.Decode
import ModelGateway.Generation.Normalize

namespace ModelGateway

inductive ConfigFault where
  | duplicateKey (name : Bytes)
  | mismatches (all : List Mismatch)

def ConfigFault.message : ConfigFault → Bytes
  | .duplicateKey name =>
      utf8 "invalid generation config: duplicate key " ++ Text.quote name
  | .mismatches all => utf8 "invalid generation config: " ++ Mismatch.report all

namespace GenerationConfig

def decode (options : Fields Binary) : Except ConfigFault (Option Setting) :=
  if options.isEmpty then
    .ok none
  else
    match Normalize.fields options with
    | .error ⟨name⟩ => .error (.duplicateKey name)
    | .ok fields =>
        match Decode.decode [] (.record .generation) (.object fields) with
        | .error all => .error (.mismatches all)
        | .ok setting => .ok (some setting)

end GenerationConfig

end ModelGateway
