import ModelGateway.Failure

namespace ModelGateway

inductive Outcome (α : Type) where
  | value (a : α)
  | failure (f : Failure)
  -- The step broke down; what it reports is for the log alone.
  | crash (message : Bytes)

namespace Outcome

variable {α β : Type}

def bind : Outcome α → (α → Outcome β) → Outcome β
  | .value a, f => f a
  | .failure e, _ => .failure e
  | .crash message, _ => .crash message

def map (f : α → β) (o : Outcome α) : Outcome β :=
  o.bind fun a => .value (f a)

end Outcome

end ModelGateway
