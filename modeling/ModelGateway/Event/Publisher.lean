import ModelGateway.Event.Basic

/-!
Publishing: each event goes to every subscription that is live when it is
published. Who handles it when, and whether a handler breaks down, changes
nothing for the others.
-/

namespace ModelGateway

structure Publisher (σ : Type) where
  subscribers : List σ := []

namespace Publisher

variable {σ : Type}

def subscribe (s : σ) (p : Publisher σ) : Publisher σ :=
  ⟨p.subscribers ++ [s]⟩

def dropNamed (nameOf : σ → Bytes) (name : Bytes) : List σ → List σ
  | [] => []
  | s :: rest =>
      if nameOf s == name then rest else s :: dropNamed nameOf name rest

def unsubscribe (nameOf : σ → Bytes)
    (name : Bytes) (p : Publisher σ) : Publisher σ :=
  ⟨dropNamed nameOf name p.subscribers⟩

structure Delivery (σ : Type) where
  subscriber : σ
  event : Event

/-- An event with the time of its publication, unless it bears a time of its
own. -/
def stamp (now : Instant) (e : Event) : Event :=
  { e with timestamp := some (e.timestamp.getD now) }

def notify (now : Instant) (e : Event) (p : Publisher σ) : List (Delivery σ) :=
  p.subscribers.map fun s => ⟨s, stamp now e⟩

def breakdown (name reason : Bytes) : Log.Record :=
  ⟨.error, "Observer panicked while handling event",
    [("observer", .string name), ("panic", .string reason)]⟩

end Publisher

end ModelGateway
