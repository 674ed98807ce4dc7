import ModelGateway.Gateway.Server

namespace ModelGateway

namespace Step

variable {α β : Type}

/-- How a step ends, and what it asks of the generator. -/
structure Gives (step : Step α) (outcome : Outcome α)
    (requests : List GenerateRequest) : Prop where
  outcome_eq : step.outcome = outcome
  requests_eq : step.trace.requests = requests

theorem done_bind (a : α) (f : α → Step β) : (done a >>= f) = f a :=
  rfl

theorem fail_bind (failure : Failure) (f : α → Step β) :
    (fail failure >>= f) = fail failure :=
  rfl

theorem gives_done (a : α) : (done a).Gives (.value a) [] :=
  ⟨rfl, rfl⟩

theorem gives_fail (failure : Failure) :
    (fail failure : Step α).Gives (.failure failure) [] :=
  ⟨rfl, rfl⟩

theorem gives_breakDown (message : Bytes) :
    (breakDown message : Step α).Gives (.crash message) [] :=
  ⟨rfl, rfl⟩

theorem gives_write (record : Log.Record) :
    (write record).Gives (.value ()) [] :=
  ⟨rfl, rfl⟩

namespace Gives

variable {step : Step α} {f : α → Step β} {a : α}
    {requests more : List GenerateRequest}

theorem bind {outcome : Outcome β} (first : step.Gives (.value a) requests)
    (second : (f a).Gives outcome more) :
    (step >>= f).Gives outcome (requests ++ more) := by
  obtain ⟨outcome_eq, requests_eq⟩ := first
  have step_eq : (step >>= f) = ⟨(f a).outcome, step.trace ++ (f a).trace⟩ := by
    change step.andThen f = _
    rw [andThen, outcome_eq]
  rw [step_eq]
  refine ⟨second.outcome_eq, ?_⟩
  rw [← requests_eq, ← second.requests_eq]
  rfl

theorem bind_failure {failure : Failure}
    (first : step.Gives (.failure failure) requests) :
    (step >>= f).Gives (.failure failure) requests := by
  obtain ⟨outcome_eq, requests_eq⟩ := first
  have step_eq : (step >>= f) = ⟨.failure failure, step.trace⟩ := by
    change step.andThen f = _
    rw [andThen, outcome_eq]
  rw [step_eq]
  exact ⟨rfl, requests_eq⟩

theorem bind_crash {message : Bytes}
    (first : step.Gives (.crash message) requests) :
    (step >>= f).Gives (.crash message) requests := by
  obtain ⟨outcome_eq, requests_eq⟩ := first
  have step_eq : (step >>= f) = ⟨.crash message, step.trace⟩ := by
    change step.andThen f = _
    rw [andThen, outcome_eq]
  rw [step_eq]
  exact ⟨rfl, requests_eq⟩

end Gives

end Step

namespace ModelAccess

variable {access : ModelAccess} {generator : Generator} {v : Visit}
    {route model : Bytes}

structure Ready (access : ModelAccess) (generator : Generator) : Prop where
  configured : access.configured = true
  installed : access.generator = some generator

theorem Ready.require_eq (ready : access.Ready generator) :
    access.require v route model = Step.done generator := by
  rw [require, ready.configured, ready.installed]

theorem gives_announce (event : Event) :
    (access.announce event).Gives (.value ()) [] := by
  unfold announce
  split
  · exact ⟨rfl, rfl⟩
  · exact ⟨rfl, rfl⟩

theorem gives_abort {α : Type} (cause : Failure) :
    (access.abort v route model cause : Step α).Gives
      (.failure (.provider (some cause))) [] :=
  (gives_announce _).bind (Step.gives_fail _)

theorem gives_generate_value {request : GenerateRequest} {text : Bytes}
    (replied : (generator request).outcome = .value text) :
    (access.generate v route generator request).Gives (.value text)
      [request] := by
  have last :
      (access.announce (event v .completed route request.model v.elapsed
        none)).Gives
      (.value ()) [] := gives_announce _
  simp only [generate, Step.ask, replied]
  refine ⟨rfl, ?_⟩
  change [request] ++ (access.announce _).trace.requests = [request]
  rw [last.requests_eq, List.append_nil]

theorem gives_generate_failure {request : GenerateRequest} {cause : Failure}
    (replied : (generator request).outcome = .failure cause) :
    (access.generate v route generator request).Gives
      (.failure (.provider (some cause))) [request] := by
  have last : (access.abort v route request.model cause : Step Bytes).Gives
      (.failure (.provider (some cause))) [] := gives_abort cause
  simp only [generate, Step.ask, replied]
  refine ⟨last.outcome_eq, ?_⟩
  change [request] ++ (access.abort v route request.model cause :
    Step Bytes).trace.requests = [request]
  rw [last.requests_eq, List.append_nil]

end ModelAccess

def errorDocument (message : Bytes) : Document :=
  .object [Document.textField "error" message]

structure Exchange.Answers (exchange : Exchange) (status : Nat)
    (document : Document) (requests : List GenerateRequest) : Prop where
  status_eq : exchange.response.status = status
  body_eq : exchange.response.body = Document.write document
  requests_eq : exchange.trace.requests = requests

/-- The handler broke down before anything was asked of the generator, and the
client gets an answer without a body. -/
structure Exchange.BreaksDown (exchange : Exchange) : Prop where
  status_eq : exchange.response.status = 500
  body_eq : exchange.response.body = []
  requests_eq : exchange.trace.requests = []

namespace Server

variable {s : Server} {a : Arrival} {r : Request} {route : Route}
    {requests : List GenerateRequest}

theorem nearby?_eq_none
    (found : Route.find? r.method r.target.path = some route) :
    Route.nearby? r.method r.target.path = none := by
  rw [Route.nearby?, found]
  rfl

theorem step_of_gives {outcome : Outcome Response}
    (found : Route.find? r.method r.target.path = some route)
    (served : ∀ metrics v, (s.gateway.serve metrics a v r).Gives
      outcome requests) :
    ∃ v, (s.step a r).2.response.status =
      (Gateway.conclude a v r outcome).1.status ∧
      (s.step a r).2.response.body = (Gateway.conclude a v r outcome).1.body ∧
        (s.step a r).2.trace.requests = requests := by
  refine ⟨⟨r.identity a.freshId, a.now, a.elapsed⟩, ?_⟩
  simp only [step, Gateway.answer, nearby?_eq_none found, Gateway.handle]
  rw [(served _ _).outcome_eq]
  refine ⟨rfl, rfl, ?_⟩
  change (s.gateway.serve _ a _ r).trace.requests ++ [] = requests
  rw [(served _ _).requests_eq, List.append_nil]

theorem answers_of_value {status : Nat} {document : Document}
    (found : Route.find? r.method r.target.path = some route)
    (served : ∀ metrics v, (s.gateway.serve metrics a v r).Gives
      (.value (Gateway.reply status document)) requests) :
    (s.step a r).2.Answers status document requests := by
  obtain ⟨v, status_eq, body_eq, requests_eq⟩ := step_of_gives found served
  exact ⟨status_eq, body_eq, requests_eq⟩

theorem answers_of_failure (failure : Failure)
    (found : Route.find? r.method r.target.path = some route)
    (served : ∀ metrics v, (s.gateway.serve metrics a v r).Gives
      (.failure failure) requests) :
    (s.step a r).2.Answers failure.status (errorDocument failure.publicMessage)
      requests := by
  obtain ⟨v, status_eq, body_eq, requests_eq⟩ := step_of_gives found served
  exact ⟨status_eq, body_eq, requests_eq⟩

theorem breaksDown_of_crash (message : Bytes)
    (found : Route.find? r.method r.target.path = some route)
    (served : ∀ metrics v,
      (s.gateway.serve metrics a v r).Gives (.crash message) []) :
    (s.step a r).2.BreaksDown := by
  obtain ⟨v, status_eq, body_eq, requests_eq⟩ := step_of_gives found served
  exact ⟨status_eq, body_eq, requests_eq⟩

end Server

end ModelGateway
