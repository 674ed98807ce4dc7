import ModelGateway.Proofs.Acceptance
import ModelGateway.Proofs.Handling
import ModelGateway.Proofs.PromptFields

namespace ModelGateway

namespace Document

private theorem readFirst_ne_unfinished (s : Bytes) :
    readFirst false s ≠ .error .unfinished := by
  unfold readFirst
  split
  · nofun
  · nofun
  · simp only [Bool.false_eq_true, if_false]
    split
    · nofun
    · nofun

end Document

namespace Gateway

variable {g : Gateway} {r : Request} {limit : Int}

theorem limited_eq (within : r.body.length ≤ limit.toNat) :
    Incoming.limited limit r.body = ⟨r.body, false⟩ := by
  simp [Incoming.limited, List.take_of_length_le within, within]

theorem bodyObject_of_begins {fields : Fields Bytes}
    (within : r.body.length ≤ limit.toNat)
    (begins : Document.Begins r.body (.object fields)) :
    bodyObject limit r = .ok fields := by
  simp only [bodyObject, limited_eq within,
    Document.readFirst_eq_object_iff.2 begins]

theorem bodyObject_of_not_begins (within : r.body.length ≤ limit.toNat)
    (noObject : ¬ ∃ fields, Document.Begins r.body (.object fields)) :
    ∃ cause, bodyObject limit r = .error (notObject cause) := by
  simp only [bodyObject, limited_eq within]
  cases read : Document.readFirst false r.body with
  | error fault =>
      cases fault with
      | malformed => exact ⟨_, rfl⟩
      | unfinished =>
          exact absurd read (Document.readFirst_ne_unfinished r.body)
  | ok d =>
      cases d with
      | object fields =>
          exact absurd ⟨fields, Document.readFirst_eq_object_iff.1 read⟩
            noObject
      | null | bool _ | number _ | string _ | array _ => exact ⟨_, rfl⟩

end Gateway

inductive PromptCase where
  | noObject
  | mistyped
  | asked

/-- What each case says of the body, of the answer and of the generator. -/
def PromptCase.Holds (service : PromptService) (generator : Generator)
    (body : Bytes) (exchange : Exchange) :
    PromptCase → Prop
  | .noObject => (¬ ∃ fields, Document.Begins body (.object fields)) ∧
      exchange.Answers 400 (errorDocument "invalid JSON body") []
  | .mistyped => ∃ fields name rest, Document.Begins body (.object fields) ∧
      PromptRequest.FirstMistyped fields name ∧
        exchange.Answers 500 (errorDocument (name ++ (utf8 ": " ++ rest))) []
  | .asked =>
      ∃ fields prompt model options request,
        Document.Begins body (.object fields) ∧
      PromptRequest.TextSent "prompt" fields prompt ∧
        PromptRequest.TextSent "model" fields model ∧
        PromptRequest.ObjectSent "config" fields options ∧
          request = GenerateRequest.mk (model.getD service.defaultModel)
            (prompt.getD []) none
            (some (options.getD [])) ∧
            ((∃ text, (generator request).outcome = .value text ∧
                exchange.Answers 200 (.object [Document.textField "text" text])
                  [request]) ∨
              ∃ failure, (generator request).outcome = .failure failure ∧
                exchange.Answers 500 (errorDocument failure.text) [request])

namespace PromptCase

variable {service : PromptService} {generator : Generator} {body : Bytes}
    {exchange : Exchange}

def of (body : Bytes) : PromptCase :=
  match Document.readFirst false body with
  | .ok (.object fields) =>
      match PromptRequest.decode fields with
      | .ok _ => .asked
      | .error _ => .mistyped
  | _ => .noObject

theorem Holds.eq_of {c : PromptCase}
    (holds : c.Holds service generator body exchange) : c = of body := by
  unfold of
  cases c with
  | noObject =>
      obtain ⟨noObject, -⟩ := holds
      split
      next fields read =>
        exact absurd ⟨fields, Document.readFirst_eq_object_iff.1 read⟩ noObject
      next => rfl
  | mistyped =>
      obtain ⟨fields, name, rest, begins, first, -⟩ := holds
      rw [Document.readFirst_eq_object_iff.2 begins]
      obtain ⟨_, _, _, -, sent, sent', sent''⟩ | ⟨fault, mistyped, -⟩ :=
        PromptRequest.decode_cases fields
      · exact (first.not_sent sent sent' sent'').elim
      · simp only [mistyped]
  | asked =>
      obtain ⟨fields, _, _, _, _, begins, sent, sent', sent'', -⟩ := holds
      rw [Document.readFirst_eq_object_iff.2 begins]
      obtain ⟨_, _, _, decoded, -⟩ | ⟨fault, -, first⟩ :=
        PromptRequest.decode_cases fields
      · simp only [decoded]
      · exact (first.not_sent sent sent' sent'').elim

end PromptCase

namespace PromptService

variable {service : PromptService} {generator : Generator} {v : Visit}
    {request : PromptRequest}

def toGenerate (service : PromptService) (request : PromptRequest) :
    GenerateRequest where
  model := request.model.getD service.defaultModel
  prompt := request.prompt
  options := some (request.options.getD [])

theorem generate_eq (ready : service.access.Ready generator) :
    service.generate v request =
      service.access.start v route (request.model.getD service.defaultModel) >>=
        fun _ =>
          service.access.generate v route generator
            (service.toGenerate request) := by
  rw [generate, check, ready.require_eq, Step.done_bind]
  rfl

theorem gives_generate_value {text : Bytes}
    (ready : service.access.Ready generator)
    (replied : (generator (service.toGenerate request)).outcome = .value text) :
    (service.generate v request).Gives (.value text)
      [service.toGenerate request] := by
  rw [generate_eq ready]
  exact (ModelAccess.gives_announce _).bind
    (ModelAccess.gives_generate_value replied)

theorem gives_generate_failure {cause : Failure}
    (ready : service.access.Ready generator)
    (replied : (generator (service.toGenerate request)).outcome =
      .failure cause) :
    (service.generate v request).Gives (.failure (.provider (some cause)))
      [service.toGenerate request] := by
  rw [generate_eq ready]
  exact (ModelAccess.gives_announce _).bind
    (ModelAccess.gives_generate_failure replied)

end PromptService

namespace Gateway

variable {g : Gateway} {generator : Generator} {v : Visit} {r : Request}

theorem servePrompt_of_error {failure : Failure}
    (ready : g.prompts.access.Ready generator)
    (refused : bodyObject g.settings.maxBody r = .error failure) :
    g.servePrompt v r = Step.fail failure := by
  rw [servePrompt, PromptService.check, ready.require_eq,
    Step.done_bind, refused]

theorem servePrompt_of_fault {fields : Fields Bytes} {fault : PromptFault}
    (ready : g.prompts.access.Ready generator)
    (held : bodyObject g.settings.maxBody r = .ok fields)
    (mistyped : PromptRequest.decode fields = .error fault) :
    g.servePrompt v r = Step.fail
      (.provider (some (.plain fault.message))) := by
  rw [servePrompt, PromptService.check, ready.require_eq, Step.done_bind, held]
  simp only [mistyped]

theorem servePrompt_of_ok {fields : Fields Bytes} {request : PromptRequest}
    (ready : g.prompts.access.Ready generator)
    (held : bodyObject g.settings.maxBody r = .ok fields)
    (decoded : PromptRequest.decode fields = .ok request) :
    g.servePrompt v r = g.prompts.generate v request >>= fun text =>
      Step.done (reply 200 (PromptService.document text)) := by
  rw [servePrompt, PromptService.check, ready.require_eq, Step.done_bind, held]
  simp only [decoded]
  rfl

end Gateway

namespace Server

variable {s : Server} {a : Arrival} {r : Request} {generator : Generator}
    {fields : Fields Bytes}

theorem found_prompt (posted : r.method = utf8 "POST")
    (path : r.target.path = utf8 "/api/ai") :
    Route.find? r.method r.target.path = some .prompt := by
  rw [posted, path]
  rfl

theorem serve_prompt_eq {metrics : Metrics} {v : Visit}
    (posted : r.method = utf8 "POST")
    (path : r.target.path = utf8 "/api/ai") :
    s.gateway.serve metrics a v r = s.gateway.servePrompt v r := by
  rw [Gateway.serve, found_prompt posted path]

section Posted

variable (ready : s.gateway.prompts.access.Ready generator)
    (posted : r.method = utf8 "POST")
  (path : r.target.path = utf8 "/api/ai")

include ready posted path

theorem answers_noObject {cause : Option Failure}
    (refused : Gateway.bodyObject s.gateway.settings.maxBody r =
      .error (Gateway.notObject cause)) :
    (s.step a r).2.Answers 400 (errorDocument "invalid JSON body") [] := by
  apply answers_of_failure (Gateway.notObject cause) (found_prompt posted path)
  intro metrics v
  rw [serve_prompt_eq posted path, Gateway.servePrompt_of_error ready refused]
  exact Step.gives_fail _

private theorem answers_mistyped {fault : PromptFault}
    (held : Gateway.bodyObject s.gateway.settings.maxBody r = .ok fields)
    (mistyped : PromptRequest.decode fields = .error fault) :
    (s.step a r).2.Answers 500 (errorDocument fault.message) [] := by
  apply answers_of_failure (.provider (some (.plain fault.message)))
    (found_prompt posted path)
  intro metrics v
  rw [serve_prompt_eq posted path,
    Gateway.servePrompt_of_fault ready held mistyped]
  exact Step.gives_fail _

private theorem answers_text {request : PromptRequest} {text : Bytes}
    (held : Gateway.bodyObject s.gateway.settings.maxBody r = .ok fields)
    (decoded : PromptRequest.decode fields = .ok request)
    (replied : (generator (s.gateway.prompts.toGenerate request)).outcome =
      .value text) :
    (s.step a r).2.Answers 200 (PromptService.document text)
      [s.gateway.prompts.toGenerate request] := by
  apply answers_of_value (found_prompt posted path)
  intro metrics v
  rw [serve_prompt_eq posted path, Gateway.servePrompt_of_ok ready held decoded]
  exact (PromptService.gives_generate_value ready replied).bind
    (Step.gives_done _)

private theorem answers_text_failure {request : PromptRequest} {cause : Failure}
    (held : Gateway.bodyObject s.gateway.settings.maxBody r = .ok fields)
    (decoded : PromptRequest.decode fields = .ok request)
    (replied : (generator (s.gateway.prompts.toGenerate request)).outcome =
      .failure cause) :
    (s.step a r).2.Answers 500 (errorDocument cause.text)
      [s.gateway.prompts.toGenerate request] := by
  apply answers_of_failure (.provider (some cause)) (found_prompt posted path)
  intro metrics v
  rw [serve_prompt_eq posted path, Gateway.servePrompt_of_ok ready held decoded]
  exact (PromptService.gives_generate_failure ready replied).bind_failure

end Posted

/-- Every request for a text to a configured server ends in exactly one of the
three ways. -/
theorem prompt_case_unique (s : Server) (a : Arrival) (r : Request)
    (generator : Generator) (ready : s.gateway.prompts.access.Ready generator)
    (steady : ∀ request message, (generator request).outcome ≠ .crash message)
    (posted : r.method = utf8 "POST")
    (path : r.target.path = utf8 "/api/ai")
    (within : r.body.length ≤ s.gateway.settings.maxBody.toNat) :
    ∃! c : PromptCase, c.Holds s.gateway.prompts generator r.body
      (s.step a r).2 := by
  suffices some_case : ∃ c : PromptCase,
      c.Holds s.gateway.prompts generator r.body (s.step a r).2 by
    obtain ⟨c, holds⟩ := some_case
    exact ⟨c, holds, fun c' holds' => holds'.eq_of.trans holds.eq_of.symm⟩
  by_cases begins : ∃ fields, Document.Begins r.body (.object fields)
  · obtain ⟨fields, begins⟩ := begins
    have held := Gateway.bodyObject_of_begins within begins
    obtain ⟨prompt, model, options, decoded, sent, sent', sent''⟩ |
      ⟨fault, mistyped, first⟩ :=
      PromptRequest.decode_cases fields
    · refine ⟨.asked, fields, prompt, model, options, _, begins, sent, sent',
        sent'', rfl, ?_⟩
      cases replied :
        (generator (s.gateway.prompts.toGenerate
          ⟨prompt.getD [], model, options⟩)).outcome with
      | value text =>
          exact .inl ⟨text, replied,
            answers_text ready posted path held decoded replied⟩
      | failure cause =>
          exact .inr ⟨cause, replied,
            answers_text_failure ready posted path held decoded replied⟩
      | crash message => exact absurd replied (steady _ message)
    · obtain ⟨rest, message_eq⟩ := fault.message_eq
      refine ⟨.mistyped, fields, fault.field, rest, begins, first, ?_⟩
      rw [← message_eq]
      exact answers_mistyped ready posted path held mistyped
  · obtain ⟨cause, refused⟩ := Gateway.bodyObject_of_not_begins within begins
    exact ⟨.noObject, begins, answers_noObject ready posted path refused⟩

def echo : Generator := fun request => { outcome := .value request.prompt }

def echoing : Server where
  gateway := gatewayOf { maxBody := 64, promptModel := "m" } (some echo) true
    { modified := Instant.zero }

def greeting : Request where
  method := "POST"
  target := ⟨"/api/ai", "/api/ai", none⟩
  body := "\x7b\"prompt\":\"hi\",\"model\":null\x7d []"

theorem greeting_case_unique :
    greeting.body.length ≤ echoing.gateway.settings.maxBody.toNat ∧
      ∃! c : PromptCase, c.Holds echoing.gateway.prompts echo greeting.body
        (echoing.step ⟨[], [], [], Instant.zero, 0⟩ greeting).2 :=
  ⟨by decide, prompt_case_unique echoing ⟨[], [], [], Instant.zero,
    0⟩ greeting echo ⟨rfl, rfl⟩ nofun rfl rfl (by decide)⟩

example : Document.write (errorDocument "invalid JSON body") =
    utf8 "\x7b\"error\":\"invalid JSON body\"\x7d" := by
  decide

end Server

end ModelGateway
