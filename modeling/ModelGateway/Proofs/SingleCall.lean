import ModelGateway.Generation.Generator

namespace ModelGateway

namespace GenerationConfig

private theorem eq_none_iff_of_decode {options : Fields Binary}
    {config : Option Setting} (decoded : decode options = .ok config) :
    config = none ↔ options = [] := by
  unfold decode at decoded
  split at decoded
  · rename_i empty
    cases decoded
    simpa using empty
  · rename_i nonempty
    split at decoded
    · cases decoded
    · split at decoded
      · cases decoded
      · cases decoded
        simpa using nonempty

end GenerationConfig

/-- The call puts the request to the model service as it is: one turn of the
user, with the picture behind the prompt if there is one, and the configuration
that the options stand for. -/
structure ModelCall.Conveys (r : GenerateRequest) (call : ModelCall) :
    Prop where
  model_eq : call.model = r.model
  turn : ∃ content, call.contents = [content] ∧ content.role = utf8 "user" ∧
    (r.image = none → content.parts = [.text r.prompt]) ∧
    ∀ image, r.image = some image →
      content.parts = [.text r.prompt, .data image]
  decoded : GenerationConfig.decode (r.options.getD []) = .ok call.config
  config_eq_none_iff : call.config = none ↔ r.options.getD [] = []

/-- The record tells of a call for the request, and of the tokens that were used
as far as that is known. -/
structure Log.Record.TellsOf (r : GenerateRequest) (usage : Option Usage)
    (record : Log.Record) : Prop where
  level_eq : record.level = .debug
  model_eq : Fields.get? "model" record.fields = some (.string r.model)
  image_eq : Fields.get? "has_image" record.fields = some (.bool r.image.isSome)
  input_eq : Fields.get? "input_tokens" record.fields = usage.map fun u =>
    Document.ofInt u.inputTokens
  output_eq : Fields.get? "output_tokens" record.fields = usage.map fun u =>
    Document.ofInt u.outputTokens

def ModelReply.result : ModelReply → Outcome Bytes
  | .failure f => .failure f
  | .crash message => .crash message
  | .response r =>
      match ModelResponse.text r with
      | .ok text => .value text
      | .error fault => fault.outcome

/-- The ways in which a request for a text can go: its options are refused, or
it is put to the model service and gets a text or none. -/
inductive Generation.Goes (reply : ModelCall → ModelReply)
    (r : GenerateRequest) : Generation → Prop
  | refused {fault : ConfigFault}
      (decoded : GenerationConfig.decode (r.options.getD []) = .error fault) :
      Goes reply r ⟨.failure (.plain fault.message), [], []⟩
  | unanswered {call : ModelCall} (conveys : call.Conveys r)
      (silent : ∀ text, (reply call).result ≠ .value text) :
      Goes reply r ⟨(reply call).result, [call], []⟩
  | answered {call : ModelCall} {response : ModelResponse} {text : Bytes}
      {record : Log.Record}
      (conveys : call.Conveys r)
      (replied : reply call = .response (some response))
      (read : ModelResponse.text (some response) = .ok text)
      (told : record.TellsOf r response.usage) :
      Goes reply r ⟨.value text, [call], [record]⟩

section Calls

variable {r : GenerateRequest}

private theorem conveys_content {config : Option Setting}
    (decoded : GenerationConfig.decode (r.options.getD []) = .ok config) :
    ModelCall.Conveys r ⟨r.model, [r.content], config⟩ where
  model_eq := rfl
  turn := by
    refine ⟨r.content, rfl, rfl, ?_, ?_⟩
    · intro absent
      rw [GenerateRequest.content, absent]
      rfl
    · intro image present
      rw [GenerateRequest.content, present]
      rfl
  decoded := decoded
  config_eq_none_iff := GenerationConfig.eq_none_iff_of_decode decoded

private theorem tellsOf_callRecord (elapsed : Int) (usage : Option Usage) :
    (callRecord r elapsed usage).TellsOf r usage where
  level_eq := rfl
  model_eq := rfl
  image_eq := rfl
  input_eq := by
    cases usage with
    | none => rfl
    | some u => rfl
  output_eq := by
    cases usage with
    | none => rfl
    | some u => rfl

private theorem outcome_ne_value (fault : ResponseFault) (text : Bytes) :
    fault.outcome ≠ .value text := by
  cases fault with
  | broken => nofun
  | blocked | finished | noCandidates => nofun

private theorem goes_serviceGenerator (reply : ModelCall → ModelReply)
    (elapsed : Int) (r : GenerateRequest) :
    Generation.Goes reply r (serviceGenerator reply elapsed r) := by
  unfold serviceGenerator
  cases decoded : GenerationConfig.decode (r.options.getD []) with
  | error fault => exact .refused decoded
  | ok config =>
      have conveys := conveys_content decoded
      have unanswered := @Generation.Goes.unanswered reply r _ conveys
      simp only
      cases replied : reply ⟨r.model, [r.content], config⟩ with
      | crash message =>
          rw [replied] at unanswered
          exact unanswered nofun
      | failure failure =>
          rw [replied] at unanswered
          exact unanswered nofun
      | response response =>
          simp only
          cases read : ModelResponse.text response with
          | error fault =>
              rw [replied, ModelReply.result, read] at unanswered
              exact unanswered (outcome_ne_value fault)
          | ok text =>
              cases response with
              | none => cases read
              | some response =>
                  exact .answered conveys replied read
                    (tellsOf_callRecord elapsed response.usage)

end Calls

/-- A request whose options are refused is not put to the model service. Any
other is put to it in one call, and the outcome is what the reply comes to.
There is one record if that is a text, and none otherwise. -/
theorem one_faithful_call_at_most (reply : ModelCall → ModelReply)
    (elapsed : Int) (r : GenerateRequest) :
    (∀ fault, GenerationConfig.decode (r.options.getD []) = .error fault →
      (serviceGenerator reply elapsed r).calls = [] ∧
      (serviceGenerator reply elapsed r).outcome =
        .failure (.plain fault.message)) ∧
    (∀ config, GenerationConfig.decode (r.options.getD []) = .ok config →
      ∃ call, (serviceGenerator reply elapsed r).calls = [call] ∧
        call.Conveys r ∧
        (serviceGenerator reply elapsed r).outcome = (reply call).result) ∧
    (∀ text, (serviceGenerator reply elapsed r).outcome = .value text →
      ∃ call response record,
        (serviceGenerator reply elapsed r).calls = [call] ∧
        reply call = .response (some response) ∧
        (serviceGenerator reply elapsed r).records = [record] ∧
        record.TellsOf r response.usage) ∧
    ((∀ text, (serviceGenerator reply elapsed r).outcome ≠ .value text) →
      (serviceGenerator reply elapsed r).records = []) := by
  generalize went : serviceGenerator reply elapsed r = g
  have goes := went ▸ goes_serviceGenerator reply elapsed r
  cases goes with
  | refused decoded =>
      refine ⟨?_, ?_, nofun, fun _ => rfl⟩
      · intro fault decoded'
        cases decoded.symm.trans decoded'
        exact ⟨rfl, rfl⟩
      · intro config decoded'
        cases decoded.symm.trans decoded'
  | @unanswered call conveys silent =>
      refine ⟨?_, ?_, ?_, fun _ => rfl⟩
      · intro fault refused
        cases refused.symm.trans conveys.decoded
      · intro config _
        exact ⟨call, rfl, conveys, rfl⟩
      · intro text valued
        exact absurd valued (silent text)
  | @answered call response text record conveys replied read told =>
      refine ⟨?_, ?_, ?_, ?_⟩
      · intro fault refused
        cases refused.symm.trans conveys.decoded
      · intro config _
        refine ⟨call, rfl, conveys, ?_⟩
        rw [replied, ModelReply.result, read]
      · intro _ _
        exact ⟨call, response, record, rfl, replied, rfl, told⟩
      · intro silent
        exact absurd rfl (silent text)

def portrait : GenerateRequest where
  model := "m"
  prompt := "who is it"
  image := some (.upload "image/png" [1, 2, 3])
  options := some [("max_output_tokens", .number ⟨false, 8, 0⟩)]

def misaddressed : GenerateRequest :=
  { portrait with options := some [("max_tokens", .number ⟨false, 8, 0⟩)] }

def namesIt : ModelResponse where
  candidates := [some { content := some ⟨[some { text := "a cat" }]⟩ }]
  usage := some ⟨3, 2⟩

theorem portrait_put_once :
    (∃ call record,
      (serviceGenerator (fun _ => .response (some namesIt)) 0 portrait).calls =
      [call] ∧ call.Conveys portrait ∧
      (serviceGenerator (fun _ => .response (some namesIt)) 0
        portrait).outcome = .value "a cat" ∧
        (serviceGenerator (fun _ => .response (some namesIt)) 0
          portrait).records = [record] ∧
          record.TellsOf portrait (some ⟨3, 2⟩)) ∧
    (serviceGenerator (fun _ => .response (some namesIt)) 0
      misaddressed).calls = [] := by
  obtain ⟨config, decoded⟩ : ∃ config,
    GenerationConfig.decode (portrait.options.getD []) = .ok config := ⟨_, rfl⟩
  obtain ⟨fault, refused⟩ : ∃ fault,
    GenerationConfig.decode (misaddressed.options.getD []) = .error fault :=
    ⟨_, rfl⟩
  obtain ⟨-, put, told, -⟩ :=
    one_faithful_call_at_most (fun _ => .response (some namesIt)) 0 portrait
  obtain ⟨unasked, -, -, -⟩ :=
    one_faithful_call_at_most (fun _ => .response (some namesIt)) 0 misaddressed
  obtain ⟨call, called, conveys, outcome_eq⟩ := put config decoded
  obtain ⟨_, response, record, -, replied, recorded, tells⟩ := told _ outcome_eq
  cases replied
  exact ⟨⟨call, record, called, conveys, outcome_eq, recorded, tells⟩,
    (unasked fault refused).1⟩

end ModelGateway
