import ModelGateway.Proofs.Limit
import ModelGateway.Proofs.Literal

namespace ModelGateway

namespace Document

inductive FieldsStart : (depth : Nat) → List (Bytes × Document) → Bytes → Prop
  | opening {depth : Nat} {blank : Bytes} (isBlank : IsBlank blank) :
      FieldsStart depth [] (0x7b :: blank)
  | more {depth : Nat} {start text before after : Bytes}
      {field : Bytes × Document}
      {fields : List (Bytes × Document)}
      (earlier : FieldsStart depth fields start)
      (next : FieldText depth field text) (isBlank : IsBlank before)
      (isBlank' : IsBlank after) :
      FieldsStart depth (fields ++ [field])
        (start ++ (text ++ (before ++ 0x2c :: after)))

theorem FieldsStart.text {depth : Nat}
    {earlier others : List (Bytes × Document)} {field : Bytes × Document}
    {start text tail : Bytes} (isStart : FieldsStart depth earlier start)
    (here : FieldText depth field text) (isEnd : FieldsEnd depth others tail) :
    Text (depth + 1) (.object (earlier ++ field :: others))
      (start ++ (text ++ tail)) := by
  induction isStart generalizing field text others tail with
  | opening isBlank => exact .object isBlank here isEnd
  | more _ next isBlank isBlank' induction =>
      have whole := induction next (.more isBlank isBlank' here isEnd)
      simpa using whole

/-- An object with the literal for its prompt, and with no other prompt after
that. -/
inductive PromptObject (raw : Bytes) : (others : Fields Bytes) → Bytes → Prop
  | mk {before after : Fields Bytes} {start name blank blank' tail : Bytes}
      (isStart : FieldsStart (maxDepth - 1) before start)
      (isName : Denotes "prompt".toList name)
      (isBlank : IsBlank blank) (isBlank' : IsBlank blank')
      (isEnd : FieldsEnd (maxDepth - 1) after tail)
      (last : utf8 "prompt" ∉ Fields.keys after) :
      PromptObject raw (before ++ after)
        (start ++
          ((0x22 :: (name ++ (0x22 ::
              (blank ++ (0x3a :: (blank' ++ (0x22 :: (raw ++ [0x22])))))))) ++
            tail))

private theorem PromptObject.exists_text {raw text : Bytes}
    {others : Fields Bytes} {p : String}
    (isObject : PromptObject raw others text) (denotes : Denotes p.toList raw) :
    ∃ fields, Text maxDepth (.object fields) text ∧
      Fields.last? "prompt" fields = some (.string (utf8 p)) ∧
      ∀ name, utf8 "prompt" ≠ name →
        Fields.last? name fields = Fields.last? name others := by
  cases isObject with
  | @mk before after start name blank blank' tail isStart isName isBlank
      isBlank' isEnd last =>
      have here := FieldText.mk isName.isQuoted isBlank isBlank'
        (denotes.text (maxDepth - 1))
      rw [isName.unescape_eq, ← utf8_eq] at here
      refine ⟨_, isStart.text here isEnd, Fields.last?_insert_self last, ?_⟩
      intro name other
      exact Fields.last?_insert_of_ne other

end Document

namespace PromptRequest

variable {name : Bytes} {fields others : Fields Bytes}

theorem TextMistyped.congr
    (same : Fields.last? name fields = Fields.last? name others)
    (mistyped : TextMistyped name fields) :
    TextMistyped name others := by
  rw [TextMistyped, ← same]
  exact mistyped

theorem ObjectMistyped.congr
    (same : Fields.last? name fields = Fields.last? name others)
    (mistyped : ObjectMistyped name fields) :
    ObjectMistyped name others := by
  rw [ObjectMistyped, ← same]
  exact mistyped

private theorem decode_prompt {p : Bytes}
    (prompt : Fields.last? "prompt" fields = some (.string p))
    (model : ¬ TextMistyped "model" fields)
    (config : ¬ ObjectMistyped "config" fields) :
    ∃ request, decode fields = .ok request ∧ request.prompt = p := by
  obtain ⟨sent, model', options, decoded, isSent, -, -⟩ | ⟨fault, -, first⟩ :=
    decode_cases fields
  · refine ⟨_, decoded, ?_⟩
    cases isSent with
    | missing last | null last => cases prompt.symm.trans last
    | text last =>
        cases prompt.symm.trans last
        rfl
  · generalize fault.field = field at first
    cases first with
    | prompt mistyped =>
        exact absurd mistyped (TextSent.text prompt).not_mistyped
    | model _ mistyped => exact absurd mistyped model
    | config _ _ mistyped => exact absurd mistyped config

end PromptRequest

namespace Gateway

variable {g : Gateway} {r : Request} {m : ModelRoute} {generator : Generator}

theorem course_of_asked {request : GenerateRequest}
    (ready : (g.access m).Ready generator)
    (asked : (g.course m r).requests = [request]) :
    g.course m r = .asked request (generator request).outcome := by
  have readiness := ModelAccess.ready?_eq_some_iff.2 ready
  have takes := g.takes_course r m
  generalize g.course m r = course at takes asked
  cases takes with
  | prompt ready' | image ready' =>
      cases readiness.symm.trans ready'
      cases asked
      rfl
  | unready | noObject | mistyped | tooLarge | noImage => cases asked
  | undecodable | brokenDown => cases asked

private theorem promptCourse_of_decoded {fields : Fields Bytes}
    {request : PromptRequest} (ready : g.prompts.access.Ready generator)
    (begins : Document.Begins (r.body.take g.settings.maxBody.toNat)
      (.object fields))
    (decoded : PromptRequest.decode fields = .ok request) :
    (g.promptCourse r).requests = [g.prompts.toGenerate request] := by
  simp only [promptCourse, ModelAccess.ready?_eq_some_iff.2 ready,
    bodyObject_eq_ok_iff.2 begins, decoded]
  rfl

/-- The generator is asked for exactly what the literal denotes. -/
theorem prompt_received {p : String} {raw blank text rest : Bytes}
    {others : Fields Bytes} (ready : g.prompts.access.Ready generator)
    (denotes : Document.Denotes p.toList raw)
    (isBlank : Document.IsBlank blank)
    (isObject : Document.PromptObject raw others text)
    (body : r.body = blank ++ (text ++ rest))
    (within : (blank ++ text).length ≤ g.settings.maxBody.toNat)
    (model : ¬ PromptRequest.TextMistyped "model" others)
    (config : ¬ PromptRequest.ObjectMistyped "config" others) :
    ∃ request, (g.promptCourse r).requests = [request] ∧
      request.prompt = utf8 p := by
  obtain ⟨fields, isText, prompt, same⟩ := isObject.exists_text denotes
  have begins : Document.Begins (r.body.take g.settings.maxBody.toNat)
      (.object fields) := by
    refine ⟨blank, text, rest.take
      (g.settings.maxBody.toNat - (blank ++ text).length), ?_, isBlank, isText⟩
    rw [body, ← List.append_assoc, List.take_append,
      List.take_of_length_le within, List.append_assoc]
  have modelled : ¬ PromptRequest.TextMistyped "model" fields :=
    mt (PromptRequest.TextMistyped.congr (same _ (by decide))) model
  have configured : ¬ PromptRequest.ObjectMistyped "config" fields :=
    mt (PromptRequest.ObjectMistyped.congr (same _ (by decide))) config
  obtain ⟨request, decoded, prompt_eq⟩ :=
    PromptRequest.decode_prompt prompt modelled configured
  exact ⟨_, promptCourse_of_decoded ready begins decoded, prompt_eq⟩

end Gateway

def Response.Shows (response : Response) (name : Bytes) (text : String) :
    Prop :=
  ∃ fields, Document.read? response.body = some (.object fields) ∧
    Fields.last? name fields = some (.string (utf8 text))

def ModelRoute.replyName : ModelRoute → Bytes
  | .analysis => "analysis"
  | .prompt => "text"

private theorem ModelRoute.shows_reply (m : ModelRoute) (status : Nat)
    (text : String) :
    (Gateway.reply status (m.document (utf8 text))).Shows m.replyName text := by
  cases m with
  | analysis =>
      exact ⟨_, Document.read?_write_texts
        [("analysis", text), ("status", "success")], rfl⟩
  | prompt => exact ⟨_, Document.read?_write_texts [("text", text)], rfl⟩

theorem Failure.shows_failed {failure : Failure} {text : String}
    (told : failure.publicMessage = utf8 text) :
    (Gateway.failed failure).Shows "error" text := by
  rw [Gateway.failed, told]
  exact ⟨_, Document.read?_write_texts [("error", text)], rfl⟩

namespace Server

/-- A prompt reaches the generator as its literal denotes it, and what the
generator says can be read from the answer as it was said. -/
theorem text_passes_verbatim (s : Server) (a : Arrival) (r : Request)
    (m : ModelRoute) (generator : Generator)
    (isFor : r.isFor m = true)
    (ready : (s.gateway.access m).Ready generator) :
    (m = .prompt →
        ∀ (p : String) (raw blank text rest : Bytes) (others : Fields Bytes),
          Document.Denotes p.toList raw → Document.IsBlank blank →
          Document.PromptObject raw others text →
          r.body = blank ++ (text ++ rest) →
          (blank ++ text).length ≤ s.gateway.settings.maxBody.toNat →
          ¬ PromptRequest.TextMistyped "model" others →
          ¬ PromptRequest.ObjectMistyped "config" others →
          ∃ request, (s.step a r).2.trace.requests = [request] ∧
            request.prompt = utf8 p) ∧
      (∀ (request : GenerateRequest) (reply : String),
        (s.step a r).2.trace.requests = [request] →
        (generator request).outcome = .value (utf8 reply) →
        (s.step a r).2.response.status = 200 ∧
          (s.step a r).2.response.Shows m.replyName reply) ∧
      (∀ (request : GenerateRequest) (cause : Failure) (error : String),
        (s.step a r).2.trace.requests = [request] →
        (generator request).outcome = .failure cause →
        cause.text = utf8 error →
        (s.step a r).2.response.status = 500 ∧
          (s.step a r).2.response.Shows "error" error) ∧
      ∀ (metrics : Metrics) (v : Visit) (failure : Failure) (error : String),
        (s.gateway.serve metrics a v r).outcome = .failure failure →
        failure.publicMessage = utf8 error →
        (s.step a r).2.response.status = failure.status ∧
          (s.step a r).2.response.Shows "error" error := by
  have requests_eq := (s.step_follows (a := a) isFor).requests_eq
  have response_eq : (s.step a r).2.response =
      ((s.gateway.course m r).outcome m.document).response.named
        (r.identity a.freshId) :=
    Gateway.answer_response isFor
  refine ⟨?_, ?_, ?_, ?_⟩
  · rintro rfl p raw blank text rest others denotes isBlank isObject body within
      model config
    rw [requests_eq]
    exact Gateway.prompt_received ready denotes isBlank isObject body within
      model config
  · intro request reply asked replied
    rw [requests_eq] at asked
    rw [response_eq, Gateway.course_of_asked ready asked, replied]
    exact ⟨rfl, m.shows_reply 200 reply⟩
  · intro request cause error asked failed text_eq
    rw [requests_eq] at asked
    rw [response_eq, Gateway.course_of_asked ready asked, failed]
    exact ⟨rfl, Failure.shows_failed text_eq⟩
  · intro metrics v failure error failed told
    rw [(Gateway.leaves_serve isFor).outcome_eq] at failed
    rw [response_eq, failed]
    exact ⟨rfl, Failure.shows_failed told⟩

def ornament : Bytes :=
  "\\u00E9\\uD83D\\ude00\\\"é<"

private theorem denotes_ornament :
    Document.Denotes "é😀\"é<".toList ornament := by
  have unit : Document.Spells 'é' (utf8 "\\u00E9") := .unit ⟨rfl, rfl⟩
  have pair : Document.Spells '😀' (utf8 "\\uD83D\\ude00") :=
    @Document.Spells.pair '😀' 0xd83d 0xde00 (utf8 "D83D") (utf8 "de00")
      (by decide) (by decide) ⟨rfl, rfl⟩
      ⟨rfl, rfl⟩ rfl
  have short : Document.Spells '"' (utf8 "\\\"") := .short (by decide)
  have raw : Document.Spells 'é' (utf8 "é") :=
    .raw (by decide) (by decide) (by decide)
  have less : Document.Spells '<' (utf8 "<") :=
    .raw (by decide) (by decide) (by decide)
  exact .cons unit (.cons pair (.cons short (.cons raw (.cons less .nil))))

def ornateObject : Bytes :=
  utf8 "\x7b\"prompt\":null,\"prompt\" : \"" ++ ornament ++ utf8 "\"\x7d"

private theorem promptObject_ornate :
    Document.PromptObject ornament [("prompt", .null)] ornateObject := by
  have named := Document.denotes_escape "prompt"
  have first :
      Document.FieldText 9999 (utf8 "prompt", .null) (utf8 "\"prompt\":null") :=
    .mk named.isQuoted Document.isBlank_nil Document.isBlank_nil .null
  have isStart := Document.FieldsStart.more (.opening Document.isBlank_nil)
    first Document.isBlank_nil
    Document.isBlank_nil
  have isBlank : Document.IsBlank [0x20] :=
    Document.isBlank_cons.2 ⟨rfl, Document.isBlank_nil⟩
  exact @Document.PromptObject.mk ornament _ [] _ _ [0x20] [0x20] _ isStart
    named isBlank isBlank
    (.close Document.isBlank_nil) (by decide)

def ornate : Request :=
  { greeting with body := [0x20] ++ (ornateObject ++ utf8 " []") }

theorem ornate_passes_verbatim :
    ∃ request, (echoing.step ⟨[], [], [], Instant.zero, 0⟩
      ornate).2.trace.requests = [request] ∧
      request.prompt = utf8 "é😀\"é<" ∧
        (echoing.step ⟨[], [], [], Instant.zero, 0⟩ ornate).2.response.status =
          200 ∧
          (echoing.step ⟨[], [], [], Instant.zero, 0⟩ ornate).2.response.Shows
            "text" "é😀\"é<" := by
  obtain ⟨received, shown, -, -⟩ :=
    text_passes_verbatim echoing ⟨[], [], [], Instant.zero, 0⟩ ornate .prompt
      echo rfl ⟨rfl, rfl⟩
  have isBlank : Document.IsBlank [0x20] :=
    Document.isBlank_cons.2 ⟨rfl, Document.isBlank_nil⟩
  obtain ⟨request, asked, prompt_eq⟩ :=
    received rfl "é😀\"é<" ornament [0x20] ornateObject (utf8 " []")
    [("prompt", .null)] denotes_ornament isBlank promptObject_ornate
      rfl (by decide) nofun nofun
  exact ⟨request, asked, prompt_eq,
    shown request "é😀\"é<" asked (congrArg Outcome.value prompt_eq)⟩

end Server

end ModelGateway
