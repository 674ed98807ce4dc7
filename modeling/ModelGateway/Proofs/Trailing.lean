import ModelGateway.Proofs.Course

namespace ModelGateway

namespace Document

variable {s rest : Bytes} {d : Document} {fields : Fields Bytes}

/-- A text of the document with nothing but blanks around it. -/
def Writes (s : Bytes) (d : Document) : Prop :=
  ∃ before text after, s = before ++ (text ++ after) ∧ IsBlank before ∧
    IsBlank after ∧ Text maxDepth d text

theorem Writes.begins_append (writes : Writes s d) (rest : Bytes) :
    Begins (s ++ rest) d := by
  obtain ⟨before, text, after, rfl, isBlank, -, isText⟩ := writes
  refine ⟨before, text, after ++ rest, ?_, isBlank, isText⟩
  rw [List.append_assoc, List.append_assoc]

theorem Writes.begins (writes : Writes s d) : Begins s d := by
  have begins := writes.begins_append []
  rw [List.append_nil] at begins
  exact begins

private theorem begins_iff_writes :
    Begins s d ↔ ∃ whole rest, s = whole ++ rest ∧ Writes whole d := by
  constructor
  · intro begins
    obtain ⟨blank, text, rest, rfl, isBlank, isText⟩ := begins
    refine ⟨blank ++ text, rest, (List.append_assoc _ _ _).symm, blank, text,
      [], ?_, isBlank, isBlank_nil, isText⟩
    rw [List.append_nil]
  · intro split
    obtain ⟨whole, rest, rfl, writes⟩ := split
    exact writes.begins_append rest

theorem read?_eq_object_iff :
    read? s = some (.object fields) ↔ Writes s (.object fields) := by
  constructor
  · intro read
    unfold read? at read
    split at read
    next value rest run =>
      obtain ⟨blank, read⟩ := Option.ite_none_right_eq_some.1 read
      cases read
      obtain ⟨before, text, split, isBlank, isText⟩ := text_of_run run
      exact ⟨before, text, rest, split, isBlank,
        List.all_eq_true.1 blank, isText⟩
    next => cases read
    next state run =>
      -- a blank behind the text ends the value, which is still the whole text
      have ended := (run_append run).trans (run_of_atEnd? read)
      obtain ⟨before, text, split, isBlank, isText⟩ := text_of_run ended
      rw [← List.append_assoc] at split
      refine ⟨before, text, [], ?_, isBlank, isBlank_nil, isText⟩
      rw [List.append_nil]
      exact List.append_cancel_right split
  · intro writes
    obtain ⟨before, text, after, rfl, isBlank, isBlank', isText⟩ := writes
    rw [read?, run_object isBlank isText]
    exact if_pos (List.all_eq_true.2 isBlank')

end Document

namespace Gateway

variable {g : Gateway} {v : Visit} {r : Request} {generator : Generator}

private theorem servePrompt_of_body {body : Bytes} {fields : Fields Bytes}
    (within : r.body.length ≤ g.settings.maxBody.toNat)
    (shorter : body.length ≤ r.body.length)
    (begins : Document.Begins r.body (.object fields))
    (begins' : Document.Begins body (.object fields)) :
    g.servePrompt v r = g.servePrompt v { r with body } := by
  have held : bodyObject g.settings.maxBody r = .ok fields :=
    bodyObject_of_begins within begins
  have held' : bodyObject g.settings.maxBody { r with body } = .ok fields :=
    bodyObject_of_begins (Nat.le_trans shorter within) begins'
  simp only [servePrompt, held, held']

private theorem promptCourse_of_begins {fields : Fields Bytes}
    (ready : g.prompts.access.Ready generator)
    (within : r.body.length ≤ g.settings.maxBody.toNat)
    (begins : Document.Begins r.body (.object fields)) :
    (g.promptCourse r).status ≠ 400 := by
  have held := bodyObject_of_begins within begins
  simp only [promptCourse, ModelAccess.ready?_eq_some_iff.2 ready, held]
  cases PromptRequest.decode fields with
  | error fault =>
      change 500 ≠ 400
      decide
  | ok request =>
      obtain answered | failed :=
        Course.status_asked (g.prompts.toGenerate request)
        (generator (g.prompts.toGenerate request)).outcome
      · rw [answered]
        decide
      · rw [failed]
        decide

end Gateway

namespace Server

variable {s : Server} {a : Arrival} {r : Request}

theorem step_of_body {body : Bytes}
    (same : ∀ metrics v, s.gateway.serve metrics a v r =
      s.gateway.serve metrics a v { r with body }) :
    s.step a r = s.step a { r with body } := by
  have handled (metrics : Metrics) :
      s.gateway.handle metrics a r =
        s.gateway.handle metrics a { r with body } := by
    simp only [Gateway.handle, same]
    rfl
  simp only [step, Gateway.answer, handled]
  rfl

/-- A body is refused exactly if no object stands at its start, and what follows
the object changes nothing. -/
theorem leading_object_decides (s : Server) (a : Arrival) (r : Request)
    (generator : Generator) (ready : s.gateway.prompts.access.Ready generator)
    (posted : r.method = utf8 "POST")
    (path : r.target.path = utf8 "/api/ai")
    (within : r.body.length ≤ s.gateway.settings.maxBody.toNat) :
    ((s.step a r).2.Answers 400 (errorDocument "invalid JSON body") [] ↔
        ¬ ∃ whole rest fields, r.body = whole ++ rest ∧
          Document.Writes whole (.object fields)) ∧
      ∀ whole rest fields, r.body = whole ++ rest →
        Document.Writes whole (.object fields) →
        s.step a r = s.step a { r with body := whole } := by
  refine ⟨⟨?_, ?_⟩, ?_⟩
  · intro answers found
    obtain ⟨whole, rest, fields, split, writes⟩ := found
    have begins : Document.Begins r.body (.object fields) :=
      split ▸ writes.begins_append rest
    have follows := step_follows (s := s) (a := a) (m := .prompt)
      (Request.isFor_iff.2 ⟨posted, path⟩)
    apply Gateway.promptCourse_of_begins ready within begins
    rw [← answers.status_eq, follows.status_eq]
    rfl
  · intro noObject
    have none_begins : ¬ ∃ fields, Document.Begins r.body (.object fields) := by
      intro found
      obtain ⟨fields, begins⟩ := found
      obtain ⟨whole, rest, split, writes⟩ := Document.begins_iff_writes.1 begins
      exact noObject ⟨whole, rest, fields, split, writes⟩
    obtain ⟨cause, refused⟩ :=
      Gateway.bodyObject_of_not_begins within none_begins
    exact answers_noObject ready posted path refused
  · intro whole rest fields split writes
    have shorter : whole.length ≤ r.body.length := by
      rw [split, List.length_append]
      exact Nat.le_add_right _ _
    apply step_of_body
    intro metrics v
    rw [serve_prompt_eq posted path,
      serve_prompt_eq (r := { r with body := whole }) posted path]
    exact Gateway.servePrompt_of_body within shorter
      (split ▸ writes.begins_append rest) writes.begins

theorem greeting_accepted :
    (¬ ∃ fields, Document.Writes greeting.body (.object fields)) ∧
      greeting.body.length ≤ echoing.gateway.settings.maxBody.toNat ∧
        (echoing.step ⟨[], [], [], Instant.zero, 0⟩ greeting).2.Answers 200
          (PromptService.document "hi") [⟨"m", "hi", none, some []⟩] := by
  refine ⟨?_, by decide, rfl, rfl, rfl⟩
  intro written
  obtain ⟨fields, writes⟩ := written
  have read : Document.read? greeting.body = none := by rfl
  rw [Document.read?_eq_object_iff.2 writes] at read
  cases read

theorem greeting_answered_by_object :
    greeting.body.length ≤ echoing.gateway.settings.maxBody.toNat ∧
      echoing.step ⟨[], [], [], Instant.zero, 0⟩ greeting =
        echoing.step ⟨[], [], [], Instant.zero, 0⟩
          { greeting with
            body := "\x7b\"prompt\":\"hi\",\"model\":null\x7d" } := by
  refine ⟨by decide, ?_⟩
  apply (leading_object_decides echoing ⟨[], [], [], Instant.zero, 0⟩ greeting
    echo ⟨rfl, rfl⟩ rfl rfl (by decide)).2 _ (utf8 " []")
  · rfl
  · exact Document.read?_eq_object_iff.1 rfl

end Server

end ModelGateway
