import ModelGateway.Proofs.PromptFields

namespace ModelGateway

namespace PromptRequest

variable {name : Bytes} {fields others : Fields Bytes}

def known : List Bytes := ["prompt", "model", "config"]

theorem FirstMistyped.mistyped (first : FirstMistyped fields name) :
    TextMistyped "prompt" fields ∨ TextMistyped "model" fields ∨
      ObjectMistyped "config" fields := by
  cases first with
  | prompt mistyped => exact .inl mistyped
  | model _ mistyped => exact .inr (.inl mistyped)
  | config _ _ mistyped => exact .inr (.inr mistyped)

theorem typed_of_ok {request : PromptRequest}
    (decoded : decode fields = .ok request) :
    typed fields = (request, none) := by
  unfold decode at decoded
  split at decoded
  next typed_eq =>
    cases decoded
    exact typed_eq
  next => cases decoded

theorem typed_of_error {fault : PromptFault}
    (decoded : decode fields = .error fault) :
    typed fields = ({}, some fault) := by
  unfold decode typed at decoded
  unfold typed
  cases read : textOf "prompt" fields with
  | error fault =>
      rw [read] at decoded
      cases decoded
      rfl
  | ok prompt =>
      cases read' : textOf "model" fields with
      | error fault =>
          rw [read, read'] at decoded
          cases decoded
          rfl
      | ok model =>
          cases read'' : objectOf "config" fields with
          | error fault =>
              rw [read, read', read''] at decoded
              cases decoded
              rfl
          | ok options =>
              rw [read, read', read''] at decoded
              cases decoded

/-- Requests that agree on the known fields are read alike. -/
theorem typed_congr
    (same : ∀ name ∈ known, Fields.last? name others =
      Fields.last? name fields) :
    typed others = typed fields := by
  have prompt := same "prompt" (by decide)
  have model := same "model" (by decide)
  have config := same "config" (by decide)
  simp only [typed, textOf, objectOf, prompt, model, config]

/-- The known fields are typed, the first mistyped one is reported, and no other
field makes a difference. -/
theorem three_fields_typed (fields : Fields Bytes) :
    ((typed fields).2 ≠ none ↔
      TextMistyped "prompt" fields ∨ TextMistyped "model" fields ∨
        ObjectMistyped "config" fields) ∧
    (∀ fault, (typed fields).2 = some fault →
      (typed fields).1 = {} ∧
      ∃ name rest, FirstMistyped fields name ∧
        fault.message = name ++ (utf8 ": " ++ rest)) ∧
    ((typed fields).2 = none →
      ∃ prompt, TextSent "prompt" fields prompt ∧
        (typed fields).1.prompt = prompt.getD [] ∧
        TextSent "model" fields (typed fields).1.model ∧
        ObjectSent "config" fields (typed fields).1.options) ∧
    (∀ others,
      (∀ name ∈ known, Fields.last? name others = Fields.last? name fields) →
      typed others = typed fields) ∧
    ∀ before key value after, fields = before ++ (key, value) :: after →
      key ∉ known →
      typed (before ++ after) = typed fields := by
  refine ⟨?_, ?_, ?_, fun others same => typed_congr same, ?_⟩
  · obtain ⟨prompt, model, options, decoded, sent, sent', sent''⟩ |
      ⟨fault, decoded, first⟩ := decode_cases fields
    · have well : ¬ (TextMistyped "prompt" fields ∨
          TextMistyped "model" fields ∨ ObjectMistyped "config" fields) := by
        intro mistyped
        obtain mistyped | mistyped | mistyped := mistyped
        · exact sent.not_mistyped mistyped
        · exact sent'.not_mistyped mistyped
        · exact sent''.not_mistyped mistyped
      simp [typed_of_ok decoded, well]
    · simp [typed_of_error decoded, first.mistyped]
  · intro fault faulty
    obtain ⟨prompt, model, options, decoded, -⟩ | ⟨fault', decoded, first⟩ :=
      decode_cases fields
    · rw [typed_of_ok decoded] at faulty
      cases faulty
    · rw [typed_of_error decoded] at faulty ⊢
      cases faulty
      obtain ⟨rest, message_eq⟩ := fault.message_eq
      exact ⟨rfl, fault.field, rest, first, message_eq⟩
  · intro faultless
    obtain ⟨prompt, model, options, decoded, sent, sent', sent''⟩ |
      ⟨fault, decoded, -⟩ := decode_cases fields
    · rw [typed_of_ok decoded]
      exact ⟨prompt, sent, rfl, sent', sent''⟩
    · rw [typed_of_error decoded] at faultless
      cases faultless
  · intro before key value after split unknown
    subst split
    apply typed_congr
    intro name isKnown
    rw [Fields.last?_insert_of_ne]
    intro same
    exact unknown (same ▸ isKnown)

def shouted : Fields Bytes :=
  [("PROMPT", .bool true), ("model", .string []),
    ("config", .object [("k", .array [.number "1e999"]), ("k", .null)])]

theorem shouted_typed :
    (typed shouted).2 = some (.numberTooLarge "config" "1e999") ∧
      (typed shouted).1 = {} ∧
      (∃ name rest, FirstMistyped shouted name ∧
        PromptFault.message (.numberTooLarge "config" "1e999") =
          name ++ (utf8 ": " ++ rest)) ∧
        typed shouted.tail = typed shouted := by
  have faulty :
      (typed shouted).2 = some (.numberTooLarge "config" "1e999") := by
    decide +kernel
  obtain ⟨-, reported, -, -, ignored⟩ := three_fields_typed shouted
  obtain ⟨empty, first⟩ := reported _ faulty
  exact ⟨faulty, empty, first, ignored [] "PROMPT" (.bool true) _
    rfl (by decide)⟩

end PromptRequest

end ModelGateway
