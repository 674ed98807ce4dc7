import ModelGateway.Proofs.Meaning

namespace ModelGateway

namespace Document

inductive NumberIn (number : Bytes) : Document → Prop
  | self : NumberIn number (.number number)
  | item {items : List Document} {item : Document} (member : item ∈ items)
      (inside : NumberIn number item) :
      NumberIn number (.array items)
  | field {fields : Fields Bytes} {key : Bytes} {value : Document}
      (member : (key, value) ∈ fields)
      (inside : NumberIn number value) : NumberIn number (.object fields)

def OutOfRange (number : Bytes) : Prop :=
  ∀ x, Format.double.read number ≠ .ok (.finite x)

def InRange (d : Document) : Prop :=
  ∀ number, NumberIn number d → ¬ OutOfRange number

private theorem inRange_number {number : Bytes} :
    InRange (.number number) ↔ ¬ OutOfRange number := by
  constructor
  · intro inRange
    exact inRange number .self
  · intro notOut other inside
    cases inside
    exact notOut

private theorem inRange_array {items : List Document} :
    InRange (.array items) ↔ ∀ item ∈ items, InRange item := by
  constructor
  · intro inRange item member number inside
    exact inRange number (.item member inside)
  · intro inRange number inside
    cases inside with
    | item member inside => exact inRange _ member number inside

private theorem inRange_object {fields : Fields Bytes} :
    InRange (.object fields) ↔ ∀ field ∈ fields, InRange field.2 := by
  constructor
  · intro inRange field member number inside
    exact inRange number (.field member inside)
  · intro inRange number inside
    cases inside with
    | field member inside => exact inRange _ member number inside

mutual

theorem toValue_iff (d : Document) : (∃ v, toValue d = .ok v) ↔ InRange d := by
  match d with
  | .null => exact ⟨nofun, fun _ => ⟨_, rfl⟩⟩
  | .bool b => exact ⟨nofun, fun _ => ⟨_, rfl⟩⟩
  | .string s => exact ⟨nofun, fun _ => ⟨_, rfl⟩⟩
  | .number n =>
      rw [inRange_number, OutOfRange, toValue]
      split
      next x read => simp [read]
      next unread => simpa using unread
  | .array items =>
      rw [inRange_array, ← valueItems_iff items, toValue]
      simp only [map_eq_ok_iff]
      exact ⟨fun ⟨_, values, read, _⟩ => ⟨values, read⟩, fun ⟨values, read⟩ =>
        ⟨_, values, read, rfl⟩⟩
  | .object fields =>
      rw [inRange_object, ← valueFields_iff fields, toValue]
      simp only [map_eq_ok_iff]
      exact ⟨fun ⟨_, values, read, _⟩ => ⟨values, read⟩, fun ⟨values, read⟩ =>
        ⟨_, values, read, rfl⟩⟩

theorem valueItems_iff (items : List Document) :
    (∃ values, valueItems items = .ok values) ↔
      ∀ item ∈ items, InRange item := by
  match items with
  | [] => exact ⟨nofun, fun _ => ⟨_, rfl⟩⟩
  | item :: rest =>
      rw [List.forall_mem_cons, ← toValue_iff item, ← valueItems_iff rest]
      simp only [valueItems, bind_eq_ok_iff, pure, Except.pure]
      constructor
      · rintro ⟨_, value, read, values, others, -⟩
        exact ⟨⟨value, read⟩, values, others⟩
      · rintro ⟨⟨value, read⟩, values, others⟩
        exact ⟨_, value, read, values, others, rfl⟩

theorem valueFields_iff (fields : Fields Bytes) :
    (∃ values, valueFields fields = .ok values) ↔
      ∀ field ∈ fields, InRange field.2 := by
  match fields with
  | [] => exact ⟨nofun, fun _ => ⟨_, rfl⟩⟩
  | (key, value) :: rest =>
      rw [List.forall_mem_cons, ← toValue_iff value, ← valueFields_iff rest]
      simp only [valueFields, bind_eq_ok_iff, pure, Except.pure]
      constructor
      · rintro ⟨_, value, read, values, others, -⟩
        exact ⟨⟨value, read⟩, values, others⟩
      · rintro ⟨⟨value, read⟩, values, others⟩
        exact ⟨_, value, read, values, others, rfl⟩

end

end Document

namespace PromptFault

def field : PromptFault → Bytes
  | .mistyped field _ _ => field
  | .numberTooLarge field _ => field

theorem message_eq (fault : PromptFault) :
    ∃ rest, fault.message = fault.field ++ (utf8 ": " ++ rest) := by
  have split : utf8 ": json: cannot unmarshal " =
      utf8 ": " ++ utf8 "json: cannot unmarshal " := by
    decide
  have split' : utf8 ": json: cannot unmarshal number " =
      utf8 ": " ++ utf8 "json: cannot unmarshal number " := by decide
  cases fault with
  | mistyped field kind wanted =>
      simp only [message, split, List.append_assoc]
      exact ⟨_, rfl⟩
  | numberTooLarge field number =>
      simp only [message, split', List.append_assoc]
      exact ⟨_, rfl⟩

end PromptFault

namespace PromptRequest

variable {name : Bytes} {fields : Fields Bytes}

/-- A field was sent as a text, or not at all, which `null` stands for as
well. -/
inductive TextSent (name : Bytes) (fields : Fields Bytes) : Option Bytes → Prop
  | missing (last : Fields.last? name fields = none) : TextSent name fields none
  | null (last : Fields.last? name fields = some .null) :
      TextSent name fields none
  | text {s : Bytes} (last : Fields.last? name fields = some (.string s)) :
      TextSent name fields (some s)

/-- A field was sent as an object, with numbers that doubles reach, and the
options hold what it says; or it was not sent at all. -/
inductive ObjectSent (name : Bytes) (fields : Fields Bytes) :
    Option (Fields Binary) → Prop
  | missing (last : Fields.last? name fields = none) :
      ObjectSent name fields none
  | null (last : Fields.last? name fields = some .null) :
      ObjectSent name fields none
  | object {sent : Fields Bytes} {options : Fields Binary}
      (last : Fields.last? name fields = some (.object sent))
      (inRange : Document.InRange (.object sent))
      (means : Document.Means (.object sent) (.object options)) :
      ObjectSent name fields (some options)

/-- A field is there, is not null, and is no text. -/
def TextMistyped (name : Bytes) (fields : Fields Bytes) : Prop :=
  ∃ d, Fields.last? name fields = some d ∧ d ≠ .null ∧ ∀ s, d ≠ .string s

def ObjectMistyped (name : Bytes) (fields : Fields Bytes) : Prop :=
  ∃ d, Fields.last? name fields = some d ∧ d ≠ .null ∧
    ∀ sent, d = .object sent → ∃ number, Document.NumberIn number d ∧
      Document.OutOfRange number

/-- The first field that cannot be read. -/
inductive FirstMistyped (fields : Fields Bytes) : Bytes → Prop
  | prompt (mistyped : TextMistyped "prompt" fields) :
      FirstMistyped fields "prompt"
  | model (before : ¬ TextMistyped "prompt" fields)
      (mistyped : TextMistyped "model" fields) :
      FirstMistyped fields "model"
  | config (before : ¬ TextMistyped "prompt" fields)
      (before' : ¬ TextMistyped "model" fields)
      (mistyped : ObjectMistyped "config" fields) :
        FirstMistyped fields "config"

theorem TextSent.not_mistyped {text : Option Bytes}
    (sent : TextSent name fields text) :
    ¬ TextMistyped name fields := by
  rintro ⟨d, found, notNull, noText⟩
  cases sent with
  | missing last => cases found.symm.trans last
  | null last =>
      cases found.symm.trans last
      exact notNull rfl
  | text last =>
      cases found.symm.trans last
      exact noText _ rfl

theorem ObjectSent.not_mistyped {options : Option (Fields Binary)}
    (sent : ObjectSent name fields options) :
    ¬ ObjectMistyped name fields := by
  rintro ⟨d, found, notNull, noObject⟩
  cases sent with
  | missing last => cases found.symm.trans last
  | null last =>
      cases found.symm.trans last
      exact notNull rfl
  | object last inRange means =>
      cases found.symm.trans last
      obtain ⟨number, inside, outOfRange⟩ := noObject _ rfl
      exact inRange number inside outOfRange

theorem textOf_cases (name : Bytes) (fields : Fields Bytes) :
    (∃ text, textOf name fields = .ok text ∧ TextSent name fields text) ∨
      ∃ fault, textOf name fields = .error fault ∧ fault.field = name ∧
        TextMistyped name fields := by
  cases last : Fields.last? name fields with
  | none => exact .inl ⟨none, by rw [textOf, last], .missing last⟩
  | some d =>
      cases d with
      | null => exact .inl ⟨none, by rw [textOf, last], .null last⟩
      | string s => exact .inl ⟨some s, by rw [textOf, last], .text last⟩
      | bool _ | number _ | array _ | object _ =>
          exact .inr ⟨_, by rw [textOf, last], rfl, _, last, nofun, nofun⟩

private theorem objectOf_cases (name : Bytes) (fields : Fields Bytes) :
    (∃ options, objectOf name fields = .ok options ∧
      ObjectSent name fields options) ∨
      ∃ fault, objectOf name fields = .error fault ∧ fault.field = name ∧
        ObjectMistyped name fields := by
  cases last : Fields.last? name fields with
  | none => exact .inl ⟨none, by rw [objectOf, last], .missing last⟩
  | some d =>
      cases d with
      | null => exact .inl ⟨none, by rw [objectOf, last], .null last⟩
      | object sent =>
          cases read : Document.toValue (.object sent) with
          | ok value =>
              -- Only an object is the value of an object.
              obtain ⟨options, -, rfl⟩ := map_eq_ok_iff.1 read
              exact .inl ⟨_, by simp [objectOf, last, read],
                .object last ((Document.toValue_iff _).1 ⟨_, read⟩)
                  (Document.means_of_toValue _ _ read)⟩
          | error number =>
              refine .inr ⟨.numberTooLarge name number,
                by simp [objectOf, last, read], rfl, _, last, nofun, ?_⟩
              intro _ _
              by_contra inRange
              push Not at inRange
              obtain ⟨value, valued⟩ :=
                (Document.toValue_iff (.object sent)).2 inRange
              cases read.symm.trans valued
      | bool _ | number _ | array _ | string _ =>
          exact .inr ⟨_, by rw [objectOf, last], rfl, _, last, nofun, nofun⟩

theorem decode_cases (fields : Fields Bytes) :
    (∃ prompt model options,
      decode fields = .ok ⟨prompt.getD [], model, options⟩ ∧
      TextSent "prompt" fields prompt ∧ TextSent "model" fields model ∧
      ObjectSent "config" fields options) ∨
      ∃ fault, decode fields = .error fault ∧
        FirstMistyped fields fault.field := by
  obtain ⟨prompt, read, sent⟩ | ⟨fault, read, named, mistyped⟩ :=
    textOf_cases "prompt" fields
  · obtain ⟨model, read', sent'⟩ | ⟨fault, read', named, mistyped⟩ :=
      textOf_cases "model" fields
    · obtain ⟨options, read'', sent''⟩ | ⟨fault, read'', named, mistyped⟩ :=
        objectOf_cases "config" fields
      · exact .inl ⟨prompt, model, options,
          by simp only [decode, typed, read, read', read''],
          sent, sent', sent''⟩
      · refine .inr ⟨fault,
          by simp only [decode, typed, read, read', read''], ?_⟩
        rw [named]
        exact .config sent.not_mistyped sent'.not_mistyped mistyped
    · refine .inr ⟨fault, by simp only [decode, typed, read, read'], ?_⟩
      rw [named]
      exact .model sent.not_mistyped mistyped
  · refine .inr ⟨fault, by simp only [decode, typed, read], ?_⟩
    rw [named]
    exact .prompt mistyped

theorem FirstMistyped.not_sent {prompt model : Option Bytes}
    {options : Option (Fields Binary)} (first : FirstMistyped fields name)
    (sent : TextSent "prompt" fields prompt)
    (sent' : TextSent "model" fields model)
    (sent'' : ObjectSent "config" fields options) : False := by
  cases first with
  | prompt mistyped => exact sent.not_mistyped mistyped
  | model _ mistyped => exact sent'.not_mistyped mistyped
  | config _ _ mistyped => exact sent''.not_mistyped mistyped

end PromptRequest

end ModelGateway
