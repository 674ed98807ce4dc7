import Mathlib.Data.List.ReduceOption
import Mathlib.Logic.Relation
import ModelGateway.Generation.Response

namespace ModelGateway

namespace ResponsePart

def IsSilent (p : ResponsePart) : Prop :=
  p.thought = true ∨ p.text = []

/-- The same words in other parts. A silent part comes in, or a part is split;
read backwards, a silent part goes or two parts are put together. -/
inductive Rephrased :
    List (Option ResponsePart) → List (Option ResponsePart) → Prop
  | silent (before after : List (Option ResponsePart)) {part : ResponsePart}
      (silent : part.IsSilent) :
      Rephrased (before ++ after) (before ++ some part :: after)
  | split (before after : List (Option ResponsePart)) (head tail : Bytes)
      (thought : Bool) :
      Rephrased (before ++ some ⟨head ++ tail, thought⟩ :: after)
        (before ++ some ⟨head, thought⟩ :: some ⟨tail, thought⟩ :: after)

def words (parts : List (Option ResponsePart)) : Bytes :=
  ((parts.reduceOption.filter fun part => !part.thought).map text).flatten

@[simp] theorem words_nil : words [] = [] := rfl

@[simp] theorem words_cons_some (part : ResponsePart)
    (rest : List (Option ResponsePart)) :
    words (some part :: rest) = part.spoken ++ words rest := by
  cases aside : part.thought with
  | true => simp [words, spoken, aside]
  | false => simp [words, spoken, aside]

@[simp] theorem words_append (first second : List (Option ResponsePart)) :
    words (first ++ second) = words first ++ words second := by
  simp [words, List.reduceOption_append]

private theorem spoken_of_isSilent {part : ResponsePart}
    (silent : part.IsSilent) : part.spoken = [] := by
  cases silent with
  | inl aside => simp [spoken, aside]
  | inr blank => simp [spoken, blank]

private theorem spoken_split (head tail : Bytes) (thought : Bool) :
    spoken ⟨head ++ tail, thought⟩ = spoken ⟨head, thought⟩ ++
      spoken ⟨tail, thought⟩ := by
  cases thought with
  | true => rfl
  | false => rfl

variable {parts parts' : List (Option ResponsePart)}

private theorem Rephrased.words_eq (rephrased : Rephrased parts parts') :
    words parts = words parts' := by
  cases rephrased with
  | silent before after silent => simp [spoken_of_isSilent silent]
  | split before after head tail thought => simp [spoken_split]

private theorem Rephrased.none_mem_iff (rephrased : Rephrased parts parts') :
    none ∈ parts ↔ none ∈ parts' := by
  cases rephrased with
  | silent before after silent => simp
  | split before after head tail thought => simp

end ResponsePart

namespace ModelResponse

open ResponsePart (Rephrased words)

theorem joinParts_eq (parts : List (Option ResponsePart)) :
    joinParts parts = if none ∈ parts then
      .error .broken else .ok (words parts) := by
  induction parts with
  | nil => rfl
  | cons part rest induction =>
      cases part with
      | none => simp [joinParts]
      | some part =>
          rw [joinParts, induction]
          by_cases missing : none ∈ rest
          · simp [missing, Except.map]
          · simp [missing, Except.map]

private theorem joinParts_of_rephrased
    {parts parts' : List (Option ResponsePart)}
    (rephrased : Relation.EqvGen Rephrased parts parts') :
    joinParts parts = joinParts parts' := by
  induction rephrased with
  | rel parts parts' rephrased =>
      rw [joinParts_eq, joinParts_eq, rephrased.words_eq]
      simp only [rephrased.none_mem_iff]
  | refl => rfl
  | symm _ _ _ induction => exact induction.symm
  | trans _ _ _ _ _ first second => exact first.trans second

def Opens (r : ModelResponse) (content : ResponseContent) : Prop :=
  ∃ candidate others, r.candidates = some candidate :: others ∧
    candidate.content = some content

/-- Nothing is missing that is read: the first candidate is there, and so are
all of its parts. -/
def IsWhole (response : Option ModelResponse) : Prop :=
  ∀ r first others, response = some r → r.candidates = first :: others →
    ∃ candidate, first = some candidate ∧
      ∀ content, candidate.content = some content → none ∉ content.parts

def BlockedFor (response : Option ModelResponse) (reason : Bytes) : Prop :=
  reason ≠ [] ∧ ∃ r feedback, response = some r ∧ r.feedback = some feedback ∧
    feedback.blockReason = reason

variable {response : Option ModelResponse} {r : ModelResponse}
    {content : ResponseContent} {candidate : Candidate}
  {others : List (Option Candidate)}

theorem Opens.unique {content' : ResponseContent} (opens : r.Opens content)
    (opens' : r.Opens content') :
    content = content' := by
  obtain ⟨candidate, others, listed, held⟩ := opens
  obtain ⟨candidate', others', listed', held'⟩ := opens'
  cases listed.symm.trans listed'
  exact Option.some.inj (held.symm.trans held')

theorem text_of_opens (opens : r.Opens content) (spoken : content.parts ≠ []) :
    text (some r) = joinParts content.parts := by
  obtain ⟨candidate, others, listed, held⟩ := opens
  have parts_eq : candidate.parts = content.parts := by
    rw [Candidate.parts, held]
  simp [text, listed, parts_eq, spoken]

theorem text_of_unspoken (listed : r.candidates = some candidate :: others)
    (unspoken : ∀ content, candidate.content = some content →
      content.parts = []) :
    text (some r) = .error (if candidate.finishReason = [] then
      .noCandidates else .finished candidate.finishReason) := by
  have parts_eq : candidate.parts = [] := by
    unfold Candidate.parts
    cases held : candidate.content with
    | none => rfl
    | some content => exact unspoken content held
  simp [text, listed, parts_eq]

theorem text_of_no_candidates (bare : r.candidates = []) :
    text (some r) = .error (if r.blockReason = [] then
      .noCandidates else .blocked r.blockReason) := by
  simp [text, bare]

private theorem blockedFor_blockReason (given : r.blockReason ≠ []) :
    BlockedFor (some r) r.blockReason := by
  refine ⟨given, r, ?_⟩
  unfold blockReason at given ⊢
  cases held : r.feedback with
  | none => simp [held] at given
  | some feedback => exact ⟨feedback, rfl, rfl, rfl⟩

theorem IsWhole.joinParts_eq_ok (whole : IsWhole (some r))
    (opens : r.Opens content) :
    joinParts content.parts = .ok (words content.parts) := by
  obtain ⟨candidate, others, listed, held⟩ := opens
  obtain ⟨_, same, present⟩ := whole r _ others rfl listed
  cases same
  rw [joinParts_eq, if_neg (present content held)]

theorem exists_opens_of_text {t : Bytes} (read : text (some r) = .ok t) :
    ∃ content, r.Opens content ∧ content.parts ≠ [] := by
  cases listed : r.candidates with
  | nil => simp [text, listed] at read
  | cons first others =>
      cases first with
      | none => simp [text, listed] at read
      | some candidate =>
          by_contra unspoken
          have empty : ∀ content, candidate.content = some content →
              content.parts = [] := by
            intro content held
            by_contra spoken
            exact unspoken ⟨content, ⟨candidate, others, listed, held⟩, spoken⟩
          rw [text_of_unspoken listed empty] at read
          cases read

private theorem text_eq_ok_iff (whole : IsWhole response) {t : Bytes} :
    text response = .ok t ↔
      ∃ r content, response = some r ∧ r.Opens content ∧ content.parts ≠ [] ∧
        t = words content.parts := by
  constructor
  · intro read
    cases response with
    | none => cases read
    | some r =>
        obtain ⟨content, opens, spoken⟩ := exists_opens_of_text read
        rw [text_of_opens opens spoken, whole.joinParts_eq_ok opens] at read
        cases read
        exact ⟨r, content, rfl, opens, spoken, rfl⟩
  · rintro ⟨r, content, rfl, opens, spoken, rfl⟩
    rw [text_of_opens opens spoken, whole.joinParts_eq_ok opens]

private theorem text_of_rephrased {r' : ModelResponse}
    {content' : ResponseContent} (opens : r.Opens content)
    (opens' : r'.Opens content')
    (rephrased : Relation.EqvGen Rephrased content.parts content'.parts)
    (spoken' : content'.parts ≠ [])
    {t : Bytes} (read : text (some r) = .ok t) : text (some r') = .ok t := by
  obtain ⟨own, opensOwn, spoken⟩ := exists_opens_of_text read
  cases opens.unique opensOwn
  rw [text_of_opens opens spoken, joinParts_of_rephrased rephrased] at read
  rw [text_of_opens opens' spoken', read]

/-- The response gives no text, and the complaint says more than that there was
none. -/
def FailsWith (response : Option ModelResponse) (message : Bytes) : Prop :=
  ∃ fault, text response = .error fault ∧ fault ≠ .noCandidates ∧
    fault.message = message

private theorem failsWith_of_blockedFor
    (bare : ∀ r, response = some r → r.candidates = [])
    {reason : Bytes} (blocked : BlockedFor response reason) :
    FailsWith response (utf8 "prompt blocked: " ++ reason) := by
  obtain ⟨given, r, feedback, rfl, held, rfl⟩ := blocked
  have reason_eq : r.blockReason = feedback.blockReason := by
    rw [blockReason, held]
  refine ⟨.blocked feedback.blockReason, ?_, nofun, rfl⟩
  rw [text_of_no_candidates (bare r rfl), reason_eq, if_neg given]

private theorem text_of_not_blocked
    (bare : ∀ r, response = some r → r.candidates = [])
    (unblocked : ∀ reason, ¬ BlockedFor response reason) :
    text response = .error .noCandidates := by
  cases response with
  | none => rfl
  | some r =>
      have missing : r.blockReason = [] := by
        by_contra given
        exact unblocked _ (blockedFor_blockReason given)
      rw [text_of_no_candidates (bare r rfl), if_pos missing]

/-- A response has a text exactly if its first candidate has a part, and the
text is then what that candidate says aloud: it stays the same whatever else is
in the response and however the words are cut into parts. -/
theorem first_candidate_alone_is_read (response : Option ModelResponse)
    (whole : IsWhole response) :
    (∀ t, text response = .ok t ↔
      ∃ r content, response = some r ∧ r.Opens content ∧ content.parts ≠ [] ∧
        t = words content.parts) ∧
    (∀ r r' content content', response = some r →
      r.Opens content → r'.Opens content' →
      Relation.EqvGen Rephrased content.parts content'.parts →
      content'.parts ≠ [] →
      ∀ t, text response = .ok t → text (some r') = .ok t) ∧
    ((∀ r, response = some r → r.candidates = []) →
      (∀ reason, BlockedFor response reason →
        FailsWith response (utf8 "prompt blocked: " ++ reason)) ∧
      ((∀ reason, ¬ BlockedFor response reason) →
        text response = .error .noCandidates)) ∧
    ∀ r candidate others, response = some r →
      r.candidates = some candidate :: others →
      (∀ content, candidate.content = some content → content.parts = []) →
      (candidate.finishReason ≠ [] →
        FailsWith response
          (utf8 "response has no text (finish reason: " ++
            candidate.finishReason ++ utf8 ")")) ∧
      (candidate.finishReason = [] → text response = .error .noCandidates) := by
  refine ⟨fun t => text_eq_ok_iff whole, ?_, ?_, ?_⟩
  · rintro r r' content content' rfl opens opens' rephrased spoken' t read
    exact text_of_rephrased opens opens' rephrased spoken' read
  · intro bare
    exact ⟨fun reason blocked => failsWith_of_blockedFor bare blocked,
      text_of_not_blocked bare⟩
  · rintro r candidate others rfl listed unspoken
    have failed := text_of_unspoken listed unspoken
    constructor
    · intro given
      rw [if_neg given] at failed
      exact ⟨_, failed, nofun, rfl⟩
    · intro missing
      rwa [if_pos missing] at failed

def musing : ModelResponse where
  candidates :=
    [some ⟨some ⟨[some ⟨"hm", true⟩, some ⟨"a cat", false⟩]⟩, "STOP"⟩, none]
  feedback := some ⟨"SAFETY"⟩

def curt : ModelResponse where
  candidates :=
    [some ⟨some ⟨[some ⟨"a ", false⟩, some ⟨[], false⟩, some ⟨"cat", false⟩]⟩,
      []⟩]
  usage := some ⟨3, 2⟩

def cutOff : ModelResponse where
  candidates := [some ⟨some ⟨[]⟩, "MAX_TOKENS"⟩]

theorem musing_and_curt_read_alike :
    IsWhole (some musing) ∧ text (some musing) = .ok "a cat" ∧
      text (some curt) = .ok "a cat" ∧
      FailsWith (some cutOff)
        "response has no text (finish reason: MAX_TOKENS)" := by
  have whole : IsWhole (some musing) := by
    rintro _ first others ⟨⟩ ⟨⟩
    refine ⟨_, rfl, ?_⟩
    rintro _ ⟨⟩
    decide
  have whole' : IsWhole (some cutOff) := by
    rintro _ first others ⟨⟩ ⟨⟩
    refine ⟨_, rfl, ?_⟩
    rintro _ ⟨⟩
    decide
  have opens : musing.Opens ⟨[some ⟨"hm", true⟩, some ⟨"a cat", false⟩]⟩ :=
    ⟨_, _, rfl, rfl⟩
  have opens' : curt.Opens
      ⟨[some ⟨"a ", false⟩, some ⟨[], false⟩, some ⟨"cat", false⟩]⟩ :=
    ⟨_, _, rfl, rfl⟩
  have rephrased :
      Relation.EqvGen Rephrased [some ⟨"hm", true⟩, some ⟨"a cat", false⟩]
      [some ⟨"a ", false⟩, some ⟨[], false⟩, some ⟨"cat", false⟩] := by
    apply Relation.EqvGen.trans
    · exact .symm _ _
        (.rel _ _ (.silent [] [some ⟨"a cat", false⟩] (Or.inl rfl)))
    · apply Relation.EqvGen.trans
      · exact .rel _ _ (.split [] [] "a " "cat" false)
      · exact .rel _ _ (.silent [some ⟨"a ", false⟩] [some ⟨"cat", false⟩]
          (Or.inr rfl))
  obtain ⟨reads, invariant, -, -⟩ :=
    first_candidate_alone_is_read (some musing) whole
  obtain ⟨-, -, -, ended⟩ := first_candidate_alone_is_read (some cutOff) whole'
  have read : text (some musing) = .ok "a cat" :=
    (reads _).2 ⟨musing, _, rfl, opens, nofun, rfl⟩
  refine ⟨whole, read, invariant musing curt _ _ rfl opens opens' rephrased
    nofun _ read, ?_⟩
  refine (ended cutOff _ _ rfl rfl ?_).1 (by decide)
  rintro _ ⟨⟩
  rfl

end ModelResponse

end ModelGateway
