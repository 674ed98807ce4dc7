import ModelGateway.Service.Access

/-!
Failures as trees. Every reader of a failure looks at the same part of it, the
first one with a category, and a failure without such a part is read as it
stands.
-/

namespace ModelGateway.Failure

def isCategorized : Failure → Bool
  | .categorized _ _ _ => true
  | _ => false

def own? : Failure → Option (Category × Bytes)
  | .categorized category message _ => some (category, message)
  | _ => none

mutual

/-- A failure and all failures inside it, each before those inside it, and these
before those beside it. -/
def preorder : Failure → List Failure
  | .categorized category message cause =>
      .categorized category message cause :: preorderOfCause cause
  | .plain message => [.plain message]
  | .around text cause => .around text cause :: preorderOfCause cause
  | .aroundAll text causes => .aroundAll text causes :: preorderOf causes
  | .joined causes => .joined causes :: preorderOf causes

def preorderOfCause : Option Failure → List Failure
  | none => []
  | some failure => failure.preorder

def preorderOf : List Failure → List Failure
  | [] => []
  | failure :: rest => failure.preorder ++ preorderOf rest

end

/-- The first failure with a category. -/
def leader? (failure : Failure) : Option Failure :=
  failure.preorder.find? isCategorized

mutual

theorem first?_eq (failure : Failure) :
    failure.first? = failure.preorder.findSome? own? := by
  cases failure with
  | categorized category message cause => rfl
  | plain message => rfl
  | around text cause => exact firstOfCause?_eq cause
  | aroundAll text causes => exact firstOf?_eq causes
  | joined causes => exact firstOf?_eq causes

private theorem firstOfCause?_eq (cause : Option Failure) :
    firstOfCause? cause = (preorderOfCause cause).findSome? own? := by
  cases cause with
  | none => rfl
  | some failure => exact first?_eq failure

theorem firstOf?_eq (causes : List Failure) :
    firstOf? causes = (preorderOf causes).findSome? own? := by
  cases causes with
  | nil => rfl
  | cons failure rest =>
      rw [firstOf?, preorderOf, List.findSome?_append, first?_eq failure,
        firstOf?_eq rest]

end

theorem first?_eq_leader? (failure : Failure) :
    failure.first? = failure.leader?.bind own? := by
  rw [first?_eq, leader?]
  induction failure.preorder with
  | nil => rfl
  | cons node rest induction =>
      cases node with
      | categorized category message cause => rfl
      | plain | around | aroundAll | joined => exact induction

/-- The failure is read as one of this category and message: by type, by status,
by what the client is told and by the type of an event about it. -/
structure ReadAs (failure : Failure) (category : Category) (message : Bytes) :
    Prop where
  isOf_iff : ∀ other, failure.isOf other = true ↔ other = category
  status_mem : (category, failure.status) ∈
    [(.validation, 400), (.payloadTooLarge, 413), (.notFound, 404),
      (.config, 500), (.provider, 500), (.internal, 500)]
  publicMessage_eq : failure.publicMessage = message
  errorType_eq : ∀ v kind route model elapsed,
    (ModelAccess.event v kind route model elapsed (some failure)).errorType =
      category.name

structure ReadPlain (failure : Failure) : Prop where
  isOf_eq : ∀ category, failure.isOf category = false
  status_eq : failure.status = 500
  publicMessage_eq : failure.publicMessage = failure.text
  errorType_eq : ∀ v kind route model elapsed,
    (ModelAccess.event v kind route model elapsed (some failure)).errorType = []

section Reading

variable {failure : Failure} {category : Category} {message : Bytes}

theorem ReadAs.of_first? (first : failure.first? = some (category, message)) :
    failure.ReadAs category message := by
  have category_eq : failure.category? = some category := by
    rw [category?, first]
    rfl
  refine ⟨?_, ?_, ?_, ?_⟩
  · intro other
    rw [isOf, category_eq, beq_iff_eq, Option.some.injEq]
    exact eq_comm
  · rw [status, category_eq]
    cases category <;> decide
  · rw [publicMessage, first]
  · intro v kind route model elapsed
    simp only [ModelAccess.event, Option.bind_some, category_eq]
    rfl

theorem ReadPlain.of_first? (first : failure.first? = none) :
    failure.ReadPlain := by
  have category_eq : failure.category? = none := by
    rw [category?, first]
    rfl
  refine ⟨?_, ?_, ?_, ?_⟩
  · intro category
    rw [isOf, category_eq]
    rfl
  · rw [status, category_eq]
  · rw [publicMessage, first]
  · intro v kind route model elapsed
    simp only [ModelAccess.event, Option.bind_some, category_eq]
    rfl

private theorem first?_of_leader? {cause : Option Failure}
    (leads : failure.leader? = some (.categorized category message cause)) :
    failure.first? = some (category, message) := by
  rw [first?_eq_leader?, leads]
  rfl

private theorem first?_of_uncategorized
    (plain : ∀ node ∈ failure.preorder, node.isCategorized = false) :
    failure.first? = none := by
  have leaderless : failure.leader? = none := by
    apply List.find?_eq_none.2
    intro node member categorized
    cases (plain node member).symm.trans categorized
  rw [first?_eq_leader?, leaderless]
  rfl

theorem firstOf?_cons (first : failure.first? = some (category, message))
    (rest : List Failure) :
    firstOf? (failure :: rest) = some (category, message) := by
  rw [firstOf?, first]
  rfl

end Reading

/-- All readers of a failure agree on its leader, also through what is laid
around it. -/
theorem readers_agree_on_leader (failure : Failure) :
    (∀ category message cause,
      failure.leader? = some (.categorized category message cause) →
      failure.ReadAs category message ∧
      (∀ text, (around text (some failure)).ReadAs category message) ∧
      (∀ text rest,
        (aroundAll text (failure :: rest)).ReadAs category message) ∧
      ∀ rest, (joined (failure :: rest)).ReadAs category message) ∧
      ((∀ node ∈ failure.preorder, node.isCategorized = false) →
        failure.ReadPlain) := by
  constructor
  · intro category message cause leads
    have first := first?_of_leader? leads
    refine ⟨.of_first? first, ?_, ?_, ?_⟩
    · intro text
      exact .of_first? first
    · intro text rest
      exact .of_first? (firstOf?_cons first rest)
    · intro rest
      exact .of_first? (firstOf?_cons first rest)
  · intro plain
    exact .of_first? (first?_of_uncategorized plain)

def thicket : Failure :=
  .joined [.plain "a", .wrapped "b" (some (.notFound "c" (some .config))),
    .validation "d" none]

theorem thicket_read_as_not_found :
    thicket.ReadAs .notFound "c" ∧
      (wrapped "e" (some thicket)).ReadAs .notFound "c" ∧
      (joined [.plain "a", .wrapped "b" none]).ReadPlain := by
  have leads :
      thicket.leader? = some (.categorized .notFound "c" (some .config)) :=
    rfl
  obtain ⟨read, wrapping, -, -⟩ :=
    (readers_agree_on_leader thicket).1 _ _ _ leads
  refine ⟨read, wrapping _, (readers_agree_on_leader _).2 ?_⟩
  decide

end ModelGateway.Failure
