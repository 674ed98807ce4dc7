import Mathlib.Data.List.Pairwise
import ModelGateway.Proofs.Correspondence
import ModelGateway.Proofs.Refusal

/-!
Options are set one by one. As long as no two of them address one field, they
are taken together exactly if each is taken by itself, and each field holds what
it holds when its option is the only one.
-/

namespace ModelGateway

namespace Place

section Records

variable {role : Key.Role} {path : Bytes} {record : Record}
    {fields : Fields Binary} {x : Setting} {f : Field}

private theorem fits_record_iff :
    Fits ⟨role, path, .record record, .object fields⟩ ↔
      ∀ entry ∈ fields, ∃ f ∈ record.fields,
        Decode.chosenKey? f (fields.map fun entry => role.spell entry.1) =
          some (role.spell entry.1) ∧
          Fits ⟨role.below entry.1, path.field f.name, f.shape, entry.2⟩ := by
  simp only [Fits, decode, Respell.value_object, Decode.decode_fields,
    keys_respelt, Checked.both_eq_ok_iff]
  constructor
  · rintro ⟨_, settings, _, set, known, _⟩ entry member
    obtain ⟨f, field, chosen⟩ :=
      Decode.checkKeys_eq_ok_iff.1 known _ (List.mem_map_of_mem member)
    have each := Decode.exists_decodeFields_iff.1 ⟨settings, set⟩ _
      (List.mem_map_of_mem member)
    exact ⟨f, field, chosen, each f (Decode.fieldOf?_eq_some field chosen)⟩
  · intro each
    have known : Decode.checkKeys path record
        (fields.map fun entry => role.spell entry.1) = .ok () := by
      apply Decode.checkKeys_eq_ok_iff.2
      intro name listed
      obtain ⟨entry, member, rfl⟩ := List.mem_map.1 listed
      obtain ⟨f, field, chosen, _⟩ := each entry member
      exact ⟨f, field, chosen⟩
    obtain ⟨settings, set⟩ : ∃ settings, Decode.decodeFields path record
        (fields.map fun entry => role.spell entry.1)
        (fields.map fun entry =>
          (role.spell entry.1, Respell.value (role.below entry.1) entry.2)) =
          .ok settings := by
      apply Decode.exists_decodeFields_iff.2
      intro respelt listed f addressed
      obtain ⟨entry, member, rfl⟩ := List.mem_map.1 listed
      obtain ⟨g, field, chosen, taken⟩ := each entry member
      cases addressed.symm.trans (Decode.fieldOf?_eq_some field chosen)
      exact taken
    exact ⟨_, settings, (), set, known, rfl⟩

private theorem move?_of_taken {key : Bytes} {v : Value}
    (decoded : decode ⟨role, path, .record record, .object fields⟩ = .ok x)
    (field : f ∈ record.fields)
    (taken : taken? role fields f = some (key, v)) :
    ∃ y, decode ⟨role.below key, path.field f.name, f.shape, v⟩ = .ok y ∧
      Setting.move? (.record record) x (.field f.name) =
        some (f.shape, if y.isEmpty then f.shape.empty else y) := by
  obtain ⟨settings, rfl, _, placed⟩ := decode_fields decoded
  have here := placed f field
  rw [taken, Option.map_some] at here
  obtain ⟨⟨name, y⟩, found, decoded⟩ := Option.map_eq_some_iff.1 here.symm
  refine ⟨y, decoded.symm, ?_⟩
  rw [Setting.move?_field field, Decode.find?_arrange field, Decode.kept, found]
  -- a record does not list what is empty, and what it does not list is read as
  -- left alone
  cases empty : y.isEmpty with
  | true => simp [Option.filter, empty]
  | false => simp [Option.filter, empty]

private theorem move?_of_untaken
    (decoded : decode ⟨role, path, .record record, .object fields⟩ = .ok x)
    (field : f ∈ record.fields)
    (untaken : taken? role fields f = none) :
    Setting.move? (.record record) x (.field f.name) =
      some (f.shape, f.shape.empty) := by
  obtain ⟨settings, rfl, _, placed⟩ := decode_fields decoded
  have here := placed f field
  rw [untaken, Option.map_none] at here
  rw [Setting.move?_field field, Decode.find?_arrange field, Decode.kept,
    Option.map_eq_none_iff.1 here.symm]
  rfl

end Records

end Place

namespace GenerationConfig

def Unrelated (a b : Bytes × Value) : Prop :=
  ∀ f ∈ Record.generation.fields,
    ¬ (f.AnswersTo (Key.camel a.1) ∧ f.AnswersTo (Key.camel b.1))

instance : Std.Symm Unrelated where
  symm _ _ unrelated f field both := unrelated f field both.symm

/-- No two options address one field. -/
def Apart (options : Fields Binary) : Prop :=
  options.Pairwise Unrelated

def Settable (entry : Bytes × Value) : Prop :=
  Respell.Distinct (Key.role (Key.camel entry.1)) entry.2 ∧
    ∃ f ∈ Record.generation.fields, f.AnswersTo (Key.camel entry.1) ∧
      Place.Fits ⟨Key.role (Key.camel entry.1), Bytes.field [] f.name,
        f.shape, entry.2⟩

private theorem apart_of_names {options : Fields Binary}
    (differ : options.Pairwise fun a b =>
      Key.foldEq (Key.camel a.1) (Key.camel b.1) = false) :
    Apart options := by
  apply differ.imp
  rintro a b differ f _ ⟨answers, answers'⟩
  have same :=
    Key.foldEq_trans (Key.foldEq_symm (Field.answersTo_iff.1 answers))
      (Field.answersTo_iff.1 answers')
  cases differ.symm.trans same

theorem apart_singleton (entry : Bytes × Value) : Apart [entry] :=
  List.pairwise_singleton _ entry

section Apart

variable {options : Fields Binary} {f : Field} {entry : Bytes × Value}
    {config : Setting}

theorem Apart.eq_of_answersTo (apart : Apart options)
    (field : f ∈ Record.generation.fields)
    {a b : Bytes × Value} (first : a ∈ options) (second : b ∈ options)
    (answers : f.AnswersTo (Key.camel a.1))
    (answers' : f.AnswersTo (Key.camel b.1)) : a = b := by
  by_contra differ
  exact List.Pairwise.forall apart first second differ f field
    ⟨answers, answers'⟩

theorem Apart.chosenKey? (apart : Apart options)
    (field : f ∈ Record.generation.fields)
    (member : entry ∈ options)
    (answers : f.AnswersTo (Key.camel entry.1)) :
    Decode.chosenKey? f (options.map fun entry => Key.camel entry.1) =
      some (Key.camel entry.1) := by
  apply Decode.chosenKey?_eq_some (List.mem_map_of_mem member)
    (Field.answersTo_iff.1 answers)
  intro name listed folds
  obtain ⟨other, member', rfl⟩ := List.mem_map.1 listed
  rw [apart.eq_of_answersTo field member' member (Or.inr folds) answers]

theorem Apart.taken? (apart : Apart options)
    (field : f ∈ Record.generation.fields)
    (member : entry ∈ options)
    (answers : f.AnswersTo (Key.camel entry.1)) :
    Place.taken? .ordinary options f = some entry := by
  cases taken : Place.taken? .ordinary options f with
  | none =>
      have untaken := List.find?_eq_none.1 taken entry member
      simp [apart.chosenKey? field member answers] at untaken
  | some other =>
      obtain ⟨member', chosen⟩ := Place.takenKey taken
      have answers' : f.AnswersTo (Key.camel other.1) :=
        Or.inr (Decode.foldEq_of_chosenKey? chosen)
      exact congrArg some
        (apart.eq_of_answersTo field member' member answers' answers)

theorem Apart.nodup (apart : Apart options)
    (settable : ∀ entry ∈ options, Settable entry) :
    (options.map fun entry => Key.camel entry.1).Nodup := by
  apply List.pairwise_map.2
  refine List.Pairwise.imp_of_mem ?_ apart
  intro a b first _ apart same
  -- only the field that the first one addresses tells them apart: names of no
  -- field may well be spelt alike
  obtain ⟨_, f, field, answers, _⟩ := settable a first
  exact apart f field ⟨answers, same ▸ answers⟩

theorem exists_decode_iff (nonempty : options ≠ []) :
    (∃ config, GenerationConfig.decode options = .ok (some config)) ↔
      Respell.Distinct .ordinary (.object options) ∧
        (Place.root options).Fits := by
  constructor
  · rintro ⟨config, decoded⟩
    obtain ⟨distinct, root⟩ := of_decode_eq_ok decoded
    exact ⟨distinct, config, root⟩
  · rintro ⟨distinct, config, root⟩
    refine ⟨config, ?_⟩
    rw [decode_of_distinct nonempty distinct, root]

theorem Apart.exists_decode_iff (apart : Apart options)
    (nonempty : options ≠ []) :
    (∃ config, GenerationConfig.decode options = .ok (some config)) ↔
      ∀ entry ∈ options, Settable entry := by
  rw [GenerationConfig.exists_decode_iff nonempty, Place.root,
    Place.fits_record_iff]
  constructor
  · rintro ⟨distinct, each⟩ entry member
    obtain ⟨f, field, chosen, fits⟩ := each entry member
    exact ⟨Respell.distinctFields_iff.1 distinct.2 entry member, f, field,
      Or.inr (Decode.foldEq_of_chosenKey? chosen), fits⟩
  · intro settable
    have distinct : Respell.DistinctFields .ordinary options :=
      Respell.distinctFields_iff.2 fun entry member => (settable entry member).1
    refine ⟨⟨fun _ => apart.nodup settable, distinct⟩, ?_⟩
    intro entry member
    obtain ⟨_, f, field, answers, fits⟩ := settable entry member
    exact ⟨f, field, apart.chosenKey? field member answers, fits⟩

/-- What a field holds depends on the option that addresses it and on no
other. -/
theorem Apart.move? (apart : Apart options)
    (decoded : GenerationConfig.decode options = .ok (some config))
    (field : f ∈ Record.generation.fields)
    (member : entry ∈ options)
    (answers : f.AnswersTo (Key.camel entry.1)) :
    ∃ y, Place.decode ⟨Key.role (Key.camel entry.1), Bytes.field [] f.name,
      f.shape, entry.2⟩ = .ok y ∧
      Setting.move? (.record .generation) config (.field f.name) =
        some (f.shape, if y.isEmpty then f.shape.empty else y) :=
  Place.move?_of_taken (of_decode_eq_ok decoded).2 field
    (apart.taken? field member answers)

private theorem Apart.unset (apart : Apart options)
    (decoded : GenerationConfig.decode options = .ok (some config))
    (field : f ∈ Record.generation.fields)
    (unaddressed : ∀ entry ∈ options, f.AnswersTo (Key.camel entry.1) →
      entry.2 = .null) :
    Setting.move? (.record .generation) config (.field f.name) =
      some (f.shape, f.shape.empty) := by
  cases taken : Place.taken? .ordinary options f with
  | none => exact Place.move?_of_untaken (of_decode_eq_ok decoded).2 field taken
  | some entry =>
      obtain ⟨member, chosen⟩ := Place.takenKey taken
      have answers : f.AnswersTo (Key.camel entry.1) :=
        Or.inr (Decode.foldEq_of_chosenKey? chosen)
      obtain ⟨y, read, held⟩ := apart.move? decoded field member answers
      rw [unaddressed entry member answers] at read
      rw [held, Place.eq_empty_of_null read, ite_self]

end Apart

/-- Options that address different fields do not affect each other. -/
theorem options_set_one_by_one (options : Fields Binary)
    (nonempty : options ≠ [])
    (apart : Apart options) :
    ((∃ config, GenerationConfig.decode options = .ok (some config)) ↔
      ∀ entry ∈ options,
        ∃ own, GenerationConfig.decode [entry] = .ok (some own)) ∧
    ∀ config, GenerationConfig.decode options = .ok (some config) →
      ∀ f ∈ Record.generation.fields,
      (∀ entry ∈ options, f.AnswersTo (Key.camel entry.1) →
        ∃ own held, GenerationConfig.decode [entry] = .ok (some own) ∧
          Setting.move? (.record .generation) config (.field f.name) =
            some (f.shape, held) ∧
          Setting.move? (.record .generation) own (.field f.name) =
            some (f.shape, held)) ∧
      ((∀ entry ∈ options, f.AnswersTo (Key.camel entry.1) → entry.2 = .null) →
        Setting.move? (.record .generation) config (.field f.name) =
          some (f.shape, f.shape.empty)) := by
  have alone (entry : Bytes × Value) :
      (∃ own, GenerationConfig.decode [entry] = .ok (some own)) ↔
        Settable entry := by
    rw [(apart_singleton entry).exists_decode_iff (List.cons_ne_nil _ _),
      List.forall_mem_singleton]
  have together := apart.exists_decode_iff nonempty
  refine ⟨?_, ?_⟩
  · simp only [alone]
    exact together
  · intro config decoded f field
    refine ⟨?_, apart.unset decoded field⟩
    intro entry member answers
    obtain ⟨own, decodedOwn⟩ :=
      (alone entry).2 (together.1 ⟨config, decoded⟩ entry member)
    obtain ⟨y, read, held⟩ := apart.move? decoded field member answers
    obtain ⟨y', read', held'⟩ :=
      (apart_singleton entry).move? decodedOwn field
        (List.mem_singleton_self entry) answers
    cases read.symm.trans read'
    exact ⟨own, _, decodedOwn, held, held'⟩

def mixedOptions : Fields Binary :=
  [("max_output_tokens", .number ⟨false, 8, 0⟩), ("SEED", .null),
    ("labels", .object [("a_b", .string "x")])]

theorem mixed_options_set_one_by_one :
    Apart mixedOptions ∧
    (∀ entry ∈ mixedOptions, ∃ own, GenerationConfig.decode [entry] =
      .ok (some own)) ∧
    ∃ config, GenerationConfig.decode mixedOptions = .ok (some config) ∧
      Setting.move? (.record .generation) config (.field "seed") =
        some (.optional .int32, .absent) := by
  have apart : Apart mixedOptions := apart_of_names (by decide +kernel)
  obtain ⟨config, decoded⟩ : ∃ config, GenerationConfig.decode mixedOptions =
    .ok (some config) := ⟨_, rfl⟩
  obtain ⟨each, fields⟩ := options_set_one_by_one mixedOptions nofun apart
  refine ⟨apart, each.1 ⟨config, decoded⟩, config, decoded, ?_⟩
  apply (fields config decoded ⟨"seed", .optional .int32⟩ (by decide +kernel)).2
  intro entry member answers
  obtain rfl | rfl | rfl := by simpa [mixedOptions] using member
  · exact absurd (Field.answersTo_iff.1 answers) (by decide +kernel)
  · rfl
  · exact absurd (Field.answersTo_iff.1 answers) (by decide +kernel)

end GenerationConfig

end ModelGateway
