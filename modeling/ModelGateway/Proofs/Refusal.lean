import ModelGateway.Proofs.Number
import ModelGateway.Proofs.Passage

namespace ModelGateway

def Field.AnswersTo (f : Field) (name : Bytes) : Prop :=
  name = f.name ∨ Key.foldEq f.name name = true

theorem Field.answersTo_iff {f : Field} {name : Bytes} :
    f.AnswersTo name ↔ Key.foldEq f.name name = true := by
  constructor
  · rintro (rfl | h)
    · exact Key.foldEq_self f.name
    · exact h
  · exact Or.inr

namespace Place

variable {role : Key.Role} {path : Bytes} {record : Record}
    {fields : Fields Binary} {key : Bytes}

theorem exists_chosen (fits : Fits ⟨role, path, .record record, .object fields⟩)
    (member : key ∈ Fields.keys fields) :
    ∃ f ∈ record.fields,
      Decode.chosenKey? f (fields.map fun entry => role.spell entry.1) =
        some (Key.camel key) ∧
        role.spell key = Key.camel key := by
  obtain ⟨x, decoded⟩ := fits
  obtain ⟨settings, _, known, _⟩ := decode_fields decoded
  obtain ⟨entry, present, rfl⟩ := List.mem_map.mp member
  obtain ⟨f, member, chosen⟩ :=
    known (role.spell entry.1) (List.mem_map.mpr ⟨entry, present, rfl⟩)
  have camel : role.spell entry.1 = Key.camel entry.1 := by
    by_cases ordinary : role = .ordinary
    · rw [ordinary]
      rfl
    · rw [Key.Role.spell_of_ne_ordinary ordinary] at chosen ⊢
      exact (Record.camel_of_foldEq member
        (Decode.foldEq_of_chosenKey? chosen)).symm
  exact ⟨f, member, camel ▸ chosen, camel⟩

private theorem spell_injOn (distinct : Respell.Distinct role (.object fields))
    {key' : Bytes} (member : key ∈ Fields.keys fields)
    (member' : key' ∈ Fields.keys fields)
    (same : role.spell key = role.spell key') : key = key' := by
  by_cases ordinary : role = .ordinary
  · subst ordinary
    obtain ⟨entry, present, rfl⟩ := List.mem_map.mp member
    obtain ⟨entry', present', rfl⟩ := List.mem_map.mp member'
    rw [List.inj_on_of_nodup_map (distinct.1 rfl) present present' same]
  · rwa [Key.Role.spell_of_ne_ordinary ordinary,
      Key.Role.spell_of_ne_ordinary ordinary] at same

end Place

namespace GenerationConfig

/-- No name is ignored: in options that are taken, each name of an object that
is set into a record answers for a field of the record, and no field has two of
them. -/
theorem every_name_has_its_field {options : Fields Binary} {config : Setting}
    {ms : List Move} {role : Key.Role} {path : Bytes}
    {record : Record} {fields : Fields Binary}
    (decoded : GenerationConfig.decode options = .ok (some config))
    (position : (Place.root options).Contains ms
      ⟨role, path, .record record, .object fields⟩) :
    (∀ key ∈ Fields.keys fields,
        ∃ f ∈ record.fields, f.AnswersTo (Key.camel key)) ∧
      ∀ key ∈ Fields.keys fields, ∀ key' ∈ Fields.keys fields,
        ∀ f ∈ record.fields,
          f.AnswersTo (Key.camel key) → f.AnswersTo (Key.camel key') →
          key = key' := by
  obtain ⟨distinct, root⟩ := of_decode_eq_ok decoded
  have fits := position.fits ⟨config, root⟩
  have distinct := position.distinct distinct
  constructor
  · intro key member
    obtain ⟨f, member, chosen, _⟩ := Place.exists_chosen fits member
    exact ⟨f, member, Or.inr (Decode.foldEq_of_chosenKey? chosen)⟩
  · intro key member key' member' f field answers answers'
    obtain ⟨g, fieldG, chosen, camel⟩ := Place.exists_chosen fits member
    obtain ⟨g', fieldG', chosen', camel'⟩ := Place.exists_chosen fits member'
    have own : g = f := Record.field_unique_of_foldEq fieldG field
      (Decode.foldEq_of_chosenKey? chosen) (Field.answersTo_iff.mp answers)
    have own' : g' = f := Record.field_unique_of_foldEq fieldG' field
      (Decode.foldEq_of_chosenKey? chosen') (Field.answersTo_iff.mp answers')
    subst own own'
    have same : Key.camel key = Key.camel key' :=
      Option.some.inj (chosen.symm.trans chosen')
    apply Place.spell_injOn distinct member member'
    rw [camel, camel', same]

def toolOptions : Fields Binary :=
  [("tools", .object [("function_declarations", .array [.object [
    ("name", .string "lookup"),
    ("parameters", .object [("properties", .object [
      ("user_id", .object [
        ("TYPE", .string "STRING"),
        ("title", .null),
        ("max_length", .number ⟨false, 8, 0⟩)])])])]])])]

theorem tool_names_have_their_fields :
    ∃ config ms path fields,
      GenerationConfig.decode toolOptions = .ok (some config) ∧
        (Place.root toolOptions).Contains ms
          ⟨.ordinary, path, .record .schema, .object fields⟩ ∧
        Fields.keys fields = ["TYPE", "title", "max_length"] ∧
        (∀ key ∈ Fields.keys fields, ∃ f ∈ Record.schema.fields,
          f.AnswersTo (Key.camel key)) ∧
        ∀ key ∈ Fields.keys fields, ∀ key' ∈ Fields.keys fields,
          ∀ f ∈ Record.schema.fields,
          f.AnswersTo (Key.camel key) → f.AnswersTo (Key.camel key') →
            key = key' := by
  obtain ⟨config, decoded⟩ : ∃ config, GenerationConfig.decode toolOptions =
    .ok (some config) :=
    ⟨_, rfl⟩
  have position := Place.contains_iff.mpr (show (Place.root toolOptions).follow?
    [.field "tools", .item 0, .inside, .field "functionDeclarations", .item 0,
      .inside, .field "parameters", .inside, .field "properties",
      .entry 0 "user_id", .inside] = some _ from rfl)
  exact ⟨config, _, _, _, decoded, position, rfl,
    every_name_has_its_field decoded position⟩

end GenerationConfig

namespace Bytes

private theorem infix_join {sep s : Bytes} {texts : List Bytes}
    (member : s ∈ texts) :
    s <:+: join sep texts := by
  induction texts with
  | nil => cases member
  | cons first rest ih =>
      cases rest with
      | nil =>
          rw [List.mem_singleton.mp member]
          exact List.infix_rfl
      | cons second others =>
          simp only [join]
          rcases List.mem_cons.mp member with own | later
          · subst own
            rw [List.append_assoc]
            exact (List.prefix_append s _).isInfix
          · exact (ih later).trans (List.suffix_append _ _).isInfix

private theorem mem_sort {s : Bytes} {texts : List Bytes} :
    s ∈ sort texts ↔ s ∈ texts :=
  (List.mergeSort_perm texts le).mem_iff

end Bytes

private theorem Mismatch.message_infix_report {mismatch : Mismatch}
    {all : List Mismatch} (member : mismatch ∈ all) :
    mismatch.message <:+: Mismatch.report all := by
  let lines := all.map fun m => utf8 "* " ++ m.message
  have line : utf8 "* " ++ mismatch.message ∈ Bytes.sort lines :=
    Bytes.mem_sort.mpr (List.mem_map_of_mem member)
  have listed :
      utf8 "* " ++ mismatch.message <:+: Bytes.join "\n" (Bytes.sort lines) :=
    Bytes.infix_join line
  have reported : utf8 "* " ++ mismatch.message <:+: Mismatch.report all :=
    listed.trans (List.suffix_append _ _).isInfix
  exact (List.suffix_append _ _).isInfix.trans reported

private theorem Mismatch.message_fractional (path : Bytes) (x : Binary) :
    (Mismatch.fractional path x).message =
      utf8 "error decoding '" ++ path ++ utf8 "': cannot use " ++
        (Floating.finite x).display .double ++ utf8 " as an integer" := by
  have text : utf8 "': cannot use " = utf8 "': " ++ utf8 "cannot use " := by
    decide
  simp only [message, Scalar.notWhole, text, List.append_assoc]

private theorem ConfigFault.message_starts (fault : ConfigFault) :
    utf8 "invalid generation config: " <+: fault.message := by
  cases fault with
  | duplicateKey name => exact ⟨utf8 "duplicate key " ++ Text.quote name, rfl⟩
  | mismatches all => exact List.prefix_append _ _

namespace GenerationConfig

variable {options : Fields Binary} {ms : List Move} {q : Place}

private theorem nonempty_of_position
    (position : (Place.root options).Contains ms q)
    (shape : q.shape ≠ .record .generation) : options ≠ [] := by
  rintro rfl
  cases position with
  | here => exact shape rfl
  | move step _ _ =>
      cases step with
      | entry found _ => simp [Place.layers, Place.root] at found
      | field _ taken => simp [Place.taken?] at taken

private theorem refused_of_position
    (position : (Place.root options).Contains ms q)
    (shape : q.shape ≠ .record .generation)
    (unfit : ¬q.Fits) :
    ∃ fault, GenerationConfig.decode options = .error fault := by
  have nonempty := nonempty_of_position position shape
  by_cases distinct : Respell.Distinct .ordinary (.object options)
  · rw [decode_of_distinct nonempty distinct]
    cases root : (Place.root options).decode with
    | error all => exact ⟨.mismatches all, rfl⟩
    | ok config => exact absurd (position.fits ⟨config, root⟩) unfit
  · obtain ⟨name, refused⟩ := decode_of_not_distinct distinct
    exact ⟨.duplicateKey name, refused⟩

private theorem reported_of_position {mismatch : Mismatch}
    {fields : Fields Binary} {fault : ConfigFault}
    (route : Place.Route Place.Tries (Place.root options) ms q)
    (reported : Checked.Reports mismatch q.decode)
    (respelt : Normalize.fields options = .ok fields)
    (refused : GenerationConfig.decode options = .error fault) :
    mismatch.message <:+: fault.message := by
  have nonempty : options ≠ [] := by
    rintro rfl
    cases refused
  have distinct := (Normalize.fields_eq_ok_iff.mp respelt).1
  obtain ⟨all, root, member⟩ := route.reports reported
  rw [decode_of_distinct nonempty distinct, root] at refused
  cases refused
  exact (Mismatch.message_infix_report member).trans
    (List.suffix_append _ _).isInfix

/-- A number with a fraction is never taken for a whole one. The report names
its place and shows it, save where a table that is laid together from a list has
failed before. -/
theorem fraction_refused {role : Key.Role} {path name : Bytes} {isSigned : Bool}
    {bits : Nat} {x : Binary}
    (position : (Place.root options).Contains ms
      ⟨role, path, .integer name isSigned bits, .number x⟩)
    (fractional : ∀ n : ℤ, x.value ≠ n) :
    ∃ fault, GenerationConfig.decode options = .error fault ∧
      utf8 "invalid generation config: " <+: fault.message ∧
      ((∃ fields, Normalize.fields options = .ok fields) →
        Place.Route Place.Tries (Place.root options) ms
          ⟨role, path, .integer name isSigned bits, .number x⟩ →
        utf8 "error decoding '" ++ path ++ utf8 "': cannot use " ++
            (Floating.finite x).display .double ++ utf8 " as an integer" <:+:
          fault.message) := by
  have unfit :
      Place.decode ⟨role, path, .integer name isSigned bits, .number x⟩ =
      .error [.fractional path x] := by
    have notWhole : ¬x.isWhole = true := by
      intro whole
      obtain ⟨n, same⟩ := Binary.isWhole_iff.mp whole
      exact fractional n same
    simp [Place.decode, Decode.decode_integer_number, notWhole]
  obtain ⟨fault, refused⟩ :=
    refused_of_position position (by simp) (by simp [Place.Fits, unfit])
  refine ⟨fault, refused, fault.message_starts, ?_⟩
  rintro ⟨fields, respelt⟩ route
  have named := reported_of_position route ⟨_, unfit, List.mem_singleton_self _⟩
    respelt refused
  rwa [Mismatch.message_fractional] at named

def fractionalOptions : Fields Binary :=
  [("temperature", .string "hot"),
    ("response_schema", .object [("properties", .object [
      ("user_id", .object [("max_length", .number ⟨false, 3, -1⟩)])])])]

theorem fractional_length_refused :
    ∃ fault, GenerationConfig.decode fractionalOptions = .error fault ∧
      utf8 "invalid generation config: " <+: fault.message ∧
      utf8
        "error decoding 'responseSchema.properties[user_id].maxLength': cannot use 1.5 as an integer"
        <:+: fault.message := by
  have followed : (Place.root fractionalOptions).follow?
      [.field "responseSchema", .inside, .field "properties",
        .entry 0 "user_id", .inside, .field "maxLength", .inside] =
        some ⟨.ordinary, "responseSchema.properties[user_id].maxLength",
          .integer "int64" true 64, .number ⟨false, 3, -1⟩⟩ := rfl
  have fractional : ∀ n : ℤ, Binary.value ⟨false, 3, -1⟩ ≠ n := by
    intro n same
    have whole : Binary.isWhole ⟨false, 3, -1⟩ = true :=
      Binary.isWhole_iff.mpr ⟨n, same⟩
    revert whole
    decide
  have tried :
      ∀ p, ∀ m ∈ [Move.field "responseSchema", .inside, .field "properties",
      .entry 0 "user_id", .inside, .field "maxLength", .inside],
        Place.Tries p m := by
    simp [Place.Tries]
  obtain ⟨fault, refused, start, named⟩ :=
    fraction_refused (Place.contains_iff.mpr followed) fractional
  exact ⟨fault, refused, start,
    named ⟨_, rfl⟩ (Place.route_of_follow? tried followed)⟩

end GenerationConfig

end ModelGateway
