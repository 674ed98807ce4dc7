import ModelGateway.Proofs.Passage

/-!
Options that differ only in how their names are spelt give the same
configuration, or are refused for the same reason. Respelt options are such
options, so that respelling them again changes nothing.
-/

namespace ModelGateway

/-- Other spellings of the names in a value, wherever its role has names
respelt. Each step changes one name. -/
inductive Respelt : Key.Role → Value → Value → Prop
  | refl (role : Key.Role) (v : Value) : Respelt role v v
  | trans {role : Key.Role} {u v w : Value} (first : Respelt role u v)
      (second : Respelt role v w) :
      Respelt role u w
  | name (before after : Fields Binary) {key key' : Bytes} {v : Value}
      (same : Key.camel key = Key.camel key') :
      Respelt .ordinary (.object (before ++ (key, v) :: after))
        (.object (before ++ (key', v) :: after))
  | field {role : Key.Role} (before after : Fields Binary) {key : Bytes}
      {v w : Value}
      (inside : Respelt (role.below key) v w) :
      Respelt role (.object (before ++ (key, v) :: after))
        (.object (before ++ (key, w) :: after))
  | item {role : Key.Role} (before after : List Value) {v w : Value}
      (inside : Respelt role.item v w) :
      Respelt role (.array (before ++ v :: after))
        (.array (before ++ w :: after))

namespace Normalize

theorem field_verbatim (v : Value) : field .verbatim v = .ok v := by
  cases v <;> rfl

private theorem values_congr {v w : Value}
    (h : field .ordinary v = field .ordinary w)
    (before after : List Value) :
    values (before ++ v :: after) = values (before ++ w :: after) := by
  induction before with
  | nil => simp only [List.nil_append, values, h]
  | cons item rest ih => simp only [List.cons_append, values, ih]

private theorem namedFields_congr {v w : Value}
    (h : field .ordinary v = field .ordinary w)
    (key : Bytes) (before after : Fields Binary) :
    namedFields (before ++ (key, v) :: after) =
      namedFields (before ++ (key, w) :: after) := by
  induction before with
  | nil => simp only [List.nil_append, namedFields, h]
  | cons entry rest ih =>
      obtain ⟨name, item⟩ := entry
      simp only [List.cons_append, namedFields, ih]

theorem fieldsFrom_congr {key key' : Bytes} {v w : Value}
    (same : Key.camel key = Key.camel key')
    (h : field (Key.role (Key.camel key)) v =
      field (Key.role (Key.camel key)) w)
    (seen : List Bytes) (before after : Fields Binary) :
    fieldsFrom seen (before ++ (key, v) :: after) =
      fieldsFrom seen (before ++ (key', w) :: after) := by
  induction before generalizing seen with
  | nil => simp only [List.nil_append, fieldsFrom, ← same, h]
  | cons entry rest ih =>
      obtain ⟨name, item⟩ := entry
      simp only [List.cons_append, fieldsFrom, ih]

private theorem field_eq_of_respelt {role : Key.Role} {v w : Value}
    (respelt : Respelt role v w) :
    field role v = field role w := by
  induction respelt with
  | refl => rfl
  | trans _ _ first second => exact first.trans second
  | name before after same => simp only [field, fieldsFrom_congr same rfl]
  | @field role before after key v w _ ih =>
      cases role with
      | ordinary => simp only [field, fieldsFrom_congr rfl ih]
      | named => simp only [field, namedFields_congr ih]
      | verbatim =>
          have same : v = w := by simpa [field_verbatim] using ih
          rw [same]
  | @item role before after v w _ ih =>
      cases role with
      | ordinary => simp only [field, values_congr ih]
      | named =>
          have same : v = w := by simpa [field_verbatim] using ih
          rw [same]
      | verbatim =>
          have same : v = w := by simpa [field_verbatim] using ih
          rw [same]

theorem fields_eq_of_respelt {options options' : Fields Binary}
    (respelt : Respelt .ordinary (.object options) (.object options')) :
    Normalize.fields options = Normalize.fields options' := by
  have same := field_eq_of_respelt respelt
  simp only [field] at same
  unfold Normalize.fields
  cases first : fieldsFrom [] options with
  | error fault =>
      cases second : fieldsFrom [] options' with
      | error fault' =>
          rw [first, second] at same
          cases same
          rfl
      | ok out' => simp [first, second, Except.map] at same
  | ok out =>
      cases second : fieldsFrom [] options' with
      | error fault' => simp [first, second, Except.map] at same
      | ok out' =>
          rw [first, second] at same
          cases same
          rfl

theorem eq_nil_of_fields_eq {options : Fields Binary}
    (same : Normalize.fields options = Normalize.fields []) : options = [] := by
  have none : Normalize.fields options = .ok [] := same
  have empty := (Normalize.fields_eq_ok_iff.mp none).2
  rw [Respell.fields_eq_map] at empty
  exact List.map_eq_nil_iff.mp empty.symm

end Normalize

namespace GenerationConfig

/-- Snake case and camel case are interchangeable, name by name and at every
depth. -/
theorem spellings_interchangeable {options options' : Fields Binary}
    (respelt : Respelt .ordinary (.object options) (.object options')) :
    GenerationConfig.decode options = GenerationConfig.decode options' := by
  have same := Normalize.fields_eq_of_respelt respelt
  have empty : options.isEmpty = options'.isEmpty := by
    rw [Bool.eq_iff_iff, List.isEmpty_iff, List.isEmpty_iff]
    constructor
    · rintro rfl
      exact Normalize.eq_nil_of_fields_eq same.symm
    · rintro rfl
      exact Normalize.eq_nil_of_fields_eq same
  unfold GenerationConfig.decode
  rw [empty, same]

def snakeOptions : Fields Binary :=
  [("tools", .array [.object [("function_declarations", .object [
    ("name", .string "lookup"),
    ("parameters", .object [("properties", .object [
      ("user_id", .object [("max_length", .number ⟨false, 8, 0⟩)])])])])]])]

def camelOptions : Fields Binary :=
  [("tools", .array [.object [("functionDeclarations", .object [
    ("name", .string "lookup"),
    ("parameters", .object [("properties", .object [
      ("user_id", .object [("maxLength", .number ⟨false, 8, 0⟩)])])])])]])]

theorem snake_tool_decodes_as_camel :
    ∃ config, GenerationConfig.decode snakeOptions = .ok (some config) ∧
      GenerationConfig.decode camelOptions = .ok (some config) := by
  obtain ⟨config, decoded⟩ : ∃ config, GenerationConfig.decode snakeOptions =
    .ok (some config) :=
    ⟨_, rfl⟩
  have respelt :
      Respelt .ordinary (.object snakeOptions) (.object camelOptions) := by
    apply Respelt.field [] []
    apply Respelt.item [] []
    apply Respelt.trans
    · exact .name [] [] (show _ = Key.camel (utf8 "functionDeclarations")
        from rfl)
    · apply Respelt.field [] []
      apply Respelt.field [(utf8 "name", .string "lookup")] []
      apply Respelt.field [] []
      apply Respelt.field [] []
      exact .name [] [] rfl
  exact ⟨config, decoded, spellings_interchangeable respelt ▸ decoded⟩

end GenerationConfig

namespace Respelt

theorem spell (role : Key.Role) (before after : Fields Binary) (key : Bytes)
    (v : Value) :
    Respelt role (.object (before ++ (key, v) :: after))
      (.object (before ++ (role.spell key, v) :: after)) := by
  cases role with
  | ordinary => exact .name before after (Key.camel_camel key).symm
  | verbatim => exact .refl _ _
  | named => exact .refl _ _

mutual

theorem value (role : Key.Role) (v : Value) :
    Respelt role v (Respell.value role v) := by
  cases v with
  | null => exact .refl _ _
  | bool b => exact .refl _ _
  | number x => exact .refl _ _
  | string s => exact .refl _ _
  | array list => exact items role [] list
  | object entries => exact fields role [] entries

theorem items (role : Key.Role) (before rest : List Value) :
    Respelt role (.array (before ++ rest))
      (.array (before ++ Respell.items role.item rest)) := by
  cases rest with
  | nil => exact .refl _ _
  | cons item rest =>
      have others := items role (before ++ [Respell.value role.item item]) rest
      simp only [List.append_assoc, List.singleton_append] at others
      exact .trans (.item before rest (value role.item item)) others

theorem fields (role : Key.Role) (before rest : Fields Binary) :
    Respelt role (.object (before ++ rest))
      (.object (before ++ Respell.fields role rest)) := by
  cases rest with
  | nil => exact .refl _ _
  | cons entry rest =>
      obtain ⟨key, item⟩ := entry
      have others := fields role
        (before ++ [(role.spell key, Respell.value (role.below key) item)])
        rest
      simp only [List.append_assoc, List.singleton_append] at others
      exact .trans (.field before rest (value (role.below key) item))
        (.trans (spell role before rest key _) others)

end

end Respelt

namespace Normalize

private theorem fields_of_respelt_options {options out : Fields Binary}
    (respelt : Normalize.fields options = .ok out) :
    Normalize.fields out = .ok out := by
  have reached : Respelt .ordinary (.object options) (.object out) := by
    rw [(fields_eq_ok_iff.1 respelt).2]
    exact Respelt.fields .ordinary [] options
  rw [← fields_eq_of_respelt reached]
  exact respelt

/-- Options that are respelt stay as they are when they are respelt again, and
stand for the same configuration as before. -/
theorem respelt_options_stay {options out : Fields Binary}
    (respelt : Normalize.fields options = .ok out) :
    Normalize.fields out = .ok out ∧
      GenerationConfig.decode options = GenerationConfig.decode out := by
  have again := fields_of_respelt_options respelt
  refine ⟨again, ?_⟩
  have empty : options.isEmpty = out.isEmpty := by
    rw [(fields_eq_ok_iff.1 respelt).2, Respell.fields_eq_map, List.isEmpty_map]
  unfold GenerationConfig.decode
  rw [empty, respelt, again]

def ragged : Fields Binary :=
  [("_stop__sequences_",
    .array [.object [("a_é", .null),
      ("labels__", .object [("x_y", .null), ("xY", .null)])]])]

theorem ragged_settle_at_once :
    ∃ out, Normalize.fields ragged = .ok out ∧ Normalize.fields out = .ok out ∧
      GenerationConfig.decode ragged = GenerationConfig.decode out := by
  obtain ⟨out, respelt⟩ : ∃ out, Normalize.fields ragged = .ok out := ⟨_, rfl⟩
  exact ⟨out, respelt, respelt_options_stay respelt⟩

end Normalize

end ModelGateway
