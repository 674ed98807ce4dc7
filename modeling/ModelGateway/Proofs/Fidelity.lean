import ModelGateway.Proofs.Correspondence

/-!
What a configuration holds of the caller's own names and numbers: when free
values and the names of tables are as they were sent, and when a whole number is
the one that was sent.
-/

namespace ModelGateway

namespace Key

def freeNames : List Bytes :=
  ["responseJsonSchema", "parametersJsonSchema", "default", "example"]

def tableNames : List Bytes := ["labels", "properties"]

private theorem own_names_apart :
    ∀ name ∈ freeNames ++ tableNames, ∀ other ∈ verbatimNames ++ namedNames,
    foldEq name other = true → other = name := by
  decide +kernel

private theorem role_of_foldEq {name other : Bytes}
    (own : name ∈ freeNames ++ tableNames)
    (h : foldEq name other = true) (misspelt : other ≠ name) :
    role other = .ordinary := by
  have unlisted : other ∉ verbatimNames ++ namedNames := by
    intro listed
    exact misspelt (own_names_apart name own other listed h)
  rw [List.mem_append, not_or] at unlisted
  simp [role, unlisted]

private theorem role_of_freeNames :
    ∀ name ∈ freeNames, role name = .verbatim := by
  decide

private theorem role_of_tableNames :
    ∀ name ∈ tableNames, role name ≠ .ordinary := by
  decide

private theorem camel_keys_iff {sent : Fields Binary} :
    (∀ k, k ∈ (Fields.keys sent).map camel ↔ k ∈ Fields.keys sent) ↔
      ∀ k ∈ Fields.keys sent, camel k = k := by
  constructor
  · intro same k member
    obtain ⟨k', _, rfl⟩ := List.mem_map.mp ((same k).mpr member)
    exact camel_camel k'
  · intro fixed k
    rw [List.map_congr_left fixed, List.map_id']

namespace Role

/-- The value below `key` keeps its names: all names around it are kept, or the
key has the spelling of the option. -/
def Spares (role : Role) (key name : Bytes) : Prop :=
  role = .verbatim ∨ role = .ordinary ∧ camel key = name

variable {role : Role} {key name : Bytes}

theorem below_of_spares (spares : role.Spares key name) :
    role.below key = .verbatim ∨ role.below key = Key.role name := by
  rcases spares with rfl | ⟨rfl, rfl⟩
  · exact Or.inl rfl
  · exact Or.inr rfl

theorem below_of_not_spares (own : name ∈ freeNames ++ tableNames)
    (h : foldEq name (role.spell key) = true) (spoils : ¬role.Spares key name) :
    role.below key = .ordinary := by
  cases role with
  | verbatim => exact absurd (Or.inl rfl) spoils
  | named => rfl
  | ordinary =>
      have misspelt : camel key ≠ name :=
        fun same => spoils (Or.inr ⟨rfl, same⟩)
      exact role_of_foldEq own h misspelt

private theorem respell_eq_iff {v : Value}
    (free : name ∈ freeNames)
    (h : foldEq name (role.spell key) = true) :
    Respell.value (role.below key) v = v ↔
      role.Spares key name ∨ Respell.value .ordinary v = v := by
  by_cases spares : role.Spares key name
  · have below : role.below key = .verbatim := by
      rcases below_of_spares spares with below | below
      · exact below
      · exact below.trans (role_of_freeNames name free)
    simp [spares, below, Respell.value_verbatim]
  · have below := below_of_not_spares (List.mem_append_left _ free) h spares
    simp [spares, below]

private theorem spell_keys_iff {sent : Fields Binary}
    (table : name ∈ tableNames)
    (h : foldEq name (role.spell key) = true) :
    (∀ k, k ∈ (Fields.keys sent).map (role.below key).spell ↔
      k ∈ Fields.keys sent) ↔
      role.Spares key name ∨ ∀ k ∈ Fields.keys sent, camel k = k := by
  by_cases spares : role.Spares key name
  · have below : role.below key ≠ .ordinary := by
      rcases below_of_spares spares with below | below
      · simp [below]
      · exact below ▸ role_of_tableNames name table
    have kept : (role.below key).spell = id :=
      funext (spell_of_ne_ordinary below)
    simp [spares, kept]
  · have below := below_of_not_spares (List.mem_append_right _ table) h spares
    have respelt : (role.below key).spell = camel := by
      rw [below]
      rfl
    rw [respelt, camel_keys_iff]
    simp [spares]

end Role

end Key

def Field.isShaped (f : Field) : Bool :=
  (!Key.freeNames.contains f.name || f.shape == .any) &&
    (!Key.tableNames.contains f.name || f.shape == .table .string ||
      f.shape == .table (.optional (.record .schema)))

namespace Record

theorem fields_shaped (record : Record) :
    record.fields.all Field.isShaped = true := by
  cases record <;> decide +kernel

private theorem shape_of_free_name {record : Record} {f : Field}
    (member : f ∈ record.fields)
    (free : f.name ∈ Key.freeNames) : f.shape = .any := by
  have shaped := List.all_eq_true.mp record.fields_shaped f member
  simp only [Field.isShaped, Bool.and_eq_true] at shaped
  simpa [free] using shaped.1

private theorem shape_of_table_name {record : Record} {f : Field}
    (member : f ∈ record.fields)
    (table : f.name ∈ Key.tableNames) : ∃ s, f.shape = .table s := by
  have shaped := List.all_eq_true.mp record.fields_shaped f member
  simp only [Field.isShaped, Bool.and_eq_true] at shaped
  have either : f.shape = .table .string ∨
      f.shape = .table (.optional (.record .schema)) := by
    simpa [table] using shaped.2
  rcases either with shape | shape
  · exact ⟨_, shape⟩
  · exact ⟨_, shape⟩

end Record

theorem Setting.ReadAs.eq_of_isEmpty_eq_false {s : Shape} {x y : Setting}
    (read : ReadAs s x y)
    (solid : x.isEmpty = false) : y = x := by
  rcases read with same | ⟨empty, _⟩
  · exact same
  · rw [solid] at empty
    cases empty

namespace Place

private theorem Route.append_step {allowed : Place → Move → Prop}
    {p q r : Place} {ms : List Move} {m : Move}
    (route : Route allowed p ms q) (step : Step q m r)
    (permitted : allowed q m) :
    Route allowed p (ms ++ [m]) r := by
  induction route with
  | here => exact .move step permitted .here
  | move first allowed _ ih => exact .move first allowed (ih step permitted)

private theorem Route.last_step {allowed : Place → Move → Prop} {p r : Place}
    {ms : List Move} {m : Move} (route : Route allowed p (ms ++ [m]) r) :
    ∃ q, Route allowed p ms q ∧ Step q m r := by
  induction ms generalizing p with
  | nil =>
      cases route with
      | move step _ rest =>
          cases rest
          exact ⟨p, .here, step⟩
  | cons first ms ih =>
      cases route with
      | move step permitted rest =>
          obtain ⟨q, route, last⟩ := ih rest
          exact ⟨q, .move step permitted route, last⟩

theorem Route.reads_integer {p : Place} {x : Setting} {ms : List Move}
    {role : Key.Role} {path name : Bytes} {isSigned : Bool}
    {bits : Nat} {z : Binary}
    (route : Route Keeps p ms
      ⟨role, path, .integer name isSigned bits, .number z⟩)
    (decoded : p.decode = .ok x) :
    z.isWhole = true ∧ Setting.follow? p.shape x ms =
      some (.integer name isSigned bits,
        .integer (narrow isSigned bits z.toWord)) := by
  obtain ⟨y, y', taken, followed, read⟩ := route.reads decoded (Or.inl rfl)
  simp only [decode, Respell.value_number, Decode.decode_integer_number]
    at taken
  split at taken
  · rename_i whole
    cases taken
    refine ⟨whole, ?_⟩
    rcases read with rfl | ⟨empty, rfl⟩
    · exact followed
    · simp only [Setting.isEmpty, beq_iff_eq] at empty
      rw [followed, empty]
      rfl
  · cases taken

/-- In an object that the moves lead to, field `f` of its record takes the value
`v` of the name `key`. -/
def Takes (p : Place) (ms : List Move) (role : Key.Role)
    (f : Field) (key : Bytes) (v : Value) : Prop :=
  ∃ path record fields, Route Keeps p ms
    ⟨role, path, .record record, .object fields⟩ ∧
    f ∈ record.fields ∧ taken? role fields f = some (key, v)

section Takes

variable {p : Place} {ms : List Move} {role : Key.Role} {f : Field}
    {key : Bytes} {v : Value}
  {x : Setting}

theorem Takes.foldEq (takes : p.Takes ms role f key v) :
    Key.foldEq f.name (role.spell key) = true := by
  obtain ⟨_, _, _, _, _, taken⟩ := takes
  exact Decode.foldEq_of_chosenKey? (takenKey taken).2

theorem Takes.reads (takes : p.Takes ms role f key v)
    (decoded : p.decode = .ok x) :
    ∃ path y y', decode ⟨role.below key, path, f.shape, v⟩ = .ok y ∧
      Setting.follow? p.shape x (ms ++ [.field f.name]) = some (f.shape, y') ∧
      Setting.ReadAs f.shape y y' := by
  obtain ⟨path, record, fields, route, member, taken⟩ := takes
  have last := route.append_step (.field member taken) trivial
  obtain ⟨y, y', decoded, followed, read⟩ := last.reads decoded (Or.inl rfl)
  exact ⟨path.field f.name, y, y', decoded, followed, read⟩

theorem Takes.free (takes : p.Takes ms role f key v)
    (decoded : p.decode = .ok x)
    (free : f.name ∈ Key.freeNames)
    (present : v ≠ .null) :
    ∃ w, Setting.follow? p.shape x (ms ++ [.field f.name]) =
      some (f.shape, .free w) ∧
      (w = v ↔ role.Spares key f.name ∨ Respell.value .ordinary v = v) := by
  obtain ⟨path, y, y', taken, followed, read⟩ := takes.reads decoded
  have any : f.shape = .any := by
    obtain ⟨_, record, _, _, member, _⟩ := takes
    exact Record.shape_of_free_name member free
  have whole : y = .free (Respell.value (role.below key) v) := by
    simp only [decode, any, Decode.decode_any (respell_ne_null present)]
      at taken
    cases taken
    rfl
  have same : y' = y := read.eq_of_isEmpty_eq_false (by rw [whole]; rfl)
  refine ⟨Respell.value (role.below key) v, ?_,
    Key.Role.respell_eq_iff free takes.foldEq⟩
  rw [followed, same, whole]

theorem Takes.table {sent : Fields Binary}
    (takes : p.Takes ms role f key (.object sent))
    (decoded : p.decode = .ok x)
    (table : f.name ∈ Key.tableNames) :
    ∃ entries, Setting.follow? p.shape x (ms ++ [.field f.name]) =
      some (f.shape, .table entries) ∧
      ((∀ k, k ∈ entries.map Prod.fst ↔ k ∈ Fields.keys sent) ↔
        role.Spares key f.name ∨ ∀ k ∈ Fields.keys sent, Key.camel k = k) := by
  obtain ⟨path, y, y', taken, followed, read⟩ := takes.reads decoded
  obtain ⟨s, shape⟩ : ∃ s, f.shape = .table s := by
    obtain ⟨_, record, _, _, member, _⟩ := takes
    exact Record.shape_of_table_name member table
  obtain ⟨entries, whole, names⟩ : ∃ entries, y = .table entries ∧
      entries.map Prod.fst = (Fields.keys sent).map (role.below key).spell := by
    simp only [decode, shape, Respell.value_object, Decode.decode_entries,
      map_eq_ok_iff] at taken
    obtain ⟨entries, taken, rfl⟩ := taken
    refine ⟨entries, rfl, ?_⟩
    rw [Decode.keys_of_decodeEntries taken]
    simp [Fields.keys]
  have same : y' = y := read.eq_of_isEmpty_eq_false (by rw [whole]; rfl)
  refine ⟨entries, ?_, ?_⟩
  · rw [followed, same, whole]
  · rw [names]
    exact Key.Role.spell_keys_iff table takes.foldEq

private theorem exists_takes {name : Bytes} {s : Shape} {y : Setting}
    (decoded : p.decode = .ok x)
    (followed : Setting.follow? p.shape x (ms ++ [.field name]) = some (s, y))
    (solid : y.isHollow = false) :
    ∃ ms' role f key v, ms'.map Move.unlayered = ms.map Move.unlayered ∧
      p.Takes ms' role f key v ∧ v ≠ .null ∧ f.name = name ∧ f.shape = s ∧
      Setting.follow? p.shape x (ms' ++ [.field name]) = some (s, y) := by
  obtain ⟨moves, q, same, route, rfl, held⟩ :=
    exists_route decoded followed solid
  have followed' : Setting.follow? p.shape x moves = some (q.shape, y) := by
    rw [← Setting.follow?_unlayered, same, Setting.follow?_unlayered]
    exact followed
  rw [List.map_append, List.map_eq_append_iff] at same
  obtain ⟨ms', last, rfl, before, here⟩ := same
  obtain ⟨m, rfl, unlayered⟩ : ∃ m, last = [m] ∧ m.unlayered = .field name := by
    simpa [List.map_eq_singleton_iff, Move.unlayered] using here
  obtain ⟨r, first, step⟩ := route.last_step
  cases step with
  | inside => cases unlayered
  | item => cases unlayered
  | single => cases unlayered
  | entry => cases unlayered
  | @field role path record fields f key v member taken =>
      cases unlayered
      refine ⟨ms', role, f, key, v, before,
        ⟨path, record, fields, first, member, taken⟩, ?_, rfl, rfl, followed'⟩
      rintro rfl
      rw [eq_empty_of_null held, Setting.isHollow_empty] at solid
      cases solid

end Takes

end Place

namespace GenerationConfig

/-- What the caller names stays as it is sent exactly where the option is spelt
as the catalogue spells it, where no name around it is respelt, or where
respelling changes nothing. Each value that a configuration holds was sent for
its option. -/
theorem own_names_kept_iff {options : Fields Binary} {config : Setting}
    (decoded : GenerationConfig.decode options = .ok (some config)) :
    (∀ ms role f key v,
      (Place.root options).Takes ms role f key v →
      f.name ∈ Key.freeNames → v ≠ .null →
      ∃ w,
        Setting.follow? (.record .generation) config (ms ++ [.field f.name]) =
          some (f.shape, .free w) ∧
        (w = v ↔ role.Spares key f.name ∨ Respell.value .ordinary v = v)) ∧
    (∀ ms role f key sent,
      (Place.root options).Takes ms role f key (.object sent) →
      f.name ∈ Key.tableNames →
      ∃ entries,
        Setting.follow? (.record .generation) config (ms ++ [.field f.name]) =
          some (f.shape, .table entries) ∧
        ((∀ k, k ∈ entries.map Prod.fst ↔ k ∈ Fields.keys sent) ↔
          role.Spares key f.name ∨ ∀ k ∈ Fields.keys sent, Key.camel k = k)) ∧
    ∀ ms name s x,
      Setting.follow? (.record .generation) config (ms ++ [.field name]) =
        some (s, x) →
      x.isHollow = false →
      ∃ ms' role f key v,
        ms'.map Move.unlayered = ms.map Move.unlayered ∧
        (Place.root options).Takes ms' role f key v ∧
        v ≠ .null ∧ f.name = name ∧ f.shape = s ∧
        Setting.follow? (.record .generation) config (ms' ++ [.field name]) =
          some (s, x) := by
  obtain ⟨_, root⟩ := of_decode_eq_ok decoded
  refine ⟨?_, ?_, ?_⟩
  · intro ms role f key v takes free present
    exact takes.free root free present
  · intro ms role f key sent takes table
    exact takes.table root table
  · intro ms name s x followed solid
    exact Place.exists_takes root followed solid

def shoutedOptions : Fields Binary :=
  [("LABELS", .object [("cost_centre", .string "a")]),
    ("response_json_schema", .object [("x_y", .object [("z_w", .bool true)])])]

theorem shouted_labels_respelt :
    ∃ config, GenerationConfig.decode shoutedOptions = .ok (some config) ∧
      Setting.follow? (.record .generation) config
        [.field "responseJsonSchema"] =
        some (.any, .free (.object [("x_y", .object [("z_w", .bool true)])])) ∧
      ∃ entries, Setting.follow? (.record .generation) config
        [.field "labels"] = some (.table .string, .table entries) ∧
        ¬∀ k, k ∈ entries.map Prod.fst ↔ k ∈ [utf8 "cost_centre"] := by
  obtain ⟨config, decoded⟩ : ∃ config, GenerationConfig.decode shoutedOptions =
    .ok (some config) :=
    ⟨_, rfl⟩
  obtain ⟨free, table, _⟩ := own_names_kept_iff decoded
  have schema : (Place.root shoutedOptions).Takes [] .ordinary
      ⟨"responseJsonSchema", .any⟩
      "response_json_schema"
        (.object [("x_y", .object [("z_w", .bool true)])]) :=
    ⟨_, _, _, .here, by decide, rfl⟩
  have labels :
      (Place.root shoutedOptions).Takes [] .ordinary ⟨"labels", .table .string⟩
      "LABELS" (.object [("cost_centre", .string "a")]) :=
    ⟨_, _, _, .here, by decide, rfl⟩
  obtain ⟨w, held, kept⟩ := free _ _ _ _ _ schema (by decide) (by simp)
  obtain ⟨entries, listed, same⟩ := table _ _ _ _ _ labels (by decide)
  refine ⟨config, decoded, ?_, entries, listed, ?_⟩
  · rw [← kept.mpr (Or.inl (Or.inr ⟨rfl, by decide⟩))]
    exact held
  · intro all
    rcases same.mp all with (verbatim | ⟨_, spelt⟩) | fixed
    · cases verbatim
    · revert spelt
      decide
    · have camel := fixed "cost_centre" (by decide)
      revert camel
      decide

theorem labels_not_always_kept :
    ¬∀ options config ms role f key sent,
      GenerationConfig.decode options = .ok (some config) →
      (Place.root options).Takes ms role f key (.object sent) →
        f.name ∈ Key.tableNames →
        ∃ entries, Setting.follow? (.record .generation) config
          (ms ++ [.field f.name]) = some (f.shape, .table entries) ∧
          ∀ k, k ∈ entries.map Prod.fst ↔ k ∈ Fields.keys sent := by
  intro kept
  obtain ⟨entries, listed, same⟩ :=
    kept [("LABELS", .object [("a_b", .string "x")])]
    (.record [("labels", .table [("aB", .text "x")])]) [] .ordinary
      ⟨"labels", .table .string⟩ "LABELS"
    [("a_b", .string "x")] rfl ⟨_, _, _, .here, by decide, rfl⟩ (by decide)
  cases listed
  have sent := (same "a_b").mpr (by decide)
  revert sent
  decide

/-- A number that is set as a whole number of `bits` bits is the number that was
sent exactly when the word can hold it. Otherwise its lowest bits are kept, or
those of the least word of sixty-four bits where even that cannot hold it; it is
never refused. -/
theorem integer_kept_iff {options : Fields Binary} {config : Setting}
    {ms : List Move} {role : Key.Role} {path name : Bytes}
    {isSigned : Bool} {bits : Nat} {x : Binary}
    (decoded : GenerationConfig.decode options = .ok (some config))
    (route : Place.Route Place.Keeps (Place.root options) ms
      ⟨role, path, .integer name isSigned bits, .number x⟩) :
    ∃ n k : ℤ,
      Setting.follow? (.record .generation) config ms =
        some (.integer name isSigned bits, .integer n) ∧
      x.value = k ∧ (n = k ↔ WordHolds isSigned bits k) ∧
      WordHolds isSigned bits n ∧
      n % 2 ^ bits =
        (if WordHolds true 64 k then k else -2 ^ 63) % 2 ^ bits := by
  obtain ⟨_, root⟩ := of_decode_eq_ok decoded
  have sized := route.sized rfl
  have nonempty : 1 ≤ bits := by
    simp only [Shape.isSized, Bool.and_eq_true, decide_eq_true_eq] at sized
    exact sized.1
  obtain ⟨whole, followed⟩ := route.reads_integer root
  refine ⟨narrow isSigned bits x.toWord, x.trunc, followed, ?_, ?_, ?_, ?_⟩
  · exact (Binary.trunc_eq_value whole).symm
  · exact Decode.narrow_toWord_eq_iff sized
  · exact Decode.wordHolds_narrow nonempty
  · rw [Decode.narrow_emod, Binary.toWord_eq]

def signedOptions : Fields Binary :=
  [("system_instruction", .object [("parts", .object [
    ("thought_signature",
      .array [.number ⟨false, 7, 0⟩, .number ⟨true, 1, 0⟩])])])]

theorem negative_byte_wraps :
    ∃ config, GenerationConfig.decode signedOptions = .ok (some config) ∧
      Setting.follow? (.record .generation) config
        [.field "systemInstruction", .inside, .field "parts", .item 0, .inside,
          .field "thoughtSignature", .item 1] =
          some (.byte, .integer 255) := by
  obtain ⟨config, decoded⟩ : ∃ config, GenerationConfig.decode signedOptions =
    .ok (some config) :=
    ⟨_, rfl⟩
  have kept : ∀ p,
      ∀ m ∈ [Move.field "systemInstruction", .inside, .field "parts", .item 0,
          .inside, .field "thoughtSignature", .item 1],
        Place.Keeps p m := by
    simp [Place.Keeps]
  have followed : (Place.root signedOptions).follow?
      [.field "systemInstruction", .inside, .field "parts", .item 0, .inside,
        .field "thoughtSignature", .item 1] = some ⟨.ordinary,
        "systemInstruction.parts[0].thoughtSignature[1]", .byte,
        .number ⟨true, 1, 0⟩⟩ := rfl
  obtain ⟨n, k, held, sent, _, ⟨lower, upper⟩, wrapped⟩ :=
    integer_kept_iff decoded (Place.route_of_follow? kept followed)
  have minusOne : k = -1 := by
    have value : Binary.value ⟨true, 1, 0⟩ = -1 := by simp [Binary.value]
    rw [value] at sent
    exact_mod_cast sent.symm
  subst minusOne
  have last : n = 255 := by
    rw [if_pos (by decide)] at wrapped
    omega
  exact ⟨config, decoded, last ▸ held⟩

theorem token_limit_not_always_kept :
    ¬∀ options config ms role path name isSigned bits x,
      GenerationConfig.decode options = .ok (some config) →
      Place.Route Place.Keeps (Place.root options) ms
        ⟨role, path, .integer name isSigned bits, .number x⟩ →
        ∃ n : ℤ, Setting.follow? (.record .generation) config ms =
            some (.integer name isSigned bits, .integer n) ∧ x.value = n := by
  intro kept
  obtain ⟨config, decoded⟩ : ∃ config, GenerationConfig.decode
      [("maxOutputTokens", .number ⟨false, 4294967297, 0⟩)] =
        .ok (some config) := ⟨_, rfl⟩
  have route : Place.Route Place.Keeps
      (Place.root [("maxOutputTokens", .number ⟨false, 4294967297, 0⟩)])
        [.field "maxOutputTokens"]
      ⟨.ordinary, "maxOutputTokens", .integer "int32" true 32,
        .number ⟨false, 4294967297, 0⟩⟩ :=
    Place.route_of_follow? (by simp [Place.Keeps]) rfl
  obtain ⟨n, held, same⟩ := kept _ _ _ _ _ _ _ _ _ decoded route
  have one : narrow true 32 (Binary.toWord ⟨false, 4294967297, 0⟩) = 1 := by
    decide
  have stored := (route.reads_integer (of_decode_eq_ok decoded).2).2
  rw [one] at stored
  cases held.symm.trans stored
  simp [Binary.value] at same

end GenerationConfig

end ModelGateway
