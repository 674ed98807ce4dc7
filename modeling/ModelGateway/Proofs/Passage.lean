import ModelGateway.Proofs.Position

namespace ModelGateway

namespace Place

section Reading

variable {role : Key.Role} {path : Bytes} {s : Shape} {v : Value} {x : Setting}

theorem decode_inside (present : v ≠ .null) :
    decode ⟨role, path, .optional s, v⟩ =
      (decode ⟨role, path, s, v⟩).map .present :=
  Decode.decode_optional (respell_ne_null present)

private theorem takesSingle_respell :
    s.takesSingle (Respell.value role v) = s.takesSingle v := by
  cases v with
  | object fields => simp [Shape.takesSingle]
  | array items => simp [Shape.takesSingle]
  | _ => rfl

theorem decode_single (present : v ≠ .null) (single : s.takesSingle v = true) :
    decode ⟨role, path, .list s, v⟩ =
      (decode ⟨role, path.item 0, s, v⟩).map fun x => s.listOf [x] :=
  Decode.decode_single (respell_ne_null present)
    (takesSingle_respell.trans single)

theorem decode_items {items : List Value}
    (decoded : decode ⟨role, path, .list s, .array items⟩ = .ok x) :
    ∃ settings, x = s.listOf settings ∧
      ∀ i, (items[i]?.map fun v => decode ⟨role.item, path.item i, s, v⟩) =
        settings[i]?.map .ok := by
  simp only [decode, Respell.value_array, Decode.decode_items, map_eq_ok_iff]
    at decoded
  obtain ⟨settings, decoded, rfl⟩ := decoded
  refine ⟨settings, rfl, fun i => ?_⟩
  have placed := Decode.getElem?_of_decodeItems decoded i
  simpa [decode, Function.comp_def] using placed

theorem decode_entries (present : v ≠ .null)
    (decoded : decode ⟨role, path, .table s, v⟩ = .ok x) :
    (∀ layer ∈ layersOf s role path v, layer.Fits) ∧
      ∀ name, (lastNamed? name (layersOf s role path v)).map decode =
        (x.entries.find? (·.1 == name)).map fun entry => .ok entry.2 := by
  rw [decode_table present, map_eq_ok_iff] at decoded
  obtain ⟨entries, merged, rfl⟩ := decoded
  refine ⟨fits_of_merge merged, fun name => ?_⟩
  have looked :=
    find?_of_merge (isLayer_of_mem_layersOf s role path v) merged name
  cases entries with
  | none => simpa [Decode.tableOf, Setting.entries] using looked
  | some entries => simpa [Decode.tableOf, Setting.entries] using looked

theorem keys_respelt (role : Key.Role) (fields : Fields Binary) :
    Fields.keys (fields.map fun entry =>
      (role.spell entry.1, Respell.value (role.below entry.1) entry.2)) =
        fields.map fun entry => role.spell entry.1 := by
  simp [Fields.keys]

theorem decode_fields {record : Record} {fields : Fields Binary}
    (decoded : decode ⟨role, path, .record record, .object fields⟩ = .ok x) :
    ∃ settings, x = .record (Decode.arrange record settings) ∧
      (∀ name ∈ fields.map fun entry => role.spell entry.1, ∃ f ∈ record.fields,
        Decode.chosenKey? f (fields.map fun entry => role.spell entry.1) =
          some name) ∧
      ∀ f ∈ record.fields,
        ((taken? role fields f).map fun (key, v) =>
            decode ⟨role.below key, path.field f.name, f.shape, v⟩) =
          (settings.find? (·.1 == f.name)).map fun setting =>
            .ok setting.2 := by
  simp only [decode, Respell.value_object, Decode.decode_fields, keys_respelt,
    Checked.both_eq_ok_iff] at decoded
  obtain ⟨settings, _, decoded, known, rfl⟩ := decoded
  refine ⟨settings, rfl, Decode.checkKeys_eq_ok_iff.mp known,
    fun f member => ?_⟩
  have looked := Decode.find?_of_decodeFields decoded member
  rw [List.find?_map] at looked
  simpa [taken?, decode, Function.comp_def] using looked

end Reading

theorem table_of_layers {p layer : Place} {i : Nat}
    (found : p.layers[i]? = some layer) :
    ∃ role path s v, p = ⟨role, path, .table s, v⟩ ∧ v ≠ .null := by
  obtain ⟨role, path, shape, value⟩ := p
  cases shape with
  | table s =>
      refine ⟨role, path, s, value, rfl, ?_⟩
      rintro rfl
      simp [layers, layersOf] at found
  | _ => simp [layers] at found

theorem Step.fits {p q : Place} {m : Move} (step : Step p m q)
    (fits : p.Fits) : q.Fits := by
  obtain ⟨x, decoded⟩ := fits
  cases step with
  | inside present =>
      rw [decode_inside present, map_eq_ok_iff] at decoded
      obtain ⟨y, decoded, _⟩ := decoded
      exact ⟨y, decoded⟩
  | @item role path s items i v found =>
      obtain ⟨settings, _, placed⟩ := decode_items decoded
      have here := placed i
      rw [found, Option.map_some] at here
      obtain ⟨y, _, decoded⟩ := Option.map_eq_some_iff.mp here.symm
      exact ⟨y, decoded.symm⟩
  | single present single =>
      rw [decode_single present single, map_eq_ok_iff] at decoded
      obtain ⟨y, decoded, _⟩ := decoded
      exact ⟨y, decoded⟩
  | @entry _ layer _ i name found held =>
      obtain ⟨role, path, s, v, rfl, present⟩ := table_of_layers found
      have member : layer ∈ layersOf s role path v := List.mem_of_getElem? found
      obtain ⟨y, taken⟩ := (decode_entries present decoded).1 layer member
      have here :=
        find?_of_decode_layer
          (isLayer_of_mem_layersOf s role path v layer member) taken name
      rw [held, Option.map_some] at here
      obtain ⟨entry, _, decoded⟩ := Option.map_eq_some_iff.mp here.symm
      exact ⟨entry.2, decoded.symm⟩
  | field member taken =>
      obtain ⟨settings, _, _, placed⟩ := decode_fields decoded
      have here := placed _ member
      rw [taken, Option.map_some] at here
      obtain ⟨setting, _, decoded⟩ := Option.map_eq_some_iff.mp here.symm
      exact ⟨setting.2, decoded.symm⟩

theorem Route.fits {allowed : Place → Move → Prop} {p q : Place}
    {ms : List Move} (route : Route allowed p ms q) (fits : p.Fits) :
    q.Fits := by
  induction route with
  | here => exact fits
  | move step _ _ ih => exact ih (step.fits fits)

theorem takenKey {role : Key.Role} {fields : Fields Binary} {f : Field}
    {key : Bytes} {v : Value}
    (taken : taken? role fields f = some (key, v)) :
    (key, v) ∈ fields ∧
      Decode.chosenKey? f (fields.map fun entry => role.spell entry.1) =
        some (role.spell key) := by
  have chosen := List.find?_some taken
  exact ⟨List.mem_of_find?_eq_some taken, by simpa using chosen⟩

theorem of_named? {layer q : Place} {name : Bytes}
    (held : layer.named? name = some q) :
    ∃ role path s fields key v,
      layer = ⟨role, path, .table s, .object fields⟩ ∧ (key, v) ∈ fields ∧
        role.spell key = name ∧
        q = ⟨role.below key, path.entry name, s, v⟩ := by
  obtain ⟨role, path, shape, value⟩ := layer
  unfold named? at held
  split at held
  · rename_i s fields shape_eq value_eq
    obtain ⟨⟨key, v⟩, found, rfl⟩ := Option.map_eq_some_iff.mp held
    have named := List.find?_some found
    simp only at shape_eq value_eq
    subst shape_eq value_eq
    exact ⟨role, path, s, fields, key, v, rfl,
      List.mem_of_find?_eq_some found, by simpa using named, rfl⟩
  · cases held

private theorem reports_of_named? {layer q : Place} {name : Bytes}
    {mismatch : Mismatch} (held : layer.named? name = some q)
    (h : Checked.Reports mismatch q.decode) :
    Checked.Reports mismatch layer.decode := by
  obtain ⟨role, path, s, fields, key, v, rfl, member, rfl, rfl⟩ :=
    of_named? held
  simp only [decode, Respell.value_object, Decode.decode_entries]
  apply Checked.reports_map_iff.mpr
  apply Decode.reports_decodeEntries _ h
  exact List.mem_map.mpr ⟨(key, v), member, rfl⟩

theorem Step.reports {p q : Place} {m : Move} {mismatch : Mismatch}
    (step : Step p m q) (tried : p.Tries m)
    (h : Checked.Reports mismatch q.decode) :
    Checked.Reports mismatch p.decode := by
  cases step with
  | inside present =>
      rw [decode_inside present]
      exact Checked.reports_map_iff.mpr h
  | @item role path s items i v found =>
      simp only [decode, Respell.value_array, Decode.decode_items]
      apply Checked.reports_map_iff.mpr
      have placed : (items.map (Respell.value role.item))[i]? =
          some (Respell.value role.item v) := by
        simp [found]
      apply Decode.reports_decodeItems placed
      simpa [decode] using h
  | single present single =>
      rw [decode_single present single]
      exact Checked.reports_map_iff.mpr h
  | entry found held =>
      obtain ⟨role, path, s, v, rfl, present⟩ := table_of_layers found
      rw [decode_table present]
      apply Checked.reports_map_iff.mpr
      exact reports_merge found tried (reports_of_named? held h)
  | @field role path record fields f key v member taken =>
      obtain ⟨present, chosen⟩ := takenKey taken
      simp only [decode, Respell.value_object, Decode.decode_fields,
        keys_respelt]
      apply Checked.reports_both_iff.mpr
      apply Or.inl
      apply Decode.reports_decodeFields member chosen _ h
      exact List.mem_map.mpr ⟨(key, v), present, rfl⟩

theorem Route.reports {p q : Place} {ms : List Move} {mismatch : Mismatch}
    (route : Route Tries p ms q) (h : Checked.Reports mismatch q.decode) :
    Checked.Reports mismatch p.decode := by
  induction route with
  | here => exact h
  | move step tried _ ih => exact step.reports tried (ih h)

section Invariants

mutual

theorem distinct_of_mem_layersOf (s : Shape) (role : Key.Role) (path : Bytes)
    (v : Value) (distinct : Respell.Distinct role v) :
    ∀ layer ∈ layersOf s role path v,
      Respell.Distinct layer.role layer.value := by
  match v with
  | .null => simp [layersOf]
  | .bool b => exact List.forall_mem_singleton.mpr distinct
  | .number x => exact List.forall_mem_singleton.mpr distinct
  | .string t => exact List.forall_mem_singleton.mpr distinct
  | .array [] =>
      exact List.forall_mem_singleton.mpr ⟨fun _ => List.nodup_nil, trivial⟩
  | .array (item :: rest) =>
      intro layer member
      rcases List.mem_append.mp member with first | later
      · exact distinct_of_mem_layersOf s role.item (path.item 0) item
          distinct.1 layer first
      · exact distinct_of_mem_layersFrom s role.item path 1 rest
          distinct.2 layer later
  | .object fields => exact List.forall_mem_singleton.mpr distinct

theorem distinct_of_mem_layersFrom (s : Shape) (role : Key.Role) (path : Bytes)
    (i : Nat) (items : List Value)
    (distinct : Respell.DistinctItems role items) :
    ∀ layer ∈ layersFrom s role path i items,
      Respell.Distinct layer.role layer.value := by
  match items with
  | [] => simp [layersFrom]
  | item :: rest =>
      intro layer member
      rcases List.mem_append.mp member with first | later
      · exact distinct_of_mem_layersOf s role (path.item i) item
          distinct.1 layer first
      · exact distinct_of_mem_layersFrom s role path (i + 1) rest
          distinct.2 layer later

end

theorem Step.distinct {p q : Place} {m : Move} (step : Step p m q)
    (distinct : Respell.Distinct p.role p.value) :
    Respell.Distinct q.role q.value := by
  cases step with
  | inside => exact distinct
  | item found =>
      exact Respell.distinctItems_iff.mp distinct _ (List.mem_of_getElem? found)
  | single => exact distinct
  | @entry _ layer _ i name found held =>
      obtain ⟨role, path, s, v, rfl, _⟩ := table_of_layers found
      have below := distinct_of_mem_layersOf s role path v distinct layer
        (List.mem_of_getElem? found)
      obtain ⟨role', path', s', fields, key, v', rfl, member, rfl, rfl⟩ :=
        of_named? held
      exact Respell.distinctFields_iff.mp below.2 (key, v') member
  | @field role path record fields f key v member taken =>
      exact Respell.distinctFields_iff.mp distinct.2 (key, v) (takenKey taken).1

theorem Route.distinct {allowed : Place → Move → Prop} {p q : Place}
    {ms : List Move} (route : Route allowed p ms q)
    (distinct : Respell.Distinct p.role p.value) :
    Respell.Distinct q.role q.value := by
  induction route with
  | here => exact distinct
  | move step _ _ ih => exact ih (step.distinct distinct)

theorem Step.entry_shape {p layer q : Place} {i : Nat} {name : Bytes}
    {s : Shape} (shape : p.shape = .table s)
    (found : p.layers[i]? = some layer)
    (held : layer.named? name = some q) : q.shape = s := by
  obtain ⟨role, path, s', v, rfl, _⟩ := table_of_layers found
  cases shape
  have isLayer :=
    isLayer_of_mem_layersOf s role path v layer (List.mem_of_getElem? found)
  obtain ⟨role', path', s', fields, key, v', rfl, _, _, rfl⟩ := of_named? held
  have same : Shape.table s' = Shape.table s := isLayer.1
  cases same
  rfl

theorem Step.sized {p q : Place} {m : Move} (step : Step p m q)
    (sized : p.shape.isSized = true) :
    q.shape.isSized = true := by
  cases step with
  | inside => exact sized
  | item => exact sized
  | single => exact sized
  | entry found held =>
      obtain ⟨role, path, s, v, rfl, _⟩ := table_of_layers found
      rw [Step.entry_shape rfl found held]
      exact sized
  | @field role path record fields f key v member _ =>
      exact record.fields_sized f member

theorem Route.sized {allowed : Place → Move → Prop} {p q : Place}
    {ms : List Move} (route : Route allowed p ms q)
    (sized : p.shape.isSized = true) : q.shape.isSized = true := by
  induction route with
  | here => exact sized
  | move step _ _ ih => exact ih (step.sized sized)

end Invariants

end Place

namespace GenerationConfig

variable {options : Fields Binary}

theorem decode_of_distinct (nonempty : options ≠ [])
    (distinct : Respell.Distinct .ordinary (.object options)) :
    GenerationConfig.decode options =
      match (Place.root options).decode with
      | .error all => .error (.mismatches all)
      | .ok config => .ok (some config) := by
  have respelt := Normalize.fields_eq_ok_iff.mpr ⟨distinct, rfl⟩
  unfold GenerationConfig.decode
  rw [if_neg (by simpa using nonempty), respelt]
  rfl

theorem decode_of_not_distinct
    (repeated : ¬ Respell.Distinct .ordinary (.object options)) :
    ∃ name, GenerationConfig.decode options = .error (.duplicateKey name) := by
  have nonempty : options ≠ [] := by
    rintro rfl
    exact repeated ⟨fun _ => List.nodup_nil, trivial⟩
  unfold GenerationConfig.decode
  rw [if_neg (by simpa using nonempty)]
  cases respelt : Normalize.fields options with
  | error duplicate => exact ⟨duplicate.name, rfl⟩
  | ok fields => exact absurd (Normalize.fields_eq_ok_iff.mp respelt).1 repeated

theorem of_decode_eq_ok {config : Setting}
    (decoded : GenerationConfig.decode options = .ok (some config)) :
    Respell.Distinct .ordinary (.object options) ∧
      (Place.root options).decode = .ok config := by
  have nonempty : options ≠ [] := by
    rintro rfl
    cases decoded
  by_cases distinct : Respell.Distinct .ordinary (.object options)
  · rw [decode_of_distinct nonempty distinct] at decoded
    refine ⟨distinct, ?_⟩
    cases root : (Place.root options).decode with
    | error all => simp [root] at decoded
    | ok x =>
        rw [root] at decoded
        cases decoded
        rfl
  · obtain ⟨name, refused⟩ := decode_of_not_distinct distinct
    rw [refused] at decoded
    cases decoded

end GenerationConfig

end ModelGateway
