import ModelGateway.Proofs.Number
import ModelGateway.Proofs.Passage

namespace ModelGateway

namespace Setting

/-- A setting that is read from a record: an empty one is read as the option
left alone. -/
def ReadAs (s : Shape) (x y : Setting) : Prop :=
  y = x ∨ x.isEmpty = true ∧ y = s.empty

theorem move?_listOf {s : Shape} {settings : List Setting} (i : Nat)
    (bytes : s.isByte = true → ∀ x ∈ settings, ∃ b : UInt8, x =
      .integer b.toNat) :
    move? (.list s) (s.listOf settings) (.item i) = settings[i]?.map fun x =>
      (s, x) := by
  unfold Shape.listOf
  split
  · rename_i isByte
    simp only [move?, List.getElem?_map]
    cases found : settings[i]? with
    | none => rfl
    | some x =>
        obtain ⟨b, rfl⟩ := bytes isByte x (List.mem_of_getElem? found)
        simp
  · rfl

theorem move?_field {record : Record} {settings : List (Bytes × Setting)}
    {f : Field} (member : f ∈ record.fields) :
    move? (.record record) (.record settings) (.field f.name) =
      some (f.shape, ((settings.find? (·.1 == f.name)).map Prod.snd).getD
        f.shape.empty) := by
  simp [move?, Record.find?_name member]

private theorem eq_empty_of_move? {s s' : Shape} {x y : Setting} {m : Move}
    (moved : move? s x m = some (s', y))
    (empty : x.isEmpty = true) : x = s.empty := by
  unfold move? at moved
  split at moved
  · simp [isEmpty] at empty
  · simp [isEmpty] at empty
  · simp [isEmpty] at empty
  · simp [isEmpty] at empty
  · simp only [isEmpty, List.isEmpty_iff] at empty
    subst empty
    rfl
  · cases moved

end Setting

namespace Place

private theorem byte_items {s : Shape} {items : List Value}
    {settings : List Setting} {role : Key.Role} {path : Nat → Bytes}
    (isByte : s.isByte = true)
    (placed : ∀ i : Nat, (items[i]?.map fun v => decode ⟨role, path i, s, v⟩) =
      settings[i]?.map .ok) :
    ∀ x ∈ settings, ∃ b : UInt8, x = .integer b.toNat := by
  intro x member
  obtain ⟨i, found⟩ := List.getElem?_of_mem member
  have here := placed i
  rw [found, Option.map_some] at here
  obtain ⟨v, _, decoded⟩ := Option.map_eq_some_iff.mp here
  exact Decode.byte_of_decode isByte decoded

theorem Step.reads {p q : Place} {m : Move} {x : Setting}
    (step : Step p m q) (kept : p.Keeps m)
    (decoded : p.decode = .ok x) :
    ∃ y y', q.decode = .ok y ∧ Setting.move? p.shape x m = some (q.shape, y') ∧
      Setting.ReadAs q.shape y y' := by
  cases step with
  | inside present =>
      rw [decode_inside present, map_eq_ok_iff] at decoded
      obtain ⟨y, decoded, rfl⟩ := decoded
      exact ⟨y, y, decoded, rfl, Or.inl rfl⟩
  | @item role path s items i v found =>
      obtain ⟨settings, rfl, placed⟩ := decode_items decoded
      have here := placed i
      rw [found, Option.map_some] at here
      obtain ⟨y, atI, decoded⟩ := Option.map_eq_some_iff.mp here.symm
      refine ⟨y, y, decoded.symm, ?_, Or.inl rfl⟩
      rw [Setting.move?_listOf i fun isByte => byte_items isByte placed, atI]
      rfl
  | @single role path s v present single =>
      rw [decode_single present single, map_eq_ok_iff] at decoded
      obtain ⟨y, decoded, rfl⟩ := decoded
      refine ⟨y, y, decoded, ?_, Or.inl rfl⟩
      have byte (isByte : s.isByte = true) : ∀ x ∈ [y], ∃ b : UInt8, x =
          .integer b.toNat := by
        intro x member
        rw [List.mem_singleton.mp member]
        exact Decode.byte_of_decode isByte decoded
      rw [Setting.move?_listOf 0 byte]
      rfl
  | @entry _ layer _ i name found held =>
      obtain ⟨role, path, s, v, rfl, present⟩ := table_of_layers found
      -- `kept` says that no later layer holds the name, so the entry the
      -- decoder keeps is the one of this layer.
      have last : lastNamed? name (layersOf s role path v) = some q :=
        lastNamed?_eq_some_iff.mpr ⟨i, layer, found, held, kept⟩
      have here := (decode_entries present decoded).2 name
      rw [last, Option.map_some] at here
      obtain ⟨entry, atName, decoded⟩ := Option.map_eq_some_iff.mp here.symm
      refine ⟨entry.2, entry.2, decoded.symm, ?_, Or.inl rfl⟩
      rw [Step.entry_shape rfl found held]
      cases x with
      | table entries =>
          simpa [Setting.move?, Setting.entries] using ⟨entry.1, atName⟩
      | _ => simp [Setting.entries] at atName
  | @field role path record fields f key v member taken =>
      obtain ⟨settings, rfl, _, placed⟩ := decode_fields decoded
      have here := placed f member
      rw [taken, Option.map_some] at here
      obtain ⟨setting, found, decoded⟩ := Option.map_eq_some_iff.mp here.symm
      refine ⟨setting.2, _, decoded.symm, Setting.move?_field member, ?_⟩
      rw [Decode.find?_arrange member]
      -- A field whose setting is empty is left out, and is read as empty.
      cases own : Decode.kept settings f with
      | some other =>
          obtain ⟨atName, _⟩ := Decode.kept_eq_some_iff.mp own
          rw [found] at atName
          cases atName
          exact Or.inl rfl
      | none =>
          refine Or.inr ⟨?_, rfl⟩
          cases empty : setting.2.isEmpty with
          | true => rfl
          | false =>
              rw [Decode.kept_eq_some_iff.mpr ⟨found, empty⟩] at own
              cases own

theorem Route.reads {p q : Place} {ms : List Move} {x x' : Setting}
    (route : Route Keeps p ms q)
    (decoded : p.decode = .ok x)
    (read : Setting.ReadAs p.shape x x') :
    ∃ y y', q.decode = .ok y ∧ Setting.follow? p.shape x' ms =
      some (q.shape, y') ∧
      Setting.ReadAs q.shape y y' := by
  induction route generalizing x x' with
  | here => exact ⟨x, x', decoded, rfl, read⟩
  | move step kept _ ih =>
      obtain ⟨y, y', decoded', moved, read'⟩ := step.reads kept decoded
      have same : x' = x := by
        rcases read with same | ⟨empty, same⟩
        · exact same
        · rw [same, Setting.eq_empty_of_move? moved empty]
      subst same
      obtain ⟨z, z', decoded'', followed, read''⟩ := ih decoded' read'
      refine ⟨z, z', decoded'', ?_, read''⟩
      simp [Setting.follow?, moved, followed]

end Place

def Move.unlayered : Move → Move
  | .entry _ name => .entry 0 name
  | m => m

namespace Setting

/-- A setting without parts, or with empty ones only, that is no value of the
caller's own. -/
def isHollow : Setting → Bool
  | .present _ => false
  | .list _ => false
  | .table _ => false
  | .free _ => false
  | .record fields => fields.isEmpty
  | _ => true

private theorem move?_unlayered (s : Shape) (x : Setting) (m : Move) :
    move? s x m.unlayered = move? s x m := by
  cases m with
  | entry i name => cases s <;> cases x <;> rfl
  | _ => rfl

theorem follow?_unlayered (s : Shape) (x : Setting) (ms : List Move) :
    follow? s x (ms.map Move.unlayered) = follow? s x ms := by
  induction ms generalizing s x with
  | nil => rfl
  | cons m ms ih => simp [follow?, move?_unlayered, ih]

theorem isHollow_empty (s : Shape) : s.empty.isHollow = true := by
  cases s <;> rfl

theorem isHollow_of_move? {s s' : Shape} {x y : Setting} {m : Move}
    (hollow : x.isHollow = true)
    (moved : move? s x m = some (s', y)) : y.isHollow = true := by
  unfold move? at moved
  split at moved
  · simp [isHollow] at hollow
  · simp [isHollow] at hollow
  · obtain ⟨b, _, moved⟩ := Option.map_eq_some_iff.mp moved
    cases moved
    rfl
  · simp [isHollow] at hollow
  · simp only [isHollow, List.isEmpty_iff] at hollow
    subst hollow
    obtain ⟨f, _, moved⟩ := Option.map_eq_some_iff.mp moved
    cases moved
    exact isHollow_empty f.shape
  · cases moved

private theorem isHollow_of_follow? {s s' : Shape} {x y : Setting}
    {ms : List Move} (hollow : x.isHollow = true)
    (followed : follow? s x ms = some (s', y)) : y.isHollow = true := by
  induction ms generalizing s x with
  | nil =>
      cases followed
      exact hollow
  | cons m ms ih =>
      obtain ⟨⟨s₁, x₁⟩, moved, followed⟩ := Option.bind_eq_some_iff.mp followed
      exact ih (isHollow_of_move? hollow moved) followed

end Setting

namespace Place

theorem eq_empty_of_null {role : Key.Role} {path : Bytes} {s : Shape}
    {x : Setting}
    (decoded : decode ⟨role, path, s, .null⟩ = .ok x) : x = s.empty := by
  simp only [decode, Respell.value_null, Decode.decode_null, Except.ok.injEq]
    at decoded
  exact decoded.symm

theorem listOf_eq_list {s : Shape} {settings others : List Setting}
    (h : s.listOf settings = .list others) : settings = others := by
  unfold Shape.listOf at h
  split at h
  · cases h
  · cases h
    rfl

section Origins

variable {role : Key.Role} {path : Bytes} {s : Shape} {v : Value} {y : Setting}

private theorem exists_item {settings : List Setting} {i : Nat}
    (present : v ≠ .null)
    (decoded : decode ⟨role, path, .list s, v⟩ = .ok (.list settings))
    (found : settings[i]? = some y) :
    ∃ q, Step ⟨role, path, .list s, v⟩ (.item i) q ∧ q.shape = s ∧
      q.decode = .ok y := by
  by_cases single : s.takesSingle v = true
  · rw [decode_single present single, map_eq_ok_iff] at decoded
    obtain ⟨x, decoded, listed⟩ := decoded
    have settings_eq := listOf_eq_list listed
    subst settings_eq
    cases i with
    | zero =>
        have same : x = y := by simpa using found
        subst same
        exact ⟨_, .single present single, rfl, decoded⟩
    | succ i => simp at found
  · cases v with
    | array items =>
        obtain ⟨others, listed, placed⟩ := decode_items decoded
        have settings_eq := listOf_eq_list listed.symm
        subst settings_eq
        have here := placed i
        rw [found, Option.map_some] at here
        obtain ⟨v, atI, decoded⟩ := Option.map_eq_some_iff.mp here
        exact ⟨_, .item atI, rfl, decoded⟩
    | object fields =>
        have empty : fields = [] := by simpa [Shape.takesSingle] using single
        subst empty
        have listed : s.listOf [] = .list settings := by
          simpa [decode, Decode.decode, Shape.core, Shape.takesSingle,
            Shape.rebuild, Except.map] using decoded
        have settings_eq := listOf_eq_list listed
        subst settings_eq
        simp at found
    | string t =>
        have isByte : s.isByte = true := by
          simpa [Shape.takesSingle] using single
        simp [decode, Decode.decode, Shape.core, Shape.takesSingle,
          Shape.rebuild, Except.map, isByte, Decode.ofText] at decoded
    | null => exact absurd rfl present
    | bool b => simp [Shape.takesSingle] at single
    | number x => simp [Shape.takesSingle] at single

private theorem exists_entry {entries : List (Bytes × Setting)} {name : Bytes}
    {entry : Bytes × Setting} (present : v ≠ .null)
    (decoded : decode ⟨role, path, .table s, v⟩ = .ok (.table entries))
    (found : entries.find? (·.1 == name) = some entry) :
    ∃ i q, Step ⟨role, path, .table s, v⟩ (.entry i name) q ∧
      Keeps ⟨role, path, .table s, v⟩ (.entry i name) ∧ q.shape = s ∧
        q.decode = .ok entry.2 := by
  have here := (decode_entries present decoded).2 name
  simp only [Setting.entries, found, Option.map_some] at here
  obtain ⟨q, last, decoded⟩ := Option.map_eq_some_iff.mp here
  obtain ⟨i, layer, atI, held, kept⟩ := lastNamed?_eq_some_iff.mp last
  have found : (layers ⟨role, path, .table s, v⟩)[i]? = some layer := atI
  exact ⟨i, q, .entry found held, kept,
    Step.entry_shape rfl found held, decoded⟩

private theorem exists_field {record : Record}
    {settings : List (Bytes × Setting)} {f : Field} {setting : Bytes × Setting}
    (member : f ∈ record.fields)
    (decoded : decode ⟨role, path, .record record, v⟩ = .ok (.record settings))
    (found : settings.find? (·.1 == f.name) = some setting) :
    ∃ fields key w, v = .object fields ∧ taken? role fields f = some (key, w) ∧
      decode ⟨role.below key, path.field f.name, f.shape, w⟩ =
        .ok setting.2 := by
  cases v with
  | object fields =>
      obtain ⟨others, listed, _, placed⟩ := decode_fields decoded
      cases listed
      rw [Decode.find?_arrange member] at found
      have here := placed f member
      rw [(Decode.kept_eq_some_iff.mp found).1, Option.map_some] at here
      obtain ⟨⟨key, w⟩, taken, decoded⟩ := Option.map_eq_some_iff.mp here
      exact ⟨fields, key, w, rfl, taken, decoded⟩
  | null =>
      cases eq_empty_of_null decoded
      simp at found
  | bool b => cases decoded
  | number x => cases decoded
  | string t => cases decoded
  | array items =>
      simp [decode, Decode.decode, Shape.core, Except.map] at decoded

end Origins

/-- What a taken value's setting can be taken apart into comes from a part of
the value. -/
theorem exists_step {p : Place} {x y : Setting} {s : Shape}
    {m : Move} (decoded : p.decode = .ok x)
    (moved : Setting.move? p.shape x m = some (s, y))
    (solid : y.isHollow = false) :
    ∃ m' q, m'.unlayered = m.unlayered ∧ Step p m' q ∧ p.Keeps m' ∧
      q.shape = s ∧
      q.decode = .ok y := by
  obtain ⟨role, path, shape, v⟩ := p
  have present : v ≠ .null := by
    rintro rfl
    have hollow : x.isHollow = true := by
      rw [eq_empty_of_null decoded]
      exact Setting.isHollow_empty shape
    simp [Setting.isHollow_of_move? hollow moved] at solid
  unfold Setting.move? at moved
  split at moved
  · rename_i s₁ x₁ shape_eq
    cases shape_eq
    cases moved
    rw [decode_inside present, map_eq_ok_iff] at decoded
    obtain ⟨y, decoded, inside⟩ := decoded
    cases inside
    exact ⟨.inside, _, rfl, .inside present, trivial, rfl, decoded⟩
  · rename_i s₁ settings i shape_eq
    cases shape_eq
    obtain ⟨y, found, moved⟩ := Option.map_eq_some_iff.mp moved
    cases moved
    obtain ⟨q, step, shape, decoded⟩ := exists_item present decoded found
    exact ⟨.item i, q, rfl, step, trivial, shape, decoded⟩
  · -- a byte cannot be taken apart any further
    obtain ⟨b, _, moved⟩ := Option.map_eq_some_iff.mp moved
    cases moved
    cases solid
  · rename_i s₁ entries layer name shape_eq
    cases shape_eq
    obtain ⟨entry, found, moved⟩ := Option.map_eq_some_iff.mp moved
    cases moved
    obtain ⟨i, q, step, kept, shape, decoded⟩ :=
      exists_entry present decoded found
    exact ⟨.entry i name, q, rfl, step, kept, shape, decoded⟩
  · rename_i record settings name shape_eq
    cases shape_eq
    obtain ⟨f, named, moved⟩ := Option.map_eq_some_iff.mp moved
    have member := List.mem_of_find?_eq_some named
    have name_eq : f.name = name := by simpa using List.find?_some named
    subst name_eq
    cases moved
    cases found : settings.find? (·.1 == f.name) with
    | none => simp [found, Setting.isHollow_empty] at solid
    | some setting =>
        obtain ⟨fields, key, w, rfl, taken, decoded⟩ :=
          exists_field member decoded found
        exact ⟨.field f.name, _, rfl, .field member taken, trivial,
          rfl, decoded⟩
  · cases moved

theorem exists_route {p : Place} {x y : Setting} {s : Shape}
    {ms : List Move} (decoded : p.decode = .ok x)
    (followed : Setting.follow? p.shape x ms = some (s, y))
    (solid : y.isHollow = false) :
    ∃ ms' q, ms'.map Move.unlayered = ms.map Move.unlayered ∧
      Route Keeps p ms' q ∧ q.shape = s ∧
      q.decode = .ok y := by
  induction ms generalizing p x with
  | nil =>
      cases followed
      exact ⟨[], p, rfl, .here, rfl, decoded⟩
  | cons m ms ih =>
      obtain ⟨⟨s₁, x₁⟩, moved, followed⟩ := Option.bind_eq_some_iff.mp followed
      have solid₁ : x₁.isHollow = false := by
        by_contra hollow
        rw [Bool.not_eq_false] at hollow
        simp [Setting.isHollow_of_follow? hollow followed] at solid
      obtain ⟨m', q, same, step, kept, rfl, decoded'⟩ :=
        exists_step decoded moved solid₁
      obtain ⟨ms', r, same', route, shape, decoded''⟩ := ih decoded' followed
      exact ⟨m' :: ms',
        r, by simp [same, same'], .move step kept route, shape, decoded''⟩

end Place

end ModelGateway
