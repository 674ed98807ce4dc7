import ModelGateway.Generation.Config
import ModelGateway.Proofs.Decoding
import ModelGateway.Proofs.Respelling

/-!
Positions in the options that a caller sends, and in the configuration that they
are turned into. A position is a list of moves; the same moves lead to a value
in the options and to its setting in the configuration.
-/

namespace ModelGateway

/-- A value on its way into an option: how its names are respelt, the path to it
in messages, and the shape that it meets. -/
structure Place where
  role : Key.Role
  path : Bytes
  shape : Shape
  value : Value

/-- One move from a value to a part of it, or from a setting to a part of it. -/
inductive Move where
  | inside
  -- To an item of a list; a single value is the first item of its list.
  | item (i : Nat)
  -- To an entry of a table; a list of objects is one table, laid together from
  -- its objects.
  | entry (layer : Nat) (name : Bytes)
  | field (name : Bytes)
  deriving DecidableEq, Repr

namespace Place

def root (options : Fields Binary) : Place :=
  ⟨.ordinary, [], .record .generation, .object options⟩

def decode (p : Place) : Checked Setting :=
  Decode.decode p.path p.shape (Respell.value p.role p.value)

def Fits (p : Place) : Prop :=
  ∃ x, p.decode = .ok x

mutual

/-- The values that are laid together into one table, in their order. An empty
list stands for an object without fields. -/
def layersOf (s : Shape) (role : Key.Role) (path : Bytes) : Value → List Place
  | .null => []
  | .array [] => [⟨role, path, .table s, .object []⟩]
  | .array (item :: rest) =>
      layersOf s role.item (path.item 0) item ++
        layersFrom s role.item path 1 rest
  | value => [⟨role, path, .table s, value⟩]

def layersFrom (s : Shape) (role : Key.Role) (path : Bytes)
    (i : Nat) : List Value → List Place
  | [] => []
  | item :: rest =>
      layersOf s role (path.item i) item ++ layersFrom s role path (i + 1) rest

end

def layers (p : Place) : List Place :=
  match p.shape with
  | .table s => layersOf s p.role p.path p.value
  | _ => []

def named? (layer : Place) (name : Bytes) : Option Place :=
  match layer.shape, layer.value with
  | .table s, .object fields =>
      (fields.find? fun entry => layer.role.spell entry.1 == name).map
        fun (key, value) =>
          ⟨layer.role.below key, layer.path.entry name, s, value⟩
  | _, _ => none

def taken? (role : Key.Role) (fields : Fields Binary) (f : Field) :
    Option (Bytes × Value) :=
  fields.find? fun entry =>
    Decode.chosenKey? f (fields.map fun entry => role.spell entry.1) ==
      some (role.spell entry.1)

/-- The parts that a value is taken apart into. -/
inductive Step : Place → Move → Place → Prop
  | inside {role path s v} (present : v ≠ .null) :
      Step ⟨role, path, .optional s, v⟩ .inside ⟨role, path, s, v⟩
  | item {role path s items i v} (found : items[i]? = some v) :
      Step ⟨role, path, .list s, .array items⟩ (.item i)
        ⟨role.item, path.item i, s, v⟩
  | single {role path s v} (present : v ≠ .null)
      (single : s.takesSingle v = true) :
      Step ⟨role, path, .list s, v⟩ (.item 0) ⟨role, path.item 0, s, v⟩
  | entry {p layer q : Place} {i name} (found : p.layers[i]? = some layer)
      (held : layer.named? name = some q) :
      Step p (.entry i name) q
  | field {role path record fields f key v} (member : f ∈ record.fields)
      (taken : taken? role fields f = some (key, v)) :
      Step ⟨role, path, .record record, .object fields⟩ (.field f.name)
        ⟨role.below key, path.field f.name, f.shape, v⟩

inductive Route (allowed : Place → Move → Prop) :
    Place → List Move → Place → Prop
  | here {p} : Route allowed p [] p
  | move {p m q ms r} (step : Step p m q) (permitted : allowed p m)
      (rest : Route allowed q ms r) :
      Route allowed p (m :: ms) r

def Contains : Place → List Move → Place → Prop :=
  Route fun _ _ => True

/-- A move to an entry that no later layer of its table replaces. -/
def Keeps (p : Place) : Move → Prop
  | .entry i name =>
      ∀ j layer, i < j → p.layers[j]? = some layer → layer.named? name = none
  | _ => True

/-- A move to an entry whose table did not fail at an earlier layer. -/
def Tries (p : Place) : Move → Prop
  | .entry i _ => ∀ j layer, j < i → p.layers[j]? = some layer → layer.Fits
  | _ => True

end Place

namespace Setting

/-- The part of a setting that a move leads to, with its shape. A record does
not list what is empty. -/
def move? : Shape → Setting → Move → Option (Shape × Setting)
  | .optional s, .present x, .inside => some (s, x)
  | .list s, .list items, .item i => items[i]?.map fun x => (s, x)
  | .list s, .bytes data, .item i => data[i]?.map fun b => (s, .integer b.toNat)
  | .table s, .table entries, .entry _ name =>
      (entries.find? (·.1 == name)).map fun entry => (s, entry.2)
  | .record kind, .record settings, .field name =>
      (kind.fields.find? (·.name == name)).map fun f =>
        (f.shape, ((settings.find? (·.1 == name)).map Prod.snd).getD
          f.shape.empty)
  | _, _, _ => none

def follow? : Shape → Setting → List Move → Option (Shape × Setting)
  | s, x, [] => some (s, x)
  | s, x, m :: ms => (move? s x m).bind fun (s, x) => follow? s x ms

def entries : Setting → List (Bytes × Setting)
  | .table entries => entries
  | _ => []

end Setting

namespace Place

def move? (p : Place) : Move → Option Place
  | .inside =>
      match p.shape, p.value with
      | .optional _, .null => none
      | .optional s, v => some ⟨p.role, p.path, s, v⟩
      | _, _ => none
  | .item i =>
      match p.shape, p.value with
      | .list _, .null => none
      | .list s, .array items =>
          items[i]?.map fun v => ⟨p.role.item, p.path.item i, s, v⟩
      | .list s, v =>
          if i = 0 ∧ s.takesSingle v = true then
            some ⟨p.role, p.path.item 0, s, v⟩ else none
      | _, _ => none
  | .entry i name => p.layers[i]?.bind fun layer => layer.named? name
  | .field name =>
      match p.shape, p.value with
      | .record record, .object fields =>
          (record.fields.find? (·.name == name)).bind fun f =>
            (taken? p.role fields f).map fun (key, v) =>
              ⟨p.role.below key, p.path.field f.name, f.shape, v⟩
      | _, _ => none

def follow? (p : Place) : List Move → Option Place
  | [] => some p
  | m :: ms => (p.move? m).bind fun q => q.follow? ms

theorem Step.move? {p q : Place} {m : Move} (step : Step p m q) :
    p.move? m = some q := by
  cases step with
  | @inside role path s v present =>
      cases v with
      | null => exact absurd rfl present
      | _ => rfl
  | item found => simp [Place.move?, found]
  | @single role path s v present single =>
      cases v with
      | null => exact absurd rfl present
      | array items => simp [Shape.takesSingle] at single
      | _ => simp [Place.move?, single]
  | entry found held => simp [Place.move?, found, held]
  | field member taken => simp [Place.move?, Record.find?_name member, taken]

private theorem step_of_move? {p q : Place} {m : Move}
    (moved : p.move? m = some q) : Step p m q := by
  obtain ⟨role, path, shape, value⟩ := p
  unfold Place.move? at moved
  cases m with
  | inside =>
      dsimp only at moved
      split at moved
      · cases moved
      · rename_i present
        cases moved
        exact .inside present
      · cases moved
  | item i =>
      dsimp only at moved
      split at moved
      · cases moved
      · obtain ⟨v, found, rfl⟩ := Option.map_eq_some_iff.mp moved
        exact .item found
      · rename_i present _
        obtain ⟨⟨rfl, single⟩, here⟩ := Option.ite_none_right_eq_some.mp moved
        cases here
        exact .single present single
      · cases moved
  | entry i name =>
      obtain ⟨layer, found, held⟩ := Option.bind_eq_some_iff.mp moved
      exact .entry found held
  | field name =>
      dsimp only at moved
      split at moved
      · obtain ⟨f, named, moved⟩ := Option.bind_eq_some_iff.mp moved
        obtain ⟨⟨key, v⟩, taken, rfl⟩ := Option.map_eq_some_iff.mp moved
        have same := List.find?_some named
        simp only [beq_iff_eq] at same
        subst same
        exact .field (List.mem_of_find?_eq_some named) taken
      · cases moved

theorem route_of_follow? {allowed : Place → Move → Prop} {p q : Place}
    {ms : List Move} (permitted : ∀ p, ∀ m ∈ ms, allowed p m)
    (followed : p.follow? ms = some q) :
    Route allowed p ms q := by
  induction ms generalizing p with
  | nil =>
      cases followed
      exact .here
  | cons m ms ih =>
      obtain ⟨next, moved, followed⟩ := Option.bind_eq_some_iff.mp followed
      refine .move (step_of_move? moved) (permitted p m List.mem_cons_self) ?_
      exact ih (fun p m member => permitted p m (List.mem_cons_of_mem _ member))
        followed

theorem contains_iff {p q : Place} {ms : List Move} :
    p.Contains ms q ↔ p.follow? ms = some q := by
  constructor
  · intro route
    induction route with
    | here => rfl
    | move step _ _ ih => simp [follow?, step.move?, ih]
  · exact route_of_follow? fun _ _ _ => trivial

section Layers

variable {s : Shape} {role : Key.Role} {path : Bytes} {v : Value}

def merge (older : Option (List (Bytes × Setting))) :
    List Place → Checked (Option (List (Bytes × Setting)))
  | [] => .ok older
  | layer :: rest => do
      let newer ← layer.decode
      merge (some (Decode.overlay (older.getD []) newer.entries)) rest

theorem merge_append (older : Option (List (Bytes × Setting)))
    (first second : List Place) :
    merge older (first ++ second) =
      (merge older first >>= fun entries => merge entries second) := by
  induction first generalizing older with
  | nil => rfl
  | cons layer rest ih =>
      simp only [List.cons_append, merge]
      cases layer.decode with
      | error e => rfl
      | ok x => exact ih _

mutual

theorem decodeLayer_eq_merge (s : Shape) (role : Key.Role) (path : Bytes)
    (v : Value) (older : Option (List (Bytes × Setting))) :
    Decode.decodeLayer path s older (Respell.value role v) =
      merge older (layersOf s role path v) := by
  match v with
  | .null => rfl
  | .bool b => rfl
  | .number x => rfl
  | .string t => rfl
  | .array [] =>
      simp only [Respell.value_array, List.map_nil, Decode.decodeLayer,
        layersOf, merge, decode, Respell.value_object, Decode.decode_entries,
        Decode.decodeEntries]
      change Except.ok _ = Except.ok (some (Decode.overlay (older.getD []) []))
      rw [Decode.overlay_nil]
  | .array (item :: rest) =>
      simp only [Respell.value_array, List.map_cons, Decode.decodeLayer,
        layersOf, merge_append, decodeLayer_eq_merge s role.item
          (path.item 0) item older]
      congr 1
      funext entries
      exact decodeLayers_eq_merge s role.item path 1 rest entries
  | .object fields =>
      simp only [Respell.value_object, Decode.decodeLayer, layersOf, merge,
        decode, Decode.decode_entries]
      cases Decode.decodeEntries path s _ with
      | error e => rfl
      | ok newer => rfl

theorem decodeLayers_eq_merge (s : Shape) (role : Key.Role) (path : Bytes)
    (i : Nat) (items : List Value) (older : Option (List (Bytes × Setting))) :
    Decode.decodeLayers path s older i (items.map (Respell.value role)) =
      merge older (layersFrom s role path i items) := by
  match items with
  | [] => rfl
  | item :: rest =>
      simp only [List.map_cons, Decode.decodeLayers, layersFrom, merge_append,
        decodeLayer_eq_merge s role (path.item i) item older]
      congr 1
      funext entries
      exact decodeLayers_eq_merge s role path (i + 1) rest entries

end

theorem respell_ne_null (present : v ≠ .null) :
    Respell.value role v ≠ .null := by
  cases v with
  | null => exact absurd rfl present
  | _ => simp

theorem decode_table (present : v ≠ .null) :
    decode ⟨role, path, .table s, v⟩ =
      (merge none (layersOf s role path v)).map Decode.tableOf := by
  rw [← decodeLayer_eq_merge]
  exact Decode.decode_table (respell_ne_null present)

def IsLayer (s : Shape) (layer : Place) : Prop :=
  layer.shape = .table s ∧
    ((∃ fields, layer.value = .object fields) ∨
      ∃ all, layer.decode = .error all)

mutual

theorem isLayer_of_mem_layersOf (s : Shape) (role : Key.Role) (path : Bytes)
    (v : Value) :
    ∀ layer ∈ layersOf s role path v, IsLayer s layer := by
  match v with
  | .null => simp [layersOf]
  | .bool b => exact List.forall_mem_singleton.mpr ⟨rfl, Or.inr ⟨_, rfl⟩⟩
  | .number x => exact List.forall_mem_singleton.mpr ⟨rfl, Or.inr ⟨_, rfl⟩⟩
  | .string t => exact List.forall_mem_singleton.mpr ⟨rfl, Or.inr ⟨_, rfl⟩⟩
  | .array [] => exact List.forall_mem_singleton.mpr ⟨rfl, Or.inl ⟨_, rfl⟩⟩
  | .array (item :: rest) =>
      intro layer member
      rcases List.mem_append.mp member with first | later
      · exact isLayer_of_mem_layersOf s role.item (path.item 0) item layer first
      · exact isLayer_of_mem_layersFrom s role.item path 1 rest layer later
  | .object fields => exact List.forall_mem_singleton.mpr ⟨rfl, Or.inl ⟨_, rfl⟩⟩

theorem isLayer_of_mem_layersFrom (s : Shape) (role : Key.Role) (path : Bytes)
    (i : Nat) (items : List Value) :
    ∀ layer ∈ layersFrom s role path i items, IsLayer s layer := by
  match items with
  | [] => simp [layersFrom]
  | item :: rest =>
      intro layer member
      rcases List.mem_append.mp member with first | later
      · exact isLayer_of_mem_layersOf s role (path.item i) item layer first
      · exact isLayer_of_mem_layersFrom s role path (i + 1) rest layer later

end

theorem find?_of_decode_layer {layer : Place} {x : Setting}
    (isLayer : IsLayer s layer)
    (decoded : layer.decode = .ok x)
    (name : Bytes) :
    (layer.named? name).map decode =
      (x.entries.find? (·.1 == name)).map fun entry => .ok entry.2 := by
  obtain ⟨role, path, shape, value⟩ := layer
  obtain ⟨rfl, ⟨fields, rfl⟩ | ⟨all, refused⟩⟩ := isLayer
  · simp only [decode, Respell.value_object, Decode.decode_entries,
      map_eq_ok_iff] at decoded
    obtain ⟨entries, decoded, rfl⟩ := decoded
    have looked := Decode.find?_of_decodeEntries decoded name
    rw [List.find?_map] at looked
    simpa [named?, decode, Setting.entries, Function.comp_def] using looked
  · rw [decoded] at refused
    cases refused

def lastNamed? (name : Bytes) : List Place → Option Place
  | [] => none
  | layer :: rest => (lastNamed? name rest).or (layer.named? name)

theorem lastNamed?_eq_none_iff {name : Bytes} {layers : List Place} :
    lastNamed? name layers = none ↔
      ∀ layer ∈ layers, layer.named? name = none := by
  induction layers with
  | nil => simp [lastNamed?]
  | cons layer rest ih => simp [lastNamed?, ih, and_comm]

theorem lastNamed?_eq_some_iff {name : Bytes} {layers : List Place}
    {q : Place} :
    lastNamed? name layers = some q ↔
      ∃ (i : Nat) (layer : Place), layers[i]? = some layer ∧
        layer.named? name = some q ∧
        ∀ (j : Nat) (later : Place), i < j → layers[j]? = some later →
          later.named? name = none := by
  induction layers with
  | nil => simp [lastNamed?]
  | cons layer rest ih =>
      simp only [lastNamed?, Option.or_eq_some_iff]
      -- The last holder is in the tail if the tail has one, else the head.
      constructor
      · rintro (held | ⟨unheld, own⟩)
        · obtain ⟨i, holder, found, held, last⟩ := ih.mp held
          refine ⟨i + 1, holder, by simpa using found, held, ?_⟩
          intro j later after atJ
          cases j with
          | zero => omega
          | succ j => exact last j later (by omega) (by simpa using atJ)
        · refine ⟨0, layer, rfl, own, ?_⟩
          intro j later after atJ
          cases j with
          | zero => omega
          | succ j =>
              have member : later ∈ rest :=
                List.mem_of_getElem? (by simpa using atJ)
              exact lastNamed?_eq_none_iff.mp unheld later member
      · rintro ⟨i, holder, found, held, last⟩
        cases i with
        | zero =>
            have own : layer = holder := by simpa using found
            subst own
            refine Or.inr ⟨lastNamed?_eq_none_iff.mpr ?_, held⟩
            intro later member
            obtain ⟨j, atJ⟩ := List.getElem?_of_mem member
            exact last (j + 1) later (by omega) (by simpa using atJ)
        | succ i =>
            refine Or.inl (ih.mpr ⟨i, holder, by simpa using found, held, ?_⟩)
            intro j later after atJ
            exact last (j + 1) later (by omega) (by simpa using atJ)

theorem fits_of_merge {older r : Option (List (Bytes × Setting))}
    {layers : List Place} (merged : merge older layers = .ok r) :
    ∀ layer ∈ layers, layer.Fits := by
  induction layers generalizing older with
  | nil => simp
  | cons layer rest ih =>
      simp only [merge, bind_eq_ok_iff] at merged
      obtain ⟨newer, decoded, merged⟩ := merged
      exact List.forall_mem_cons.mpr ⟨⟨newer, decoded⟩, ih merged⟩

theorem find?_of_merge {older r : Option (List (Bytes × Setting))}
    {layers : List Place} (isLayer : ∀ layer ∈ layers, IsLayer s layer)
    (merged : merge older layers = .ok r)
    (name : Bytes) :
    ((lastNamed? name layers).map decode).or
        (((older.getD []).find? (·.1 == name)).map fun entry => .ok entry.2) =
      ((r.getD []).find? (·.1 == name)).map fun entry => .ok entry.2 := by
  induction layers generalizing older with
  | nil =>
      simp only [merge, Except.ok.injEq] at merged
      subst merged
      rfl
  | cons layer rest ih =>
      simp only [merge, bind_eq_ok_iff] at merged
      obtain ⟨newer, decoded, merged⟩ := merged
      obtain ⟨first, others⟩ := List.forall_mem_cons.mp isLayer
      rw [← ih others merged]
      simp only [Option.getD_some, Decode.find?_overlay, lastNamed?,
        Option.map_or, find?_of_decode_layer first decoded name,
        Option.or_assoc]

theorem reports_merge {mismatch : Mismatch}
    {older : Option (List (Bytes × Setting))} {layers : List Place} {i : Nat}
    {layer : Place} (found : layers[i]? = some layer)
    (earlier : ∀ j other, j < i → layers[j]? = some other → other.Fits)
    (h : Checked.Reports mismatch layer.decode) :
    Checked.Reports mismatch (merge older layers) := by
  induction layers generalizing older i with
  | nil => simp at found
  | cons head rest ih =>
      cases i with
      | zero =>
          have own : head = layer := by simpa using found
          subst own
          exact Checked.reports_bind_left h
      | succ i =>
          obtain ⟨newer, decoded⟩ := earlier 0 head (by omega) rfl
          simp only [merge, decoded]
          apply ih (by simpa using found)
          intro j other before atJ
          exact earlier (j + 1) other (by omega) (by simpa using atJ)

end Layers

end Place

end ModelGateway
