import Mathlib.Data.Set.Function
import ModelGateway.Proofs.Reordering

/-!
Where names are respelt, and what that does there. Options are refused for two
names of one spelling in one object in scope and for nothing else; otherwise
each name in scope gets its camel spelling, and all else stays.
-/

namespace ModelGateway

namespace Key

theorem role_eq_verbatim_iff {name : Bytes} :
    role name = .verbatim ↔ name ∈ verbatimNames := by
  unfold role
  split_ifs with verbatim named <;> simp_all

theorem role_eq_named_iff {name : Bytes} :
    role name = .named ↔ name ∈ namedNames := by
  have apart : ∀ name ∈ namedNames, verbatimNames.contains name = false := by
    decide
  unfold role
  split_ifs with verbatim named
  · simp only [false_iff]
    intro member
    cases verbatim.symm.trans (apart name member)
  · simp_all
  · simp_all

theorem role_eq_ordinary_iff {name : Bytes} :
    role name = .ordinary ↔ name ∉ verbatimNames ∧ name ∉ namedNames := by
  unfold role
  split_ifs with verbatim named <;> simp_all

end Key

namespace Normalize

open Respell

/-- The values of a value whose names are respelt, itself among them. -/
inductive Scope : Value → Value → Prop
  | here {v : Value} : Scope v v
  | field {fields : Fields Binary} {key : Bytes} {v u : Value}
      (member : (key, v) ∈ fields)
      (noVerbatim : Key.camel key ∉ Key.verbatimNames)
      (noNamed : Key.camel key ∉ Key.namedNames)
      (inside : Scope v u) : Scope (.object fields) u
  | item {items : List Value} {v u : Value} (member : v ∈ items)
      (inside : Scope v u) : Scope (.array items) u
  | property {fields named : Fields Binary} {key name : Bytes} {v u : Value}
      (member : (key, .object named) ∈ fields)
      (isNamed : Key.camel key ∈ Key.namedNames)
      (held : (name, v) ∈ named) (inside : Scope v u) : Scope (.object fields) u

/-- Two values and the values at the same place in them, as far as names are
respelt. -/
inductive Beside (v w : Value) : Value → Value → Prop
  | here : Beside v w v w
  | field {fields fields' : Fields Binary} {key : Bytes} {u u' : Value}
      (outside : Beside v w (.object fields) (.object fields'))
      (member : (key, u) ∈ fields)
      (noVerbatim : Key.camel key ∉ Key.verbatimNames)
      (noNamed : Key.camel key ∉ Key.namedNames)
      (member' : (Key.camel key, u') ∈ fields') : Beside v w u u'
  | item {items items' : List Value} {i : Nat} {u u' : Value}
      (outside : Beside v w (.array items) (.array items'))
      (found : items[i]? = some u) (found' : items'[i]? = some u') :
        Beside v w u u'
  | property {fields fields' named named' : Fields Binary} {key name : Bytes}
      {u u' : Value}
      (outside : Beside v w (.object fields) (.object fields'))
      (member : (key, .object named) ∈ fields)
      (isNamed : Key.camel key ∈ Key.namedNames)
      (member' : (Key.camel key, .object named') ∈ fields')
      (held : (name, u) ∈ named) (held' : (name, u') ∈ named') : Beside v w u u'

/-- What a value in scope becomes, without what becomes of those inside it. -/
inductive Image : Value → Value → Prop
  | scalar {v : Value} (isScalar : v.IsScalar) : Image v v
  | array {items items' : List Value}
      (length_eq : items'.length = items.length) :
      Image (.array items) (.array items')
  | object {fields fields' : Fields Binary}
      (keys_eq : fields'.keys = fields.keys.map Key.camel)
      (bijective : Set.BijOn Key.camel {key | key ∈ fields.keys}
        {key | key ∈ fields'.keys})
      (verbatim : ∀ key v, (key, v) ∈ fields →
        Key.camel key ∈ Key.verbatimNames → (Key.camel key, v) ∈ fields')
      (unnamed : ∀ key v, (key, v) ∈ fields → Key.camel key ∈ Key.namedNames →
        (∀ named, v ≠ .object named) → (Key.camel key, v) ∈ fields')
      (named : ∀ key named, (key, .object named) ∈ fields →
        Key.camel key ∈ Key.namedNames →
        ∃ named' : Fields Binary, (Key.camel key, .object named') ∈ fields' ∧
        named'.keys = Fields.keys named) :
      Image (.object fields) (.object fields')

def Collides (options : Fields Binary) : Prop :=
  ∃ fields : Fields Binary, Scope (.object options) (.object fields) ∧
    ∃ key ∈ fields.keys, ∃ key' ∈ fields.keys, key ≠ key' ∧
      Key.camel key = Key.camel key'

section Scope

variable {v u : Value}

theorem Scope.distinct (scope : Scope v u) (distinct : Distinct .ordinary v) :
    Distinct .ordinary u := by
  induction scope with
  | here => exact distinct
  | field member noVerbatim noNamed _ induction =>
      apply induction
      have below := distinctFields_iff.1 distinct.2 _ member
      rw [Key.Role.below_ordinary,
        Key.role_eq_ordinary_iff.2 ⟨noVerbatim, noNamed⟩] at below
      exact below
  | item member _ induction =>
      apply induction
      exact distinctItems_iff.1 distinct _ member
  | property member isNamed held _ induction =>
      apply induction
      have below := distinctFields_iff.1 distinct.2 _ member
      rw [Key.Role.below_ordinary, Key.role_eq_named_iff.2 isNamed] at below
      exact distinctFields_iff.1 below.2 _ held

theorem Scope.keyed (scope : Scope v u) (keyed : v.Keyed) : u.Keyed := by
  induction scope with
  | here => exact keyed
  | field member _ _ _ induction =>
      exact induction ((Json.keyed_object_iff.1 keyed).2 _ member)
  | item member _ induction =>
      exact induction (Json.keyed_array_iff.1 keyed _ member)
  | property member _ held _ induction =>
      have named := (Json.keyed_object_iff.1 keyed).2 _ member
      exact induction ((Json.keyed_object_iff.1 named).2 _ held)

theorem distinct_of_isScalar (isScalar : v.IsScalar)
    (role : Key.Role) : Distinct role v := by
  cases v with
  | array items => exact absurd rfl (isScalar.1 items)
  | object fields => exact absurd rfl (isScalar.2 fields)
  | null | bool | number | string => trivial

def Free (v : Value) : Prop :=
  ∀ fields : Fields Binary, Scope v (.object fields) →
    (fields.map fun entry => Key.camel entry.1).Nodup

private theorem distinct_of_free (v : Value) (free : Free v) :
    Distinct .ordinary v := by
  -- The caller's own names are passed over, so the statement is needed one
  -- level deeper as well.
  suffices both : (Free v → Distinct .ordinary v) ∧
      ∀ named, v = .object named → (∀ entry ∈ named, Free entry.2) →
        Distinct .named v from both.1 free
  clear free
  induction v using Json.induction_of_mem with
  | scalar v isScalar =>
      exact ⟨fun _ => distinct_of_isScalar isScalar _, fun _ _ _ =>
        distinct_of_isScalar isScalar _⟩
  | array items induction =>
      refine ⟨?_, nofun⟩
      intro free
      apply distinctItems_iff.2
      intro item member
      apply (induction item member).1
      intro fields scope
      exact free fields (.item member scope)
  | object fields induction =>
      constructor
      · intro free
        refine ⟨fun _ => free fields .here, distinctFields_iff.2 ?_⟩
        intro entry member
        obtain ⟨key, v⟩ := entry
        rw [Key.Role.below_ordinary]
        cases role : Key.role (Key.camel key) with
        | ordinary =>
            obtain ⟨noVerbatim, noNamed⟩ := Key.role_eq_ordinary_iff.1 role
            apply (induction _ member).1
            intro fields scope
            exact free fields (.field member noVerbatim noNamed scope)
        | verbatim => exact distinct_verbatim v
        | named =>
            have isNamed := Key.role_eq_named_iff.1 role
            cases v with
            | object named =>
                apply (induction _ member).2 named rfl
                intro entry held fields scope
                exact free fields (.property member isNamed held scope)
            | array items => exact distinctItems_verbatim items
            | null | bool | number | string => trivial
      · intro named equal free
        cases equal
        refine ⟨nofun, distinctFields_iff.2 ?_⟩
        intro entry held
        exact (induction entry held).1 (free entry held)

private theorem distinct_iff_free : Distinct .ordinary v ↔ Free v := by
  constructor
  · intro distinct fields scope
    exact (scope.distinct distinct).1 rfl
  · exact distinct_of_free v

end Scope

private theorem distinct_iff_not_collides {options : Fields Binary}
    (keyed : Json.Keyed (.object options)) :
    Distinct .ordinary (.object options) ↔ ¬ Collides options := by
  rw [distinct_iff_free]
  constructor
  · rintro free ⟨fields, scope, key, member, key', member', differ, same⟩
    obtain ⟨entry, inside, rfl⟩ := List.mem_map.1 member
    obtain ⟨entry', inside', rfl⟩ := List.mem_map.1 member'
    exact differ (congrArg Prod.fst
      (List.inj_on_of_nodup_map (free fields scope) inside inside' same))
  · intro apart fields scope
    have nodup : fields.keys.Nodup :=
      (Json.keyed_object_iff.1 (scope.keyed keyed)).1
    have injective : ∀ key ∈ fields.keys, ∀ key' ∈ fields.keys, Key.camel key =
        Key.camel key' → key = key' := by
      intro key member key' member' same
      by_contra differ
      exact apart ⟨fields, scope, key, member, key', member', differ, same⟩
    have spelt := List.Nodup.map_on injective nodup
    rwa [Fields.keys, List.map_map] at spelt

section Images

variable {v w u u' a b : Value} {fields fields' named named' : Fields Binary}
    {items : List Value} {key name : Bytes}

theorem Scope.trans (first : Scope v u) (second : Scope u a) : Scope v a := by
  induction first with
  | here => exact second
  | field member noVerbatim noNamed _ induction =>
      exact .field member noVerbatim noNamed (induction second)
  | item member _ induction => exact .item member (induction second)
  | property member isNamed held _ induction =>
      exact .property member isNamed held (induction second)

theorem Beside.trans (first : Beside v w u u') (second : Beside u u' a b) :
    Beside v w a b := by
  induction second with
  | here => exact first
  | field _ member noVerbatim noNamed member' induction =>
      exact .field induction member noVerbatim noNamed member'
  | item _ found found' induction => exact .item induction found found'
  | property _ member isNamed member' held held' induction =>
      exact .property induction member isNamed member' held held'

theorem eq_value_of_mem (distinct : Distinct .ordinary (.object fields))
    (member : (key, u) ∈ fields)
    (member' : (Key.camel key, u') ∈ fields.map fun entry =>
      (Key.camel entry.1, value (Key.Role.ordinary.below entry.1) entry.2)) :
    u' = value (Key.role (Key.camel key)) u := by
  obtain ⟨entry, present, equal⟩ := List.mem_map.1 member'
  obtain ⟨same, rfl⟩ := Prod.mk.inj equal
  cases List.inj_on_of_nodup_map (distinct.1 rfl) present member same
  rfl

private theorem eq_value_of_mem_named (nodup : named.keys.Nodup)
    (held : (name, u) ∈ named)
    (held' : (name, u') ∈ named.map fun entry =>
      (entry.1, value .ordinary entry.2)) :
    u' = value .ordinary u := by
  obtain ⟨entry, present, equal⟩ := List.mem_map.1 held'
  obtain ⟨same, rfl⟩ := Prod.mk.inj equal
  cases List.inj_on_of_nodup_map nodup present held same
  rfl

private theorem Beside.eq_value (keyed : v.Keyed)
    (distinct : Distinct .ordinary v)
    (beside : Beside v (value .ordinary v) a b) :
    Scope v a ∧ b = value .ordinary a := by
  induction beside with
  | here => exact ⟨.here, rfl⟩
  | field _ member noVerbatim noNamed member' induction =>
      obtain ⟨scope, image⟩ := induction
      rw [value_object, Json.object.injEq] at image
      subst image
      refine ⟨scope.trans (.field member noVerbatim noNamed .here), ?_⟩
      rw [eq_value_of_mem (scope.distinct distinct) member member',
        Key.role_eq_ordinary_iff.2 ⟨noVerbatim, noNamed⟩]
  | item _ found found' induction =>
      obtain ⟨scope, image⟩ := induction
      rw [value_array, Json.array.injEq] at image
      subst image
      refine ⟨scope.trans (.item (List.mem_of_getElem? found) .here), ?_⟩
      rw [List.getElem?_map, found] at found'
      exact (Option.some.inj found').symm
  | property _ member isNamed member' held held' induction =>
      obtain ⟨scope, image⟩ := induction
      rw [value_object, Json.object.injEq] at image
      subst image
      refine ⟨scope.trans (.property member isNamed held .here), ?_⟩
      have named_eq := eq_value_of_mem (scope.distinct distinct) member member'
      rw [Key.role_eq_named_iff.2 isNamed, value_object, Json.object.injEq]
        at named_eq
      subst named_eq
      have named_keyed :=
        (Json.keyed_object_iff.1 (scope.keyed keyed)).2 _ member
      exact eq_value_of_mem_named (Json.keyed_object_iff.1 named_keyed).1 held
        held'

private theorem value_of_isScalar (isScalar : v.IsScalar)
    (role : Key.Role) : value role v = v := by
  cases v with
  | array items => exact absurd rfl (isScalar.1 items)
  | object fields => exact absurd rfl (isScalar.2 fields)
  | null | bool | number | string => rfl

theorem value_named_of_ne_object (noObject : ∀ named, v ≠ .object named) :
    value .named v = v := by
  cases v with
  | array items => exact congrArg Json.array (items_verbatim items)
  | object fields => exact absurd rfl (noObject fields)
  | null | bool | number | string => rfl

private theorem bijOn_camel (keys_eq : fields'.keys = fields.keys.map Key.camel)
    (injective : Set.InjOn Key.camel {key | key ∈ fields.keys}) :
    Set.BijOn Key.camel {key | key ∈ fields.keys}
      {key | key ∈ fields'.keys} := by
  refine ⟨?_, injective, ?_⟩
  · intro key member
    change Key.camel key ∈ fields'.keys
    rw [keys_eq]
    exact List.mem_map_of_mem member
  · intro name member
    change name ∈ fields'.keys at member
    rw [keys_eq] at member
    exact List.mem_map.1 member

private theorem image_value (distinct : Distinct .ordinary v) :
    Image v (value .ordinary v) := by
  cases v with
  | null | bool | number | string => exact .scalar ⟨nofun, nofun⟩
  | array items =>
      rw [value_array]
      exact .array (List.length_map _)
  | object fields =>
      have respelt {key : Bytes} {v : Value} (member : (key, v) ∈ fields) :
          (Key.camel key, value (Key.role (Key.camel key)) v) ∈
            fields.map fun entry =>
              (Key.camel entry.1,
                value (Key.Role.ordinary.below entry.1) entry.2) :=
        List.mem_map_of_mem member
      have keys_eq : Fields.keys (fields.map fun entry =>
          (Key.camel entry.1,
            value (Key.Role.ordinary.below entry.1) entry.2)) =
            (Fields.keys fields).map Key.camel := by
        simp only [Fields.keys, List.map_map]
        rfl
      rw [value_object]
      refine .object keys_eq (bijOn_camel keys_eq ?_) ?_ ?_ ?_
      · intro key member key' member' same
        obtain ⟨entry, present, rfl⟩ := List.mem_map.1 member
        obtain ⟨entry', present', rfl⟩ := List.mem_map.1 member'
        rw [List.inj_on_of_nodup_map (distinct.1 rfl) present present' same]
      · intro key v member verbatim
        have image := respelt member
        rw [Key.role_eq_verbatim_iff.2 verbatim, value_verbatim] at image
        exact image
      · intro key v member isNamed noObject
        have image := respelt member
        rw [Key.role_eq_named_iff.2 isNamed, value_named_of_ne_object noObject]
          at image
        exact image
      · intro key named member isNamed
        have image := respelt member
        rw [Key.role_eq_named_iff.2 isNamed, value_object] at image
        refine ⟨_, image, ?_⟩
        simp only [Fields.keys, List.map_map]
        rfl

theorem eq_map_of_keys {f : Bytes × Value → Bytes × Value}
    (keys_eq : fields'.keys = fields.map fun entry => (f entry).1)
    (each : ∀ entry ∈ fields, ∀ u, ((f entry).1, u) ∈ fields' →
      u = (f entry).2) :
    fields' = fields.map f := by
  induction fields generalizing fields' with
  | nil => exact List.map_eq_nil_iff.1 keys_eq
  | cons entry rest induction =>
      cases fields' with
      | nil => cases keys_eq
      | cons entry' rest' =>
          obtain ⟨name, u⟩ := entry'
          obtain ⟨same, others⟩ := List.cons.inj keys_eq
          change name = (f entry).1 at same
          subst same
          have image := each entry List.mem_cons_self u List.mem_cons_self
          subst image
          rw [List.map_cons, ← induction others]
          intro entry member u member'
          exact each entry (List.mem_cons_of_mem _ member) u
            (List.mem_cons_of_mem _ member')

def Settles (v : Value) : Prop :=
  ∀ w, v.Keyed → (∀ a b, Beside v w a b → Image a b) → w = value .ordinary v

private theorem settles_array (each : ∀ item ∈ items, Settles item) :
    Settles (.array items) := by
  intro w keyed images
  cases images _ _ .here with
  | scalar isScalar => exact absurd rfl (isScalar.1 items)
  | @array _ items' length_eq =>
      rw [value_array]
      apply congrArg Json.array
      apply List.ext_getElem
      · rw [length_eq, List.length_map]
      · intro i within' within
        rw [List.length_map] at within
        have member : items[i] ∈ items := List.getElem_mem within
        have beside :
            Beside (.array items) (.array items') items[i] items'[i] :=
          .item .here (List.getElem?_eq_getElem within)
            (List.getElem?_eq_getElem within')
        rw [List.getElem_map]
        apply each _ member _ (Json.keyed_array_iff.1 keyed _ member)
        intro a b inside
        exact images a b (beside.trans inside)

private theorem named_eq_of_images (each : ∀ entry ∈ named, Settles entry.2)
    (keyed : Json.Keyed (.object named))
    (keys_eq : named'.keys = named.keys)
    (images : ∀ name u u', (name, u) ∈ named → (name, u') ∈ named' →
      ∀ a b, Beside u u' a b → Image a b) :
    named' = named.map fun entry => (entry.1, value .ordinary entry.2) := by
  apply eq_map_of_keys
  · exact keys_eq
  · intro entry held u held'
    apply each entry held u ((Json.keyed_object_iff.1 keyed).2 _ held)
    exact images entry.1 entry.2 u held held'

private theorem settles_object (each : ∀ entry ∈ fields, Settles entry.2)
    (below : ∀ key named, (key, .object named) ∈ fields →
      ∀ entry ∈ named, Settles entry.2) :
    Settles (.object fields) := by
  intro w keyed images
  cases images _ _ .here with
  | scalar isScalar => exact absurd rfl (isScalar.2 fields)
  | @object _ fields' keys_eq bijective verbatim unnamed named =>
      obtain ⟨keys_nodup, keyed⟩ := Json.keyed_object_iff.1 keyed
      have nodup : fields'.keys.Nodup := by
        rw [keys_eq]
        exact List.Nodup.map_on (fun key member key' member' same =>
          bijective.injOn member member' same) keys_nodup
      have unique {name : Bytes} {u u' : Value} (first : (name, u) ∈ fields')
          (second : (name, u') ∈ fields') : u = u' :=
        congrArg Prod.snd (List.inj_on_of_nodup_map nodup first second rfl)
      rw [value_object]
      apply congrArg Json.object
      apply eq_map_of_keys
      · rw [keys_eq, Fields.keys, List.map_map]
        rfl
      -- The role of the respelt key decides how far the image is pinned down:
      -- recursively, to the letter, or by the names one level further.
      · intro entry member u member'
        obtain ⟨key, x⟩ := entry
        change u = value (Key.role (Key.camel key)) x
        cases role : Key.role (Key.camel key) with
        | ordinary =>
            obtain ⟨noVerbatim, noNamed⟩ := Key.role_eq_ordinary_iff.1 role
            apply each _ member _ (keyed _ member)
            intro a b inside
            exact images a b
              (Beside.trans (.field .here member noVerbatim noNamed member')
                inside)
        | verbatim =>
            rw [value_verbatim]
            exact unique member'
              (verbatim key x member (Key.role_eq_verbatim_iff.1 role))
        | named =>
            have isNamed := Key.role_eq_named_iff.1 role
            by_cases isObject : ∃ props, x = .object props
            · obtain ⟨props, rfl⟩ := isObject
              obtain ⟨props', image, props_keys⟩ :=
                named key props member isNamed
              cases unique member' image
              rw [value_object]
              apply congrArg Json.object
              apply named_eq_of_images (below key props member)
                (keyed _ member) props_keys
              intro name a a' held held' b b' inside
              exact images b b'
                (Beside.trans (.property .here member isNamed image held held')
                  inside)
            · have noObject : ∀ props, x ≠ .object props :=
                not_exists.1 isObject
              rw [value_named_of_ne_object noObject]
              exact unique member' (unnamed key x member isNamed noObject)

private theorem settles (v : Value) : Settles v := by
  suffices both : Settles v ∧ ∀ named, v = .object named →
      ∀ entry ∈ named, Settles entry.2 from both.1
  induction v using Json.induction_of_mem with
  | scalar v isScalar =>
      refine ⟨?_, fun named equal => absurd equal (isScalar.2 named)⟩
      intro w _ images
      rw [value_of_isScalar isScalar]
      cases images _ _ .here with
      | scalar => rfl
      | @array items => exact absurd rfl (isScalar.1 items)
      | @object fields => exact absurd rfl (isScalar.2 fields)
  | array items induction =>
      exact ⟨settles_array fun item member => (induction item member).1, nofun⟩
  | object fields induction =>
      constructor
      · apply settles_object fun entry member => (induction entry member).1
        intro key named member
        exact (induction _ member).2 named rfl
      · intro named equal entry held
        cases equal
        exact (induction entry held).1

end Images

/-- Respelling is refused exactly if two names in scope have one spelling.
Otherwise the outcome is the one that has at every place in scope the image of
what the options have there. -/
theorem respelt_exactly_in_scope (options : Fields Binary)
    (keyed : Json.Keyed (.object options)) :
    ((∃ fault, Normalize.fields options = .error fault) ↔ Collides options) ∧
      ∀ out, Normalize.fields options = .ok out ↔
        ¬ Collides options ∧
          ∀ v w, Beside (.object options) (.object out) v w → Image v w := by
  have apart := distinct_iff_not_collides keyed
  constructor
  · constructor
    · rintro ⟨fault, refused⟩
      by_contra free
      have taken := fields_eq_ok_iff.2 ⟨apart.2 free, rfl⟩
      cases taken.symm.trans refused
    · intro collides
      cases respelt : Normalize.fields options with
      | error fault => exact ⟨fault, rfl⟩
      | ok out => exact absurd collides (apart.1 (fields_eq_ok_iff.1 respelt).1)
  · intro out
    rw [fields_eq_ok_iff, apart]
    apply and_congr_right
    intro free
    have distinct := apart.2 free
    constructor
    · rintro rfl v w beside
      obtain ⟨scope, rfl⟩ := Beside.eq_value keyed distinct beside
      exact image_value (scope.distinct distinct)
    · intro images
      exact Json.object.inj
        (settles (.object options) (.object out) keyed images)

def clashing : Fields Binary :=
  [("tools", .array [.object [("properties", .object [
    ("default", .object [("max_length", .null), ("maxLength", .null)])])]])]

def sparing : Fields Binary :=
  [("tools",
    .array
      [.object
        [("default", .object [("max_length", .null), ("maxLength", .null)])]])]

theorem clash_refused_below_property_only :
    (∃ fault, Normalize.fields clashing = .error fault) ∧
      Normalize.fields sparing = .ok sparing ∧
      ∀ v w, Beside (.object sparing) (.object sparing) v w → Image v w := by
  have keyed : Json.Keyed (.object clashing) :=
    Document.keyed_of_toValue
      (.object
        [("tools",
          .array
            [.object
              [("properties", .object
                [ ("default", .object
                  [("max_length", .null), ("maxLength", .null)])])]])]) rfl
  have keyed' : Json.Keyed (.object sparing) :=
    Document.keyed_of_toValue (.object [("tools", .array [.object [
      ("default", .object [("max_length", .null), ("maxLength", .null)])]])])
        rfl
  have scope : Scope (.object clashing)
      (.object [("max_length", .null), ("maxLength", .null)]) := by
    apply Scope.field List.mem_cons_self (by decide) (by decide)
    apply Scope.item List.mem_cons_self
    apply Scope.property List.mem_cons_self (by decide) List.mem_cons_self
    exact .here
  have collides : Collides clashing :=
    ⟨_, scope, utf8 "max_length", by decide, utf8 "maxLength", by decide,
      by decide, rfl⟩
  refine ⟨(respelt_exactly_in_scope clashing keyed).1.2 collides, rfl, ?_⟩
  exact (((respelt_exactly_in_scope sparing keyed').2 sparing).1 rfl).2

end Normalize

end ModelGateway
