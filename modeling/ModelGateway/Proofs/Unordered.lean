import ModelGateway.Proofs.Reordering

namespace ModelGateway

theorem find?_eq_of_perm {α : Type} {p : α → Bool} {l l' : List α}
    (moved : l.Perm l')
    (unique : ∀ a ∈ l, ∀ b ∈ l, p a = true → p b = true → a = b) :
    l.find? p = l'.find? p := by
  cases found : l.find? p with
  | none =>
      have absent := List.find?_eq_none.mp found
      exact (List.find?_eq_none.mpr fun a member =>
        absent a (moved.mem_iff.mpr member)).symm
  | some a =>
      have member := List.mem_of_find?_eq_some found
      cases found' : l'.find? p with
      | none =>
          exact absurd (List.find?_some found)
            (List.find?_eq_none.mp found' a (moved.mem_iff.mp member))
      | some b =>
          have member' := moved.mem_iff.mpr (List.mem_of_find?_eq_some found')
          rw [unique a member b member' (List.find?_some found)
            (List.find?_some found')]

theorem forall₂_replace {α : Type} {r : α → α → Prop}
    (same : ∀ a, r a a)
    {a b : α} (h : r a b) (before after : List α) :
    List.Forall₂ r (before ++ a :: after) (before ++ b :: after) := by
  induction before with
  | nil => exact .cons h (List.forall₂_same.mpr fun a _ => same a)
  | cons c rest ih => exact .cons (same c) ih

private theorem rel_filter {α : Type} {r : α → α → Prop} {p q : α → Bool}
    {x y : Option α} (h : Option.Rel r x y)
    (same : ∀ {a b}, r a b → p a = q b) :
    Option.Rel r (x.filter p) (y.filter q) := by
  cases h with
  | none => exact .none
  | @some a b related =>
      rw [Option.filter_some, Option.filter_some, same related]
      split
      · exact .some related
      · exact .none

namespace Decode

open Setting (SameEntry)

section Keys

variable {record : Record} {keys keys' : List Bytes}

theorem chosenKey?_of_perm (moved : keys.Perm keys')
    (known : ∀ key ∈ keys, ∃ f ∈ record.fields, chosenKey? f keys = some key)
    {f : Field} (member : f ∈ record.fields) :
    chosenKey? f keys' = chosenKey? f keys := by
  have unique : ∀ a ∈ keys, ∀ b ∈ keys, Key.foldEq f.name a = true →
      Key.foldEq f.name b = true →
      a = b := by
    have own : ∀ a ∈ keys, Key.foldEq f.name a = true →
        chosenKey? f keys = some a := by
      intro a inside folds
      obtain ⟨g, member', chosen⟩ := known a inside
      have same := Record.field_unique_of_foldEq member' member
        (foldEq_of_chosenKey? chosen) folds
      exact same ▸ chosen
    intro a inA b inB foldsA foldsB
    exact Option.some.inj ((own a inA foldsA).symm.trans (own b inB foldsB))
  unfold chosenKey?
  rw [← find?_eq_of_perm moved unique, moved.contains_eq]

theorem known_of_perm (moved : keys.Perm keys')
    (known : ∀ key ∈ keys, ∃ f ∈ record.fields, chosenKey? f keys = some key) :
    ∀ key ∈ keys', ∃ f ∈ record.fields, chosenKey? f keys' = some key := by
  intro key inside
  obtain ⟨f, member, chosen⟩ := known key (moved.mem_iff.mpr inside)
  exact ⟨f, member, (chosenKey?_of_perm moved known member).trans chosen⟩

private theorem fieldOf?_of_perm (moved : keys.Perm keys')
    (known : ∀ key ∈ keys, ∃ f ∈ record.fields, chosenKey? f keys = some key)
    (key : Bytes) :
    fieldOf? record keys' key = fieldOf? record keys key := by
  cases addressed : fieldOf? record keys key with
  | some f =>
      obtain ⟨member, chosen⟩ := of_fieldOf? addressed
      exact fieldOf?_eq_some member
        ((chosenKey?_of_perm moved known member).trans chosen)
  | none =>
      refine List.find?_eq_none.mpr fun f member => ?_
      rw [chosenKey?_of_perm moved known member]
      exact List.find?_eq_none.mp addressed f member

private theorem agree_checkKeys_of_perm {path : Bytes}
    (moved : keys.Perm keys') :
    Agree Eq (checkKeys path record keys) (checkKeys path record keys') := by
  cases checked : checkKeys path record keys with
  | ok _ =>
      have known := known_of_perm moved (checkKeys_eq_ok_iff.mp checked)
      rw [checkKeys_eq_ok_iff.mpr known]
      trivial
  | error _ =>
      cases checked' : checkKeys path record keys' with
      | error _ => trivial
      | ok _ =>
          have known :=
            known_of_perm moved.symm (checkKeys_eq_ok_iff.mp checked')
          rw [checkKeys_eq_ok_iff.mpr known] at checked
          cases checked

end Keys

private theorem find?_of_sameEntry {settings settings' : List (Bytes × Setting)}
    (same : List.Forall₂ SameEntry settings settings') (name : Bytes) :
    Option.Rel SameEntry (settings.find? (·.1 == name))
      (settings'.find? (·.1 == name)) := by
  induction same with
  | nil => exact .none
  | @cons a b _ _ first _ ih =>
      by_cases named : a.1 = name
      · have named' : b.1 = name := first.1 ▸ named
        simpa [named, named'] using Option.Rel.some first
      · have named' : b.1 ≠ name := first.1 ▸ named
        simpa [named, named'] using ih

private theorem kept_of_sameEntry {settings settings' : List (Bytes × Setting)}
    (same : List.Forall₂ SameEntry settings settings') (f : Field) :
    Option.Rel SameEntry (kept settings f) (kept settings' f) := by
  apply rel_filter (find?_of_sameEntry same f.name)
  intro a b entry
  rw [entry.2.isEmpty_eq]

private theorem arrange_of_sameEntry {record : Record}
    {settings settings' : List (Bytes × Setting)}
    (same : List.Forall₂ SameEntry settings settings') :
    Setting.Reordered (.record (arrange record settings))
      (.record (arrange record settings')) := by
  apply Setting.Reordered.record
  rw [arrange_eq_filterMap, arrange_eq_filterMap]
  refine List.rel_filterMap (R := Eq) ?_ (List.forall₂_same.mpr fun _ _ => rfl)
  rintro f _ rfl
  exact kept_of_sameEntry same f

def byteOf : Setting → UInt8
  | .integer n => n.toNat.toUInt8
  | _ => 0

private theorem byteOf_eq_of_reordered {x y : Setting}
    (h : Setting.Reordered x y) : byteOf x = byteOf y := by
  induction h with
  | trans _ _ first second => exact first.trans second
  | _ => rfl

section Records

variable {path : Bytes} {record : Record} {fields fields' : Fields Binary}
  {settings settings' : List (Bytes × Setting)}

private theorem arrange_of_perm (moved : fields.Perm fields')
    (nodup : (Fields.keys fields).Nodup)
    (known : ∀ key ∈ Fields.keys fields, ∃ f ∈ record.fields,
      chosenKey? f (Fields.keys fields) = some key)
    (decoded : decodeFields path record (Fields.keys fields) fields =
      .ok settings)
    (decoded' : decodeFields path record (Fields.keys fields') fields' =
      .ok settings') :
    arrange record settings = arrange record settings' := by
  rw [arrange_eq_filterMap, arrange_eq_filterMap]
  apply List.filterMap_congr
  intro f member
  have chosen := chosenKey?_of_perm (moved.map Prod.fst) known member
  have looked := find?_of_decodeFields decoded member
  have looked' := find?_of_decodeFields decoded' member
  have taken : (fields'.find? fun field =>
      chosenKey? f (Fields.keys fields') == some field.1) =
      fields.find? fun field => chosenKey? f (Fields.keys fields) ==
        some field.1 := by
    rw [show chosenKey? f (Fields.keys fields') =
      chosenKey? f (Fields.keys fields) from chosen]
    refine (find?_eq_of_perm moved ?_).symm
    intro a inA b inB keyA keyB
    simp only [beq_iff_eq] at keyA keyB
    exact List.inj_on_of_nodup_map nodup inA inB
      (Option.some.inj (keyA.symm.trans keyB))
  rw [taken, looked] at looked'
  have same :
      settings.find? (·.1 == f.name) = settings'.find? (·.1 == f.name) := by
    cases found : settings.find? (·.1 == f.name) with
    | none =>
        rw [found] at looked'
        exact (Option.map_eq_none_iff.mp looked'.symm).symm
    | some a =>
        rw [found] at looked'
        obtain ⟨b, found', held⟩ := Option.map_eq_some_iff.mp looked'.symm
        have named : a.1 = f.name := by simpa using List.find?_some found
        have named' : b.1 = f.name := by simpa using List.find?_some found'
        rw [found', Prod.ext (named.trans named'.symm)
          (Except.ok.inj held).symm]
  unfold kept
  rw [same]

private theorem agree_decodeFields_of_perm (moved : fields.Perm fields')
    (nodup : (Fields.keys fields).Nodup)
    (known : ∀ key ∈ Fields.keys fields, ∃ f ∈ record.fields,
      chosenKey? f (Fields.keys fields) = some key) :
    Agree (fun settings settings' =>
      arrange record settings = arrange record settings')
      (decodeFields path record (Fields.keys fields) fields)
      (decodeFields path record (Fields.keys fields') fields') := by
  have collected :
      Agree List.Perm (decodeFields path record (Fields.keys fields) fields)
      (decodeFields path record (Fields.keys fields') fields') := by
    have addressed := fieldOf?_of_perm (moved.map Prod.fst) known
    rw [decodeFields_eq_collect, decodeFields_eq_collect]
    simp only [Fields.keys] at addressed ⊢
    simp only [addressed]
    exact Checked.agree_collect_of_perm (moved.filterMap _)
  obtain ⟨_, _, refused, refused'⟩ | ⟨_, _, decoded, decoded', _⟩ :=
    collected.elim
  · rw [refused, refused']
    trivial
  · rw [decoded, decoded']
    exact arrange_of_perm moved nodup known decoded decoded'

private theorem agree_record_of_perm (moved : fields.Perm fields')
    (nodup : (Fields.keys fields).Nodup) :
    Agree Setting.Reordered (decode path (.record record) (.object fields))
      (decode path (.record record) (.object fields')) := by
  have checks : Agree Eq (checkKeys path record (Fields.keys fields))
      (checkKeys path record (Fields.keys fields')) :=
        agree_checkKeys_of_perm (moved.map Prod.fst)
  rw [decode_fields, decode_fields]
  obtain ⟨_, _, refused, refused'⟩ | ⟨_, _, checked, checked', _⟩ := checks.elim
  · -- names that address nothing are refused whatever the fields hold
    rw [refused, refused']
    cases decodeFields path record (Fields.keys fields) fields <;>
      cases decodeFields path record (Fields.keys fields') fields' <;> trivial
  · have known := checkKeys_eq_ok_iff.mp checked
    refine Checked.agree_both ?_ (agree_decodeFields_of_perm moved nodup known)
      checks
    intro settings _ settings' _ same _
    rw [same]
    exact .refl _

end Records

theorem listOf_reordered {s : Shape} {items items' : List Setting}
    (same : List.Forall₂ Setting.Reordered items items') :
    Setting.Reordered (s.listOf items) (s.listOf items') := by
  unfold Shape.listOf
  split
  · have bytes : items.map byteOf = items'.map byteOf := by
      rw [← List.forall₂_eq_eq_eq]
      exact List.rel_map (fun _ _ h => byteOf_eq_of_reordered h) same
    exact congrArg Setting.bytes bytes ▸ .refl (.bytes (items.map byteOf))
  · exact .list same

section Layers

def SameLayers :
    Option (List (Bytes × Setting)) → Option (List (Bytes × Setting)) → Prop :=
  Option.Rel fun entries entries' =>
    Setting.Reordered (.table entries) (.table entries')

theorem SameLayers.refl (older : Option (List (Bytes × Setting))) :
    SameLayers older older := by
  cases older with
  | none => exact .none
  | some entries => exact .some (.refl _)

theorem SameLayers.trans {first second third : Option (List (Bytes × Setting))}
    (h : SameLayers first second) (h' : SameLayers second third) :
    SameLayers first third := by
  cases h with
  | none => exact h'
  | some here =>
      cases h' with
      | some there => exact .some (.trans here there)

theorem SameLayers.getD {older older' : Option (List (Bytes × Setting))}
    (h : SameLayers older older') :
    Setting.Reordered (.table (older.getD [])) (.table (older'.getD [])) := by
  cases h with
  | none => exact .refl _
  | some here => exact here

theorem SameLayers.tableOf {older older' : Option (List (Bytes × Setting))}
    (h : SameLayers older older') :
    Setting.Reordered (tableOf older) (tableOf older') := by
  cases h with
  | none => exact .refl _
  | some here => exact here

mutual

theorem agree_decodeLayer_older {older older' : Option (List (Bytes × Setting))}
    (path : Bytes) (s : Shape) (v : Value)
    (same : SameLayers older older') :
    Agree SameLayers (decodeLayer path s older v)
      (decodeLayer path s older' v) := by
  match v with
  | .null => exact same
  | .bool b => trivial
  | .number x => trivial
  | .string t => trivial
  | .object fields =>
      simp only [decodeLayer]
      refine Agree.map ?_
        (Agree.refl (fun _ => rfl) (decodeEntries path s fields))
      rintro newer _ rfl
      exact .some (Setting.Reordered.overlay same.getD (.refl _))
  | .array [] => exact .some same.getD
  | .array (item :: rest) =>
      simp only [decodeLayer]
      refine Agree.bind (r := SameLayers) ?_
        (agree_decodeLayer_older (path.item 0) s item same)
      intro entries entries' same
      exact agree_decodeLayers_older path s 1 rest same

theorem agree_decodeLayers_older
    {older older' : Option (List (Bytes × Setting))} (path : Bytes) (s : Shape)
    (i : Nat) (items : List Value) (same : SameLayers older older') :
    Agree SameLayers (decodeLayers path s older i items)
      (decodeLayers path s older' i items) := by
  match items with
  | [] => exact same
  | item :: rest =>
      simp only [decodeLayers]
      refine Agree.bind (r := SameLayers) ?_
        (agree_decodeLayer_older (path.item i) s item same)
      intro entries entries' same
      exact agree_decodeLayers_older path s (i + 1) rest same

end

end Layers

/-- Whatever option two values meet, both are refused, or both give the same
setting up to the order of entries. -/
structure TakenAlike (v w : Value) : Prop where
  setting : ∀ path s, Agree Setting.Reordered (decode path s v)
    (decode path s w)
  layer : ∀ path s {older older'}, SameLayers older older' →
    Agree SameLayers (decodeLayer path s older v) (decodeLayer path s older' w)

namespace TakenAlike

theorem refl (v : Value) : TakenAlike v v where
  setting path s := Agree.refl .refl (decode path s v)
  layer path s _ _ same := agree_decodeLayer_older path s v same

theorem trans {u v w : Value} (h : TakenAlike u v) (h' : TakenAlike v w) :
    TakenAlike u w where
  setting path s := Agree.trans .trans (h.setting path s) (h'.setting path s)
  layer path s _ older' same :=
    Agree.trans .trans (h.layer path s same) (h'.layer path s (.refl older'))

section Objects

variable {fields fields' : Fields Binary}

theorem of_object
    (reordered : Value.Reordered (.object fields) (.object fields'))
    (empty : fields.isEmpty = fields'.isEmpty)
    (entries : ∀ path s,
      Agree (fun entries entries' =>
          Setting.Reordered (.table entries) (.table entries'))
        (decodeEntries path s fields) (decodeEntries path s fields'))
    (record : ∀ path record, Agree Setting.Reordered
      (decode path (.record record) (.object fields))
      (decode path (.record record) (.object fields'))) :
    TakenAlike (.object fields) (.object fields') := by
  constructor
  case layer =>
    intro path s older older' same
    simp only [decodeLayer]
    refine Agree.map ?_ (entries path s)
    intro newer newer' newest
    exact .some (Setting.Reordered.overlay same.getD newest)
  intro path s
  -- On the shape. Only tables and records look inside an object; the others
  -- pass it on whole or refuse it for what it is.
  induction s generalizing path with
  | optional s ih =>
      rw [decode_optional (by simp), decode_optional (by simp)]
      exact Agree.map .present (ih path)
  | list s ih =>
      cases single : fields.isEmpty with
      | true =>
          have first : fields = [] := by simpa using single
          have second : fields' = [] := by simpa [single] using empty
          rw [first, second]
          exact Agree.refl .refl _
      | false =>
          have takes : s.takesSingle (.object fields) = true := by
            simp [Shape.takesSingle, single]
          have takes' : s.takesSingle (.object fields') = true := by
            simp [Shape.takesSingle, ← empty, single]
          rw [decode_single (by simp) takes, decode_single (by simp) takes']
          refine Agree.map ?_ (ih (path.item 0))
          intro x y same
          exact listOf_reordered (.cons same .nil)
  | table s _ =>
      rw [decode_entries, decode_entries]
      exact Agree.map (fun same => same) (entries path s)
  | record kind => exact record path kind
  | any =>
      rw [decode_any (by simp), decode_any (by simp)]
      exact .free reordered
  | bool => trivial
  | text => trivial
  | integer => trivial
  | float => trivial
  | callback => trivial

private theorem of_entries_perm (moved : fields.Perm fields')
    (nodup : (Fields.keys fields).Nodup) :
    TakenAlike (.object fields) (.object fields') := by
  have movedKeys : (Fields.keys fields).Perm (Fields.keys fields') :=
    moved.map Prod.fst
  apply of_object (.entries moved)
  · rw [Bool.eq_iff_iff, List.isEmpty_iff, List.isEmpty_iff]
    constructor
    · rintro rfl
      exact moved.symm.eq_nil
    · rintro rfl
      exact moved.eq_nil
  · intro path s
    rw [decodeEntries_eq_collect, decodeEntries_eq_collect]
    exact Agree.mono .entries (Checked.agree_collect_of_perm (moved.map _))
  · intro path record
    exact agree_record_of_perm moved nodup

private theorem of_field (before after : Fields Binary) (key : Bytes)
    {v w : Value} (same : TakenAlike v w) (reordered : Value.Reordered v w) :
    TakenAlike (.object (before ++ (key, v) :: after))
      (.object (before ++ (key, w) :: after)) := by
  apply of_object (.field before after reordered)
  · cases before <;> rfl
  · intro path s
    rw [decodeEntries_eq_collect, decodeEntries_eq_collect]
    refine Agree.mono Setting.Reordered.table (Checked.agree_collect ?_)
    simp only [List.map_append, List.map_cons]
    apply forall₂_replace (Agree.refl SameEntry.refl)
    exact Agree.map (fun inside => ⟨rfl, inside⟩) (same.setting _ s)
  · intro path record
    have keys : Fields.keys (before ++ (key, w) :: after) =
        Fields.keys (before ++ (key, v) :: after) := by
      simp [Fields.keys]
    rw [decode_fields, decode_fields, keys]
    refine Checked.agree_both (fun settings _ => arrange_of_sameEntry settings)
      ?_
      (Agree.refl (fun _ => rfl) (checkKeys path record _))
    rw [decodeFields_eq_collect, decodeFields_eq_collect]
    apply Checked.agree_collect
    simp only [List.filterMap_append, List.filterMap_cons]
    cases fieldOf? record _ key with
    | none => exact List.forall₂_same.mpr fun x _ => Agree.refl SameEntry.refl x
    | some f =>
        apply forall₂_replace (Agree.refl SameEntry.refl)
        exact Agree.map (fun inside => ⟨rfl, inside⟩) (same.setting _ f.shape)

end Objects

theorem decodeLayer_array (path : Bytes) (s : Shape)
    (older : Option (List (Bytes × Setting))) {items : List Value}
    (nonempty : items ≠ []) :
    decodeLayer path s older (.array items) =
      decodeLayers path s older 0 items := by
  cases items with
  | nil => exact absurd rfl nonempty
  | cons item rest => simp only [decodeLayer, decodeLayers]

private theorem agree_decodeLayers (before after : List Value) {v w : Value}
    (same : TakenAlike v w) (path : Bytes) (s : Shape)
    (i : Nat) {older older' : Option (List (Bytes × Setting))}
    (layers : SameLayers older older') :
    Agree SameLayers (decodeLayers path s older i (before ++ v :: after))
      (decodeLayers path s older' i (before ++ w :: after)) := by
  induction before generalizing i older older' with
  | nil =>
      simp only [List.nil_append, decodeLayers]
      refine Agree.bind (r := SameLayers) ?_ (same.layer (path.item i) s layers)
      intro entries entries' layers
      exact agree_decodeLayers_older path s (i + 1) after layers
  | cons item rest ih =>
      simp only [List.cons_append, decodeLayers]
      refine Agree.bind (r := SameLayers) ?_
        (agree_decodeLayer_older (path.item i) s item layers)
      intro entries entries' layers
      exact ih (i + 1) layers

private theorem of_item (before after : List Value) {v w : Value}
    (same : TakenAlike v w) (reordered : Value.Reordered v w) :
    TakenAlike (.array (before ++ v :: after))
      (.array (before ++ w :: after)) := by
  have layer (path : Bytes) (s : Shape) {older older'}
      (layers : SameLayers older older') :
        Agree SameLayers
          (decodeLayer path s older (.array (before ++ v :: after)))
          (decodeLayer path s older' (.array (before ++ w :: after))) := by
    rw [decodeLayer_array path s older (by simp),
      decodeLayer_array path s older' (by simp)]
    exact agree_decodeLayers before after same path s 0 layers
  refine ⟨?_, fun path s _ _ layers => layer path s layers⟩
  intro path s
  induction s generalizing path with
  | optional s ih =>
      rw [decode_optional (by simp), decode_optional (by simp)]
      exact Agree.map .present (ih path)
  | list s _ =>
      rw [decode_items, decode_items, decodeItems_eq_collect,
        decodeItems_eq_collect]
      refine Agree.map listOf_reordered (Checked.agree_collect ?_)
      simp only [List.zipIdx_append, List.zipIdx_cons, List.map_append,
        List.map_cons]
      exact forall₂_replace (Agree.refl .refl) (same.setting _ s) _ _
  | table s _ =>
      rw [decode_table (by simp), decode_table (by simp)]
      exact Agree.map SameLayers.tableOf (layer path s .none)
  | any =>
      rw [decode_any (by simp), decode_any (by simp)]
      exact .free (.item before after reordered)
  | record kind => trivial
  | bool => trivial
  | text => trivial
  | integer => trivial
  | float => trivial
  | callback => trivial

private theorem of_reordered {v w : Value} (h : Value.Reordered v w)
    (keyed : v.Keyed) : TakenAlike v w := by
  induction h with
  | refl v => exact .refl v
  | trans first _ ih ih' =>
      exact (ih keyed).trans (ih' (first.keyed_iff.mp keyed))
  | entries moved => exact of_entries_perm moved keyed.1
  | @field before after key v w inside ih =>
      have below := (Json.keyed_object_iff.mp keyed).2 (key, v) (by simp)
      exact of_field before after key (ih below) inside
  | @item before after v w inside ih =>
      have below := Json.keyed_array_iff.mp keyed v (by simp)
      exact of_item before after (ih below) inside

end TakenAlike

end Decode

private theorem Normalize.agree_of_reordered {options options' : Fields Binary}
    (reordered : Value.Reordered (.object options) (.object options')) :
    Agree (fun out out' => Value.Reordered (.object out) (.object out'))
      (Normalize.fields options) (Normalize.fields options') := by
  have distinct := reordered.distinct_iff .ordinary
  cases first : Normalize.fields options with
  | ok out =>
      obtain ⟨apart, rfl⟩ := Normalize.fields_eq_ok_iff.mp first
      rw [Normalize.fields_eq_ok_iff.mpr ⟨distinct.mp apart, rfl⟩]
      exact reordered.respell .ordinary
  | error e =>
      cases second : Normalize.fields options' with
      | error e' => trivial
      | ok out =>
          have apart := distinct.mpr (Normalize.fields_eq_ok_iff.mp second).1
          rw [Normalize.fields_eq_ok_iff.mpr ⟨apart, rfl⟩] at first
          cases first

namespace GenerationConfig

/-- The order of entries changes neither whether options are taken nor what they
are taken for; it may be another one again when the respelt options are set. -/
theorem entry_order_irrelevant {options options' : Fields Binary}
    (keyed : Json.Keyed (.object options))
    (reordered : Value.Reordered (.object options) (.object options')) :
    Agree (fun out out' => Value.Reordered (.object out) (.object out'))
        (Normalize.fields options) (Normalize.fields options') ∧
      (∀ out out', Normalize.fields options = .ok out →
        Value.Reordered (.object out) (.object out') →
        Agree Setting.Reordered
          (Decode.decode [] (.record .generation) (.object out))
          (Decode.decode [] (.record .generation) (.object out'))) ∧
      Agree (Option.Rel Setting.Reordered)
        (GenerationConfig.decode options)
        (GenerationConfig.decode options') := by
  have respelt := Normalize.agree_of_reordered reordered
  have set : ∀ out out', Normalize.fields options = .ok out →
      Value.Reordered (.object out) (.object out') →
        Agree Setting.Reordered
          (Decode.decode [] (.record .generation) (.object out))
          (Decode.decode [] (.record .generation) (.object out')) := by
    intro out out' normalized moved
    obtain ⟨distinct, rfl⟩ := Normalize.fields_eq_ok_iff.mp normalized
    have keyed := Respell.keyed_value .ordinary (.object options) distinct keyed
    exact (Decode.TakenAlike.of_reordered moved keyed).setting []
      (.record .generation)
  refine ⟨respelt, set, ?_⟩
  have empty : options.isEmpty = options'.isEmpty := by
    rw [Bool.eq_iff_iff, List.isEmpty_iff, List.isEmpty_iff]
    simpa using reordered.eq_empty_iff
  unfold GenerationConfig.decode
  rw [← empty]
  split
  · exact .none
  · obtain ⟨_, _, refused, refused'⟩ | ⟨out, out', first, second, moved⟩ :=
      respelt.elim
    · rw [refused, refused']
      trivial
    · rw [first, second]
      dsimp only
      obtain ⟨_, _, refused, refused'⟩ | ⟨_, _, taken, taken', same⟩ :=
        (set out out' first moved).elim
      · rw [refused, refused']
        trivial
      · rw [taken, taken']
        exact .some same

def labelledOptions : Fields Binary :=
  [("labels", .object [("team", .string "a"), ("stage", .string "b")]),
    ("cached_content", .string "c")]

def shuffledOptions : Fields Binary :=
  [("cached_content", .string "c"),
    ("labels", .object [("stage", .string "b"), ("team", .string "a")])]

theorem shuffled_labels_taken_alike :
    ∃ config config', GenerationConfig.decode labelledOptions =
      .ok (some config) ∧
      GenerationConfig.decode shuffledOptions = .ok (some config') ∧
        Setting.Reordered config config' := by
  have keyed : Json.Keyed (.object labelledOptions) :=
    Document.keyed_of_toValue (.object [
      ("labels", .object [("team", .string "a"), ("stage", .string "b")]),
      ("cached_content", .string "c")]) rfl
  have reordered :
      Value.Reordered (.object labelledOptions) (.object shuffledOptions) :=
    .trans (.field [] _ (.entries (.swap _ _ _))) (.entries (.swap _ _ _))
  obtain ⟨_, _, agreed⟩ := entry_order_irrelevant keyed reordered
  obtain ⟨_, _, impossible, _⟩ | ⟨_, _, taken, taken', same⟩ := agreed.elim
  · cases impossible
  · cases same with
    | some same => exact ⟨_, _, taken, taken', same⟩
    | none => cases taken

end GenerationConfig

end ModelGateway
