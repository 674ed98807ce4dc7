import ModelGateway.Proofs.Meaning
import ModelGateway.Proofs.Passage

/-!
Objects are unordered. Two values are the same up to the order of entries if
entries can be moved about in their objects, at any depth, until one is the
other; two settings, likewise, up to the order of the entries of tables and of
objects that are kept as they came.
-/

namespace ModelGateway

/-- The same value with the entries of its objects in another order. -/
inductive Value.Reordered : Value → Value → Prop
  | refl (v : Value) : Reordered v v
  | trans {u v w : Value} (first : Reordered u v) (second : Reordered v w) :
      Reordered u w
  | entries {fields fields' : Fields Binary} (moved : fields.Perm fields') :
      Reordered (.object fields) (.object fields')
  | field (before after : Fields Binary) {key : Bytes} {v w : Value}
      (inside : Reordered v w) :
      Reordered (.object (before ++ (key, v) :: after))
        (.object (before ++ (key, w) :: after))
  | item (before after : List Value) {v w : Value} (inside : Reordered v w) :
      Reordered (.array (before ++ v :: after)) (.array (before ++ w :: after))

/-- The same setting with the entries of tables and objects in another order. -/
inductive Setting.Reordered : Setting → Setting → Prop
  | refl (x : Setting) : Reordered x x
  | trans {x y z : Setting} (first : Reordered x y) (second : Reordered y z) :
      Reordered x z
  | free {v w : Value} (inside : Value.Reordered v w) :
      Reordered (.free v) (.free w)
  | present {x y : Setting} (inside : Reordered x y) :
      Reordered (.present x) (.present y)
  | item (before after : List Setting) {x y : Setting}
      (inside : Reordered x y) :
      Reordered (.list (before ++ x :: after)) (.list (before ++ y :: after))
  | entries {entries entries' : List (Bytes × Setting)}
      (moved : entries.Perm entries') :
      Reordered (.table entries) (.table entries')
  | entry (before after : List (Bytes × Setting)) {name : Bytes} {x y : Setting}
      (inside : Reordered x y) :
      Reordered (.table (before ++ (name, x) :: after))
        (.table (before ++ (name, y) :: after))
  | field (before after : List (Bytes × Setting)) {name : Bytes} {x y : Setting}
      (inside : Reordered x y) :
      Reordered (.record (before ++ (name, x) :: after))
        (.record (before ++ (name, y) :: after))

namespace Json

variable {ν : Type}

mutual

/-- No object has two entries of one name. -/
def Keyed : Json ν → Prop
  | .array items => KeyedItems items
  | .object fields => (Fields.keys fields).Nodup ∧ KeyedFields fields
  | _ => True

def KeyedItems : List (Json ν) → Prop
  | [] => True
  | item :: rest => Keyed item ∧ KeyedItems rest

def KeyedFields : List (Bytes × Json ν) → Prop
  | [] => True
  | (_, value) :: rest => Keyed value ∧ KeyedFields rest

end

private theorem keyedItems_iff {items : List (Json ν)} :
    KeyedItems items ↔ ∀ item ∈ items, Keyed item := by
  induction items with
  | nil => simp [KeyedItems]
  | cons item rest ih => simp [KeyedItems, ih]

private theorem keyedFields_iff {fields : Fields ν} :
    KeyedFields fields ↔ ∀ entry ∈ fields, Keyed entry.2 := by
  induction fields with
  | nil => simp [KeyedFields]
  | cons entry rest ih => simp [KeyedFields, ih]

theorem keyed_array_iff {items : List (Json ν)} :
    Keyed (.array items) ↔ ∀ item ∈ items, Keyed item :=
  keyedItems_iff

theorem keyed_object_iff {fields : Fields ν} :
    Keyed (.object fields) ↔ (Fields.keys fields).Nodup ∧
      ∀ entry ∈ fields, Keyed entry.2 := by
  simp only [Keyed, keyedFields_iff]

end Json

namespace Document

mutual

theorem keyed_of_toValue (d : Document) :
    ∀ {v : Value}, toValue d = .ok v → v.Keyed := by
  intro v read
  cases d with
  | null =>
      cases read
      trivial
  | bool b =>
      cases read
      trivial
  | number n =>
      simp only [toValue] at read
      split at read
      · cases read
        trivial
      · cases read
  | string s =>
      cases read
      trivial
  | array items =>
      simp only [toValue, map_eq_ok_iff] at read
      obtain ⟨values, read, rfl⟩ := read
      exact Json.keyed_array_iff.mpr (keyed_of_valueItems items read)
  | object fields =>
      simp only [toValue, map_eq_ok_iff] at read
      obtain ⟨values, read, rfl⟩ := read
      refine Json.keyed_object_iff.mpr ⟨Fields.keys_lastOfEach_nodup values, ?_⟩
      intro entry member
      exact keyed_of_valueFields fields read entry
        ((Fields.lastOfEach_sublist values).subset member)

theorem keyed_of_valueItems (items : List Document) :
    ∀ {values : List Value}, valueItems items = .ok values →
      ∀ v ∈ values, v.Keyed := by
  intro values read
  cases items with
  | nil =>
      cases read
      simp
  | cons item rest =>
      simp only [valueItems, bind_eq_ok_iff] at read
      obtain ⟨first, readFirst, others, readOthers, done⟩ := read
      cases done
      exact List.forall_mem_cons.mpr
        ⟨keyed_of_toValue item readFirst, keyed_of_valueItems rest readOthers⟩

theorem keyed_of_valueFields (fields : Fields Bytes) :
    ∀ {values : Fields Binary}, valueFields fields = .ok values →
      ∀ entry ∈ values, entry.2.Keyed := by
  intro values read
  cases fields with
  | nil =>
      cases read
      simp
  | cons field rest =>
      obtain ⟨key, value⟩ := field
      simp only [valueFields, bind_eq_ok_iff] at read
      obtain ⟨first, readFirst, others, readOthers, done⟩ := read
      cases done
      exact List.forall_mem_cons.mpr
        ⟨keyed_of_toValue value readFirst, keyed_of_valueFields rest readOthers⟩

end

end Document

namespace Value.Reordered

variable {v w : Value}

theorem keyed_iff (h : Reordered v w) : v.Keyed ↔ w.Keyed := by
  induction h with
  | refl => rfl
  | trans _ _ first second => exact first.trans second
  | entries moved =>
      simp only [Json.keyed_object_iff]
      exact and_congr (moved.map Prod.fst).nodup_iff (by simp [moved.mem_iff])
  | field before after _ ih =>
      simp only [Json.keyed_object_iff, Fields.keys, List.map_append,
        List.map_cons, List.forall_mem_append, List.forall_mem_cons, ih]
  | item before after _ ih =>
      simp only [Json.keyed_array_iff, List.forall_mem_append,
        List.forall_mem_cons, ih]

theorem eq_empty_iff (h : Reordered v w) : v = .object [] ↔ w = .object [] := by
  induction h with
  | refl => rfl
  | trans _ _ first second => exact first.trans second
  | entries moved =>
      simp only [Json.object.injEq]
      exact ⟨fun empty => (empty ▸ moved).symm.eq_nil, fun empty =>
        (empty ▸ moved).eq_nil⟩
  | field before after => simp
  | item before after => simp

theorem respell (h : Reordered v w) (role : Key.Role) :
    Reordered (Respell.value role v) (Respell.value role w) := by
  induction h generalizing role with
  | refl => exact .refl _
  | trans _ _ first second => exact .trans (first role) (second role)
  | entries moved =>
      simp only [Respell.value_object]
      exact .entries (moved.map _)
  | @field before after key v w _ ih =>
      simp only [Respell.value_object, List.map_append, List.map_cons]
      exact .field _ _ (ih (role.below key))
  | item before after _ ih =>
      simp only [Respell.value_array, List.map_append, List.map_cons]
      exact .item _ _ (ih role.item)

theorem distinct_iff (h : Reordered v w) (role : Key.Role) :
    Respell.Distinct role v ↔ Respell.Distinct role w := by
  induction h generalizing role with
  | refl => rfl
  | trans _ _ first second => exact (first role).trans (second role)
  | entries moved =>
      simp only [Respell.Distinct, Respell.distinctFields_iff]
      refine and_congr (imp_congr_right fun _ => ?_) (by simp [moved.mem_iff])
      exact (moved.map _).nodup_iff
  | @field before after key v w _ ih =>
      simp only [Respell.Distinct, Respell.distinctFields_iff, List.map_append,
        List.map_cons, List.forall_mem_append, List.forall_mem_cons,
        ih (role.below key)]
  | item before after _ ih =>
      simp only [Respell.Distinct, Respell.distinctItems_iff,
        List.forall_mem_append, List.forall_mem_cons, ih role.item]

end Value.Reordered

namespace Respell

mutual

theorem keyed_value (role : Key.Role) (v : Value) :
    Distinct role v → v.Keyed → (value role v).Keyed := by
  intro distinct keyed
  cases v with
  | null => trivial
  | bool b => trivial
  | number x => trivial
  | string s => trivial
  | array list => exact keyedItems_items role.item list distinct keyed
  | object entries =>
      refine ⟨?_, keyedFields_fields role entries distinct.2 keyed.2⟩
      rw [fields_eq_map, Fields.keys, List.map_map]
      cases role with
      | ordinary => exact distinct.1 rfl
      | verbatim => exact keyed.1
      | named => exact keyed.1

theorem keyedItems_items (role : Key.Role) (list : List Value) :
    DistinctItems role list → Json.KeyedItems list →
      Json.KeyedItems (items role list) := by
  intro distinct keyed
  cases list with
  | nil => trivial
  | cons item rest =>
      exact ⟨keyed_value role item distinct.1 keyed.1,
        keyedItems_items role rest distinct.2 keyed.2⟩

theorem keyedFields_fields (role : Key.Role) (entries : Fields Binary) :
    DistinctFields role entries → Json.KeyedFields entries →
      Json.KeyedFields (fields role entries) := by
  intro distinct keyed
  cases entries with
  | nil => trivial
  | cons entry rest =>
      obtain ⟨key, item⟩ := entry
      exact ⟨keyed_value (role.below key) item distinct.1 keyed.1,
        keyedFields_fields role rest distinct.2 keyed.2⟩

end

end Respell

namespace Setting

def SameEntry (a b : Bytes × Setting) : Prop :=
  a.1 = b.1 ∧ Reordered a.2 b.2

theorem SameEntry.refl (a : Bytes × Setting) : SameEntry a a :=
  ⟨rfl, .refl a.2⟩

namespace Reordered

variable {x y : Setting} {entries entries' : List (Bytes × Setting)}

theorem of_forall₂ {α : Type} {r : α → α → Prop} (whole : List α → Setting)
    (part : ∀ before after {a b}, r a b →
      Reordered (whole (before ++ a :: after)) (whole (before ++ b :: after)))
    {as bs : List α} (h : List.Forall₂ r as bs) (before : List α) :
    Reordered (whole (before ++ as)) (whole (before ++ bs)) := by
  induction h generalizing before with
  | nil => exact .refl _
  | @cons a b as bs first _ ih =>
      have rest := ih (before ++ [b])
      simp only [List.append_assoc, List.singleton_append] at rest
      exact .trans (part before as first) rest

theorem list {as bs : List Setting} (h : List.Forall₂ Reordered as bs) :
    Reordered (.list as) (.list bs) :=
  of_forall₂ Setting.list (fun before after _ _ inside =>
    .item before after inside) h []

theorem table (h : List.Forall₂ SameEntry entries entries') :
    Reordered (.table entries) (.table entries') := by
  refine of_forall₂ Setting.table ?_ h []
  rintro before after ⟨name, x⟩ ⟨_, y⟩ ⟨rfl, inside⟩
  exact .entry before after inside

theorem record (h : List.Forall₂ SameEntry entries entries') :
    Reordered (.record entries) (.record entries') := by
  refine of_forall₂ Setting.record ?_ h []
  rintro before after ⟨name, x⟩ ⟨_, y⟩ ⟨rfl, inside⟩
  exact .field before after inside

theorem isEmpty_eq (h : Reordered x y) : x.isEmpty = y.isEmpty := by
  induction h with
  | refl => rfl
  | trans _ _ first second => exact first.trans second
  | free => rfl
  | present => rfl
  | item => rfl
  | entries => rfl
  | entry => rfl
  | field before after _ _ => cases before <;> rfl

theorem of_table
    {motive : List (Bytes × Setting) → List (Bytes × Setting) → Prop}
    (refl : ∀ entries, motive entries entries)
    (trans : ∀ {first second third}, motive first second → motive second third →
      motive first third)
    (moved : ∀ {entries entries'}, entries.Perm entries' →
      motive entries entries')
    (entry : ∀ before after name {x y}, Reordered x y →
      motive (before ++ (name, x) :: after) (before ++ (name, y) :: after))
    (h : Reordered (.table entries) (.table entries')) :
    motive entries entries' := by
  suffices general : ∀ {x y}, Reordered x y → ∀ entries, x = .table entries →
      ∃ entries', y = .table entries' ∧ motive entries entries' by
    obtain ⟨others, same, holds⟩ := general h entries rfl
    cases same
    exact holds
  intro x y h
  induction h with
  | refl x => exact fun entries same => ⟨entries, same, refl entries⟩
  | trans _ _ first second =>
      intro entries same
      obtain ⟨middle, same, here⟩ := first entries same
      obtain ⟨last, same, there⟩ := second middle same
      exact ⟨last, same, trans here there⟩
  | entries perm =>
      rintro _ ⟨⟩
      exact ⟨_, rfl, moved perm⟩
  | entry before after inside =>
      rintro _ ⟨⟩
      exact ⟨_, rfl, entry before after _ inside⟩
  | free => exact fun _ same => nomatch same
  | present => exact fun _ same => nomatch same
  | item => exact fun _ same => nomatch same
  | field => exact fun _ same => nomatch same

private theorem keys_perm (h : Reordered (.table entries) (.table entries')) :
    (entries.map Prod.fst).Perm (entries'.map Prod.fst) := by
  refine of_table (motive := fun a b => (a.map Prod.fst).Perm (b.map Prod.fst))
    (fun _ => .refl _) .trans (fun moved => moved.map _) ?_ h
  intro before after name x y _
  simp

private theorem table_filter (h : Reordered (.table entries) (.table entries'))
    (p : Bytes → Bool) :
    Reordered (.table (entries.filter fun entry => p entry.1))
      (.table (entries'.filter fun entry => p entry.1)) := by
  refine of_table (motive := fun a b =>
    Reordered (.table (a.filter fun entry => p entry.1))
      (.table (b.filter fun entry => p entry.1)))
    (fun _ => .refl _) .trans (fun moved => .entries (moved.filter _)) ?_ h
  intro before after name x y inside
  cases kept : p name with
  | true => simpa [List.filter_cons, kept] using .entry _ _ inside
  | false => simpa [List.filter_cons, kept] using .refl _

private theorem table_append {more more' : List (Bytes × Setting)}
    (h : Reordered (.table entries) (.table entries'))
    (h' : Reordered (.table more) (.table more')) :
    Reordered (.table (entries ++ more)) (.table (entries' ++ more')) := by
  have left :
      Reordered (.table (entries ++ more)) (.table (entries' ++ more)) := by
    refine of_table (motive := fun a b =>
      Reordered (.table (a ++ more)) (.table (b ++ more)))
      (fun _ => .refl _) .trans (fun moved =>
        .entries (moved.append_right more)) ?_ h
    intro before after name x y inside
    simpa using .entry before (after ++ more) inside
  have right :
      Reordered (.table (entries' ++ more)) (.table (entries' ++ more')) := by
    refine of_table (motive := fun a b =>
      Reordered (.table (entries' ++ a)) (.table (entries' ++ b)))
      (fun _ => .refl _) .trans (fun moved =>
        .entries (moved.append_left entries')) ?_ h'
    intro before after name x y inside
    rw [← List.append_assoc, ← List.append_assoc]
    exact .entry (entries' ++ before) after inside
  exact .trans left right

theorem overlay {older older' newer newer' : List (Bytes × Setting)}
    (h : Reordered (.table older) (.table older'))
    (h' : Reordered (.table newer) (.table newer')) :
    Reordered (.table (Decode.overlay older newer))
      (.table (Decode.overlay older' newer')) := by
  unfold Decode.overlay
  have kept : (fun entry : Bytes × Setting => !newer'.any (·.1 == entry.1)) =
      fun entry => !newer.any (·.1 == entry.1) := by
    funext entry
    congr 1
    rw [Bool.eq_iff_iff, List.any_eq_true, List.any_eq_true]
    have moved := h'.keys_perm.mem_iff (a := entry.1)
    simpa [List.mem_map, and_comm] using moved.symm
  rw [kept]
  exact table_append (table_filter h fun name => !newer.any (·.1 == name)) h'

end Reordered

end Setting

end ModelGateway
