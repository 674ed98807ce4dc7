import Mathlib.Data.List.Forall2
import ModelGateway.Prompt.Request
import ModelGateway.Proofs.Checked

namespace ModelGateway

namespace Json

variable {ν : Type}

def IsScalar (v : Json ν) : Prop :=
  (∀ items, v ≠ .array items) ∧ ∀ fields, v ≠ .object fields

@[elab_as_elim]
theorem induction_of_mem {motive : Json ν → Prop}
    (scalar : ∀ v : Json ν, v.IsScalar → motive v)
    (array : ∀ items, (∀ item ∈ items, motive item) → motive (.array items))
    (object : ∀ fields, (∀ entry ∈ fields, motive entry.2) →
      motive (.object fields))
    (v : Json ν) :
    motive v := by
  match v with
  | .null => exact scalar _ ⟨nofun, nofun⟩
  | .bool b => exact scalar _ ⟨nofun, nofun⟩
  | .number n => exact scalar _ ⟨nofun, nofun⟩
  | .string s => exact scalar _ ⟨nofun, nofun⟩
  | .array items =>
      apply array
      intro item member
      exact induction_of_mem scalar array object item
  | .object fields =>
      apply object
      intro entry member
      exact induction_of_mem scalar array object entry.2
termination_by sizeOf v
decreasing_by
  · have smaller := List.sizeOf_lt_of_mem member
    simp only [Json.array.sizeOf_spec]
    omega
  · have smaller := List.sizeOf_lt_of_mem member
    obtain ⟨key, value⟩ := entry
    simp only [Prod.mk.sizeOf_spec] at smaller
    simp only [Json.object.sizeOf_spec]
    omega

end Json

namespace Fields

section Lookup

variable {name key : Bytes} {value : Document} {before after : Fields Bytes}

theorem get?_append {ν : Type} (name : Bytes) (fields more : Fields ν) :
    get? name (fields ++ more) = (get? name fields).or (get? name more) := by
  induction fields with
  | nil => rfl
  | cons field rest induction =>
      by_cases named : field.1 = name <;> simp [get?, named, induction]

theorem get?_eq_none (absent : name ∉ keys after) : get? name after = none := by
  induction after with
  | nil => rfl
  | cons field rest induction =>
      obtain ⟨other, absent⟩ := List.ne_and_not_mem_of_not_mem_cons absent
      simp [get?, other.symm, induction absent]

theorem last?_insert (name : Bytes) :
    last? name (before ++ (key, value) :: after) =
      ((last? name after).or (if key = name then some value else none)).or
        (last? name before) := by
  simp only [last?, List.reverse_append, List.reverse_cons, get?_append]
  simp [get?]

theorem last?_insert_self (last : key ∉ keys after) :
    last? key (before ++ (key, value) :: after) = some value := by
  have none_after : last? key after = none := by
    apply get?_eq_none
    simpa [keys] using last
  rw [last?_insert, none_after, if_pos rfl]
  rfl

theorem last?_insert_of_ne (other : key ≠ name) :
    last? name (before ++ (key, value) :: after) =
      last? name (before ++ after) := by
  rw [last?_insert, if_neg other, Option.or_none]
  simp only [last?, List.reverse_append, get?_append]

end Lookup

section LastOfEach

variable {ν : Type}

theorem lastOfEach_sublist (fields : Fields ν) :
    (lastOfEach fields).Sublist fields := by
  induction fields with
  | nil => exact List.Sublist.slnil
  | cons field rest ih =>
      unfold lastOfEach
      split
      · exact ih.cons field
      · exact ih.cons_cons field

theorem keys_lastOfEach_nodup (fields : Fields ν) :
    (keys (lastOfEach fields)).Nodup := by
  induction fields with
  | nil => exact List.nodup_nil
  | cons field rest ih =>
      unfold lastOfEach
      split
      · exact ih
      · rename_i last
        refine List.nodup_cons.mpr ⟨?_, ih⟩
        intro again
        obtain ⟨other, member, same⟩ := List.mem_map.mp again
        apply last
        exact List.any_eq_true.mpr
          ⟨other, (lastOfEach_sublist rest).subset member, by simpa using same⟩

end LastOfEach

variable {ν μ : Type} {R : Json ν → Json μ → Prop} {fields : Fields ν}
    {values : Fields μ}

private theorem rel_get?
    (same : List.Forall₂ (fun field value => field.1 = value.1 ∧
      R field.2 value.2) fields values)
    (name : Bytes) :
    Option.Rel R (get? name fields) (get? name values) := by
  induction same with
  | nil => exact .none
  | @cons field value fields values here _ induction =>
      obtain ⟨key, d⟩ := field
      obtain ⟨key', v⟩ := value
      obtain ⟨rfl, related⟩ := here
      by_cases named : key = name
      · simpa [get?, named] using Option.Rel.some related
      · simpa [get?, named] using induction

private theorem rel_last?
    (same : List.Forall₂ (fun field value => field.1 = value.1 ∧
      R field.2 value.2) fields values)
    (name : Bytes) :
    Option.Rel R (last? name fields) (last? name values) := by
  apply rel_get?
  exact List.forall₂_reverse_iff.2 same

theorem last?_cons (field : Bytes × Json ν) (rest : Fields ν) (name : Bytes) :
    last? name (field :: rest) =
      (last? name rest).or (if field.1 = name then some field.2 else none) := by
  rw [last?, List.reverse_cons, get?_append]
  simp [get?, last?]

theorem last?_eq_none_iff {name : Bytes} :
    last? name fields = none ↔ ∀ field ∈ fields, field.1 ≠ name := by
  induction fields with
  | nil => simp [last?, get?]
  | cons field rest induction => simp [last?_cons, induction, and_comm]

private theorem get?_lastOfEach (fields : Fields ν) (name : Bytes) :
    get? name (lastOfEach fields) = last? name fields := by
  induction fields with
  | nil => rfl
  | cons field rest induction =>
      rw [last?_cons, lastOfEach]
      by_cases again : rest.any (·.1 == field.1) = true
      · rw [if_pos again, induction]
        by_cases named : field.1 = name
        · have later : last? name rest ≠ none := by
            rw [Ne, last?_eq_none_iff]
            simpa [named] using again
          obtain ⟨d, found⟩ := Option.ne_none_iff_exists'.1 later
          rw [found]
          rfl
        · rw [if_neg named, Option.or_none]
      · rw [if_neg again, get?, induction]
        by_cases named : field.1 = name
        · have none_later : last? name rest = none := by
            rw [last?_eq_none_iff]
            intro other member same
            exact again
              (List.any_eq_true.2 ⟨other, member, by simp [same, named]⟩)
          simp [named, none_later]
        · simp [named]

end Fields

namespace Document

/-- A value holds what a document says: numbers are read, and under each name of
an object stands what was sent last under it. -/
inductive Means : Document → Value → Prop
  | null : Means .null .null
  | bool (b : Bool) : Means (.bool b) (.bool b)
  | number {text : Bytes} {x : Binary}
      (read : Format.double.read text = .ok (.finite x)) :
      Means (.number text) (.number x)
  | string (s : Bytes) : Means (.string s) (.string s)
  | array {items : List Document} {values : List Value}
      (each : List.Forall₂ Means items values) :
      Means (.array items) (.array values)
  | object {fields : Fields Bytes} {values : Fields Binary}
      (once : (Fields.keys values).Nodup)
      (each : ∀ name, Option.Rel Means (Fields.last? name fields)
        (Fields.get? name values)) :
      Means (.object fields) (.object values)

private theorem forall₂_of_valueItems {items : List Document}
    {values : List Value} (read : valueItems items = .ok values) :
    List.Forall₂ (fun d v => toValue d = .ok v) items values := by
  induction items generalizing values with
  | nil =>
      cases read
      exact .nil
  | cons item rest induction =>
      simp only [valueItems, bind_eq_ok_iff] at read
      obtain ⟨value, first, values, others, same⟩ := read
      cases same
      exact .cons first (induction others)

private theorem forall₂_of_valueFields {fields : Fields Bytes}
    {values : Fields Binary} (read : valueFields fields = .ok values) :
    List.Forall₂ (fun field value => field.1 = value.1 ∧
      toValue field.2 = .ok value.2) fields values := by
  induction fields generalizing values with
  | nil =>
      cases read
      exact .nil
  | cons field rest induction =>
      simp only [valueFields, bind_eq_ok_iff] at read
      obtain ⟨value, first, values, others, same⟩ := read
      cases same
      exact .cons ⟨rfl, first⟩ (induction others)

theorem means_of_toValue (d : Document) :
    ∀ v, toValue d = .ok v → Means d v := by
  induction d using Json.induction_of_mem with
  | scalar d isScalar =>
      intro v read
      cases d with
      | null =>
          cases read
          exact .null
      | bool b =>
          cases read
          exact .bool b
      | string s =>
          cases read
          exact .string s
      | number text =>
          simp only [toValue] at read
          split at read
          next x finite =>
            cases read
            exact .number finite
          next => cases read
      | array items => exact absurd rfl (isScalar.1 items)
      | object fields => exact absurd rfl (isScalar.2 fields)
  | array items induction =>
      intro v read
      simp only [toValue, map_eq_ok_iff] at read
      obtain ⟨values, read, rfl⟩ := read
      have each :=
        (List.forall₂_and_left _ _).2 ⟨induction, forall₂_of_valueItems read⟩
      exact .array (each.imp fun d v both => both.1 v both.2)
  | object fields induction =>
      intro v read
      simp only [toValue, map_eq_ok_iff] at read
      obtain ⟨values, read, rfl⟩ := read
      have each :=
        (List.forall₂_and_left _ _).2 ⟨induction, forall₂_of_valueFields read⟩
      -- A name given twice means its last value, which is what is kept.
      refine .object (Fields.keys_lastOfEach_nodup values) ?_
      intro name
      rw [Fields.get?_lastOfEach]
      exact Fields.rel_last? (each.imp fun field value both =>
        ⟨both.2.1, both.1 value.2 both.2.2⟩) name

end Document

end ModelGateway
