import ModelGateway.Generation.Normalize
import ModelGateway.Proofs.Checked
import ModelGateway.Proofs.Spelling

namespace ModelGateway

namespace Key.Role

def spell : Role → Bytes → Bytes
  | .ordinary, key => camel key
  | _, key => key

def below : Role → Bytes → Role
  | .ordinary, key => role (camel key)
  | .named, _ => .ordinary
  | .verbatim, _ => .verbatim

def item : Role → Role
  | .ordinary => .ordinary
  | _ => .verbatim

@[simp] theorem spell_ordinary (key : Bytes) :
    ordinary.spell key = camel key := rfl

@[simp] theorem spell_verbatim (key : Bytes) : verbatim.spell key = key := rfl

@[simp] theorem spell_named (key : Bytes) : named.spell key = key := rfl

@[simp] theorem below_ordinary (key : Bytes) :
    ordinary.below key = role (camel key) := rfl

@[simp] theorem below_verbatim (key : Bytes) :
    verbatim.below key = .verbatim := rfl

@[simp] theorem below_named (key : Bytes) : named.below key = .ordinary := rfl

@[simp] theorem item_ordinary : ordinary.item = .ordinary := rfl

@[simp] theorem item_verbatim : verbatim.item = .verbatim := rfl

@[simp] theorem item_named : named.item = .verbatim := rfl

theorem spell_of_ne_ordinary {role : Role}
    (h : role ≠ .ordinary)
    (key : Bytes) :
    role.spell key = key := by
  cases role with
  | ordinary => exact absurd rfl h
  | verbatim => rfl
  | named => rfl

end Key.Role

namespace Respell

mutual

def value (role : Key.Role) : Value → Value
  | .array list => .array (items role.item list)
  | .object entries => .object (fields role entries)
  | other => other

def items (role : Key.Role) : List Value → List Value
  | [] => []
  | item :: rest => value role item :: items role rest

def fields (role : Key.Role) : List (Bytes × Value) → List (Bytes × Value)
  | [] => []
  | (key, item) :: rest =>
      (role.spell key, value (role.below key) item) :: fields role rest

end

mutual

/-- No object whose names are respelt has two fields of one camel name. -/
def Distinct (role : Key.Role) : Value → Prop
  | .array list => DistinctItems role.item list
  | .object entries =>
      (role = .ordinary → (entries.map fun entry => Key.camel entry.1).Nodup) ∧
        DistinctFields role entries
  | _ => True

def DistinctItems (role : Key.Role) : List Value → Prop
  | [] => True
  | item :: rest => Distinct role item ∧ DistinctItems role rest

def DistinctFields (role : Key.Role) : List (Bytes × Value) → Prop
  | [] => True
  | (key, item) :: rest =>
      Distinct (role.below key) item ∧ DistinctFields role rest

end

private theorem items_eq_map (role : Key.Role) (list : List Value) :
    items role list = list.map (value role) := by
  induction list with
  | nil => simp [items]
  | cons item rest ih => simp [items, ih]

theorem fields_eq_map (role : Key.Role) (entries : List (Bytes × Value)) :
    fields role entries =
      entries.map fun entry =>
        (role.spell entry.1, value (role.below entry.1) entry.2) := by
  induction entries with
  | nil => simp [fields]
  | cons entry rest ih => simp [fields, ih]

@[simp] theorem value_array (role : Key.Role) (list : List Value) :
    value role (.array list) = .array (list.map (value role.item)) := by
  simp [value, items_eq_map]

@[simp] theorem value_object (role : Key.Role)
    (entries : List (Bytes × Value)) :
    value role (.object entries) =
      .object (entries.map fun entry =>
        (role.spell entry.1, value (role.below entry.1) entry.2)) := by
  simp [value, fields_eq_map]

@[simp] theorem value_null (role : Key.Role) : value role .null = .null := rfl

@[simp] theorem value_bool (role : Key.Role) (b : Bool) :
    value role (.bool b) = .bool b := rfl

@[simp] theorem value_number (role : Key.Role) (x : Binary) :
    value role (.number x) = .number x := rfl

@[simp] theorem value_string (role : Key.Role) (s : Bytes) :
    value role (.string s) = .string s := rfl

theorem distinctItems_iff {role : Key.Role} {list : List Value} :
    DistinctItems role list ↔ ∀ item ∈ list, Distinct role item := by
  induction list with
  | nil => simp [DistinctItems]
  | cons item rest ih => simp [DistinctItems, ih]

theorem distinctFields_iff {role : Key.Role} {entries : List (Bytes × Value)} :
    DistinctFields role entries ↔
      ∀ entry ∈ entries, Distinct (role.below entry.1) entry.2 := by
  induction entries with
  | nil => simp [DistinctFields]
  | cons entry rest ih => simp [DistinctFields, ih]

mutual

theorem value_verbatim (v : Value) : value .verbatim v = v := by
  cases v with
  | null => rfl
  | bool b => rfl
  | number x => rfl
  | string s => rfl
  | array list => exact congrArg Json.array (items_verbatim list)
  | object entries => exact congrArg Json.object (fields_verbatim entries)

theorem items_verbatim (list : List Value) : items .verbatim list = list := by
  cases list with
  | nil => rfl
  | cons item rest =>
      simp only [items]
      rw [value_verbatim item, items_verbatim rest]

theorem fields_verbatim (entries : List (Bytes × Value)) :
    fields .verbatim entries = entries := by
  cases entries with
  | nil => rfl
  | cons entry rest =>
      obtain ⟨key, item⟩ := entry
      simp only [fields, Key.Role.spell_verbatim, Key.Role.below_verbatim]
      rw [value_verbatim item, fields_verbatim rest]

end

mutual

theorem distinct_verbatim (v : Value) : Distinct .verbatim v := by
  cases v with
  | null => trivial
  | bool b => trivial
  | number x => trivial
  | string s => trivial
  | array list => exact distinctItems_verbatim list
  | object entries =>
      refine ⟨?_, distinctFields_verbatim entries⟩
      intro h
      cases h

theorem distinctItems_verbatim (list : List Value) :
    DistinctItems .verbatim list := by
  cases list with
  | nil => trivial
  | cons item rest =>
      exact ⟨distinct_verbatim item, distinctItems_verbatim rest⟩

theorem distinctFields_verbatim (entries : List (Bytes × Value)) :
    DistinctFields .verbatim entries := by
  cases entries with
  | nil => trivial
  | cons entry rest =>
      obtain ⟨key, item⟩ := entry
      exact ⟨distinct_verbatim item, distinctFields_verbatim rest⟩

end

end Respell

namespace Normalize

open Respell

mutual

/-- Respelling a value is refused for a name given twice and for nothing
else. -/
theorem field_eq_ok_iff (role : Key.Role) (v : Value) :
    ∀ {w : Value}, field role v = .ok w ↔ Distinct role v ∧
      w = value role v := by
  intro w
  -- Mutual with the lemmas on items and entries: the recursion is that of
  -- `field`, and only ordinary objects can fail on their own keys.
  cases v with
  | null => simp [field, Distinct, eq_comm]
  | bool b => simp [field, Distinct, eq_comm]
  | number x => simp [field, Distinct, eq_comm]
  | string s => simp [field, Distinct, eq_comm]
  | array list =>
      cases role with
      | ordinary =>
          simp only [field, map_eq_ok_iff, values_eq_ok_iff list, Distinct,
            value, Key.Role.item_ordinary]
          constructor
          · rintro ⟨_, ⟨distinct, rfl⟩, rfl⟩
            exact ⟨distinct, rfl⟩
          · rintro ⟨distinct, rfl⟩
            exact ⟨_, ⟨distinct, rfl⟩, rfl⟩
      | verbatim =>
          have same := value_verbatim (.array list)
          simp [field, distinct_verbatim, same, eq_comm]
      | named =>
          have same := items_verbatim list
          simp [field, Distinct, value, distinctItems_verbatim, same, eq_comm]
  | object entries =>
      cases role with
      | ordinary =>
          simp only [field, map_eq_ok_iff, fieldsFrom_eq_ok_iff [] entries,
            Distinct, value]
          constructor
          · rintro ⟨_, ⟨⟨nodup, _⟩, distinct, rfl⟩, rfl⟩
            exact ⟨⟨fun _ => nodup, distinct⟩, rfl⟩
          · rintro ⟨⟨nodup, distinct⟩, rfl⟩
            exact ⟨_, ⟨⟨nodup trivial, by simp⟩, distinct, rfl⟩, rfl⟩
      | verbatim =>
          have same := value_verbatim (.object entries)
          simp [field, distinct_verbatim, same, eq_comm]
      | named =>
          simp only [field, map_eq_ok_iff, namedFields_eq_ok_iff entries,
            Distinct, value]
          constructor
          · rintro ⟨_, ⟨distinct, rfl⟩, rfl⟩
            refine ⟨⟨?_, distinct⟩, rfl⟩
            intro h
            cases h
          · rintro ⟨⟨_, distinct⟩, rfl⟩
            exact ⟨_, ⟨distinct, rfl⟩, rfl⟩

theorem values_eq_ok_iff (list : List Value) :
    ∀ {out : List Value},
      values list = .ok out ↔ DistinctItems .ordinary list ∧
        out = items .ordinary list := by
  intro out
  cases list with
  | nil => simp [values, DistinctItems, items, eq_comm]
  | cons item rest =>
      simp only [values, bind_eq_ok_iff, field_eq_ok_iff .ordinary item,
        values_eq_ok_iff rest, DistinctItems, items, pure, Except.pure,
        Except.ok.injEq]
      constructor
      · rintro ⟨_, ⟨first, rfl⟩, _, ⟨others, rfl⟩, rfl⟩
        exact ⟨⟨first, others⟩, rfl⟩
      · rintro ⟨⟨first, others⟩, rfl⟩
        exact ⟨_, ⟨first, rfl⟩, _, ⟨others, rfl⟩, rfl⟩

theorem namedFields_eq_ok_iff (entries : List (Bytes × Value)) :
    ∀ {out : List (Bytes × Value)},
      namedFields entries = .ok out ↔
        DistinctFields .named entries ∧
          out = Respell.fields .named entries := by
  intro out
  cases entries with
  | nil => simp [namedFields, DistinctFields, Respell.fields, eq_comm]
  | cons entry rest =>
      obtain ⟨key, item⟩ := entry
      simp only [namedFields, bind_eq_ok_iff, field_eq_ok_iff .ordinary item,
        namedFields_eq_ok_iff rest, DistinctFields, Respell.fields, pure,
        Except.pure, Except.ok.injEq]
      constructor
      · rintro ⟨_, ⟨first, rfl⟩, _, ⟨others, rfl⟩, rfl⟩
        exact ⟨⟨first, others⟩, rfl⟩
      · rintro ⟨⟨first, others⟩, rfl⟩
        exact ⟨_, ⟨first, rfl⟩, _, ⟨others, rfl⟩, rfl⟩

theorem fieldsFrom_eq_ok_iff (seen : List Bytes)
    (entries : List (Bytes × Value)) :
    ∀ {out : List (Bytes × Value)},
      fieldsFrom seen entries = .ok out ↔
        ((entries.map fun entry => Key.camel entry.1).Nodup ∧
          ∀ entry ∈ entries, Key.camel entry.1 ∉ seen) ∧
        DistinctFields .ordinary entries ∧
          out = Respell.fields .ordinary entries := by
  intro out
  cases entries with
  | nil => simp [fieldsFrom, DistinctFields, Respell.fields, eq_comm]
  | cons entry rest =>
      obtain ⟨key, item⟩ := entry
      by_cases taken : Key.camel key ∈ seen
      · simp [fieldsFrom, taken]
      · have free : seen.contains (Key.camel key) = false := by
          simpa using taken
        simp only [fieldsFrom, free, Bool.false_eq_true, if_false,
          bind_eq_ok_iff, field_eq_ok_iff _ item, fieldsFrom_eq_ok_iff _ rest,
          DistinctFields, Respell.fields, pure, Except.pure, Except.ok.injEq,
          List.map_cons, List.nodup_cons, List.mem_map, List.forall_mem_cons]
        -- the names taken so far grow by this one, which the rest may not use
        constructor
        · rintro ⟨_, ⟨first, rfl⟩, _, ⟨⟨nodup, fresh⟩, others, rfl⟩, rfl⟩
          have unused :
              ¬ ∃ entry ∈ rest, Key.camel entry.1 = Key.camel key := by
            rintro ⟨entry, member, same⟩
            exact fresh entry member (by simp [same])
          have unseen : ∀ entry ∈ rest, Key.camel entry.1 ∉ seen := by
            intro entry member h
            exact fresh entry member (by simp [h])
          exact ⟨⟨⟨unused, nodup⟩, taken, unseen⟩, ⟨first, others⟩, rfl⟩
        · rintro ⟨⟨⟨unused, nodup⟩, _, unseen⟩, ⟨first, others⟩, rfl⟩
          have fresh :
              ∀ entry ∈ rest, Key.camel entry.1 ∉ Key.camel key :: seen := by
            intro entry member h
            rcases List.mem_cons.mp h with same | h
            · exact unused ⟨entry, member, same⟩
            · exact unseen entry member h
          exact ⟨_, ⟨first, rfl⟩, _, ⟨⟨nodup, fresh⟩, others, rfl⟩, rfl⟩

end

theorem fields_eq_ok_iff {options out : Fields Binary} :
    Normalize.fields options = .ok out ↔
      Distinct .ordinary (.object options) ∧
        out = Respell.fields .ordinary options := by
  simp only [Normalize.fields, fieldsFrom_eq_ok_iff, Distinct]
  constructor
  · rintro ⟨⟨nodup, _⟩, distinct, rfl⟩
    exact ⟨⟨fun _ => nodup, distinct⟩, rfl⟩
  · rintro ⟨⟨nodup, distinct⟩, rfl⟩
    exact ⟨⟨nodup trivial, by simp⟩, distinct, rfl⟩

end Normalize

end ModelGateway
