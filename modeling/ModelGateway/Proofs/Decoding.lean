import ModelGateway.Generation.Decode
import ModelGateway.Proofs.Catalog
import ModelGateway.Proofs.Checked

namespace ModelGateway

namespace Decode

variable {path : Bytes} {s : Shape} {v : Value}

theorem decode_null : decode path s .null = .ok s.empty := by
  simp [decode]

theorem decode_optional (present : v ≠ .null) :
    decode path (.optional s) v = (decode path s v).map .present := by
  cases v with
  | null => exact absurd rfl present
  | bool b => simp only [decode, map_map]; rfl
  | number x => simp only [decode, map_map]; rfl
  | string t => simp only [decode, map_map]; rfl
  | array items => simp only [decode, map_map]; rfl
  | object fields => simp only [decode, map_map]; rfl

theorem decode_single (present : v ≠ .null) (single : s.takesSingle v = true) :
    decode path (.list s) v = (decode (path.item 0) s v).map fun x =>
      s.listOf [x] := by
  have core_eq : (Shape.list s).core v = s.core v := by
    simp [Shape.core, single]
  have path_eq :
      (Shape.list s).corePath path v = s.corePath (path.item 0) v := by
    simp [Shape.corePath, single]
  have rebuild_eq :
      (Shape.list s).rebuild v = fun x => s.listOf [s.rebuild v x] := by
    funext x
    simp [Shape.rebuild, single]
  cases v with
  | null => exact absurd rfl present
  | bool b => simp only [decode, map_map, core_eq, path_eq, rebuild_eq]
  | number x => simp only [decode, map_map, core_eq, path_eq, rebuild_eq]
  | string t => simp only [decode, map_map, core_eq, path_eq, rebuild_eq]
  | array items => simp [Shape.takesSingle] at single
  | object fields => simp only [decode, map_map, core_eq, path_eq, rebuild_eq]

theorem decode_items {items : List Value} :
    decode path (.list s) (.array items) =
      (decodeItems path s 0 items).map s.listOf := by
  simp only [decode]
  exact map_id_eq _

theorem decode_entries {fields : List (Bytes × Value)} :
    decode path (.table s) (.object fields) =
      (decodeEntries path s fields).map .table := by
  simp only [decode]
  exact map_id_eq _

def tableOf : Option (List (Bytes × Setting)) → Setting
  | none => .absent
  | some entries => .table entries

theorem decode_table (present : v ≠ .null) :
    decode path (.table s) v = (decodeLayer path s none v).map tableOf := by
  match v with
  | .null => exact absurd rfl present
  | .bool b => rfl
  | .number x => rfl
  | .string t => rfl
  | .array [] => rfl
  | .array (item :: rest) =>
      have layers : decodeLayers path s none 0 (item :: rest) =
          decodeLayer path s none (.array (item :: rest)) := by
        simp only [decodeLayers, decodeLayer]
      have rebuild_eq :
          (Shape.table s).rebuild (.array (item :: rest)) = fun x => x :=
        rfl
      rw [← layers]
      simp only [decode, rebuild_eq, map_id_eq, Shape.core, Shape.corePath,
        List.isEmpty_cons, Bool.false_eq_true, if_false]
      congr 1
  | .object fields =>
      simp only [decode_entries, decodeLayer, map_map]
      congr 1

theorem decode_fields {record : Record} {fields : List (Bytes × Value)} :
    decode path (.record record) (.object fields) =
      Checked.both (fun settings _ => .record (arrange record settings))
        (decodeFields path record (Fields.keys fields) fields)
        (checkKeys path record (Fields.keys fields)) := by
  simp only [decode]
  exact map_id_eq _

theorem decode_any (present : v ≠ .null) :
    decode path .any v = .ok (.free v) := by
  cases v with
  | null => exact absurd rfl present
  | bool b => rfl
  | number x => rfl
  | string t => rfl
  | array items => rfl
  | object fields => rfl

theorem decode_integer_number {name : Bytes} {isSigned : Bool} {bits : Nat}
    {x : Binary} :
    decode path (.integer name isSigned bits) (.number x) =
      if x.isWhole then .ok (.integer (narrow isSigned bits x.toWord))
      else .error [.fractional path x] := by
  simp only [decode, Shape.core, Shape.corePath, ofNumber]
  split <;> rfl

section Items

variable {i : Nat} {items : List Value} {settings : List Setting}

theorem getElem?_of_decodeItems
    (decoded : decodeItems path s i items = .ok settings)
    (j : Nat) :
    (items[j]?.map fun v => decode (path.item (i + j)) s v) =
      settings[j]?.map .ok := by
  induction items generalizing i settings j with
  | nil =>
      simp only [decodeItems, Except.ok.injEq] at decoded
      subst decoded
      rfl
  | cons item rest ih =>
      simp only [decodeItems, Checked.both_eq_ok_iff] at decoded
      obtain ⟨x, xs, first, others, rfl⟩ := decoded
      cases j with
      | zero => simpa using first
      | succ j =>
          have shifted : i + (j + 1) = i + 1 + j := by omega
          simpa [shifted] using ih others j

theorem reports_decodeItems {mismatch : Mismatch} {j : Nat}
    (found : items[j]? = some v)
    (h : Checked.Reports mismatch (decode (path.item (i + j)) s v)) :
    Checked.Reports mismatch (decodeItems path s i items) := by
  induction items generalizing i j with
  | nil => simp at found
  | cons item rest ih =>
      simp only [decodeItems, Checked.reports_both_iff]
      cases j with
      | zero =>
          have first : item = v := by simpa using found
          subst first
          exact Or.inl h
      | succ j =>
          have shifted : i + (j + 1) = i + 1 + j := by omega
          rw [shifted] at h
          exact Or.inr (ih (by simpa using found) h)

end Items

section Entries

variable {fields : List (Bytes × Value)} {entries : List (Bytes × Setting)}

theorem keys_of_decodeEntries
    (decoded : decodeEntries path s fields = .ok entries) :
    entries.map Prod.fst = fields.map Prod.fst := by
  induction fields generalizing entries with
  | nil =>
      simp only [decodeEntries, Except.ok.injEq] at decoded
      subst decoded
      rfl
  | cons field rest ih =>
      simp only [decodeEntries, Checked.both_eq_ok_iff] at decoded
      obtain ⟨x, xs, _, others, rfl⟩ := decoded
      simp [ih others]

theorem find?_of_decodeEntries
    (decoded : decodeEntries path s fields = .ok entries)
    (name : Bytes) :
    ((fields.find? (·.1 == name)).map fun field =>
      decode (path.entry name) s field.2) =
      (entries.find? (·.1 == name)).map fun entry => .ok entry.2 := by
  induction fields generalizing entries with
  | nil =>
      simp only [decodeEntries, Except.ok.injEq] at decoded
      subst decoded
      rfl
  | cons field rest ih =>
      obtain ⟨key, value⟩ := field
      simp only [decodeEntries, Checked.both_eq_ok_iff] at decoded
      obtain ⟨x, xs, first, others, rfl⟩ := decoded
      by_cases same : key = name
      · subst same
        simpa using first
      · have differs : (key == name) = false := by simpa using same
        simpa [differs] using ih others

theorem reports_decodeEntries {mismatch : Mismatch} {key : Bytes}
    (member : (key, v) ∈ fields)
    (h : Checked.Reports mismatch (decode (path.entry key) s v)) :
    Checked.Reports mismatch (decodeEntries path s fields) := by
  induction fields with
  | nil => simp at member
  | cons field rest ih =>
      simp only [decodeEntries, Checked.reports_both_iff]
      rcases List.mem_cons.mp member with rfl | member
      · exact Or.inl h
      · exact Or.inr (ih member)

end Entries

section Fields

variable {record : Record} {keys : List Bytes} {f : Field} {key : Bytes}

theorem foldEq_of_chosenKey? (chosen : chosenKey? f keys = some key) :
    Key.foldEq f.name key = true := by
  unfold chosenKey? at chosen
  split at chosen
  · cases chosen
    exact Key.foldEq_self f.name
  · simpa using List.find?_some chosen

theorem chosenKey?_eq_some (present : key ∈ keys)
    (folds : Key.foldEq f.name key = true)
    (unique : ∀ other ∈ keys, Key.foldEq f.name other = true → other = key) :
    chosenKey? f keys = some key := by
  unfold chosenKey?
  split
  · rename_i own
    rw [unique f.name (List.contains_iff_mem.1 own) (Key.foldEq_self f.name)]
  · cases found : keys.find? (Key.foldEq f.name) with
    | none => exact absurd folds (List.find?_eq_none.1 found key present)
    | some other =>
        rw [unique other (List.mem_of_find?_eq_some found)
          (List.find?_some found)]

theorem of_fieldOf? (addressed : fieldOf? record keys key = some f) :
    f ∈ record.fields ∧ chosenKey? f keys = some key := by
  have chosen := List.find?_some addressed
  exact ⟨List.mem_of_find?_eq_some addressed, by simpa using chosen⟩

theorem fieldOf?_eq_some (member : f ∈ record.fields)
    (chosen : chosenKey? f keys = some key) :
    fieldOf? record keys key = some f := by
  cases addressed : fieldOf? record keys key with
  | none =>
      have unchosen := List.find?_eq_none.mp addressed f member
      simp [chosen] at unchosen
  | some g =>
      obtain ⟨member', chosen'⟩ := of_fieldOf? addressed
      have same : g = f := Record.field_unique_of_foldEq member' member
        (foldEq_of_chosenKey? chosen') (foldEq_of_chosenKey? chosen)
      rw [same]

variable {fields : List (Bytes × Value)} {settings : List (Bytes × Setting)}

/-- A field holds the setting from the value below the name that it takes. -/
theorem find?_of_decodeFields
    (decoded : decodeFields path record keys fields = .ok settings)
    (member : f ∈ record.fields) :
    ((fields.find? fun field => chosenKey? f keys == some field.1).map
      fun field =>
        decode (path.field f.name) f.shape field.2) =
      (settings.find? (·.1 == f.name)).map fun setting => .ok setting.2 := by
  induction fields generalizing settings with
  | nil =>
      simp only [decodeFields, Except.ok.injEq] at decoded
      subst decoded
      rfl
  | cons field rest ih =>
      obtain ⟨key, value⟩ := field
      cases addressed : fieldOf? record keys key with
      | none =>
          have unchosen : (chosenKey? f keys == some key) = false := by
            by_contra h
            have chosen : chosenKey? f keys = some key := by simpa using h
            simp [fieldOf?_eq_some member chosen] at addressed
          simp only [decodeFields, addressed] at decoded
          simpa [unchosen] using ih decoded
      | some g =>
          simp only [decodeFields, addressed, Checked.both_eq_ok_iff] at decoded
          obtain ⟨x, xs, first, others, rfl⟩ := decoded
          obtain ⟨member', chosen'⟩ := of_fieldOf? addressed
          by_cases same : f = g
          · subst same
            simpa [chosen'] using first
          · have unchosen : (chosenKey? f keys == some key) = false := by
              by_contra h
              have chosen : chosenKey? f keys = some key := by simpa using h
              rw [fieldOf?_eq_some member chosen] at addressed
              exact same (Option.some.inj addressed)
            have differs : (g.name == f.name) = false := by
              by_contra h
              have named : g.name = f.name := by simpa using h
              exact same (Record.field_eq_of_name_eq member member' named.symm)
            simpa [unchosen, differs] using ih others

theorem reports_decodeFields {mismatch : Mismatch} (member : f ∈ record.fields)
    (chosen : chosenKey? f keys = some key) (present : (key, v) ∈ fields)
    (h : Checked.Reports mismatch (decode (path.field f.name) f.shape v)) :
    Checked.Reports mismatch (decodeFields path record keys fields) := by
  induction fields with
  | nil => simp at present
  | cons field rest ih =>
      rcases List.mem_cons.mp present with rfl | later
      · simp only [decodeFields, fieldOf?_eq_some member chosen,
          Checked.reports_both_iff]
        exact Or.inl h
      · obtain ⟨key', value⟩ := field
        cases addressed : fieldOf? record keys key' with
        | none =>
            simp only [decodeFields, addressed]
            exact ih later
        | some g =>
            simp only [decodeFields, addressed, Checked.reports_both_iff]
            exact Or.inr (ih later)

theorem checkKeys_eq_ok_iff :
    checkKeys path record keys = .ok () ↔
      ∀ key ∈ keys, ∃ f ∈ record.fields, chosenKey? f keys = some key := by
  have known (key : Bytes) :
      (fieldOf? record keys key).isNone = false ↔
        ∃ f ∈ record.fields, chosenKey? f keys = some key := by
    constructor
    · intro h
      cases addressed : fieldOf? record keys key with
      | none => simp [addressed] at h
      | some f => exact ⟨f, of_fieldOf? addressed⟩
    · rintro ⟨f, member, chosen⟩
      simp [fieldOf?_eq_some member chosen]
  unfold checkKeys
  cases unknown : unknownKeys record keys with
  | nil =>
      simp only [true_iff]
      intro key member
      rw [← known, ← Bool.not_eq_true]
      exact List.filter_eq_nil_iff.mp unknown key member
  | cons key rest =>
      simp only [reduceCtorEq, false_iff]
      intro all
      have member : key ∈ unknownKeys record keys := by simp [unknown]
      obtain ⟨member, isNone⟩ := List.mem_filter.mp member
      rw [(known key).mpr (all key member)] at isNone
      cases isNone

def kept (settings : List (Bytes × Setting)) (f : Field) :
    Option (Bytes × Setting) :=
  (settings.find? (·.1 == f.name)).filter fun setting => !setting.2.isEmpty

theorem kept_eq_some_iff {setting : Bytes × Setting} :
    kept settings f = some setting ↔
      settings.find? (·.1 == f.name) = some setting ∧
        setting.2.isEmpty = false := by
  simp [kept, Option.filter_eq_some_iff]

theorem name_of_kept {setting : Bytes × Setting}
    (h : kept settings f = some setting) :
    setting.1 = f.name := by
  simpa using List.find?_some (kept_eq_some_iff.mp h).1

theorem arrange_eq_filterMap :
    arrange record settings = record.fields.filterMap (kept settings) := by
  unfold arrange
  congr 1
  funext field
  unfold kept
  cases settings.find? (·.1 == field.name) with
  | none => rfl
  | some setting =>
      cases empty : setting.2.isEmpty <;> simp [Option.filter, empty]

theorem find?_arrange (member : f ∈ record.fields) :
    (arrange record settings).find? (·.1 == f.name) = kept settings f := by
  rw [arrange_eq_filterMap, List.find?_filterMap]
  have only (g : Field) (member' : g ∈ record.fields)
      (h : (kept settings g).any (·.1 == f.name) = true) : g = f := by
    cases own : kept settings g with
    | none => simp [own] at h
    | some setting =>
        have named : setting.1 = f.name := by simpa [own] using h
        exact Record.field_eq_of_name_eq member' member
          ((name_of_kept own).symm.trans named)
  cases found : record.fields.find?
    (fun g => (kept settings g).any (·.1 == f.name)) with
  | none =>
      have unkept := List.find?_eq_none.mp found f member
      cases own : kept settings f with
      | none => rfl
      | some setting => simp [own, name_of_kept own] at unkept
  | some g =>
      have named := List.find?_some found
      have same : g = f := only g (List.mem_of_find?_eq_some found) named
      rw [same]
      rfl

end Fields

/-- Of two entries of one name the newer one stands. -/
theorem find?_overlay {older newer : List (Bytes × Setting)} (name : Bytes) :
    (overlay older newer).find? (·.1 == name) =
      (newer.find? (·.1 == name)).or (older.find? (·.1 == name)) := by
  unfold overlay
  rw [List.find?_append]
  cases found : newer.find? (·.1 == name) with
  | none =>
      have absent : newer.any (·.1 == name) = false := by
        simpa using List.find?_eq_none.mp found
      have untouched : (older.filter fun entry =>
          !newer.any (·.1 == entry.1)).find? (·.1 == name) =
          older.find? (·.1 == name) := by
        rw [List.find?_filter]
        congr 1
        funext entry
        by_cases named : entry.1 = name
        · simp [named, absent]
        · simp [named]
      rw [untouched, Option.or_none, Option.none_or]
  | some entry =>
      have present : newer.any (·.1 == name) = true := by
        have named := List.find?_some found
        exact List.any_eq_true.mpr
          ⟨entry, List.mem_of_find?_eq_some found, named⟩
      have dropped : (older.filter fun entry =>
          !newer.any (·.1 == entry.1)).find? (·.1 == name) =
          none := by
        rw [List.find?_eq_none]
        intro other member named
        have same : other.1 = name := by simpa using named
        simp [same, present] at member
      rw [dropped, Option.none_or, Option.some_or]

theorem overlay_nil (older : List (Bytes × Setting)) :
    overlay older [] = older := by
  simp [overlay]

theorem decodeItems_eq_collect (i : Nat) (items : List Value) :
    decodeItems path s i items =
      Checked.collect ((items.zipIdx i).map fun item =>
        decode (path.item item.2) s item.1) := by
  induction items generalizing i with
  | nil => rfl
  | cons item rest ih =>
      simp only [decodeItems, List.zipIdx_cons, List.map_cons,
        Checked.collect, ih]

theorem decodeEntries_eq_collect (fields : Fields Binary) :
    decodeEntries path s fields =
      Checked.collect (fields.map fun entry =>
        (decode (path.entry entry.1) s entry.2).map fun x => (entry.1, x)) := by
  induction fields with
  | nil => rfl
  | cons entry rest ih =>
      obtain ⟨key, value⟩ := entry
      simp only [decodeEntries, List.map_cons, Checked.collect, ih]
      exact Checked.both_map_left (Prod.mk key) (· :: ·) _ _

theorem decodeFields_eq_collect {record : Record} {keys : List Bytes}
    (fields : Fields Binary) :
    decodeFields path record keys fields =
      Checked.collect (fields.filterMap fun entry =>
        (fieldOf? record keys entry.1).map fun f =>
          (decode (path.field f.name) f.shape entry.2).map fun x =>
            (f.name, x)) := by
  induction fields with
  | nil => rfl
  | cons entry rest ih =>
      obtain ⟨key, value⟩ := entry
      cases addressed : fieldOf? record keys key with
      | none =>
          simp only [decodeFields, addressed, List.filterMap_cons,
            Option.map_none, ih]
      | some f =>
          simp only [decodeFields, addressed, List.filterMap_cons,
            Option.map_some, Checked.collect, ih]
          exact Checked.both_map_left (Prod.mk f.name) (· :: ·) _ _

theorem exists_decodeFields_iff {path : Bytes} {record : Record}
    {keys : List Bytes} {fields : Fields Binary} :
    (∃ settings, decodeFields path record keys fields = .ok settings) ↔
      ∀ entry ∈ fields, ∀ f, fieldOf? record keys entry.1 = some f →
        ∃ x, decode (path.field f.name) f.shape entry.2 = .ok x := by
  rw [decodeFields_eq_collect, Checked.exists_collect_iff,
    List.forall_mem_filterMap]
  constructor
  · intro each entry member f addressed
    obtain ⟨_, taken⟩ := each entry member _ (congrArg (Option.map _) addressed)
    obtain ⟨x, taken, _⟩ := map_eq_ok_iff.1 taken
    exact ⟨x, taken⟩
  · intro each entry member result collected
    obtain ⟨f, addressed, rfl⟩ := Option.map_eq_some_iff.1 collected
    obtain ⟨x, taken⟩ := each entry member f addressed
    exact ⟨(f.name, x), map_eq_ok_iff.2 ⟨x, taken, rfl⟩⟩

end Decode

end ModelGateway
