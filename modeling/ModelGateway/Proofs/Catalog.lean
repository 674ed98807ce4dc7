import Mathlib.Data.List.Nodup
import ModelGateway.Generation.Catalog
import ModelGateway.Proofs.Spelling

namespace ModelGateway

namespace Shape

def isSized : Shape → Bool
  | .integer _ isSigned bits => 1 ≤ bits && bits ≤ if isSigned then 64 else 63
  | .optional s => s.isSized
  | .list s => s.isSized
  | .table s => s.isSized
  | _ => true

end Shape

namespace Record

/-- The names of a record differ in more than letter case. -/
theorem folded_names_nodup (record : Record) :
    (record.fields.map fun f =>
      (Utf8.codes f.name).map Key.foldCode).Nodup := by
  cases record <;> decide +kernel

theorem field_unique {record : Record} {f g : Field}
    (member : f ∈ record.fields)
    (member' : g ∈ record.fields)
    (h : Key.foldEq f.name g.name = true) : f = g :=
  List.inj_on_of_nodup_map record.folded_names_nodup member member'
    (Key.foldEq_iff.mp h)

theorem field_unique_of_foldEq {record : Record} {f g : Field} {name : Bytes}
    (member : f ∈ record.fields)
    (member' : g ∈ record.fields)
    (h : Key.foldEq f.name name = true)
    (h' : Key.foldEq g.name name = true) : f = g :=
  field_unique member member' (Key.foldEq_trans h (Key.foldEq_symm h'))

theorem name_has_no_underscore (record : Record) :
    ∀ f ∈ record.fields, 0x5f ∉ (Utf8.codes f.name).map Key.foldCode := by
  cases record <;> decide +kernel

theorem fields_sized (record : Record) :
    ∀ f ∈ record.fields, f.shape.isSized = true := by
  cases record <;> decide +kernel

theorem camel_of_foldEq {record : Record} {f : Field} {key : Bytes}
    (member : f ∈ record.fields)
    (h : Key.foldEq f.name key = true) : Key.camel key = key := by
  apply Key.camel_of_no_underscore
  exact Key.no_underscore_of_foldEq (name_has_no_underscore record f member) h

theorem field_eq_of_name_eq {record : Record} {f g : Field}
    (member : f ∈ record.fields)
    (member' : g ∈ record.fields) (h : f.name = g.name) : f = g := by
  apply field_unique member member'
  rw [h]
  exact Key.foldEq_self g.name

theorem find?_name {record : Record} {f : Field} (member : f ∈ record.fields) :
    record.fields.find? (·.name == f.name) = some f := by
  cases found : record.fields.find? (·.name == f.name) with
  | none =>
      have absent := List.find?_eq_none.mp found f member
      simp at absent
  | some g =>
      have named : g.name = f.name := by simpa using List.find?_some found
      rw [field_eq_of_name_eq (List.mem_of_find?_eq_some found) member named]

end Record

end ModelGateway
