import ModelGateway.Number.Layout
import ModelGateway.Number.Numeral

/-!
JSON values. A document keeps each number as it was written; a value holds the
double that it stands for. Fields keep their order, and of several fields of one
name the last one counts.
-/

namespace ModelGateway

inductive Json (ν : Type) where
  | null
  | bool (b : Bool)
  | number (n : ν)
  | string (s : Bytes)
  | array (items : List (Json ν))
  | object (fields : List (Bytes × Json ν))
  deriving Repr, Inhabited

/-- JSON with numbers as they are written. -/
abbrev Document := Json Bytes

/-- JSON with numbers as doubles. -/
abbrev Value := Json Binary

abbrev Fields (ν : Type) := List (Bytes × Json ν)

namespace Fields

variable {ν : Type}

def get? (name : Bytes) : Fields ν → Option (Json ν)
  | [] => none
  | (key, value) :: rest => if key == name then some value else get? name rest

def last? (name : Bytes) (fields : Fields ν) : Option (Json ν) :=
  get? name fields.reverse

def keys (fields : Fields ν) : List Bytes :=
  fields.map Prod.fst

/-- The fields with all but the last of each name left out. -/
def lastOfEach : Fields ν → Fields ν
  | [] => []
  | field :: rest =>
      if rest.any (·.1 == field.1) then lastOfEach rest
      else field :: lastOfEach rest

def sorted (fields : Fields ν) : Fields ν :=
  fields.mergeSort fun a b => Bytes.le a.1 b.1

end Fields

namespace Json

variable {ν μ : Type}

mutual

def map (f : ν → μ) : Json ν → Json μ
  | .null => .null
  | .bool b => .bool b
  | .number n => .number (f n)
  | .string s => .string s
  | .array items => .array (mapItems f items)
  | .object fields => .object (mapFields f fields)

private def mapItems (f : ν → μ) : List (Json ν) → List (Json μ)
  | [] => []
  | item :: rest => item.map f :: mapItems f rest

private def mapFields (f : ν → μ) :
    List (Bytes × Json ν) → List (Bytes × Json μ)
  | [] => []
  | (key, value) :: rest => (key, value.map f) :: mapFields f rest

end

mutual

def sorted : Json ν → Json ν
  | .array items => .array (sortedItems items)
  | .object fields => .object (Fields.sorted (sortedFields fields))
  | v => v

private def sortedItems : List (Json ν) → List (Json ν)
  | [] => []
  | item :: rest => item.sorted :: sortedItems rest

private def sortedFields : List (Bytes × Json ν) → List (Bytes × Json ν)
  | [] => []
  | (key, value) :: rest => (key, value.sorted) :: sortedFields rest

end

/-- The word for a kind of value in messages about mistyped documents. -/
def kind : Json ν → Bytes
  | .null => "null"
  | .bool _ => "bool"
  | .number _ => "number"
  | .string _ => "string"
  | .array _ => "array"
  | .object _ => "object"

end Json

namespace Document

mutual

def toValue : Document → Except Bytes Value
  | .null => .ok .null
  | .bool b => .ok (.bool b)
  | .number n =>
      match Format.double.read n with
      | .ok (.finite x) => .ok (.number x)
      | _ => .error n
  | .string s => .ok (.string s)
  | .array items => (valueItems items).map .array
  | .object fields =>
      (valueFields fields).map fun fields => .object (Fields.lastOfEach fields)

def valueItems : List Document → Except Bytes (List Value)
  | [] => .ok []
  | item :: rest => do
      let item ← toValue item
      let rest ← valueItems rest
      return item :: rest

/-- The values of all fields, also of those that a later field of the same name
replaces. -/
def valueFields : List (Bytes × Document) → Except Bytes (List (Bytes × Value))
  | [] => .ok []
  | (key, value) :: rest => do
      let value ← toValue value
      let rest ← valueFields rest
      return (key, value) :: rest

end

def ofNat (n : Nat) : Document := .number (Bytes.ofNat n)

def ofInt (n : Int) : Document := .number (Bytes.ofInt n)

def textField (name value : Bytes) : Bytes × Document := (name, .string value)

def natField (name : Bytes) (n : Nat) : Bytes × Document := (name, ofNat n)

def intField (name : Bytes) (n : Int) : Bytes × Document := (name, ofInt n)

def boolField (name : Bytes) (b : Bool) : Bytes × Document := (name, .bool b)

def optionalText (name value : Bytes) : List (Bytes × Document) :=
  if value.isEmpty then [] else [textField name value]

end Document

def Value.toDocument (v : Value) : Document :=
  v.map fun x => x.write Binary.document .double

end ModelGateway
