import ModelGateway.Json.Display

namespace ModelGateway

inductive Scalar where
  | floating (format : Format) (x : Floating)
  | integer (n : Int)
  | text (s : Bytes)

namespace Scalar

def notWhole (format : Format) (x : Floating) : Bytes :=
  utf8 "cannot use " ++ x.display format ++ utf8 " as an integer"

/-- Lets a value pass to an option; where the option is an integer, a number has
to be whole. -/
def pass (wantsInteger : Bool) : Scalar → Except Bytes Scalar
  | .floating format x =>
      if wantsInteger && !x.isWhole then .error (notWhole format x)
      else .ok (.floating format x)
  | scalar => .ok scalar

end Scalar

inductive Reader where
  | bool
  | int
  | uint
  | float
  deriving DecidableEq, Repr

namespace Reader

def word : Reader → Bytes
  | .bool => "bool"
  | .int => "int"
  | .uint => "uint"
  | .float => "float"

private def routine : Reader → Bytes
  | .bool => "ParseBool"
  | .int => "ParseInt"
  | .uint => "ParseUint"
  | .float => "ParseFloat"

end Reader

inductive Mismatch where
  | fractional (path : Bytes) (x : Binary)
  | unreadable (path : Bytes) (reader : Reader) (text : Bytes)
      (fault : NumeralFault)
  | unconvertible (path : Bytes) (typeName : Bytes) (value : Value)
  | notAnObject (path : Bytes) (value : Value)
  -- Names that address no field, or a field that another name takes.
  | unknownKeys (path : Bytes) (keys : List Bytes)

namespace Mismatch

def message : Mismatch → Bytes
  | .fractional path x =>
      utf8 "error decoding '" ++ path ++ utf8 "': " ++
        Scalar.notWhole .double (.finite x)
  | .unreadable path reader text fault =>
      utf8 "cannot parse '" ++ path ++ utf8 "' as " ++ reader.word ++
        utf8 ": " ++ fault.message reader.routine text
  | .unconvertible path typeName value =>
      utf8 "'" ++ path ++ utf8 "' expected type '" ++ typeName ++
        utf8 "', got unconvertible type '" ++ value.typeName ++
          utf8 "', value: '" ++ value.display ++ utf8 "'"
  | .notAnObject path value =>
      utf8 "'" ++ path ++ utf8 "' expected a map, got '" ++
        value.kindName ++ utf8 "'"
  | .unknownKeys path keys =>
      utf8 "'" ++ path ++ utf8 "' has invalid keys: " ++
        Bytes.join ", " (Bytes.sort keys)

/-- The report on all mismatches, in the order of their messages. -/
def report (mismatches : List Mismatch) : Bytes :=
  Bytes.ofNat mismatches.length ++ utf8 " error(s) decoding:\n\n" ++
    Bytes.join "\n"
      (Bytes.sort (mismatches.map fun m => utf8 "* " ++ m.message))

end Mismatch

/-- A result, or every mismatch on the way to it. -/
abbrev Checked (α : Type) := Except (List Mismatch) α

def Checked.both {α β γ : Type} (f : α → β → γ) :
    Checked α → Checked β → Checked γ
  | .ok a, .ok b => .ok (f a b)
  | .error e, .ok _ => .error e
  | .ok _, .error e => .error e
  | .error e, .error e' => .error (e ++ e')

end ModelGateway
