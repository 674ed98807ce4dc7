import ModelGateway.Json.Basic

namespace ModelGateway.Value

mutual

def display : Value → Bytes
  | .null => "<nil>"
  | .bool true => "true"
  | .bool false => "false"
  | .number x => x.write Binary.message .double
  | .string s => s
  | .array items => 0x5b :: Bytes.join " " (displayItems items) ++ [0x5d]
  | .object fields =>
      let shown := (displayFields fields).mergeSort fun a b => Bytes.le a.1 b.1
      utf8 "map[" ++ Bytes.join " "
        (shown.map fun (key, text) => key ++ 0x3a :: text) ++ [0x5d]

private def displayItems : List Value → List Bytes
  | [] => []
  | item :: rest => item.display :: displayItems rest

private def displayFields : List (Bytes × Value) → List (Bytes × Bytes)
  | [] => []
  | (key, value) :: rest => (key, value.display) :: displayFields rest

end

def typeName : Value → Bytes
  | .null => "<nil>"
  | .bool _ => "bool"
  | .number _ => "float64"
  | .string _ => "string"
  | .array _ => "[]interface \x7b\x7d"
  | .object _ => "map[string]interface \x7b\x7d"

def kindName : Value → Bytes
  | .array _ => "slice"
  | .object _ => "map"
  | v => v.typeName

end ModelGateway.Value
