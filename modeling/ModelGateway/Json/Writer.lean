import ModelGateway.Json.Basic

namespace ModelGateway.Document

def escapeCode (code : Nat) : Bytes :=
  if code == 0x22 then "\\\""
  else if code == 0x5c then "\\\\"
  else if code == 0x08 then "\\b"
  else if code == 0x0c then "\\f"
  else if code == 0x0a then "\\n"
  else if code == 0x0d then "\\r"
  else if code == 0x09 then "\\t"
  else if code < 0x20 || code == 0x3c || code == 0x3e || code == 0x26 ||
      code == 0x2028 || code == 0x2029 then
    utf8 "\\u" ++ Bytes.hexDigits 4 code
  else Utf8.encode code

/-- A character as it is shown, and a stray byte as the escape of the
replacement character. -/
def escapePiece : Utf8.Piece → Bytes
  | .scalar code => escapeCode code
  | .stray _ => "\\ufffd"

def escape (s : Bytes) : Bytes :=
  (Utf8.pieces s).flatMap escapePiece

def writeString (s : Bytes) : Bytes :=
  0x22 :: escape s ++ [0x22]

mutual

def write : Document → Bytes
  | .null => "null"
  | .bool true => "true"
  | .bool false => "false"
  | .number n => n
  | .string s => writeString s
  | .array items => 0x5b :: writeItems items ++ [0x5d]
  | .object fields => 0x7b :: writeFields fields ++ [0x7d]

private def writeItems : List Document → Bytes
  | [] => []
  | [item] => item.write
  | item :: rest => item.write ++ 0x2c :: writeItems rest

def writeFields : List (Bytes × Document) → Bytes
  | [] => []
  | [(key, value)] => writeString key ++ 0x3a :: value.write
  | (key, value) :: rest =>
      writeString key ++ 0x3a :: value.write ++ 0x2c :: writeFields rest

end

end ModelGateway.Document
