import ModelGateway.Text.Printable
import ModelGateway.Text.Utf8

namespace ModelGateway.Text

def escapeCode (code : Nat) : Bytes :=
  if code == 0x07 then "\\a"
  else if code == 0x08 then "\\b"
  else if code == 0x0c then "\\f"
  else if code == 0x0a then "\\n"
  else if code == 0x0d then "\\r"
  else if code == 0x09 then "\\t"
  else if code == 0x0b then "\\v"
  else if code < 0x20 || code == 0x7f then utf8 "\\x" ++ Bytes.hexDigits 2 code
  else if code < 0x10000 then utf8 "\\u" ++ Bytes.hexDigits 4 code
  else utf8 "\\U" ++ Bytes.hexDigits 8 code

private def quotePiece : Utf8.Piece → Bytes
  | .stray b => utf8 "\\x" ++ Bytes.hexByte b
  | .scalar code =>
      if code == 0x22 || code == 0x5c then [0x5c, code.toUInt8]
      else if isPrintable code then Utf8.encode code
      else escapeCode code

/-- The text between double quotes, unprintable characters and stray bytes
escaped. -/
def quote (s : Bytes) : Bytes :=
  utf8 "\"" ++ (Utf8.pieces s).flatMap quotePiece ++ utf8 "\""

end ModelGateway.Text
