import ModelGateway.Text.Quoted

namespace ModelGateway

namespace Percent

def decode : Bytes → Except Bytes Bytes
  | [] => .ok []
  | 0x25 :: a :: b :: rest =>
      match Bytes.hexValue? a, Bytes.hexValue? b with
      | some high, some low => do
          let bytes ← decode rest
          return (high * 16 + low).toUInt8 :: bytes
      | _, _ => .error [0x25, a, b]
  | 0x25 :: rest => .error (0x25 :: rest)
  | b :: rest => do
      let bytes ← decode rest
      return b :: bytes

end Percent

structure Target where
  path : Bytes
  -- The path as it was sent.
  sent : Bytes
  query : Option Bytes := none
  deriving DecidableEq, Repr

namespace Target

def read? (text : Bytes) : Option Target :=
  let (sent, query) :=
    match Bytes.cut? 0x3f text with
    | some (sent, query) => (sent, some query)
    | none => (text, none)
  match Percent.decode sent with
  | .ok path => some { path, sent, query }
  | .error _ => none

end Target

inductive QueryFault where
  | semicolon
  | badEscape (escape : Bytes)
  deriving DecidableEq, Repr

namespace QueryFault

def message : QueryFault → Bytes
  | .semicolon => "invalid semicolon separator in query"
  | .badEscape escape => utf8 "invalid URL escape " ++ Text.quote escape

private def ofText? (s : Bytes) : Option QueryFault :=
  match Percent.decode s with
  | .ok _ => none
  | .error escape => some (.badEscape escape)

private def ofParameter? (parameter : Bytes) : Option QueryFault :=
  match Bytes.cut? 0x3d parameter with
  | none => ofText? parameter
  | some (name, value) => (ofText? name).or (ofText? value)

/-- What is wrong with a query: a semicolon anywhere, or else its first bad
escape. -/
def ofQuery? (query : Bytes) : Option QueryFault :=
  let parameters := Bytes.splitOn 0x26 query
  if query.contains 0x3b then some .semicolon
  else parameters.findSome? ofParameter?

end QueryFault

end ModelGateway
