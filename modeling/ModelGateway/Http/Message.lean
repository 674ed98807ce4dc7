import ModelGateway.Http.Target

namespace ModelGateway

abbrev Headers := List (Bytes × Bytes)

namespace Headers

def isNameByte (b : UInt8) : Bool :=
  Bytes.isLetter b || Bytes.isDigit b || (utf8 "!#$%&'*+-.^_`|~").contains b

def isValueByte (b : UInt8) : Bool :=
  b == 0x09 || (0x20 ≤ b && b != 0x7f)

def capitalize (start : Bool) : Bytes → Bytes
  | [] => []
  | b :: s =>
      (if start then Bytes.upperByte b else Bytes.lowerByte b) ::
        capitalize (b == 0x2d) s

/-- The usual spelling of a field's name; a text that cannot be one stays as it
is. -/
def canonicalName (name : Bytes) : Bytes :=
  if name.all isNameByte then capitalize true name else name

def get? (name : Bytes) (headers : Headers) : Option Bytes :=
  headers.lookup name

/-- The memory that fields are charged with: their values, and for each name its
length and 200 bytes. -/
def weight : Headers → Nat
  | [] => 0
  | (name, value) :: rest =>
      let named := rest.any (·.1 == name)
      value.length + (if named then 0 else name.length + 200) + weight rest

def get (name : Bytes) (headers : Headers) : Bytes :=
  (headers.get? name).getD []

end Headers

structure Request where
  method : Bytes
  target : Target
  headers : Headers := []
  body : Bytes := []

namespace Request

def header (r : Request) (name : Bytes) : Bytes :=
  r.headers.get name

def isRead (r : Request) : Bool :=
  r.method == utf8 "GET" || r.method == utf8 "HEAD"

end Request

structure Response where
  status : Nat
  headers : Headers := []
  body : Bytes := []
  deriving DecidableEq, Repr

namespace Response

def plain (status : Nat) (message : Bytes) : Response where
  status
  headers :=
    [("Content-Type", "text/plain; charset=utf-8"),
      ("X-Content-Type-Options", "nosniff")]
  body := message ++ utf8 "\n"

end Response

structure Incoming where
  bytes : Bytes
  -- Whether a limit cuts the body off here.
  cut : Bool

namespace Incoming

/-- A body of which at most `limit` bytes may be read. -/
def limited (limit : Int) (body : Bytes) : Incoming where
  bytes := body.take limit.toNat
  cut := limit.toNat < body.length

end Incoming

end ModelGateway
