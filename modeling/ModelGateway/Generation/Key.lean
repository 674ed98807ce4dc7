import ModelGateway.Text.Utf8

namespace ModelGateway.Key

/-- A part of a name with its first byte in upper case. A byte above 127 has no
upper case of its own and becomes the replacement character. -/
def capitalize : Bytes → Bytes
  | [] => []
  | b :: rest =>
      (if b < 0x80 then [Bytes.upperByte b]
        else Utf8.encode Utf8.replacement) ++ rest

def camel (key : Bytes) : Bytes :=
  match Bytes.splitOn 0x5f key with
  | [] => []
  | first :: parts => first ++ parts.flatMap capitalize

/-- How the value of an option is treated when names are respelt. -/
inductive Role where
  -- Its names are respelt.
  | ordinary
  -- It is the caller's own and stays as it is.
  | verbatim
  -- Its own names are the caller's, the values below them are options.
  | named
  deriving DecidableEq, Repr

def verbatimNames : List Bytes :=
  ["responseJsonSchema", "parametersJsonSchema", "labels", "default", "example"]

def namedNames : List Bytes := ["properties"]

def role (name : Bytes) : Role :=
  if verbatimNames.contains name then .verbatim
  else if namedNames.contains name then .named
  else .ordinary

/-- A character as names are compared by it: letter case is ignored, and the two
letters that fold into the ASCII range from outside of it, the Kelvin sign and
the long s, count as `k` and `s`. -/
def foldCode (code : Nat) : Nat :=
  if 0x41 ≤ code && code ≤ 0x5a then code + 32
  else if code == 0x212a then 0x6b
  else if code == 0x17f then 0x73
  else code

def foldEq (a b : Bytes) : Bool :=
  (Utf8.codes a).map foldCode == (Utf8.codes b).map foldCode

end ModelGateway.Key
