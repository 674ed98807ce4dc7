import ModelGateway.Http.Target
import ModelGateway.Text.Blank

namespace ModelGateway

structure MediaType where
  name : Bytes
  -- The parameters as they were sent, their names in small letters.
  parameters : List (Bytes × Bytes) := []
  deriving DecidableEq, Repr

namespace MediaType

def isSpecial (b : UInt8) : Bool :=
  (utf8 "()<>@,;:\\\"/[]?=").contains b

def isTokenByte (b : UInt8) : Bool :=
  0x20 < b && b < 0x7f && !isSpecial b

def token (s : Bytes) : Bytes × Bytes :=
  s.span isTokenByte

def isName (s : Bytes) : Bool :=
  let isToken := fun t : Bytes => !t.isEmpty && t.all isTokenByte
  match Bytes.cut? 0x2f s with
  | none => isToken s
  | some (kind, detail) => isToken kind && isToken detail

/-- Reads on to the closing quote. A backslash counts only before a special
character, so that paths with backslashes come through. -/
def quoted? (read : Bytes) : Bytes → Option (Bytes × Bytes)
  | [] => none
  | 0x22 :: rest => some (read.reverse, rest)
  | [b] => if b == 0x0d || b == 0x0a then none else quoted? (b :: read) []
  | b :: c :: rest =>
      if b == 0x5c && isSpecial c then quoted? (c :: read) rest
      else if b == 0x0d || b == 0x0a then none
      else quoted? (b :: read) (c :: rest)

def value? : Bytes → Option (Bytes × Bytes)
  | 0x22 :: rest => quoted? [] rest
  | s =>
      let (value, rest) := token s
      if value.isEmpty then none else some (value, rest)

def afterMark? (mark : UInt8) (s : Bytes) : Option Bytes :=
  match s.trimStart with
  | [] => none
  | b :: rest => if b == mark then some (Bytes.trimStart rest) else none

def parameter? (s : Bytes) : Option ((Bytes × Bytes) × Bytes) := do
  let s ← afterMark? 0x3b s
  let (name, s) := token s
  if name.isEmpty then none
  else
    let s ← afterMark? 0x3d s
    let (value, s) ← value? s
    return ((name.lower, value), s)

/-- The parameters of a text. Each takes up at least one byte, so `most` is
enough if it is the length of the text. One semicolon too many does no harm. -/
def parameters? : (most : Nat) → Bytes → Option (List (Bytes × Bytes))
  | 0, s => if s.trim.isEmpty then some [] else none
  | most + 1, s =>
      if s.trim.isEmpty then some []
      else
        match parameter? s with
        | some (parameter, rest) => (parameters? most rest).map (parameter :: ·)
        | none => if s.trim == utf8 ";" then some [] else none

/-- Whether parameters of the same name have the same value. -/
def agree : List (Bytes × Bytes) → Bool
  | [] => true
  | (name, value) :: rest =>
      rest.all (fun (n, v) => n != name || v == value) && agree rest

def read? (text : Bytes) : Option MediaType :=
  let start := text.takeWhile (· != 0x3b)
  let name := (Bytes.lowerText start).trim
  if !isName name then none
  else
    match parameters? text.length (text.drop start.length) with
    | none => none
    | some parameters =>
        if agree parameters then some { name, parameters } else none

/-- The text of an escaped value that names its character set first; only sets
that agree with UTF-8 are known. -/
def unescape? (value : Bytes) : Option Bytes := do
  let (charset, rest) ← Bytes.cut? 0x27 value
  let (_, text) ← Bytes.cut? 0x27 rest
  let charset := charset.lowerText
  if charset == utf8 "us-ascii" || charset == utf8 "utf-8" then
    (Percent.decode text).toOption
  else none

private def pieces? (t : MediaType) (name : Bytes) :
    (most n : Nat) → Option Bytes
  | 0, _ => none
  | most + 1, n =>
      let key := name ++ utf8 "*" ++ Bytes.ofNat n
      let piece :=
        match t.parameters.lookup key with
        | some plain => some plain
        | none =>
            (t.parameters.lookup (key ++ utf8 "*")).map fun escaped =>
              (if n == 0 then unescape? escaped
                else (Percent.decode escaped).toOption).getD []
      piece.map (· ++ (pieces? t name most (n + 1)).getD [])

/-- The value of a parameter. An escaped form wins over pieces, and pieces win
over the plain form. -/
def get? (name : Bytes) (t : MediaType) : Option Bytes :=
  let whole :=
    match t.parameters.lookup (name ++ utf8 "*") with
    | some escaped => unescape? escaped
    | none => t.pieces? name t.parameters.length 0
  whole.or (t.parameters.lookup name)

end MediaType

end ModelGateway
