import ModelGateway.Http.Message
import ModelGateway.Text.Blank

namespace ModelGateway

namespace Address

private def isOctet (s : Bytes) : Bool :=
  !s.isEmpty && s.length ≤ 3 && s.all Bytes.isDigit &&
    (s.length == 1 || !Bytes.startsWith "0" s) && Bytes.digitsValue s ≤ 255

private def isShort (s : Bytes) : Bool :=
  let octets := Bytes.splitOn 0x2e s
  octets.length == 4 && octets.all isOctet

/-- Whether groups may end here: a gap stands for at least one group, and
without a gap all groups have to be there. -/
def mayEnd (left : Nat) (gap : Bool) : Bool :=
  (0 < left) == gap

/-- Whether a text consists of groups of hexadecimal digits with colons between
them, `left` at most. Two colons in a row leave a gap, once at most. The last
two groups may be a short address. -/
def areGroups : (left : Nat) → (gap : Bool) → Bytes → Bool
  | 0, _, _ => false
  | left + 1, gap, s =>
      let digits := s.takeWhile fun b => (Bytes.hexValue? b).isSome
      if digits.isEmpty || 4 < digits.length then false
      else
        match s.drop digits.length with
        | [] => mayEnd left gap
        | 0x2e :: _ =>
            1 ≤ left && (gap || left == 1) && isShort s && mayEnd (left - 1) gap
        | 0x3a :: 0x3a :: rest =>
            if gap then false else if rest.isEmpty then mayEnd left true
            else areGroups left true rest
        | 0x3a :: rest => areGroups left gap rest
        | _ => false

private def isLong (s : Bytes) : Bool :=
  match s with
  | 0x3a :: 0x3a :: rest => rest.isEmpty || areGroups 8 true rest
  | _ => areGroups 8 false s

def isValid (s : Bytes) : Bool :=
  isShort s || isLong s

end Address

namespace Client

def first? (field : Bytes) : Option Bytes :=
  let addresses := (Bytes.splitOn 0x2c field).map Bytes.trim
  if addresses.all Address.isValid then addresses.head? else none

/-- The address of the client, given the one that the request comes from. -/
def address (peer : Bytes) (r : Request) : Bytes :=
  ((first? (r.header "X-Forwarded-For")).or
    (first? (r.header "X-Real-Ip"))).getD peer

end Client

def Request.identity (fresh : Bytes) (r : Request) : Bytes :=
  let own := (r.header "X-Request-Id").trim
  if own.isEmpty || 128 < own.length then fresh else own

end ModelGateway
