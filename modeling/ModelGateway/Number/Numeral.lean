import ModelGateway.Number.Binary
import ModelGateway.Text.Quoted

namespace ModelGateway

inductive NumeralFault where
  | malformed
  | outOfRange
  deriving DecidableEq, Repr

def NumeralFault.reason : NumeralFault → Bytes
  | .malformed => "invalid syntax"
  | .outOfRange => "value out of range"

def NumeralFault.message (fault : NumeralFault) (reader : Bytes)
    (text : Bytes) : Bytes :=
  utf8 "strconv." ++ reader ++ utf8 ": parsing " ++ Text.quote text ++
    utf8 ": " ++ fault.reason

namespace Numeral

inductive Before where
  | start
  | digit
  | underscore
  | other
  deriving DecidableEq

private def underscoresFrom (hex : Bool) : Before → Bytes → Bool
  | before, [] => before != .underscore
  | before, b :: s =>
      if Bytes.isDigit b || (hex && (Bytes.hexValue? b).isSome) then
        underscoresFrom hex .digit s
      else if b == 0x5f then
        before == .digit && underscoresFrom hex .underscore s
      else
        before != .underscore && underscoresFrom hex .other s

private def dropSign : Bytes → Bytes
  | b :: s => if b == 0x2b || b == 0x2d then s else b :: s
  | [] => []

/-- Whether the underscores of a number stand between digits; a base mark counts
as a digit. -/
def underscoresSeparate (s : Bytes) : Bool :=
  match dropSign s with
  | zero :: mark :: rest =>
      let base := Bytes.lowerByte mark
      if zero == 0x30 && (base == 0x62 || base == 0x6f || base == 0x78) then
        underscoresFrom (base == 0x78) .digit rest
      else
        underscoresFrom false .start (zero :: mark :: rest)
  | rest => underscoresFrom false .start rest

private def digitValue? (b : UInt8) : Option Nat :=
  if Bytes.isDigit b then some (b.toNat - 0x30)
  else if Bytes.isLetter b then some ((Bytes.lowerByte b).toNat - 0x61 + 10)
  else none

private def baseMark : Bytes → Nat × Bytes
  | zero :: mark :: digit :: rest =>
      if zero == 0x30 then
        let base := Bytes.lowerByte mark
        if base == 0x62 then (2, digit :: rest)
        else if base == 0x6f then (8, digit :: rest)
        else if base == 0x78 then (16, digit :: rest)
        else (8, mark :: digit :: rest)
      else
        (10, zero :: mark :: digit :: rest)
  | zero :: rest => if zero == 0x30 then (8, rest) else (10, zero :: rest)
  | [] => (10, [])

/-- Reads digits of a base up to the first number above `most`, which is out of
range. -/
def readDigits (base most : Nat) (separators : Bool) :
    Nat → Bytes → Except NumeralFault Nat
  | n, [] => .ok n
  | n, b :: s =>
      if separators && b == 0x5f then
        readDigits base most separators n s
      else
        match digitValue? b with
        | none => .error .malformed
        | some d =>
            if d ≥ base then .error .malformed
            else if n * base + d > most then .error .outOfRange
            else readDigits base most separators (n * base + d) s

/-- A whole number from zero to `most`, in the base that it announces. -/
def natural (most : Nat) (s : Bytes) : Except NumeralFault Nat :=
  if s.isEmpty then
    .error .malformed
  else
    let (base, digits) := baseMark s
    match readDigits base most true 0 digits with
    | .ok n =>
        if digits.contains 0x5f && !underscoresSeparate s then .error .malformed
        else .ok n
    | .error fault => .error fault

def decimal (most : Nat) (s : Bytes) : Except NumeralFault Nat :=
  if s.isEmpty then .error .malformed else readDigits 10 most false 0 s

def signed (magnitude : Nat → Bytes → Except NumeralFault Nat)
    (bits : Nat) (s : Bytes) :
    Except NumeralFault Int :=
  let negative := s.head? == some 0x2d
  match magnitude (Nat.pow 2 bits - 1) (dropSign s) with
  | .error fault => .error fault
  | .ok n =>
      if negative then
        if n > Nat.pow 2 (bits - 1) then .error .outOfRange
        else .ok (-(n : Int))
      else if n ≥ Nat.pow 2 (bits - 1) then .error .outOfRange
      else .ok n

def integer (bits : Nat) (s : Bytes) : Except NumeralFault Int :=
  signed natural bits s

def decimalInteger (bits : Nat) (s : Bytes) : Except NumeralFault Int :=
  signed decimal bits s

structure Mantissa where
  value : Nat := 0
  digits : Nat := 0
  fraction : Nat := 0
  point : Bool := false
  deriving Repr

def Mantissa.push (base d : Nat) (m : Mantissa) : Mantissa :=
  { m with
    value := m.value * base + d
    digits := m.digits + 1
    fraction := if m.point then m.fraction + 1 else m.fraction }

private def readMantissa (hex : Bool) : Mantissa → Bytes → Mantissa × Bytes
  | m, [] => (m, [])
  | m, b :: s =>
      if b == 0x5f then
        readMantissa hex m s
      else if b == 0x2e then
        if m.point then (m, b :: s)
        else readMantissa hex { m with point := true } s
      else
        match (if hex then Bytes.hexValue? b else if Bytes.isDigit b then
          some (b.toNat - 0x30) else none) with
        | some d => readMantissa hex (m.push (if hex then 16 else 10) d) s
        | none => (m, b :: s)

/-- The digits of an exponent; one of ten thousand and more grows no further, as
no format reaches it. -/
def exponentValue (s : Bytes) : Nat :=
  s.foldl (fun e b => if b == 0x5f then e else if e < 10000 then
    e * 10 + (b.toNat - 0x30) else e) 0

private def exponent? (mark : UInt8) : Bytes → Option Int
  | [] => none
  | b :: s =>
      if Bytes.lowerByte b != mark then
        none
      else
        let digits := dropSign s
        match digits.head? with
        | none => none
        | some d =>
            if Bytes.isDigit d &&
                digits.all (fun b => Bytes.isDigit b || b == 0x5f) then
              let e : Int := exponentValue digits
              some (if s.head? == some 0x2d then -e else e)
            else
              none

private def quotient (value : Nat) (unit : Nat) (power : Int) : Nat × Nat :=
  match power with
  | .ofNat k => (value * Nat.pow unit k, 1)
  | .negSucc k => (value, Nat.pow unit (k + 1))

def fraction? (s : Bytes) : Option (Nat × Nat) :=
  let (hex, body) :=
    match s with
    | zero :: mark :: digit :: rest =>
        if zero == 0x30 && Bytes.lowerByte mark == 0x78 then
          (true, digit :: rest) else (false, s)
    | _ => (false, s)
  let (m, rest) := readMantissa hex {} body
  if m.digits == 0 then
    none
  else if hex then
    (exponent? 0x70 rest).map fun e => quotient m.value 2 (e - 4 * m.fraction)
  else if rest.isEmpty then
    some (quotient m.value 10 (-m.fraction))
  else
    (exponent? 0x65 rest).map fun e => quotient m.value 10 (e - m.fraction)

private def special? (s : Bytes) : Option Floating :=
  let name := Bytes.lower (dropSign s)
  if name == utf8 "inf" || name == utf8 "infinity" then
    some (.infinite (s.head? == some 0x2d))
  else if Bytes.lower s == utf8 "nan" then
    some .notANumber
  else
    none

end Numeral

def Format.read (f : Format) (s : Bytes) : Except NumeralFault Floating :=
  match Numeral.special? s with
  | some x => .ok x
  | none =>
      match Numeral.fraction? (Numeral.dropSign s) with
      | none => .error .malformed
      | some (num, den) =>
          if s.contains 0x5f && !Numeral.underscoresSeparate s then
            .error .malformed
          else
            match f.round (s.head? == some 0x2d) num den with
            | .infinite _ => .error .outOfRange
            | x => .ok x

end ModelGateway
