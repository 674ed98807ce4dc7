import ModelGateway.Number.Binary
import ModelGateway.Text.Bytes

namespace ModelGateway

abbrev Duration := Int

inductive DurationFault where
  | malformed (text : Bytes)
  | missingUnit (text : Bytes)
  | unknownUnit (unit : Bytes) (text : Bytes)
  deriving DecidableEq, Repr

namespace DurationFault

def quote (s : Bytes) : Bytes :=
  let shown := fun b : UInt8 =>
    if b < 0x20 || 0x80 ≤ b then utf8 "\\x" ++ Bytes.hexByte b
    else if b == 0x22 || b == 0x5c then [0x5c, b]
    else [b]
  utf8 "\"" ++ s.flatMap shown ++ utf8 "\""

def message : DurationFault → Bytes
  | .malformed text => utf8 "time: invalid duration " ++ quote text
  | .missingUnit text => utf8 "time: missing unit in duration " ++ quote text
  | .unknownUnit unit text =>
      utf8 "time: unknown unit " ++ quote unit ++
        utf8 " in duration " ++ quote text

end DurationFault

namespace Duration

def units : List (Bytes × Nat) :=
  [("ns", 1), ("us", 1000), ("µs", 1000), ("μs", 1000), ("ms", 1000000),
    ("s", 1000000000), ("m", 60000000000), ("h", 3600000000000)]

def unit? (name : Bytes) : Option Nat :=
  (units.find? (·.1 == name)).map Prod.snd

def most : Nat := 0x8000000000000000

private def whole? : Nat → Bytes → Option Nat
  | n, [] => some n
  | n, b :: s =>
      if n > most / 10 then none
      else
        let next := n * 10 + (b.toNat - 0x30)
        if next > most then none else whole? next s

/-- The digits of a fraction as far as they fit a word, with the power of ten
that they are counted in. -/
def fractionDigits : Nat → Nat → Bytes → Nat × Nat
  | n, scale, [] => (n, scale)
  | n, scale, b :: s =>
      let next := n * 10 + (b.toNat - 0x30)
      if n > (most - 1) / 10 || next > most then (n, scale)
      else fractionDigits next (scale * 10) s

/-- The nanoseconds of `n / scale` units, computed in doubles and cut to a whole
number. -/
def fractionOf (n scale unit : Nat) : Nat :=
  match Format.double.round false n 1, Format.double.round false unit scale with
  | .finite x, .finite y =>
      let (xn, xd) := x.ratio
      let (yn, yd) := y.ratio
      match Format.double.round false (xn * yn) (xd * yd) with
      | .finite z => z.trunc.toNat
      | _ => 0
  | _, _ => 0

structure Term where
  digits : Bytes
  fraction : Bytes
  unit : Bytes
  rest : Bytes

private def isUnitByte (b : UInt8) : Bool :=
  !(b == 0x2e || Bytes.isDigit b)

private def term (s : Bytes) : Term :=
  let digits := s.takeWhile Bytes.isDigit
  let afterDigits := s.dropWhile Bytes.isDigit
  let (fraction, afterFraction) :=
    match afterDigits with
    | 0x2e :: t => (t.takeWhile Bytes.isDigit, t.dropWhile Bytes.isDigit)
    | t => ([], t)
  ⟨digits, fraction, afterFraction.takeWhile isUnitByte,
    afterFraction.dropWhile isUnitByte⟩

def Term.value (text : Bytes) (t : Term) : Except DurationFault Nat :=
  match whole? 0 t.digits with
  | none => .error (.malformed text)
  | some n =>
      if t.digits.isEmpty && t.fraction.isEmpty then .error (.malformed text)
      else if t.unit.isEmpty then .error (.missingUnit text)
      else
        match unit? t.unit with
        | none => .error (.unknownUnit t.unit text)
        | some unit =>
            let (f, scale) := fractionDigits 0 1 t.fraction
            if n > most / unit || n * unit + fractionOf f scale unit > most then
              .error (.malformed text)
            else .ok (n * unit + fractionOf f scale unit)

/-- Adds up the terms of a sum. Each term takes at least one byte, which bounds
their number. -/
def sum (text : Bytes) : Nat → Nat → Bytes → Except DurationFault Nat
  | _, total, [] => .ok total
  | 0, _, _ :: _ => .error (.malformed text)
  | fuel + 1, total, s => do
      let t := term s
      let value ← t.value text
      let total := (total + value) % 0x10000000000000000
      if total > most then .error (.malformed text)
      else sum text fuel total t.rest

def read (text : Bytes) : Except DurationFault Duration :=
  let negative := text.head? == some 0x2d
  let s := if negative || text.head? == some 0x2b then text.drop 1 else text
  if s == utf8 "0" then
    .ok 0
  else if s.isEmpty then
    .error (.malformed text)
  else do
    let n ← sum text s.length 0 s
    if negative then .ok (-(n : Int))
    else if n ≥ most then .error (.malformed text)
    else .ok n

def decimal (places n : Nat) : Bytes :=
  let fraction := Bytes.ofNat (Nat.pow 10 places + n % Nat.pow 10 places)
  let digits := Bytes.dropEndWhile (· == 0x30) (fraction.drop 1)
  Bytes.ofNat (n / Nat.pow 10 places) ++ if digits.isEmpty then
    [] else 0x2e :: digits

/-- The text of a magnitude: below a second in one small unit, else in hours,
minutes and seconds. -/
def magnitude (n : Nat) : Bytes :=
  if n == 0 then "0s"
  else if n < 1000 then Bytes.ofNat n ++ utf8 "ns"
  else if n < 1000000 then decimal 3 n ++ utf8 "µs"
  else if n < 1000000000 then decimal 6 n ++ utf8 "ms"
  else
    let minutes := n / 60000000000
    let seconds := decimal 9 (n % 60000000000) ++ utf8 "s"
    if minutes == 0 then seconds
    else if minutes < 60 then Bytes.ofNat minutes ++ utf8 "m" ++ seconds
    else Bytes.ofNat (minutes / 60) ++ utf8 "h" ++ Bytes.ofNat (minutes % 60) ++
      utf8 "m" ++ seconds

def text (d : Duration) : Bytes :=
  if d < 0 then 0x2d :: magnitude d.natAbs else magnitude d.natAbs

end Duration

end ModelGateway
