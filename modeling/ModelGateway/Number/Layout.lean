import ModelGateway.Number.Shortest
import ModelGateway.Text.Bytes

namespace ModelGateway

namespace Decimal

private def digitBytes (digits : List Nat) : Bytes :=
  digits.map fun d => (0x30 + d).toUInt8

private def positional (d : Decimal) : Bytes :=
  if d.point ≤ 0 then
    if d.digits.isEmpty then
      "0"
    else
      utf8 "0." ++ List.replicate (-d.point).toNat 0x30 ++ digitBytes d.digits
  else
    let whole := d.point.toNat
    let before := d.digits.take whole
    let after := d.digits.drop whole
    let head := digitBytes before ++ List.replicate (whole - before.length) 0x30
    if after.isEmpty then head else head ++ utf8 "." ++ digitBytes after

private def scientific (width : Nat) (d : Decimal) : Bytes :=
  let mantissa :=
    match d.digits with
    | [] => utf8 "0"
    | [first] => digitBytes [first]
    | first :: rest => digitBytes [first] ++ utf8 "." ++ digitBytes rest
  let exponent : Int := if d.digits.isEmpty then 0 else d.point - 1
  let digits := Bytes.ofNat exponent.natAbs
  mantissa ++ (if exponent < 0 then utf8 "e-" else utf8 "e+") ++
    List.replicate (width - digits.length) 0x30 ++ digits

end Decimal

/-- A rule for writing numbers: the decimal exponents written positionally, from
`lowest` up to but not including `limit`, and the least width of an exponent. -/
structure NumberLayout where
  lowest : Int
  limit : Int
  exponentWidth : Nat

def NumberLayout.write (layout : NumberLayout) (d : Decimal) : Bytes :=
  let exponent := d.point - 1
  if d.digits.isEmpty ||
      (layout.lowest ≤ exponent && exponent < layout.limit) then
    d.positional
  else
    d.scientific layout.exponentWidth

namespace Binary

def signed (x : Binary) (s : Bytes) : Bytes :=
  if x.neg then 0x2d :: s else s

def message : NumberLayout := ⟨-4, 6, 2⟩

def document : NumberLayout := ⟨-6, 21, 1⟩

def write (layout : NumberLayout) (f : Format) (x : Binary) : Bytes :=
  x.signed (layout.write (Decimal.shortest f x))

def plain (x : Binary) : Bytes :=
  x.signed (Decimal.shortest Format.double x).positional

end Binary

namespace Floating

def display (f : Format) : Floating → Bytes
  | .finite x => x.write Binary.message f
  | .infinite neg => if neg then "-Inf" else "+Inf"
  | .notANumber => "NaN"

end Floating

end ModelGateway
