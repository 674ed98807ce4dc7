/-!
Binary floating-point numbers, exactly: a number is a signed whole multiple of a
power of two, and a format says which multiples it holds and how a quotient is
rounded to one of them.
-/

namespace ModelGateway

/-- The number `mant * 2 ^ exp`, negated if `neg`. Zero keeps its sign. -/
structure Binary where
  neg : Bool
  mant : Nat
  exp : Int
  deriving DecidableEq, Repr

inductive Floating where
  | finite (x : Binary)
  | infinite (neg : Bool)
  | notANumber
  deriving DecidableEq, Repr

structure Format where
  bits : Nat
  least : Int
  greatest : Int
  deriving DecidableEq, Repr

namespace Format

def double : Format := ⟨53, -1074, 971⟩

def single : Format := ⟨24, -149, 104⟩

/-- Rounds `num / den` to the nearest whole number, a half to the even one. -/
def roundQuotient (num den : Nat) : Nat :=
  let floor := num / den
  let twice := 2 * (num % den)
  if twice < den then floor
  else if den < twice then floor + 1
  else if floor % 2 == 0 then floor
  else floor + 1

def scale (num den : Nat) (shift : Int) : Nat × Nat :=
  match shift with
  | .ofNat k => (num, den * Nat.pow 2 k)
  | .negSucc k => (num * Nat.pow 2 (k + 1), den)

/-- The exponent of the last bit that the significand of `num / den` has in the
format. -/
def lastPlace (f : Format) (num den : Nat) : Int :=
  let guess : Int := (num.log2 : Int) - den.log2 - f.bits
  let (n, d) := scale num den guess
  max f.least (if n ≥ Nat.pow 2 f.bits * d then guess + 1 else guess)

/-- Rounds the quotient `num / den` into the format, a tie to the even
significand. -/
def round (f : Format) (neg : Bool) (num den : Nat) : Floating :=
  if num == 0 then
    .finite ⟨neg, 0, f.least⟩
  else
    let place := f.lastPlace num den
    let (n, d) := scale num den place
    let mant := roundQuotient n d
    let (mant, place) := if mant == Nat.pow 2 f.bits then
      (Nat.pow 2 (f.bits - 1), place + 1) else (mant, place)
    if place > f.greatest then .infinite neg else .finite ⟨neg, mant, place⟩

end Format

namespace Binary

def zero : Binary := ⟨false, 0, Format.double.least⟩

def isZero (x : Binary) : Bool := x.mant == 0

def ratio (x : Binary) : Nat × Nat :=
  match x.exp with
  | .ofNat k => (x.mant * Nat.pow 2 k, 1)
  | .negSucc k => (x.mant, Nat.pow 2 (k + 1))

def isWhole (x : Binary) : Bool :=
  let (num, den) := x.ratio
  num % den == 0

def trunc (x : Binary) : Int :=
  let (num, den) := x.ratio
  if x.neg then -((num / den : Nat) : Int) else ((num / den : Nat) : Int)

def convert (f : Format) (x : Binary) : Floating :=
  let (num, den) := x.ratio
  f.round x.neg num den

end Binary

namespace Floating

def isWhole : Floating → Bool
  | .finite x => x.isWhole
  | _ => false

end Floating

def Format.ofInt (f : Format) (n : Int) : Floating :=
  f.round (n < 0) n.natAbs 1

end ModelGateway
