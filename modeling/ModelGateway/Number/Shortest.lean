import ModelGateway.Number.Binary

namespace ModelGateway

/-- The number `0.d₁d₂… * 10 ^ point` of the digits. Zero has no digits. -/
structure Decimal where
  digits : List Nat
  point : Int
  deriving DecidableEq, Repr

namespace Decimal

def power (k : Int) : Nat × Nat :=
  match k with
  | .ofNat k => (Nat.pow 10 k, 1)
  | .negSucc k => (1, Nat.pow 10 (k + 1))

def less (a b c d : Nat) : Bool := a * d < c * b

/-- The `k` with `10 ^ (k - 1) ≤ num / den < 10 ^ k`, for a positive
quotient. -/
def pointOf (num den : Nat) : Int :=
  let guess : Int := Int.fdiv (((num.log2 : Int) - den.log2) * 30103) 100000
  let below := fun k : Int => let (n, d) := power k; less num den n d
  if below (guess - 1) then guess - 1
  else if below guess then guess
  else if below (guess + 1) then guess + 1
  else guess + 2

private def significant (n : Nat) : List Nat :=
  (((Nat.toDigits 10 n).map fun c => c.toNat - 48).reverse.dropWhile
    (· == 0)).reverse

/-- The reals that round to one number: the number itself and both ends, as
multiples of `1 / den`. -/
structure Interval where
  low : Nat
  value : Nat
  high : Nat
  den : Nat
  closed : Bool

def interval (f : Format) (x : Binary) : Interval :=
  let narrow := x.mant == Nat.pow 2 (f.bits - 1) && x.exp > f.least
  let low := if narrow then 4 * x.mant - 1 else 4 * x.mant - 2
  let (num, den) := Format.scale 1 1 (2 - x.exp)
  ⟨low * num, 4 * x.mant * num, (4 * x.mant + 2) * num, den, x.mant % 2 == 0⟩

def Interval.holds (i : Interval) (n num den : Nat) : Bool :=
  let a := n * num * i.den
  if i.closed then i.low * den ≤ a && a ≤ i.high * den
  else i.low * den < a && a < i.high * den

private def Interval.nearest? (i : Interval) (place : Int) : Option Nat :=
  let (num, den) := power place
  let floor := i.value * den / (i.den * num)
  match i.holds floor num den, i.holds (floor + 1) num den with
  | true, true => some (Format.roundQuotient (i.value * den) (i.den * num))
  | true, false => some floor
  | false, true => some (floor + 1)
  | false, false => none

private def Interval.search (i : Interval) (point : Int) : Nat → Nat → Decimal
  | 0, _ => ⟨[], 0⟩
  | fuel + 1, count =>
      match i.nearest? (point - count) with
      | some n =>
          let digits := significant n
          ⟨digits, point + ((Nat.toDigits 10 n).length - count : Int)⟩
      | none => i.search point fuel (count + 1)

/-- The fewest digits that read back as `x` in the format, and of those the
nearest. -/
def shortest (f : Format) (x : Binary) : Decimal :=
  if x.mant == 0 then
    ⟨[], 0⟩
  else
    let i := interval f x
    i.search (pointOf i.value i.den) 20 1

end Decimal

end ModelGateway
