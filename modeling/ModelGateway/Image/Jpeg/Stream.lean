import ModelGateway.Image.Fault

namespace ModelGateway.Jpeg

def invalid {α : Type} (what : String) : Except ImageFault α :=
  .error (.jpeg (.invalid what))

def unsupported {α : Type} (what : String) : Except ImageFault α :=
  .error (.jpeg (.unsupported what))

structure Stream where
  file : Array UInt8
  position : Nat := 0
  held : Nat := 0
  count : Nat := 0
  -- The bytes that the last coded byte stands on; zero if it cannot be given
  -- back.
  last : Nat := 0

inductive Exhausted where
  | ended
  | marker
  deriving DecidableEq, Repr

namespace Exhausted

def fault : Exhausted → ImageFault
  | .ended => .jpeg (.invalid "short Huffman data")
  | .marker => .jpeg (.invalid "missing 0xff00 sequence")

end Exhausted

namespace Stream

def byte (s : Stream) : Except ImageFault (UInt8 × Stream) :=
  match s.file[s.position]? with
  | some b => .ok (b, { s with position := s.position + 1, last := 0 })
  | none => .error .truncated

/-- Gives back the last coded byte if none of its bits was used. -/
def settle (s : Stream) : Stream :=
  if s.last != 0 && s.count ≥ 8 then
    { s with
      position := s.position - s.last
      held := s.held / 256
      count := s.count - 8
      last := 0 }
  else
    { s with last := 0 }

def bytes (n : Nat) (s : Stream) : Except ImageFault (Array UInt8 × Stream) :=
  let s := s.settle
  if s.position + n ≤ s.file.size then
    .ok (s.file.extract s.position (s.position + n),
      { s with position := s.position + n })
  else
    .error .truncated

def skip (n : Nat) (s : Stream) : Except ImageFault Stream :=
  (s.bytes n).map Prod.snd

def restart (s : Stream) : Stream :=
  { s with held := 0, count := 0 }

private def codedByte (s : Stream) : Except Exhausted (UInt8 × Stream) :=
  match s.file[s.position]? with
  | none => .error .ended
  | some 0xff =>
      match s.file[s.position + 1]? with
      | none => .error .ended
      | some 0 => .ok (0xff, { s with position := s.position + 2, last := 2 })
      | some _ => .error .marker
  | some b => .ok (b, { s with position := s.position + 1, last := 1 })

def fill (n : Nat) (s : Stream) : Except Exhausted Stream :=
  go n s
where
  go : Nat → Stream → Except Exhausted Stream
    | 0, s => .ok s
    | fuel + 1, s =>
        if n ≤ s.count then .ok s
        else
          match s.codedByte with
          | .error e => .error e
          | .ok (b, s) =>
              go fuel
                { s with held := s.held * 256 + b.toNat, count := s.count + 8 }

def cut (n : Nat) (s : Stream) : Nat × Stream :=
  let rest := s.count - n
  (s.held / Nat.pow 2 rest,
    { s with held := s.held % Nat.pow 2 rest, count := rest })

def bits (n : Nat) (s : Stream) : Except ImageFault (Nat × Stream) :=
  match s.fill n with
  | .error e => .error e.fault
  | .ok s => .ok (s.cut n)

/-- Takes a number of `n` bits with a sign: those that start with zero stand
below zero. -/
def signed (n : Nat) (s : Stream) : Except ImageFault (Int32 × Stream) := do
  let (x, s) ← s.bits n
  if 2 * x < Nat.pow 2 n && n != 0 then
    return (Int32.ofInt ((x : Int) - Nat.pow 2 n + 1), s)
  else
    return (Int32.ofInt x, s)

end Stream

end ModelGateway.Jpeg
