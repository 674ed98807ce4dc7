import ModelGateway.Image.Jpeg.Block
import ModelGateway.Image.Jpeg.Code

namespace ModelGateway.Jpeg

/-- A component of the picture: its name, how many blocks of it stand side by
side and above each other in a unit, and which steps its coefficients have. -/
structure Component where
  name : UInt8
  across : Nat
  down : Nat
  steps : Nat
  deriving Repr, Inhabited

inductive Process where
  | baseline
  | extended
  | progressive
  deriving DecidableEq, Repr

structure Frame where
  process : Process
  width : Nat
  height : Nat
  components : Array Component

namespace Frame

def leading (f : Frame) : Component := f.components.getD 0 default

def unitsAcross (f : Frame) : Nat :=
  let size := 8 * f.leading.across
  (f.width + size - 1) / size

def unitsDown (f : Frame) : Nat :=
  let size := 8 * f.leading.down
  (f.height + size - 1) / size

private def subsampling {α : Type} : Except ImageFault α :=
  unsupported "luma/chroma subsampling ratio"

def component (total : Nat) (before : Array Component)
    (name shape steps : UInt8) :
    Except ImageFault Component := do
  if before.any (·.name == name) then invalid "repeated component identifier"
  if steps > 3 then invalid "bad Tq value"
  let across := shape.toNat / 16
  let down := shape.toNat % 16
  if across < 1 || 4 < across || down < 1 || 4 < down then
    invalid "luma/chroma subsampling ratio"
  if across == 3 || down == 3 then subsampling
  let made := Component.mk name across down steps.toNat
  let first := before.getD 0 made
  match total, before.size with
  | 1, _ => return Component.mk name 1 1 steps.toNat
  | 3, 0 => if down == 4 then subsampling else return made
  | 3, 1 =>
      if first.across % across != 0 || first.down % down != 0 then subsampling
      else return made
  | 3, _ =>
      let second := before.getD 1 made
      if second.across != across || second.down != down then subsampling
      else return made
  | _, 0 => if shape != 0x11 && shape != 0x22 then subsampling else return made
  | _, 1 | _, 2 => if shape != 0x11 then subsampling else return made
  | _, _ =>
      if first.across != across || first.down != down then subsampling
      else return made

def total : (n : Nat) → Except ImageFault Nat
  | 9 => .ok 1
  | 15 => .ok 3
  | 18 => .ok 4
  | _ => unsupported "number of components"

def read (process : Process) (n : Nat) (s : Stream) :
    Except ImageFault (Frame × Stream) := do
  let total ← total n
  let (data, s) ← s.bytes n
  let at' := fun i => data.getD i 0
  if at' 0 != 8 then unsupported "precision"
  if (at' 5).toNat != total then invalid "SOF has wrong length"
  let components ← (List.range total).foldlM
    (fun before i => do
      let c ← component total before (at' (6 + 3 * i)) (at' (7 + 3 * i))
        (at' (8 + 3 * i))
      return before.push c)
    (#[] : Array Component)
  return (
    { process, components
      height := (at' 1).toNat * 256 + (at' 2).toNat
      width := (at' 3).toNat * 256 + (at' 4).toNat }, s)

end Frame

abbrev Steps := Array (Array Int32)

namespace Steps

def zero : Steps := Array.replicate 4 (Array.replicate 64 0)

def read :
    (fuel : Nat) → (n : Nat) → Steps → Stream →
      Except ImageFault (Steps × Stream)
  | 0, _, t, s => .ok (t, s)
  | fuel + 1, n, t, s => do
      if n == 0 then return (t, s)
      let (head, s) ← s.byte
      let n := n - 1
      let kind := head.toNat % 16
      if kind > 3 then invalid "bad Tq value"
      match head.toNat / 16 with
      | 0 =>
          if n < 64 then tooLong n t s
          else
            let (data, s) ← s.bytes 64
            read fuel (n - 64)
              (t.setIfInBounds kind (data.map fun b => Int32.ofNat b.toNat)) s
      | 1 =>
          if n < 128 then tooLong n t s
          else
            let (data, s) ← s.bytes 128
            let step := fun i =>
              Int32.ofNat ((data.getD (2 * i) 0).toNat * 256 +
                (data.getD (2 * i + 1) 0).toNat)
            read fuel (n - 128)
              (t.setIfInBounds kind ((Array.range 64).map step)) s
      | _ => invalid "bad Pq value"
where
  tooLong (n : Nat) (t : Steps) (s : Stream) :
    Except ImageFault (Steps × Stream) :=
    if n == 0 then .ok (t, s) else invalid "DQT has wrong length"

end Steps

/-- The codes of a file: four for the first coefficient of a block, then four
for the others. -/
abbrev Codes := Array (Option Code)

namespace Codes

def empty : Codes := Array.replicate 8 none

def symbol (codes : Codes) (i : Nat) (s : Stream) :
    Except ImageFault (UInt8 × Stream) :=
  match codes.getD i none with
  | none => invalid "uninitialized Huffman table"
  | some code => code.read s

def read (baseline : Bool) :
    (fuel : Nat) → (n : Nat) → Codes → Stream →
      Except ImageFault (Codes × Stream)
  | 0, _, codes, s => .ok (codes, s)
  | fuel + 1, n, codes, s => do
      if n == 0 then return (codes, s)
      if n < 17 then invalid "DHT has wrong length"
      let (head, s) ← s.bytes 17
      let first := (head.getD 0 0).toNat
      if first / 16 > 1 then invalid "bad Tc value"
      let place := first % 16
      if place > 3 || (baseline && place > 1) then invalid "bad Th value"
      let counts := (head.toList.drop 1).map UInt8.toNat
      let total := counts.foldl (· + ·) 0
      if total == 0 then invalid "Huffman table has zero length"
      if total > 256 then invalid "Huffman table has excessive length"
      if n < total + 17 then invalid "DHT has wrong length"
      let (symbols, s) ← s.bytes total
      let code := Code.ofCounts counts symbols
      read baseline fuel (n - (total + 17))
        (codes.setIfInBounds (first / 16 * 4 + place) (some code)) s

end Codes

end ModelGateway.Jpeg
