import ModelGateway.Image.Jpeg.Frame

/-!
Scans: the coded coefficients of some components. A scan gives whole blocks, or,
in a progressive file, a band of the coefficients or one more bit of each.
-/

namespace ModelGateway.Jpeg

structure Plane where
  across : Nat
  blocks : Array (Array UInt8)
  deriving Inhabited

namespace Plane

def blank (across down : Nat) : Plane :=
  ⟨across, Array.replicate (across * down) (Array.replicate 64 0)⟩

def set (p : Plane) (x y : Nat) (samples : Array UInt8) : Plane :=
  { p with blocks := p.blocks.setIfInBounds (y * p.across + x) samples }

def sample (p : Plane) (x y : Nat) : UInt8 :=
  ((p.blocks.getD (y / 8 * p.across + x / 8) #[]).getD (y % 8 * 8 + x % 8) 0)

end Plane

structure Canvas where
  planes : Array Plane
  -- The coefficients of the components of a progressive file, as far as scans
  -- have given them.
  coefficients : Array (Option (Array Block))

namespace Canvas

def blank (f : Frame) : Canvas where
  planes := f.components.map fun c =>
    Plane.blank (f.unitsAcross * c.across) (f.unitsDown * c.down)
  coefficients := f.components.map fun _ => none

end Canvas

structure Selection where
  component : Nat
  first : Nat
  others : Nat
  deriving Repr

/-- What the head of a scan asks for: components, the band of coefficients, and
the bits of them: `high` is the lowest bit that is known, zero if none is, and
`low` the lowest that the scan gives. -/
structure ScanHead where
  selections : List Selection
  start : Nat
  stop : Nat
  high : Nat
  low : Nat

namespace ScanHead

private def select (f : Frame) (data : Array UInt8) (total : Nat) :
    Except ImageFault (List Selection) := do
  let (chosen, blocks) ← (List.range total).foldlM
    (fun (chosen, blocks) i => do
      let name := data.getD (1 + 2 * i) 0
      match f.components.findIdx? (·.name == name) with
      | none => invalid "unknown component selector"
      | some index =>
          if chosen.any (fun (s : Selection) => s.component == index) then
            invalid "repeated component selector"
          let c := f.components.getD index default
          let codes := (data.getD (2 + 2 * i) 0).toNat
          let refused := fun n => n > 3 || (f.process == .baseline && n > 1)
          if refused (codes / 16) then invalid "bad Td value"
          if refused (codes % 16) then invalid "bad Ta value"
          return (chosen ++ [⟨index, codes / 16, codes % 16⟩],
            blocks + c.across * c.down))
    (([] : List Selection), 0)
  if f.components.size > 1 && blocks > 10 then
    invalid "total sampling factors too large"
  return chosen

def read (f : Frame) (n : Nat) (s : Stream) :
    Except ImageFault (ScanHead × Stream) := do
  if n < 6 || 4 + 2 * f.components.size < n || n % 2 != 0 then
    invalid "SOS has wrong length"
  let (data, s) ← s.bytes n
  let total := (data.getD 0 0).toNat
  if n != 4 + 2 * total then
    invalid "SOS length inconsistent with number of components"
  let chosen ← select f data total
  if f.process != .progressive then
    return (⟨chosen, 0, 63, 0, 0⟩, s)
  let start := (data.getD (1 + 2 * total) 0).toNat
  let stop := (data.getD (2 + 2 * total) 0).toNat
  let bits := (data.getD (3 + 2 * total) 0).toNat
  let high := bits / 16
  let low := bits % 16
  if (start == 0 && stop != 0) || start > stop || 64 ≤ stop then
    invalid "bad spectral selection bounds"
  if start != 0 && total != 1 then
    invalid "progressive AC coefficients for more than one component"
  if high != 0 && high != low + 1 then
    invalid "bad successive approximation values"
  return (⟨chosen, start, stop, high, low⟩, s)

end ScanHead

structure Cursor where
  stream : Stream
  -- The number of blocks to come without coefficients of the band.
  idle : Nat
  -- The last first coefficient of each component.
  previous : Array Int32

namespace Cursor

def run (bits : Nat) (c : Cursor) : Except ImageFault Cursor := do
  let (more, stream) ← c.stream.bits bits
  return { c with stream, idle := Nat.pow 2 bits + more }

private def band (codes : Codes) (code stop low : Nat) :
    (fuel : Nat) → (i : Nat) → Block → Cursor →
      Except ImageFault (Block × Cursor)
  | 0, _, b, c => .ok (b, c)
  | fuel + 1, i, b, c => do
      if i > stop then return (b, c)
      let (symbol, stream) ← codes.symbol code c.stream
      let c := { c with stream }
      let zeros := symbol.toNat / 16
      let size := symbol.toNat % 16
      if size != 0 then
        let i := i + zeros
        if i > stop then return (b, c)
        let (x, stream) ← c.stream.signed size
        band codes code stop low fuel (i + 1)
          (b.setCoefficient i (x <<< Int32.ofNat low)) { c with stream }
      else if zeros != 15 then
        let c ← c.run zeros
        return (b, { c with idle := c.idle - 1 })
      else
        band codes code stop low fuel (i + 16) b c

private def begin (codes : Codes) (head : ScanHead) (selection : Selection)
    (b : Block) (c : Cursor) :
    Except ImageFault (Block × Cursor) := do
  let mut b := b
  let mut c := c
  if head.start == 0 then
    let (size, stream) ← codes.symbol selection.first c.stream
    if size > 16 then unsupported "excessive DC component"
    let (delta, stream) ← stream.signed size.toNat
    let x := c.previous.getD selection.component 0 + delta
    b := b.setIfInBounds 0 (x <<< Int32.ofNat head.low)
    c := { c with
      stream, previous := c.previous.setIfInBounds selection.component x }
  let i := max 1 head.start
  if i ≤ head.stop && c.idle > 0 then
    return (b, { c with idle := c.idle - 1 })
  else
    band codes (4 + selection.others) head.stop head.low 64 i b c

/-- Reads one more bit of the coefficients from place `i` on that are not zero,
until `zeros` that are zero have been passed (to the end of the band if `zeros`
is `none`). Gives the place where it stops. -/
def refineNonzero (stop : Nat) (delta : Int32) :
    (fuel : Nat) → (i : Nat) → (zeros : Option Nat) → Block → Stream →
      Except ImageFault (Nat × Block × Stream)
  | 0, i, _, b, s => .ok (i, b, s)
  | fuel + 1, i, zeros, b, s => do
      if i > stop then return (i, b, s)
      let x := b.coefficient i
      if x == 0 then
        match zeros with
        | some 0 => return (i, b, s)
        | some (n + 1) => refineNonzero stop delta fuel (i + 1) (some n) b s
        | none => refineNonzero stop delta fuel (i + 1) none b s
      else
        let (bit, s) ← s.bits 1
        if bit == 0 then refineNonzero stop delta fuel (i + 1) zeros b s
        else
          let x := if x ≥ 0 then x + delta else x - delta
          refineNonzero stop delta fuel (i + 1) zeros (b.setCoefficient i x) s

private def refineBand (codes : Codes) (code stop : Nat) (delta : Int32) :
    (fuel : Nat) → (i : Nat) → Block → Cursor →
      Except ImageFault (Nat × Block × Cursor)
  | 0, i, b, c => .ok (i, b, c)
  | fuel + 1, i, b, c => do
      if i > stop then return (i, b, c)
      let (symbol, stream) ← codes.symbol code c.stream
      let c := { c with stream }
      let zeros := symbol.toNat / 16
      let size := symbol.toNat % 16
      if size == 0 && zeros != 15 then
        return (i, b, ← c.run zeros)
      if size > 1 then invalid "unexpected Huffman code"
      let (fresh, stream) ←
        if size == 0 then pure ((0 : Int32), c.stream)
        else do
          let (bit, stream) ← c.stream.bits 1
          pure (if bit == 0 then -delta else delta, stream)
      let (i, b, stream) ← refineNonzero stop delta 64 i (some zeros) b stream
      if i > stop then invalid "too many coefficients"
      let b := if fresh == 0 then b else b.setCoefficient i fresh
      refineBand codes code stop delta fuel (i + 1) b { c with stream }

def refine (codes : Codes) (head : ScanHead) (selection : Selection)
    (b : Block) (c : Cursor) :
    Except ImageFault (Block × Cursor) := do
  let delta : Int32 := 1 <<< Int32.ofNat head.low
  if head.start == 0 then
    let (bit, stream) ← c.stream.bits 1
    let b := if bit == 0 then b else b.setIfInBounds 0 (b.getD 0 0 ||| delta)
    return (b, { c with stream })
  let (i, b, c) ←
    if c.idle == 0 then
      refineBand codes (4 + selection.others) head.stop delta 64 head.start b c
    else pure (head.start, b, c)
  if c.idle == 0 then return (b, c)
  let (_, b, stream) ← refineNonzero head.stop delta 64 i none b c.stream
  return (b, { c with stream, idle := c.idle - 1 })

def block (codes : Codes) (head : ScanHead) (selection : Selection)
    (b : Block) (c : Cursor) :
    Except ImageFault (Block × Cursor) :=
  if head.high != 0 then refine codes head selection b c
  else begin codes head selection b c

private def findRestart (expected : UInt8) :
    (fuel : Nat) → (first second : UInt8) → Stream → Except ImageFault Stream
  | 0, _, _, _ => .error .truncated
  | fuel + 1, first, second, s => do
      if first == 0xff && second == expected then return s
      if first == 0xff && second != 0xff && second != 0 then
        invalid "bad RST marker"
      if second == 0xff then
        let (next, s) ← s.bytes 1
        findRestart expected fuel 0xff (next.getD 0 0) s
      else
        let (next, s) ← s.bytes 2
        findRestart expected fuel (next.getD 0 0) (next.getD 1 0) s

end Cursor

structure Setting where
  frame : Frame
  codes : Codes
  steps : Steps
  -- The number of units after which the coding starts afresh; zero for never.
  interval : Nat
  head : ScanHead

namespace Setting

def progressive (t : Setting) : Bool := t.frame.process == .progressive

def block (t : Setting) (selection : Selection) (x y : Nat) :
    Cursor × Canvas → Except ImageFault (Cursor × Canvas)
  | (cursor, canvas) => do
      let i := selection.component
      let c := t.frame.components.getD i default
      let place := y * (t.frame.unitsAcross * c.across) + x
      if t.progressive then
        let known := (canvas.coefficients.getD i none).getD #[]
        let (b, cursor) ← cursor.block t.codes t.head selection
          (known.getD place Block.zero)
        let keep := fun known => some (known.getD #[] |>.setIfInBounds place b)
        return (cursor,
          { canvas with coefficients := canvas.coefficients.modify i keep })
      else
        let (b, cursor) ← cursor.block t.codes t.head selection Block.zero
        let samples := b.samples (t.steps.getD c.steps #[])
        return (cursor,
          { canvas with planes := canvas.planes.modify i (·.set x y samples) })

/-- Reads the blocks of a component in the unit in column `mx` of row `my`. A
component that is alone in its scan is coded row by row, without the blocks
outside the picture. -/
def componentBlocks (t : Setting) (mx my : Nat) (selection : Selection)
    (state : Cursor × Canvas) : Except ImageFault (Cursor × Canvas) :=
  let c := t.frame.components.getD selection.component default
  let blocks := c.across * c.down
  if t.head.selections.length != 1 then
    (List.range blocks).foldlM
      (fun state j => t.block selection (c.across * mx + j % c.across)
        (c.down * my + j / c.across) state) state
  else
    let done := (my * t.frame.unitsAcross + mx) * blocks
    let row := t.frame.unitsAcross * c.across
    (List.range blocks).foldlM
      (fun state j =>
        let x := (done + j) % row
        let y := (done + j) / row
        if x * 8 ≥ t.frame.width || y * 8 ≥ t.frame.height then .ok state
        else t.block selection x y state)
      state

def restart (t : Setting) (done : Nat) :
    Cursor × Canvas → Except ImageFault (Cursor × Canvas)
  | (cursor, canvas) => do
      if t.interval == 0 || done % t.interval != 0 ||
          done ≥ t.frame.unitsAcross * t.frame.unitsDown then
        return (cursor, canvas)
      let expected := 0xd0 + (done / t.interval - 1).toUInt8 % 8
      let (next, s) ← cursor.stream.bytes 2
      let s ← Cursor.findRestart expected (s.file.size + 1) (next.getD 0 0)
        (next.getD 1 0) s
      return (
        { stream := s.restart, idle := 0, previous := Array.replicate 4 0 },
        canvas)

def unit (t : Setting) (mx my : Nat) (state : Cursor × Canvas) :
    Except ImageFault (Cursor × Canvas) := do
  let state ← t.head.selections.foldlM
    (fun state selection => t.componentBlocks mx my selection state) state
  t.restart (my * t.frame.unitsAcross + mx + 1) state

def units (t : Setting) (state : Cursor × Canvas) :
    Except ImageFault (Cursor × Canvas) :=
  (List.range t.frame.unitsDown).foldlM
    (fun state my => (List.range t.frame.unitsAcross).foldlM
      (fun state mx => t.unit mx my state) state) state

def room (t : Setting) (canvas : Canvas) : Canvas :=
  if t.progressive then
    t.head.selections.foldl
      (fun canvas selection =>
        let c := t.frame.components.getD selection.component default
        let size := t.frame.unitsAcross * t.frame.unitsDown * c.across * c.down
        let fresh := fun known =>
          some (known.getD (Array.replicate size Block.zero))
        { canvas with
          coefficients :=
            canvas.coefficients.modify selection.component fresh })
      canvas
  else
    canvas

end Setting

end ModelGateway.Jpeg
