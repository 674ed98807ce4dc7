import ModelGateway.Image.Checksum
import ModelGateway.Image.Fault
import ModelGateway.Image.Webp.Chance

/-!
Lossy WebP frames. Bits are coded by chances in partitions: one for the headers
and predictions of all macroblocks, others for their coefficients. A frame is
whole if no partition ends before its bits do; that and the size are all that is
read off here.
-/

namespace ModelGateway.Webp.Lossy

structure Partition where
  data : Array UInt8
  position : Nat := 0
  -- The width of the interval, less one.
  range : Nat := 254
  -- The offset in the interval, with eight bits more.
  value : Nat := 0
  count : Nat := 0
  -- Whether a bit was asked for that is not there.
  dry : Bool := false

abbrev Reading := StateM Partition

private def widening (range : Nat) : Nat := 7 - Nat.log2 (range + 1)

namespace Partition

/-- Reads a bit that is zero with a chance of `chance` out of 256. A partition
that is dry gives zeros. -/
def bit (chance : Nat) (p : Partition) : Bool × Partition :=
  if p.count < 8 && p.position ≥ p.data.size then
    (false, { p with dry := true })
  else
    let p :=
      if p.count < 8 then
        { p with
          value := p.value + (p.data.getD p.position 0).toNat *
            Nat.pow 2 (8 - p.count)
          position := p.position + 1, count := p.count + 8 }
      else p
    let split := p.range * chance / 256 + 1
    let set := p.value ≥ split * 256
    let (range, value) := if set then (p.range - split, p.value - split * 256)
      else (split - 1, p.value)
    if range < 127 then
      let shift := widening range
      (set, { p with
        range := (range + 1) * Nat.pow 2 shift - 1, value :=
          value * Nat.pow 2 shift, count := p.count - shift })
    else
      (set, { p with range, value })

end Partition

def bit (chance : Nat) : Reading Bool := fun p => p.bit chance

def flag : Reading Bool := bit 128

def number (chance : Nat) : (n : Nat) → Reading Nat
  | 0 => pure 0
  | n + 1 => do
      let b ← bit chance
      let rest ← number chance n
      return (if b then Nat.pow 2 n else 0) + rest

private def skipOptional (n : Nat) : Reading Unit := do
  if ← flag then
    let _ ← number 128 n
    let _ ← flag

def times (n : Nat) (action : Reading Unit) : Reading Unit :=
  (List.range n).forM fun _ => action

abbrev Segments := Option (Nat × Nat × Nat)

private def segmentChance : Reading Nat := do
  if ← flag then number 128 8 else return 255

def segments : Reading Segments := do
  if !(← flag) then return none
  let mapped ← flag
  if ← flag then
    let _ ← flag
    times 4 (skipOptional 7)
    times 4 (skipOptional 6)
  if !mapped then return none
  let first ← segmentChance
  let second ← segmentChance
  let third ← segmentChance
  return some (first, second, third)

private def smoothing : Reading Unit := do
  let _ ← flag
  let _ ← number 128 6
  let _ ← number 128 3
  if ← flag then
    if ← flag then
      times 8 (skipOptional 6)

def tokens : Reading (Array Nat) :=
  (List.range tokenChances.size).foldlM
    (fun chances i => do
      if ← bit (changeChances.getD i 255) then
        return chances.setIfInBounds i (← number 128 8)
      else
        return chances)
    tokenChances

/-- What is kept of a macroblock for its neighbours to the right and below: the
predictions along its edge, and which of its blocks there hold coefficients. -/
structure Edge where
  predictions : List Nat := [0, 0, 0, 0]
  luma : List Bool := [false, false, false, false]
  chroma : List Bool := [false, false, false, false]
  whole : Bool := false
  deriving Inhabited

def prediction (above left : Nat) : Reading Nat := do
  let chance :=
    fun i => predictionChances.getD ((above * 10 + left) * 9 + i) 128
  if !(← bit (chance 0)) then return 0
  if !(← bit (chance 1)) then return 1
  if !(← bit (chance 2)) then return 2
  if !(← bit (chance 3)) then
    if !(← bit (chance 4)) then return 3
    if !(← bit (chance 5)) then return 4
    return 5
  if !(← bit (chance 6)) then return 6
  if !(← bit (chance 7)) then return 7
  if !(← bit (chance 8)) then return 8
  return 9

private def predictionRow :
    (above : List Nat) → (left : Nat) → Reading (List Nat × Nat)
  | [], left => return ([], left)
  | a :: above, left => do
      let p ← prediction a left
      let (row, last) ← predictionRow above p
      return (p :: row, last)

private def predictionRows :
    (above left : List Nat) → Reading (List Nat × List Nat)
  | above, [] => return (above, [])
  | above, l :: left => do
      let (row, last) ← predictionRow above l
      let (lowest, right) ← predictionRows row left
      return (lowest, last :: right)

private def wholePrediction : Reading Nat := do
  if !(← bit 156) then
    if !(← bit 163) then return 0 else return 2
  else
    if !(← bit 128) then return 3 else return 1

private def colourPrediction : Reading Unit := do
  if ← bit 142 then
    if ← bit 114 then
      let _ ← bit 183

private def bands : Array Nat :=
  #[0, 1, 2, 3, 6, 4, 5, 6, 6, 6, 6, 6, 6, 6, 6, 7, 0]

private def categories : Array (List Nat) :=
  #[[173, 148, 140], [176, 155, 140, 135], [180, 157, 141, 134, 130],
    [254, 254, 243, 230, 196, 177, 153, 140, 133, 130, 129]]

private def largeSize (chance : Nat → Nat) : Reading Unit := do
  if !(← bit (chance 3)) then
    if ← bit (chance 4) then
      let _ ← bit (chance 5)
  else if !(← bit (chance 6)) then
    if !(← bit (chance 7)) then
      let _ ← bit 159
    else
      let _ ← bit 165
      let _ ← bit 145
  else
    let high ← bit (chance 8)
    let low ← bit (chance (if high then 10 else 9))
    let category := (if high then 2 else 0) + (if low then 1 else 0)
    (categories.getD category []).forM fun chance => do
      let _ ← bit chance

/-- Passes over the coefficients of a block from place `n` on; `context` says
what the coefficient before was: nothing, one or more. -/
def coefficients (chances : Array Nat) (plane : Nat) :
    (fuel : Nat) → (n context : Nat) → Reading Unit
  | 0, _, _ => return
  | fuel + 1, n, context => do
      if n ≥ 16 then return
      let chance := fun i =>
        chances.getD (((plane * 8 + bands.getD n 0) * 3 + context) * 11 + i) 128
      let ended := fun context => do
        if n + 1 ≥ 16 then return true
        let next := ((plane * 8 + bands.getD (n + 1) 0) * 3 + context) * 11
        return !(← bit (chances.getD next 128))
      if !(← bit (chance 1)) then
        coefficients chances plane fuel (n + 1) 0
      else
        let context ←
          if !(← bit (chance 2)) then pure 1
          else do
            largeSize chance
            pure 2
        let _ ← flag
        if !(← ended context) then
          coefficients chances plane fuel (n + 1) context

def block (chances : Array Nat) (plane start : Nat) (above left : Bool) :
    Reading Bool := do
  let context := (if above then 1 else 0) + (if left then 1 else 0)
  if !(← bit (chances.getD (((plane * 8 + bands.getD start 0) * 3 + context) *
    11) 128)) then return false
  coefficients chances plane 17 start context
  return true

private def blockRow (chances : Array Nat) (plane start : Nat) :
    (above : List Bool) → (left : Bool) → Reading (List Bool × Bool)
  | [], left => return ([], left)
  | a :: above, left => do
      let held ← block chances plane start a left
      let (row, last) ← blockRow chances plane start above held
      return (held :: row, last)

private def blockRows (chances : Array Nat) (plane start : Nat) :
    (above left : List Bool) → Reading (List Bool × List Bool)
  | above, [] => return (above, [])
  | above, l :: left => do
      let (row, last) ← blockRow chances plane start above l
      let (lowest, right) ← blockRows chances plane start row left
      return (lowest, last :: right)

private def residuals (chances : Array Nat) (together : Bool)
    (above left : Edge) : Reading (Edge × Edge) := do
  let (above, left) ←
    if together then do
      let held ← block chances 1 0 above.whole left.whole
      pure ({ above with whole := held }, { left with whole := held })
    else pure (above, left)
  let (lumaBelow, lumaRight) ←
    blockRows chances (if together then 0 else 3) (if together then 1 else 0)
      above.luma left.luma
  let (blueBelow, blueRight) ← blockRows chances 2 0 (above.chroma.take 2)
    (left.chroma.take 2)
  let (redBelow, redRight) ← blockRows chances 2 0 (above.chroma.drop 2)
    (left.chroma.drop 2)
  return (
    { above with luma := lumaBelow, chroma := blueBelow ++ redBelow },
    { left with luma := lumaRight, chroma := blueRight ++ redRight })

structure Plan where
  segments : Segments
  chances : Array Nat
  skipped : Option Nat

private def macroblock (plan : Plan) (above left : Edge) :
    Reading (Bool × Bool × Edge × Edge) := do
  match plan.segments with
  | none => pure ()
  | some (first, second, third) =>
      let _ ← bit (if ← bit first then third else second)
  let skip ← match plan.skipped with
    | none => pure false
    | some chance => bit chance
  let together ← bit 145
  let (above, left) ←
    if together then do
      let p ← wholePrediction
      pure ({ above with predictions := List.replicate 4 p },
        { left with predictions := List.replicate 4 p })
    else do
      let (below, right) ← predictionRows above.predictions left.predictions
      pure ({ above with predictions := below },
        { left with predictions := right })
  colourPrediction
  return (skip, together, above, left)

def Edge.clear (together : Bool) (e : Edge) : Edge :=
  { predictions := e.predictions, whole := if together then false else e.whole }

def row (plan : Plan) :
    (above : List Edge) → (left : Edge) → (first rest : Partition) →
      List Edge × Partition × Partition
  | [], _, first, rest => ([], first, rest)
  | a :: above, left, first, rest =>
      let ((skip, together, a, left), first) :=
        (macroblock plan a left).run first
      let ((a, left), rest) :=
        if skip then ((a.clear together, left.clear together), rest)
        else (residuals plan.chances together a left).run rest
      let (below, first, rest) := row plan above left first rest
      (a :: below, first, rest)

/-- Reads `n` rows of macroblocks from row `y` on; rows take turns with the
partitions of coefficients. -/
def rows (plan : Plan) :
    (n : Nat) → (y : Nat) → List Edge → Partition → Array Partition →
      Partition × Array Partition
  | 0, _, _, first, others => (first, others)
  | n + 1, y, above, first, others =>
      let i := y % others.size
      let (below, first, rest) :=
        row plan above {} first (others.getD i { data := #[] })
      rows plan n (y + 1) below first (others.setIfInBounds i rest)

structure Window where
  left : Nat
  rest : Bytes

namespace Window

def take (n : Nat) (w : Window) : Except ImageFault (Bytes × Window) :=
  if n > w.left then .error .truncated
  else
    let found := w.rest.take n
    if found.length == n then .ok (found, ⟨w.left - n, w.rest.drop n⟩)
    else if found.isEmpty then .error .endOfFile
    else .error .truncated

end Window

private def divide (data : Bytes) : (lengths : List Nat) → List Partition
  | [] => [{ data := data.toArray }]
  | n :: lengths =>
      { data := (data.take n).toArray } :: divide (data.drop n) lengths

private def lengthsOf : Bytes → List Nat
  | a :: b :: c :: s =>
      (a.toNat + 256 * b.toNat + 65536 * c.toNat) :: lengthsOf s
  | _ => []

private def otherPartitions (k : Nat) (w : Window) :
    Except ImageFault (Array Partition) := do
  let n := 3 * (Nat.pow 2 k - 1)
  if n > w.left then .error .truncated
  let (table, w) ← w.take n
  let lengths := lengthsOf table
  let used := lengths.foldl (· + ·) 0
  if used > w.left then .error .truncated
  if w.left - used ≥ 0x1000000 then .error (.webp .frameSize)
  let (data, _) ← w.take w.left
  return (divide data lengths).toArray

def size (w : Window) : Except ImageFault (Nat × Nat) := do
  let (head, w) ← w.take 3
  let tag := Bytes.littleEndian head
  let still := tag % 2 == 0
  let (width, height, w) ←
    if !still then pure (0, 0, w)
    else do
      let (data, w) ← w.take 7
      if data.take 3 != [0x9d, 0x01, 0x2a] then .error (.webp .frameStart)
      let side := fun i => Bytes.littleEndian ((data.drop i).take 2) % 16384
      pure (side 3, side 5, w)
  let (data, w) ← w.take (tag / 32)
  let first : Partition := { data := data.toArray }
  let header : Reading (Segments × Nat) := do
    if still then
      let _ ← flag
      let _ ← flag
    let s ← segments
    smoothing
    return (s, ← number 128 2)
  let ((segments, k), first) := header.run first
  let others ← otherPartitions k w
  if !still then .error (.webp .dependentFrame)
  let rest : Reading (Array Nat × Option Nat) := do
    let _ ← number 128 7
    times 5 (skipOptional 4)
    let _ ← flag
    let chances ← tokens
    if ← flag then return (chances, some (← number 128 8))
    else return (chances, none)
  let ((chances, skipped), first) := rest.run first
  if first.dry then .error .truncated
  let (across, down) := ((width + 15) / 16, (height + 15) / 16)
  let (first, others) :=
    rows ⟨segments, chances, skipped⟩ down 0 (List.replicate across {})
      first others
  if first.dry || others.any (·.dry) then .error .truncated
  if width == 0 || height == 0 then return (0, 0) else return (width, height)

end ModelGateway.Webp.Lossy
