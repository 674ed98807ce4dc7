import ModelGateway.Image.Fault

namespace ModelGateway.Fax

abbrev Bits := List Bool

private def bitsOf (s : String) : Bits :=
  s.toList.map (· == '1')

abbrev CodeTable (α : Type) := List (Bits × α)

private def whiteShort : List String :=
  ["00110101", "000111", "0111", "1000", "1011", "1100", "1110", "1111",
    "10011", "10100", "00111", "01000", "001000", "000011", "110100",
    "110101", "101010", "101011", "0100111", "0001100", "0001000", "0010111",
    "0000011", "0000100", "0101000", "0101011", "0010011", "0100100",
    "0011000", "00000010", "00000011", "00011010", "00011011", "00010010",
    "00010011", "00010100", "00010101", "00010110", "00010111", "00101000",
    "00101001", "00101010", "00101011", "00101100", "00101101", "00000100",
    "00000101", "00001010", "00001011", "01010010", "01010011", "01010100",
    "01010101", "00100100", "00100101", "01011000", "01011001", "01011010",
    "01011011", "01001010", "01001011", "00110010", "00110011", "00110100"]

private def whiteLong : List String :=
  ["11011", "10010", "010111", "0110111", "00110110", "00110111", "01100100",
    "01100101", "01101000", "01100111", "011001100", "011001101", "011010010",
    "011010011", "011010100", "011010101", "011010110", "011010111",
    "011011000", "011011001", "011011010", "011011011", "010011000",
    "010011001", "010011010", "011000", "010011011"]

private def blackShort : List String :=
  ["0000110111", "010", "11", "10", "011", "0011", "0010", "00011", "000101",
    "000100", "0000100", "0000101", "0000111", "00000100", "00000111",
    "000011000", "0000010111", "0000011000", "0000001000", "00001100111",
    "00001101000", "00001101100", "00000110111", "00000101000", "00000010111",
    "00000011000", "000011001010", "000011001011", "000011001100",
    "000011001101", "000001101000", "000001101001", "000001101010",
    "000001101011", "000011010010", "000011010011", "000011010100",
    "000011010101", "000011010110", "000011010111", "000001101100",
    "000001101101", "000011011010", "000011011011", "000001010100",
    "000001010101", "000001010110", "000001010111", "000001100100",
    "000001100101", "000001010010", "000001010011", "000000100100",
    "000000110111", "000000111000", "000000100111", "000000101000",
    "000001011000", "000001011001", "000000101011", "000000101100",
    "000001011010", "000001100110", "000001100111"]

private def blackLong : List String :=
  ["0000001111", "000011001000", "000011001001", "000001011011",
    "000000110011", "000000110100", "000000110101", "0000001101100",
    "0000001101101", "0000001001010", "0000001001011", "0000001001100",
    "0000001001101", "0000001110010", "0000001110011", "0000001110100",
    "0000001110101", "0000001110110", "0000001110111", "0000001010010",
    "0000001010011", "0000001010100", "0000001010101", "0000001011010",
    "0000001011011", "0000001100100", "0000001100101"]

def longest : List String :=
  ["00000001000", "00000001100", "00000001101", "000000010010",
    "000000010011", "000000010100", "000000010101", "000000010110",
    "000000010111", "000000011100", "000000011101", "000000011110",
    "000000011111"]

/-- A run ends with a code for less than 64 pixels; codes for multiples of 64
may stand before it. -/
def runTable (short long : List String) : CodeTable Nat :=
  (short.zipIdx.map fun (s, i) => (bitsOf s, i)) ++
    (long ++ longest).zipIdx.map fun (s, i) => (bitsOf s, 64 * (i + 1))

def runs (white : Bool) : CodeTable Nat :=
  if white then runTable whiteShort whiteLong
  else runTable blackShort blackLong

inductive Mode where
  | pass
  | horizontal
  | vertical (shift : Int)
  | extension

private def modes : CodeTable Mode :=
  [(bitsOf "0001", .pass),
    (bitsOf "001", .horizontal),
    (bitsOf "1", .vertical 0),
    (bitsOf "011", .vertical 1),
    (bitsOf "000011", .vertical 2),
    (bitsOf "0000011", .vertical 3),
    (bitsOf "010", .vertical (-1)),
    (bitsOf "000010", .vertical (-2)),
    (bitsOf "0000010", .vertical (-3)),
    (bitsOf "0000001", .extension)]

structure Source where
  width : Nat
  after : ImageFault

namespace Source

def ended (source : Source) (due : FaxFault) : ImageFault :=
  if source.after == .endOfFile then .fax due else source.after

end Source

private def readCode {α : Type} (source : Source) :
    CodeTable α → Bits → Except ImageFault (α × Bits)
  | _, [] => .error (source.ended .incompleteCode)
  | table, b :: s =>
      -- The codes that go on with this bit, without it.
      let left := table.filterMap fun (code, value) =>
        match code with
        | [] => none
        | c :: code => if c == b then some (code, value) else none
      match left.find? (·.1.isEmpty) with
      | some (_, value) => .ok (value, s)
      | none =>
          if left.isEmpty then .error (.fax .invalidCode)
          else readCode source left s

def lineEnd : Bits := bitsOf "000000000001"

private def readLineEnd (source : Source) : Bits → Bits → Except ImageFault Bits
  | [], s => .ok s
  | _ :: _, [] => .error (source.ended .missingLineEnd)
  | due :: rest, b :: s =>
      if b == due then readLineEnd source rest s
      else .error (.fax .missingLineEnd)

def maxWidth : Nat := 0x100000

/-- The length of a run. A code takes at least one bit, so `most` is enough if
it is the number of bits. -/
def readRun (source : Source) (white : Bool) :
    (most total : Nat) → Bits → Except ImageFault (Nat × Bits)
  | 0, _, _ => .error (source.ended .incompleteCode)
  | most + 1, total, s => do
      let (n, s) ← readCode source (runs white) s
      if maxWidth < total + n then .error (.fax .longRun)
      else if n < 64 then return (total + n, s)
      else readRun source white most (total + n) s

structure Pen where
  drawn : List Bool := []
  place : Nat := 0
  white : Bool := true
  fresh : Bool := true

namespace Pen

private def drawTo (pen : Pen) (stop : Nat) : Pen :=
  { pen with
    drawn := List.replicate (stop - pen.place) pen.white ++ pen.drawn
    place := stop }

def turn (pen : Pen) : Pen :=
  { pen with white := !pen.white }

def change (pen : Pen) (above : List Bool) : List Bool :=
  let ahead := above.drop pen.place
  let ahead := if pen.fresh then ahead else ahead.dropWhile (· != pen.white)
  ahead.dropWhile (· == pen.white)

end Pen

private def drawRun (source : Source) (pen : Pen) (s : Bits) :
    Except ImageFault (Pen × Bits) := do
  let (n, s) ← readRun source pen.white s.length 0 s
  if source.width < pen.place + n then .error (.fax .runOverWidth)
  else return ((pen.drawTo (pen.place + n)).turn, s)

private def drawMode (source : Source) (above : List Bool) (pen : Pen)
    (s : Bits) :
    Mode → Except ImageFault (Pen × Bits)
  | .pass =>
      let after := (pen.change above).dropWhile (· != pen.white)
      return (pen.drawTo (source.width - after.length), s)
  | .horizontal => do
      let (pen, s) ← drawRun source pen s
      drawRun source pen s
  | .vertical shift =>
      let change := source.width - (pen.change above).length
      let stop := (change : Int) + shift
      if stop < pen.place || source.width < stop then
        .error (.fax .invalidOffset)
      else return ((pen.drawTo stop.toNat).turn, s)
  | .extension => .error (.fax .mode)

private def drawRuns (source : Source) :
    (most : Nat) → Pen → Bits → Except ImageFault (List Bool × Bits)
  | 0, _, _ => .error (source.ended .incompleteCode)
  | most + 1, pen, s =>
      if source.width ≤ pen.place then .ok (pen.drawn.reverse, s)
      else do
        let (pen, s) ← drawRun source pen s
        drawRuns source most pen s

private def drawModes (source : Source) (above : List Bool) :
    (most : Nat) → Pen → Bits → Except ImageFault (List Bool × Bits)
  | 0, _, _ => .error (source.ended .incompleteCode)
  | most + 1, pen, s =>
      if source.width ≤ pen.place then .ok (pen.drawn.reverse, s)
      else do
        let (mode, s) ← readCode source modes s
        let (pen, s) ← drawMode source above pen s mode
        drawModes source above most { pen with fresh := false } s

structure Rows where
  rows : List (List Bool) := []
  fault : Option ImageFault := none

namespace Rows

def push (row : List Bool) (later : Rows) : Rows :=
  { later with rows := row :: later.rows }

def stop (fault : ImageFault) : Rows :=
  { fault }

private def ofEnd : Except ImageFault Bits → Rows
  | .ok _ => {}
  | .error fault => stop fault

end Rows

/-- Rows with a line end after each and five more at the end; after the last row
all of them may be left out. -/
def readPlain (source : Source) : (left : Nat) → Bits → Rows
  | 0, s =>
      .ofEnd ((List.range 5).foldlM (fun s _ => readLineEnd source lineEnd s) s)
  | left + 1, s =>
      match drawRuns source (s.length + 1) {} s with
      | .error fault => .stop fault
      | .ok (row, s) =>
          match readLineEnd source lineEnd s with
          | .ok s => (readPlain source left s).push row
          | .error fault =>
              if left == 0 && fault == .fax .missingLineEnd then
                { rows := [row] }
              else .stop fault

/-- Rows each of which is told from the one before, with two line ends at the
end; both may be left out. -/
def readRelative (source : Source) :
    (left : Nat) → (above : List Bool) → Bits → Rows
  | 0, _, s =>
      match readLineEnd source lineEnd s with
      | .ok s => .ofEnd (readLineEnd source lineEnd s)
      | .error fault =>
          if fault == .fax .missingLineEnd then {} else .stop fault
  | left + 1, above, s =>
      match drawModes source above (s.length + 1) {} s with
      | .error fault => .stop fault
      | .ok (row, s) => (readRelative source left row s).push row

def pack : List Bool → Bytes
  | [] => []
  | pixel :: row =>
      let byte := (List.range 8).foldl (fun n i =>
        2 * n + ((pixel :: row).getD i false).toNat) 0
      byte.toUInt8 :: pack (row.drop 7)
  termination_by row => row.length
  decreasing_by
    rw [List.length_drop, List.length_cons]
    omega

structure Format where
  relative : Bool
  -- Whether the lowest bit of a byte comes first.
  lowFirst : Bool
  -- Whether black pixels are written as ones.
  inverted : Bool

def Format.bits (format : Format) (s : Bytes) : Bits :=
  s.flatMap fun b =>
    let bits := (List.range 8).map fun i => b.toNat.testBit (7 - i)
    if format.lowFirst then bits.reverse else bits

/-- The bytes of `height` rows before the first fault, and the fault. -/
def Format.read (format : Format) (source : Source) (height : Nat)
    (s : Bytes) :
    Bytes × Option ImageFault :=
  if maxWidth < source.width then ([], some (.fax .width))
  else
    let s := format.bits s
    let read :=
      if format.relative then
        readRelative source height (List.replicate source.width true) s
      else
        match readLineEnd source lineEnd s with
        | .error fault => .stop fault
        | .ok s => readPlain source height s
    (read.rows.flatMap fun row => pack (row.map (· != format.inverted)),
      read.fault)

end ModelGateway.Fax
