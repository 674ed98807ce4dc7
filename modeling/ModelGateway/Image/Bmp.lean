import ModelGateway.Image.Checksum
import ModelGateway.Image.Fault
import ModelGateway.Image.Picture
import ModelGateway.Image.Storage

namespace ModelGateway.Bmp

inductive Layout where
  | indexed (palette : List Colour)
  | three
  | four (alpha : Bool)

def Layout.storage : Layout → Storage
  | .indexed _ => .indexed
  | .three => .colour8 false
  | .four _ => .colour8 true

structure Header where
  width : Nat
  height : Nat
  topDown : Bool
  layout : Layout

def signed (n : Nat) : Int :=
  if n ≥ 0x80000000 then (n : Int) - 0x100000000 else n

def next (n : Nat) (s : Bytes) : Except ImageFault (Bytes × Bytes) :=
  match Bytes.split? n s with
  | some split => .ok split
  | none => .error .truncated

/-- The next `n` bytes of pixels or palette; that there are none at all is told
apart. -/
def nextData (n : Nat) (s : Bytes) : Except ImageFault (Bytes × Bytes) :=
  match Bytes.split? n s with
  | some split => .ok split
  | none => .error (if s.isEmpty then .endOfFile else .truncated)

def colours : Bytes → List Colour
  | blue :: green :: red :: _ :: rest => { red, green, blue } :: colours rest
  | _ => []

def readHeader (file : Bytes) : Except ImageFault (Header × Bytes) := do
  let (start, s) ← next 18 file
  let number := fun (s : Bytes) (i n : Nat) =>
    Bytes.littleEndian ((s.drop i).take n)
  let offset := number start 10 4
  let infoLength := number start 14 4
  if infoLength != 40 && infoLength != 108 && infoLength != 124 then
    .error .bmp
  else
    let (info, s) ← next (infoLength - 4) s
    let field := fun i n => number (start ++ info) i n
    let width := signed (field 18 4)
    let height := signed (field 22 4)
    let plainMasks := infoLength > 40 &&
      [field 54 4, field 58 4, field 62 4, field 66 4] ==
        [0xff0000, 0xff00, 0xff, 0xff000000]
    let compressed := field 30 4 != 0 && !(field 30 4 == 3 && plainMasks)
    let header := fun layout =>
      (⟨width.toNat, height.natAbs, height < 0, layout⟩ : Header)
    if width < 0 || field 26 2 != 1 || compressed then
      .error .bmp
    else
      match field 28 2 with
      | 8 =>
          let used := if field 46 4 == 0 then 256 else field 46 4
          if used > 256 || offset != 14 + infoLength + used * 4 then
            .error .bmp
          else
            let (palette, s) ← nextData (used * 4) s
            return (header (.indexed (colours palette)), s)
      | 24 =>
          if offset != 14 + infoLength then .error .bmp
          else return (header .three, s)
      | 32 =>
          if offset != 14 + infoLength then .error .bmp
          else return (header (.four (infoLength > 40)), s)
      | _ => .error .bmp

def skip (n : Nat) (s : Bytes) : Except ImageFault Bytes :=
  if n == 0 then .ok s else (nextData n s).map Prod.snd

def readRows (size padding : Nat) : Nat → Bytes → Except ImageFault (List Bytes)
  | 0, _ => .ok []
  | left + 1, s => do
      let (row, s) ← nextData size s
      let s ← skip padding s
      let rows ← readRows size padding left s
      return row :: rows

/-- The rows of a picture from the top down; an empty one has none. -/
def Header.readRows (h : Header) (size padding : Nat) (s : Bytes) :
    Except ImageFault (List Bytes) :=
  if h.width == 0 || h.height == 0 then .ok []
  else (Bmp.readRows size padding h.height s).map fun rows => if h.topDown then
    rows else rows.reverse

def fromThree : Nat → Bytes → Bytes
  | 0, _ => []
  | n + 1, blue :: green :: red :: rest =>
      red :: green :: blue :: 255 :: fromThree n rest
  | _, _ => []

def fromFour (alpha : Bool) : Bytes → Bytes
  | blue :: green :: red :: a :: rest =>
      red :: green :: blue :: (if alpha then a else 255) :: fromFour alpha rest
  | _ => []

def readPixels (h : Header) (s : Bytes) : Except ImageFault Pixels := do
  match h.layout with
  | .indexed palette =>
      let rows ← h.readRows h.width ((4 - h.width % 4) % 4) s
      return .indexed palette.toArray rows.flatten.toArray
  | .three =>
      let rows ← h.readRows ((3 * h.width + 3) / 4 * 4) 0 s
      return .colour8 false (rows.flatMap (fromThree h.width)).toArray
  | .four alpha =>
      let rows ← h.readRows (4 * h.width) 0 s
      return .colour8 true (rows.flatMap (fromFour alpha)).toArray

def decode (file : Bytes) : Except ImageFault Picture := do
  let (h, s) ← readHeader file
  h.layout.storage.claim h.width h.height
  let pixels ← readPixels h s
  return { width := h.width, height := h.height, pixels }

end ModelGateway.Bmp
