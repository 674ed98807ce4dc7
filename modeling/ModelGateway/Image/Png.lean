import ModelGateway.Image.Picture
import ModelGateway.Image.Storage
import ModelGateway.Image.Zlib

namespace ModelGateway.Png

def signature : Bytes := [0x89, 0x50, 0x4e, 0x47, 0x0d, 0x0a, 0x1a, 0x0a]

inductive ColourType where
  | gray
  | trueColour
  | indexed
  | grayAlpha
  | trueColourAlpha
  deriving DecidableEq, Repr

namespace ColourType

def ofNumber? : Nat → Option ColourType
  | 0 => some .gray
  | 2 => some .trueColour
  | 3 => some .indexed
  | 4 => some .grayAlpha
  | 6 => some .trueColourAlpha
  | _ => none

def number : ColourType → Nat
  | .gray => 0
  | .trueColour => 2
  | .indexed => 3
  | .grayAlpha => 4
  | .trueColourAlpha => 6

def channels : ColourType → Nat
  | .gray | .indexed => 1
  | .grayAlpha => 2
  | .trueColour => 3
  | .trueColourAlpha => 4

def depths : ColourType → List Nat
  | .gray => [1, 2, 4, 8, 16]
  | .indexed => [1, 2, 4, 8]
  | .trueColour | .grayAlpha | .trueColourAlpha => [8, 16]

end ColourType

structure Header where
  width : Nat
  height : Nat
  depth : Nat
  colour : ColourType
  interlaced : Bool
  deriving DecidableEq, Repr

namespace Header

def bitsPerPixel (h : Header) : Nat :=
  h.depth * h.colour.channels

def rowBytes (h : Header) (width : Nat) : Nat :=
  (h.bitsPerPixel * width + 7) / 8

def pixelBytes (h : Header) : Nat :=
  (h.bitsPerPixel + 7) / 8

end Header

inductive Stage where
  | start
  | header
  | palette
  | transparency
  | data
  | ending
  deriving DecidableEq, Repr

structure Reader where
  rest : Bytes
  stage : Stage := .start
  header : Header := ⟨0, 0, 0, .gray, false⟩
  palette : Array Colour := #[]
  transparent : Option Bytes := none
  pixels : Option Pixels := none

def next (n : Nat) (s : Bytes) : Except ImageFault (Bytes × Bytes) :=
  match Bytes.split? n s with
  | some split => .ok split
  | none => .error .truncated

def verify (covered : Bytes) (s : Bytes) : Except ImageFault Bytes := do
  let (sum, rest) ← next 4 s
  if Bytes.bigEndian sum == (Checksum.crc32 covered).toNat then .ok rest
  else .error (.png .checksum)

def chunkData (name : Bytes) (length : Nat) (s : Bytes) :
    Except ImageFault (Bytes × Bytes) := do
  let (data, s) ← next length s
  let s ← verify (name ++ data) s
  return (data, s)

def headerOf (data : Bytes) : Except PngFault Header :=
  let field := fun i => (data.getD i 0).toNat
  let width := Bytes.bigEndian (data.take 4)
  let height := Bytes.bigEndian ((data.drop 4).take 4)
  if field 10 != 0 then .error .compression
  else if field 11 != 0 then .error .filterMethod
  else if field 12 > 1 then .error .interlacing
  else if width == 0 || height == 0 || width ≥ 0x80000000 ||
      height ≥ 0x80000000 then
    .error .dimensions
  else if width * height * 8 ≥ 0x8000000000000000 then .error .dimensionOverflow
  else
    match ColourType.ofNumber? (field 9) with
    | none => .error (.depth (field 8) (field 9))
    | some colour =>
        if colour.depths.contains (field 8) then
          .ok ⟨width, height, field 8, colour, field 12 == 1⟩
        else .error (.depth (field 8) (field 9))

def readHeader (length : Nat) (r : Reader) : Except ImageFault Reader := do
  if length != 13 then .error (.png (.chunkLength .header))
  else
    let (data, rest) ← next 13 r.rest
    match headerOf data with
    | .error fault => .error (.png fault)
    | .ok header =>
        let rest ← verify (PngChunk.name .header ++ data) rest
        return { r with rest, stage := .header, header }

def colours : Bytes → List Colour
  | red :: green :: blue :: rest => { red, green, blue } :: colours rest
  | _ => []

def readPalette (length : Nat) (r : Reader) : Except ImageFault Reader := do
  let n := length / 3
  if length % 3 != 0 || n == 0 || n > 256 || n > Nat.pow 2 r.header.depth then
    .error (.png (.chunkLength .palette))
  else
    let (data, rest) ← next length r.rest
    match r.header.colour with
    | .gray | .grayAlpha => .error (.png (.colourMismatch .palette))
    | colour =>
        let rest ← verify (PngChunk.name .palette ++ data) rest
        let palette :=
          if colour == .indexed then (colours data).toArray else #[]
        return { r with rest, stage := .palette, palette }

def extend (n : Nat) (palette : Array Colour) : Array Colour :=
  palette ++ (List.replicate (n - palette.size)
    (⟨0, 0, 0, 255⟩ : Colour)).toArray

def withAlpha (alphas : Bytes) (palette : Array Colour) : Array Colour :=
  ((extend alphas.length palette).toList.zipIdx.map fun (colour, i) =>
    match alphas[i]? with
    | some alpha => { colour with alpha }
    | none => colour).toArray

def readKey (size length : Nat) (r : Reader) : Except ImageFault Reader := do
  if length != size then .error (.png (.chunkLength .transparency))
  else
    let (data, rest) ← chunkData (PngChunk.name .transparency) length r.rest
    return { r with rest, stage := .transparency, transparent := some data }

def readTransparency (length : Nat) (r : Reader) :
    Except ImageFault Reader := do
  match r.header.colour with
  | .gray => readKey 2 length r
  | .trueColour => readKey 6 length r
  | .indexed =>
      if length > 256 then .error (.png (.chunkLength .transparency))
      else
        let (data, rest) ← chunkData (PngChunk.name .transparency) length r.rest
        return { r with
          rest, stage := .transparency, palette := withAlpha data r.palette }
  | .grayAlpha | .trueColourAlpha =>
      .error (.png (.colourMismatch .transparency))

/-- One of several consecutive chunks of pixel data: its place in the file, its
announced length, what there is of its data, and what follows. -/
structure Segment where
  start : Nat
  length : Nat
  data : Bytes
  after : Bytes

/-- The consecutive chunks of pixel data, and the fault that a reader meets
after them. -/
def segments (size : Nat) : Nat → Nat → Bytes → List Segment × ImageFault
  | 0, _, _ => ([], .truncated)
  | fuel + 1, length, s =>
      let segment : Segment :=
        ⟨size - s.length, length, s.take length, s.drop length⟩
      if segment.data.length < length then
        ([segment], .truncated)
      else
        let following := do
          let rest ← verify (PngChunk.name .data ++ segment.data) segment.after
          let (head, rest) ← next 8 rest
          if head.drop 4 == PngChunk.name .data then
            .ok (Bytes.bigEndian (head.take 4), rest)
          else .error (.png .tooFewPixels)
        match following with
        | .error fault => ([segment], fault)
        | .ok (length, rest) =>
            let (later, fault) := segments size fuel length rest
            (segment :: later, fault)

def locate : Nat → List Segment → Option (Segment × Nat)
  | _, [] => none
  | i, segment :: rest =>
      if i < segment.data.length then some (segment, i)
      else locate (i - segment.data.length) rest

/-- The neighbour among left, upper and upper left that is nearest to their
linear continuation. -/
def paeth (left up corner : Nat) : Nat :=
  let p : Int := left + up - corner
  let distance := fun n : Nat => (p - n).natAbs
  if distance left ≤ distance up && distance left ≤ distance corner then left
  else if distance up ≤ distance corner then up
  else corner

def prediction (filter left up corner : Nat) : Option Nat :=
  match filter with
  | 0 => some 0
  | 1 => some left
  | 2 => some up
  | 3 => some ((left + up) / 2)
  | 4 => some (paeth left up corner)
  | _ => none

def unfilter (filter step : Nat) (above row : Array UInt8) :
    Option (Array UInt8) :=
  if filter > 4 then
    none
  else
    some ((List.range row.size).foldl (fun done i =>
      let left := if i < step then 0 else (done.getD (i - step) 0).toNat
      let corner := if i < step then 0 else (above.getD (i - step) 0).toNat
      let up := (above.getD i 0).toNat
      done.push (row.getD i 0 +
        ((prediction filter left up corner).getD 0).toUInt8)) #[])

def samplesOf (depth count : Nat) (row : Array UInt8) : List Nat :=
  (List.range count).map fun i =>
    if depth == 16 then
      (row.getD (2 * i) 0).toNat * 256 + (row.getD (2 * i + 1) 0).toNat
    else
      let bit := i * depth
      (row.getD (bit / 8) 0).toNat / Nat.pow 2 (8 - depth - bit % 8) %
        Nat.pow 2 depth

structure Pass where
  left : Nat
  top : Nat
  across : Nat
  down : Nat

def wholePass : Pass := ⟨0, 0, 1, 1⟩

private def interlacedPasses : List Pass :=
  [⟨0, 0, 8, 8⟩, ⟨4, 0, 8, 8⟩, ⟨0, 4, 4, 8⟩, ⟨2, 0, 4, 4⟩, ⟨0, 2, 2, 4⟩,
    ⟨1, 0, 2, 2⟩, ⟨0, 1, 1, 2⟩]

def places (size first step : Nat) : Nat :=
  (size + step - 1 - first) / step

/-- Reads the rows of a pass; `missing` is the fault if the data ends. -/
def readRows (h : Header) (width : Nat) (missing : ImageFault)
    (data : Array UInt8) :
    Nat → Nat → Array UInt8 → List (List Nat) →
      Except ImageFault (List (List Nat) × Nat)
  | 0, pos, _, done => .ok (done.reverse, pos)
  | left + 1, pos, above, done =>
      let size := h.rowBytes width
      if pos + 1 + size > data.size then
        .error missing
      else
        match unfilter (data.getD pos 0).toNat h.pixelBytes above
          (data.extract (pos + 1) (pos + 1 + size)) with
        | none => .error (.png .filter)
        | some row =>
            readRows h width missing data left (pos + 1 + size) row
              (samplesOf h.depth (width * h.colour.channels) row :: done)

def readPasses (h : Header) (missing : ImageFault) (data : Array UInt8) :
    List Pass → Nat → Except ImageFault (List (Pass × List (List Nat)) × Nat)
  | [], pos => .ok ([], pos)
  | pass :: passes, pos => do
      let width := places h.width pass.left pass.across
      let height := places h.height pass.top pass.down
      if width == 0 || height == 0 then
        readPasses h missing data passes pos
      else
        let (rows, pos) ← readRows h width missing data height pos #[] []
        let (later, pos) ← readPasses h missing data passes pos
        return ((pass, rows) :: later, pos)

def placeRow (h : Header) (pass : Pass) (y : Nat)
    (row : List Nat) (samples : Array Nat) : Array Nat :=
  let channels := h.colour.channels
  row.zipIdx.foldl (fun samples (sample, i) =>
    let x := pass.left + i / channels * pass.across
    samples.setIfInBounds ((y * h.width + x) * channels + i % channels)
      sample) samples

def placePasses (h : Header) (passes : List (Pass × List (List Nat))) :
    Array Nat :=
  passes.foldl (fun samples (pass, rows) =>
    rows.zipIdx.foldl (fun samples (row, i) =>
      placeRow h pass (pass.top + i * pass.down) row samples) samples)
    (Array.replicate (h.width * h.height * h.colour.channels) 0)

/-- The greatest value of a sample with `depth` bits stands for 255. -/
def toByte (depth sample : Nat) : UInt8 :=
  (sample * (255 / (Nat.pow 2 depth - 1))).toUInt8

def pixelsOf (channels : Nat) (samples : Array Nat) : List (Nat → Nat) :=
  (List.range (samples.size / channels)).map fun i channel =>
    samples.getD (i * channels + channel) 0

def Reader.storage (r : Reader) : Storage :=
  let keyed := r.transparent.isSome
  match r.header.colour, r.header.depth with
  | .gray, 16 => if keyed then .colour16 true else .gray16
  | .gray, _ => if keyed then .colour8 true else .gray8
  | .trueColour, 16 => .colour16 keyed
  | .trueColour, _ => .colour8 keyed
  | .grayAlpha, 16 | .trueColourAlpha, 16 => .colour16 true
  | .grayAlpha, _ | .trueColourAlpha, _ => .colour8 true
  | .indexed, _ => .indexed

def picturePixels (r : Reader) (samples : Array Nat) : Pixels :=
  let h := r.header
  let pixels := pixelsOf h.colour.channels samples
  let key := fun i => ((r.transparent.getD []).getD i 0).toNat
  let colour8 := fun (straight : Bool) (f : (Nat → Nat) → List Nat) =>
    Pixels.colour8 straight ((pixels.flatMap f).map Nat.toUInt8).toArray
  let colour16 := fun (straight : Bool) (f : (Nat → Nat) → List Nat) =>
    Pixels.colour16 straight ((pixels.flatMap f).map Nat.toUInt16).toArray
  let clear := fun (isKey : Bool) (most : Nat) => if isKey then 0 else most
  match h.colour, h.depth, r.transparent.isSome with
  | .gray, 16, false => .gray16 (samples.map Nat.toUInt16)
  | .gray, 16, true =>
      colour16 true fun p =>
        [p 0, p 0, p 0, clear (p 0 == key 0 * 256 + key 1) 65535]
  | .gray, depth, false => .gray8 (samples.map (toByte depth))
  | .gray, depth, true =>
      colour8 true fun p =>
        let y := (toByte depth (p 0)).toNat
        [y, y, y, clear (y == (toByte depth (key 1)).toNat) 255]
  | .grayAlpha, 16, _ => colour16 true fun p => [p 0, p 0, p 0, p 1]
  | .grayAlpha, _, _ => colour8 true fun p => [p 0, p 0, p 0, p 1]
  | .trueColour, 16, false => colour16 false fun p => [p 0, p 1, p 2, 65535]
  | .trueColour, 16, true =>
      let isKey := fun (p : Nat → Nat) =>
        (List.range 3).all fun i => p i == key (2 * i) * 256 + key (2 * i + 1)
      colour16 true fun p => [p 0, p 1, p 2, clear (isKey p) 65535]
  | .trueColour, _, false => colour8 false fun p => [p 0, p 1, p 2, 255]
  | .trueColour, _, true =>
      let isKey := fun (p : Nat → Nat) => (List.range 3).all fun i =>
        p i == key (2 * i + 1)
      colour8 true fun p => [p 0, p 1, p 2, clear (isKey p) 255]
  | .trueColourAlpha, 16, _ => colour16 true fun p => [p 0, p 1, p 2, p 3]
  | .trueColourAlpha, _, _ => colour8 true fun p => [p 0, p 1, p 2, p 3]
  | .indexed, _, _ =>
      .indexed (extend (samples.foldl max 0 + 1) r.palette)
        (samples.map Nat.toUInt8)

def blockSize : Nat := 4096

def exceeds (segment : Segment) (i : Nat) : Bool :=
  let block := ((segment.start + i) / blockSize + 1) * blockSize
  segment.start + segment.length >
    min block (segment.start + segment.data.length)

/-- What follows the pixels in the stream: nothing but its end. -/
def checkEnd (stream : Zlib.Stream) (parts : List Segment)
    (sourceEnd : ImageFault) (used : Nat) :
    Except ImageFault Bytes :=
  let left := stream.data.size - used
  if left ≥ 2 then
    .error (.png .tooManyPixels)
  else
    match stream.ending with
    | .starved => .error (.pngStream sourceEnd)
    | .fault f => .error (.pngStream (.zlib f))
    | .complete bytes =>
        match locate (bytes - 1) parts with
        | none => .error (.png .tooManyPixels)
        | some (segment, i) =>
            if left != 0 || exceeds segment i then .error (.png .tooManyPixels)
            else verify (PngChunk.name .data ++ segment.data) segment.after

def readData (size : Nat) (length : Nat) (r : Reader) :
    Except ImageFault Reader := do
  let (parts, sourceEnd) := segments size (r.rest.length + 1) length r.rest
  match Zlib.read (parts.flatMap (·.data)) with
  | none => .error sourceEnd
  | some (.error fault) => .error (.zlib fault)
  | some (.ok stream) =>
      r.storage.claim r.header.width r.header.height
      let missing : ImageFault :=
        match stream.ending with
        | .complete _ => .png .tooFewPixels
        | .starved =>
            if sourceEnd == .truncated then .png .tooFewPixels else sourceEnd
        | .fault f => .zlib f
      let (passes, used) ←
        readPasses r.header missing stream.data
          (if r.header.interlaced then interlacedPasses else [wholePass]) 0
      let rest ← checkEnd stream parts sourceEnd used
      return { r with
        rest, stage := .data
        pixels := some (picturePixels r (placePasses r.header passes)) }

def skip (name : Bytes) (length : Nat) (r : Reader) :
    Except ImageFault Reader := do
  if length > 0x7fffffff then .error (.png (.hugeChunk length))
  else
    let (_, rest) ← chunkData name length r.rest
    return { r with rest }

def readEnding (length : Nat) (r : Reader) : Except ImageFault Reader := do
  if length != 0 then .error (.png (.chunkLength .ending))
  else
    let rest ← verify (PngChunk.name .ending) r.rest
    return { r with rest, stage := .ending }

def transparencyInOrder (r : Reader) : Bool :=
  match r.stage with
  | .header => r.header.colour != .indexed
  | .palette => r.header.colour == .indexed || r.header.colour == .trueColour
  | _ => false

def dataInOrder (r : Reader) : Bool :=
  match r.stage with
  | .header => r.header.colour != .indexed
  | .palette | .transparency => true
  | _ => false

def readChunk (size : Nat) (r : Reader) : Except ImageFault Reader := do
  let (head, rest) ← next 8 r.rest
  let length := Bytes.bigEndian (head.take 4)
  let name := head.drop 4
  let r := { r with rest }
  let inOrder := fun (ok : Bool) (read : Except ImageFault Reader) =>
    if ok then read else .error (.png .chunkOrder)
  if name == PngChunk.name .header then
    inOrder (r.stage == .start) (readHeader length r)
  else if name == PngChunk.name .palette then
    inOrder (r.stage == .header) (readPalette length r)
  else if name == PngChunk.name .transparency then
    inOrder (transparencyInOrder r) (readTransparency length r)
  else if name == PngChunk.name .data && r.stage != .data then
    inOrder (dataInOrder r) (readData size length r)
  else if name == PngChunk.name .ending then
    inOrder (r.stage == .data) (readEnding length r)
  else skip name length r

/-- Reads chunks up to the last one; each takes eight bytes at least. -/
def readChunks (size : Nat) : Nat → Reader → Except ImageFault Reader
  | 0, _ => .error .truncated
  | fuel + 1, r => do
      let r ← readChunk size r
      if r.stage == .ending then .ok r else readChunks size fuel r

def decode (file : Bytes) : Except ImageFault Picture := do
  let r ← readChunks file.length (file.length + 1) { rest := file.drop 8 }
  .ok
    { width := r.header.width
      height := r.header.height
      pixels := r.pixels.getD (.gray8 #[]) }

end ModelGateway.Png
