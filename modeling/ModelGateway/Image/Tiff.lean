import ModelGateway.Image.Fax
import ModelGateway.Image.Lzw
import ModelGateway.Image.Picture
import ModelGateway.Image.Storage
import ModelGateway.Image.Zlib

/-!
TIFF files: a directory of tagged values that say where strips or tiles of
pixels stand in the file, and how they are written.
-/

namespace ModelGateway.Tiff

/-- A file with random access. What was read so far decides how a missing part
is reported: as the end of the file if all of it was read before, as a
truncation otherwise. -/
structure File where
  bytes : Array UInt8
  reached : Nat := 0

namespace File

/-- The fault of a read up to `stop`, if the file does not go so far. -/
def missing? (f : File) (stop : Nat) : Option ImageFault :=
  if stop ≤ max f.reached f.bytes.size then none
  else if f.reached == f.bytes.size then some .endOfFile
  else some .truncated

def advance (f : File) (stop : Nat) : File :=
  { f with reached := max f.reached (min stop f.bytes.size) }

def read (f : File) (offset n : Nat) : Except ImageFault (Array UInt8 × File) :=
  match f.missing? (offset + n) with
  | some fault => .error fault
  | none => .ok (f.bytes.extract offset (offset + n), f.advance (offset + n))

def readBlock (f : File) (offset n : Nat) :
    Except ImageFault (Array UInt8 × File) :=
  match f.read offset n with
  | .error .endOfFile => if n == 0 then .ok (#[], f) else .error .endOfFile
  | result => result

end File

/-- The bytes of a part of the file as a stream, and the fault after them.
Streams are read in pieces, and a piece that the file does not fill is filled
with zeros. -/
structure Section where
  bytes : Bytes
  fault : ImageFault
  file : File

private def sectionOf (piece : Nat) (f : File) (offset n : Nat) : Section :=
  let stop := offset + n
  if stop ≤ f.bytes.size || n == 0 then
    ⟨(f.bytes.extract offset stop).toList, .endOfFile, f.advance stop⟩
  else
    let whole := (f.bytes.size - offset) / piece * piece
    let pieceEnd := min stop (offset + whole + piece)
    -- The fault tells whether anything was left for the piece that failed.
    let before := if whole == 0 then f else f.advance (offset + whole)
    let fault : ImageFault :=
      if before.reached ≥ f.bytes.size then .endOfFile else .truncated
    let present := (f.bytes.extract offset (min pieceEnd f.bytes.size)).toList
    let missing := pieceEnd - offset - present.length
    ⟨present ++ List.replicate missing 0, fault, f.advance stop⟩

private def streamOf (f : File) (offset n : Nat) : Section :=
  sectionOf 4096 f offset n

inductive Order where
  | little
  | big
  deriving DecidableEq, Repr

def Order.number (o : Order) (s : Bytes) : Nat :=
  match o with
  | .little => Bytes.littleEndian s
  | .big => Bytes.bigEndian s

def Order.at (o : Order) (bytes : Array UInt8) (i n : Nat) : Nat :=
  o.number (bytes.extract i (i + n)).toList

private def Order.bytes16 (o : Order) (n : Nat) : Bytes :=
  match o with
  | .little => [(n % 256).toUInt8, (n / 256 % 256).toUInt8]
  | .big => [(n / 256 % 256).toUInt8, (n % 256).toUInt8]

inductive Tag where
  | width
  | height
  | bitsPerSample
  | compression
  | photometric
  | fillOrder
  | stripOffsets
  | rowsPerStrip
  | stripCounts
  | t4Options
  | t6Options
  | predictor
  | colourMap
  | tileWidth
  | tileHeight
  | tileOffsets
  | tileCounts
  | extraSamples
  | sampleFormat
  deriving DecidableEq, Repr

def Tag.ofNumber? : Nat → Option Tag
  | 256 => some .width
  | 257 => some .height
  | 258 => some .bitsPerSample
  | 259 => some .compression
  | 262 => some .photometric
  | 266 => some .fillOrder
  | 273 => some .stripOffsets
  | 278 => some .rowsPerStrip
  | 279 => some .stripCounts
  | 292 => some .t4Options
  | 293 => some .t6Options
  | 317 => some .predictor
  | 320 => some .colourMap
  | 322 => some .tileWidth
  | 323 => some .tileHeight
  | 324 => some .tileOffsets
  | 325 => some .tileCounts
  | 338 => some .extraSamples
  | 339 => some .sampleFormat
  | _ => none

abbrev Directory := List (Tag × List Nat)

namespace Directory

def values (d : Directory) (tag : Tag) : List Nat :=
  ((d.find? (·.1 == tag)).map Prod.snd).getD []

def first (d : Directory) (tag : Tag) : Nat :=
  (d.values tag).headD 0

end Directory

private def typeSizes : List Nat := [0, 1, 1, 2, 4, 8]

/-- The values of a directory entry. Types other than numbers of one, two and
four bytes are refused. -/
def entryValues (o : Order) (f : File) (entry : Array UInt8) :
    Except ImageFault (List Nat × File) := do
  let kind := o.at entry 2 2
  let count := o.at entry 4 4
  let size := typeSizes.getD kind 0
  if kind == 0 || kind ≥ typeSizes.length then
    .error (.tiff .entryType)
  else if count > (0x80000000 - 1) / size then
    .error (.tiff .dataTooLarge)
  else
    let (raw, f) ←
      if size * count > 4 then f.readBlock (o.at entry 8 4) (size * count)
      else .ok (entry.extract 8 (8 + size * count), f)
    if kind == 1 || kind == 3 || kind == 4 then
      return ((List.range count).map fun i => o.at raw (i * size) size, f)
    else
      .error (.tiff .dataType)

private def checkValues (tag : Tag) (values : List Nat) :
    Except ImageFault Unit :=
  match tag with
  | .colourMap =>
      let n := values.length / 3
      if values.length % 3 != 0 || n == 0 || n > 256 then
        .error (.tiff .colourMapLength) else .ok ()
  | .sampleFormat =>
      if values.all (· == 1) then .ok () else .error (.tiff .sampleFormat)
  | _ => .ok ()

private def readEntries (o : Order) :
    Int → List (Array UInt8) → File → Directory →
    Except ImageFault (Directory × File)
  | _, [], f, d => .ok (d, f)
  | previous, entry :: entries, f, d => do
      let number := o.at entry 0 2
      let (f, d) ←
        match Tag.ofNumber? number with
        | none => .ok (f, d)
        | some tag => do
            let (values, f) ← entryValues o f entry
            checkValues tag values
            .ok (f, d ++ [(tag, values)])
      if (number : Int) ≤ previous then .error (.tiff .unsorted)
      else readEntries o number entries f d

inductive Mode where
  | gray (inverted : Bool)
  | indexed
  | colour
  | alpha (straight : Bool)
  deriving DecidableEq, Repr

structure Layout where
  order : Order
  directory : Directory
  width : Nat
  height : Nat
  bits : Nat
  samples : Nat
  mode : Mode
  palette : List Colour

private def paletteOf (values : List Nat) : List Colour :=
  let n := values.length / 3
  let part := fun i => (values.getD i 0 / 256 % 256).toUInt8
  (List.range n).map fun i =>
    { red := part i, green := part (i + n), blue := part (i + 2 * n) }

private def modeOf (d : Directory) (bits : List Nat) : Except ImageFault Mode :=
  let depth := bits.headD 0
  let single := fun mode => if bits.length == 1 then
    .ok mode else .error (.tiff .extraSamples)
  match d.first .photometric with
  | 0 => single (.gray true)
  | 1 => single (.gray false)
  | 2 =>
      if depth == 16 && bits.any (· != 16) then
        .error (.tiff (.samples "16bit RGB"))
      else if depth != 16 && bits.any (· != 8) then
        .error (.tiff (.samples "8bit RGB"))
      else if bits.length == 3 then .ok .colour
      else if bits.length == 4 && d.first .extraSamples == 1 then
        .ok (.alpha false)
      else if bits.length == 4 && d.first .extraSamples == 2 then
        .ok (.alpha true)
      else .error (.tiff (.samples "RGB"))
  | 3 => single .indexed
  | _ => .error (.tiff .colourModel)

private def entriesOf (bytes : Array UInt8) : List (Array UInt8) :=
  (List.range (bytes.size / 12)).map fun i =>
    bytes.extract (i * 12) ((i + 1) * 12)

private def readLayout (file : Bytes) : Except ImageFault (Layout × File) := do
  let f : File := { bytes := file.toArray }
  if file.length < 8 then
    .error .truncated
  else
    let (head, f) ← f.read 0 8
    let order : Order := if file.headD 0 == 0x49 then .little else .big
    let offset := order.at head 4 4
    let (count, f) ← f.read offset 2
    let (entries, f) ← f.readBlock (offset + 2) (12 * order.at count 0 2)
    let (d, f) ← readEntries order (-1) (entriesOf entries) f []
    let bits :=
      if d.any (·.1 == .bitsPerSample) then d.values .bitsPerSample else [1]
    let depth := bits.headD 0
    if depth == 0 then .error (.tiff .noBits)
    else if depth != 1 && depth != 8 && depth != 16 then
      .error (.tiff (.bits depth))
    else
      let mode ← modeOf d bits
      return (⟨order, d, d.first .width, d.first .height, depth, bits.length,
        mode, paletteOf (d.values .colourMap)⟩, f)

private def unpackRuns : Nat → ImageFault → Bytes → Except ImageFault Bytes
  | 0, fault, _ => .error fault
  | _, fault, [] => if fault == .endOfFile then .ok [] else .error fault
  | fuel + 1, fault, code :: s =>
      if code < 128 then
        let n := code.toNat + 1
        match Bytes.split? n s with
        | none => .error (if s.isEmpty then fault else .truncated)
        | some (literal, s) => (unpackRuns fuel fault s).map (literal ++ ·)
      else if code == 128 then
        unpackRuns fuel fault s
      else
        match s with
        | [] => .error fault
        | byte :: s =>
            (unpackRuns fuel fault s).map
              (List.replicate (257 - code.toNat) byte ++ ·)

structure Area where
  left : Nat
  top : Nat
  width : Nat
  height : Nat

private def readFax (l : Layout) (area : Area) (most : Nat)
    (f : File) (offset n : Nat) (relative : Bool) :
    Except ImageFault (Array UInt8 × File) :=
  let part := sectionOf 1024 f offset n
  let format : Fax.Format :=
    { relative
      lowFirst := l.directory.first .fillOrder == 2
      inverted := l.directory.first .photometric == 0 }
  let (bytes, fault?) :=
    format.read ⟨area.width, part.fault⟩ area.height part.bytes
  match fault? with
  | some fault =>
      if bytes.length < most then .error fault
      else .ok ((bytes.take most).toArray, part.file)
  | none => .ok ((bytes.take most).toArray, part.file)

private def readBytes (l : Layout) (area : Area) (most : Nat)
    (f : File) (offset n : Nat) :
    Except ImageFault (Array UInt8 × File) :=
  match l.directory.first .compression with
  | 0 | 1 => f.readBlock offset n
  | 3 => readFax l area most f offset n false
  | 4 => readFax l area most f offset n true
  | 5 =>
      let part := streamOf f offset n
      let result := Lzw.Scheme.read ⟨8, true, true⟩ most part.bytes
      let data := result.data.extract 0 most
      if result.data.size ≥ most then .ok (data, part.file)
      else
        match result.ending with
        | .complete | .full => .ok (data, part.file)
        | .starved => .error .truncated
        | .invalidCode => .error .lzw
  | 8 | 32946 =>
      let part := streamOf f offset n
      match Zlib.read part.bytes with
      | none => .error .truncated
      | some (.error fault) => .error (.zlib fault)
      | some (.ok stream) =>
          -- The end of the stream is seen together with the last bytes, unless
          -- these fill a window.
          if stream.data.size > most ||
              (stream.data.size == most && most % Zlib.windowSize == 0) then
            .ok (stream.data.extract 0 most, part.file)
          else
            match stream.ending with
            | .complete _ => .ok (stream.data, part.file)
            | .starved => .error .truncated
            | .fault fault => .error (.zlib fault)
  | 32773 =>
      let part := streamOf f offset n
      (unpackRuns (part.bytes.length + 1) part.fault part.bytes).map
        fun bytes =>
          (bytes.toArray, part.file)
  | other => .error (.tiff (.compression other))

private def addBytes (step rowLength : Nat) :
    List Nat → Array UInt8 → Option (Array UInt8)
  | [], data => some data
  | row :: rows, data =>
      let start := row * (step + rowLength) + step
      if start + rowLength > data.size && rowLength > 0 then
        none
      else
        addBytes step rowLength rows
          ((List.range rowLength).foldl (fun data i =>
            data.setIfInBounds (start + i)
              (data.getD (start + i) 0 + data.getD (start + i - step) 0)) data)

private def addWords (o : Order) (step rowLength : Nat) :
    List Nat → Array UInt8 → Option (Array UInt8)
  | [], data => some data
  | row :: rows, data =>
      let start := row * (step + rowLength) + step
      if start + rowLength > data.size && rowLength > 0 then
        none
      else
        addWords o step rowLength rows
          ((List.range (rowLength / 2)).foldl (fun data i =>
            let here := start + 2 * i
            let sum := o.bytes16 (o.at data here 2 + o.at data (here - step) 2)
            (data.setIfInBounds here (sum.headD 0)).setIfInBounds (here + 1)
              (sum.getD 1 0)) data)

private def unpredict (l : Layout) (area : Area) (data : Array UInt8) :
    Except ImageFault (Array UInt8) :=
  if l.directory.first .predictor != 2 then
    .ok data
  else
    let step := l.samples * (l.bits / 8)
    let rowLength := (area.width - 1) * step
    let done :=
      if l.bits == 16 then addWords l.order step rowLength
        (List.range area.height) data
      else addBytes step rowLength (List.range area.height) data
    if l.bits == 1 then .error (.tiff .predictor)
    else
      match done with
      | some data => .ok data
      | none => .error (.tiff .tooFewPixels)

private def samplesAt (l : Layout) (data : Array UInt8) (place count : Nat) :
    Option (List Nat) :=
  let size := l.bits / 8
  if place + count * size > data.size then none
  else some ((List.range count).map fun i =>
    l.order.at data (place + i * size) size)

/-- A sample among bits that are read from the high end of each byte. Rows start
at whole bytes, and follow one another without what lies beyond the picture. -/
def packedSample (l : Layout) (visible row column : Nat) (data : Array UInt8) :
    Option Nat :=
  let rowBytes := (visible * l.bits + 7) / 8
  let bit := column * l.bits
  let place := row * rowBytes + bit / 8
  if place + (l.bits + 7) / 8 > data.size then none
  else if l.bits == 16 then
    some ((data.getD place 0).toNat * 256 + (data.getD (place + 1) 0).toNat)
  else some ((data.getD place 0).toNat / Nat.pow 2 (8 - l.bits - bit % 8) %
    Nat.pow 2 l.bits)

def pixelAt (l : Layout) (area : Area) (visible row column : Nat)
    (data : Array UInt8) :
    Except ImageFault (List Nat) :=
  let orMissing := fun (samples : Option (List Nat)) =>
    match samples with
    | some samples => Except.ok samples
    | none => .error (.tiff .tooFewPixels)
  match l.mode with
  | .gray inverted =>
      if l.bits == 16 then do
        let samples ← orMissing
          (samplesAt l data (2 * (row * area.width + column)) 1)
        return samples.map fun v => if inverted then 65535 - v else v
      else
        orMissing ((packedSample l visible row column data).map fun v =>
          let v := v * 255 / (Nat.pow 2 l.bits - 1)
          [if inverted then 255 - v else v])
  | .indexed => do
      let samples ← orMissing
        ((packedSample l visible row column data).map fun v => [v % 256])
      if samples.any (· ≥ l.palette.length) then .error (.tiff .colourIndex)
      else return samples
  | .colour =>
      if l.bits == 16 then do
        let samples ← orMissing
          (samplesAt l data (6 * (row * visible + column)) 3)
        return samples ++ [65535]
      else do
        let samples ← orMissing
          (samplesAt l data (3 * (row * area.width + column)) 3)
        return samples ++ [255]
  | .alpha _ =>
      if l.bits == 16 then
        orMissing (samplesAt l data (8 * (row * visible + column)) 4)
      else if (row + 1) * area.width * 4 > data.size then
        .error (.tiff .tooFewPixels)
      else
        orMissing (samplesAt l data (4 * (row * area.width + column)) 4)

def channels (l : Layout) : Nat :=
  match l.mode with
  | .gray _ | .indexed => 1
  | .colour | .alpha _ => 4

def placeBlock (l : Layout) (area : Area) (data : Array UInt8)
    (samples : Array Nat) :
    Except ImageFault (Array Nat) := do
  let data ← unpredict l area data
  let columns := min area.width (l.width - area.left)
  let rows := min area.height (l.height - area.top)
  (List.range (rows * columns)).foldlM (fun samples i => do
    let row := i / columns
    let column := i % columns
    let pixel ← pixelAt l area columns row column data
    let place := ((area.top + row) * l.width + area.left + column) * channels l
    return pixel.zipIdx.foldl (fun samples (v, k) =>
      samples.setIfInBounds (place + k) v) samples) samples

/-- How the picture is divided: the size of a block, the number of blocks in
each direction, and where the blocks stand. -/
structure Grid where
  padded : Bool
  width : Nat
  height : Nat
  across : Nat
  down : Nat
  offsets : List Nat
  counts : List Nat

private def gridOf (l : Layout) : Except ImageFault Grid :=
  let d := l.directory
  let blocks := fun size block =>
    if block == 0 then (if size == 0 then 0 else 1)
    else (size + block - 1) / block
  let grid : Except ImageFault Grid :=
    if d.first .tileWidth != 0 then
      let width := d.first .tileWidth
      let height := d.first .tileHeight
      if width < 8 || height < 8 then .error (.tiff .tileSize)
      else .ok ⟨true, width, height, blocks l.width width,
        blocks l.height height, d.values .tileOffsets, d.values .tileCounts⟩
    else
      let height := if d.first .rowsPerStrip != 0 then d.first .rowsPerStrip
        else l.height
      .ok ⟨false, l.width, height, if l.width == 0 then
        0 else 1, blocks l.height height, d.values .stripOffsets,
        d.values .stripCounts⟩
  match grid with
  | .error fault => .error fault
  | .ok g =>
      let n := g.across * g.down
      if g.offsets.length < n || g.counts.length < n then .error (.tiff .blocks)
      else .ok g

private def areaOf (l : Layout) (g : Grid) (column row : Nat) : Area :=
  let height :=
    if !g.padded && row + 1 == g.down && l.height % g.height != 0 then
      l.height % g.height else g.height
  ⟨column * g.width, row * g.height, g.width, height⟩

/-- The most bytes that a block may have, a signed number of 64 bits. -/
def Grid.most (g : Grid) : Nat :=
  let size := g.width * g.height * 8 % 0x10000000000000000
  if size < 0x8000000000000000 then size else 0

def readBlocks (l : Layout) (g : Grid) (f : File) :
    Except ImageFault (Array Nat) := do
  let start := Array.replicate (l.width * l.height * channels l) 0
  let places := (List.range g.across).flatMap fun column =>
    (List.range g.down).map fun row => (column, row)
  let (samples, _) ← places.foldlM (fun (samples, f) (column, row) => do
    let i := row * g.across + column
    let area := areaOf l g column row
    let (data, f) ←
      readBytes l area g.most f (g.offsets.getD i 0) (g.counts.getD i 0)
    let samples ← placeBlock l area data samples
    return (samples, f)) (start, f)
  return samples

def pixelsOf (l : Layout) (samples : Array Nat) : Pixels :=
  match l.mode, l.bits with
  | .gray _, 16 => .gray16 (samples.map Nat.toUInt16)
  | .gray _, _ => .gray8 (samples.map Nat.toUInt8)
  | .indexed, _ => .indexed l.palette.toArray (samples.map Nat.toUInt8)
  | .colour, 16 => .colour16 false (samples.map Nat.toUInt16)
  | .colour, _ => .colour8 false (samples.map Nat.toUInt8)
  | .alpha straight, 16 => .colour16 straight (samples.map Nat.toUInt16)
  | .alpha straight, _ => .colour8 straight (samples.map Nat.toUInt8)

def Layout.storage (l : Layout) : Storage :=
  match l.mode, l.bits with
  | .gray _, 16 => .gray16
  | .gray _, _ => .gray8
  | .indexed, _ => .indexed
  | .colour, 16 => .colour16 false
  | .colour, _ => .colour8 false
  | .alpha straight, 16 => .colour16 straight
  | .alpha straight, _ => .colour8 straight

def decode (file : Bytes) : Except ImageFault Picture := do
  let (l, f) ← readLayout file
  let g ← gridOf l
  l.storage.claim l.width l.height
  let samples ← readBlocks l g f
  return { width := l.width, height := l.height, pixels := pixelsOf l samples }

end ModelGateway.Tiff
