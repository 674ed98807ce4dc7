import ModelGateway.Image.Png

namespace ModelGateway.Png

def chunk (name data : Bytes) : Bytes :=
  Bytes.toBigEndian 4 data.length ++ name ++ data ++
    Bytes.toBigEndian 4 (Checksum.crc32 (name ++ data)).toNat

def indexDepth (n : Nat) : Nat :=
  if n ≤ 2 then 1 else if n ≤ 4 then 2 else if n ≤ 16 then 4 else 8

def straight8 (part alpha : UInt8) : UInt8 :=
  if alpha == 0 then 0
  else if alpha == 255 then part
  else (part.toNat * (0x101 * 0xffff) / (alpha.toNat * 0x101) / 256).toUInt8

def straight16 (part alpha : UInt16) : UInt16 :=
  if alpha == 0 then 0
  else if alpha == 65535 then part
  else (part.toNat * 0xffff / alpha.toNat).toUInt16

def quadruples {α : Type} : List α → List (α × α × α × α)
  | r :: g :: b :: a :: rest => (r, g, b, a) :: quadruples rest
  | _ => []

/-- A row of small samples, several in a byte. The bits of a sample that is too
great for its place go over into the places before it. -/
def packRow (depth : Nat) : Nat → List Nat → Bytes
  | 0, _ => []
  | _, [] => []
  | fuel + 1, row =>
      let perByte := 8 / depth
      let now := row.take perByte
      let value := now.foldl (fun n i => n * Nat.pow 2 depth % 256 ||| i) 0
      (value * Nat.pow 2 (depth * (perByte - now.length))).toUInt8 ::
        packRow depth fuel (row.drop perByte)

/-- What a file says about pixels: depth, colour type, further chunks, and all
samples, row by row. -/
structure Form where
  depth : Nat
  colour : ColourType
  chunks : Bytes := []
  samples : Array Nat

def Form.pack (form : Form) (row : List Nat) : Bytes :=
  if form.depth == 16 then row.flatMap fun n =>
    [(n / 256).toUInt8, (n % 256).toUInt8]
  else packRow form.depth row.length row

def paletteChunks (palette : List Colour) : Bytes :=
  let alphas := (palette.map (·.alpha)).reverse.dropWhile (· == 255)
  chunk (PngChunk.name .palette) (palette.flatMap fun c =>
    [c.red, c.green, c.blue]) ++ if alphas.isEmpty then
    [] else chunk (PngChunk.name .transparency) alphas.reverse

def formOf : Pixels → Form
  | .gray8 samples =>
      { depth := 8, colour := .gray, samples := samples.map UInt8.toNat }
  | .gray16 samples =>
      { depth := 16, colour := .gray, samples := samples.map UInt16.toNat }
  | .indexed palette indices =>
      { depth := indexDepth palette.size
        colour := .indexed
        chunks := paletteChunks palette.toList
        samples := indices.map UInt8.toNat }
  | .colour8 isStraight samples =>
      let pixels := quadruples samples.toList
      let fix := fun part alpha => if isStraight then
        part else straight8 part alpha
      if pixels.all (·.2.2.2 == 255) then
        { depth := 8, colour := .trueColour
          samples :=
            (pixels.flatMap fun (r, g, b, _) =>
              [r, g, b].map UInt8.toNat).toArray }
      else
        { depth := 8, colour := .trueColourAlpha
          samples :=
            (pixels.flatMap fun (r, g, b, a) =>
              [fix r a, fix g a, fix b a, a].map UInt8.toNat).toArray }
  | .colour16 isStraight samples =>
      let pixels := quadruples samples.toList
      let fix := fun part alpha => if isStraight then
        part else straight16 part alpha
      if pixels.all (·.2.2.2 == 65535) then
        { depth := 16, colour := .trueColour
          samples :=
            (pixels.flatMap fun (r, g, b, _) =>
              [r, g, b].map UInt16.toNat).toArray }
      else
        { depth := 16, colour := .trueColourAlpha
          samples :=
            (pixels.flatMap fun (r, g, b, a) =>
              [fix r a, fix g a, fix b a, a].map UInt16.toNat).toArray }

/-- Why a picture has no file: it is empty or too large, or its palette is. -/
def unwritable? (p : Picture) : Option PngFault :=
  if p.width ≤ 0 || p.height ≤ 0 || p.width ≥ 0x100000000 ||
      p.height ≥ 0x100000000 then
    some (.imageSize p.width p.height)
  else
    match p.pixels with
    | .indexed palette _ =>
        if palette.size < 1 || palette.size > 256 then
          some (.paletteLength palette.size) else none
    | _ => none

def dataSize : Nat := 32768

/-- Bytes in pieces that fit into a chunk, each but the last as long as it can
be. -/
def pieces : Nat → Bytes → List Bytes
  | 0, _ => []
  | fuel + 1, s =>
      if s.length ≤ dataSize then [s]
      else s.take dataSize :: pieces fuel (s.drop dataSize)

def Form.rows (form : Form) (width height : Nat) : Bytes :=
  let count := width * form.colour.channels
  (List.range height).flatMap fun y =>
    0 :: form.pack (form.samples.extract (y * count) ((y + 1) * count)).toList

def Form.header (form : Form) (width height : Nat) : Bytes :=
  Bytes.toBigEndian 4 width ++ Bytes.toBigEndian 4 height ++
    [form.depth.toUInt8, form.colour.number.toUInt8, 0, 0, 0]

def encode (p : Picture) : Bytes :=
  let width := p.width.toNat
  let height := p.height.toNat
  let form := formOf p.pixels
  let stream := Zlib.write (form.rows width height)
  signature ++ chunk (PngChunk.name .header) (form.header width height) ++
    form.chunks ++ (pieces (stream.length + 1) stream).flatMap
      (chunk (PngChunk.name .data)) ++ chunk (PngChunk.name .ending) []

end ModelGateway.Png
