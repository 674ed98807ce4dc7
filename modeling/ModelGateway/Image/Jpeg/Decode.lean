import ModelGateway.Image.Jpeg.Scan
import ModelGateway.Image.Picture

namespace ModelGateway.Jpeg

structure Reader where
  stream : Stream
  frame : Option Frame := none
  steps : Steps := Steps.zero
  codes : Codes := Codes.empty
  interval : Nat := 0
  interchange : Bool := false
  transform : Option UInt8 := none
  idle : Nat := 0
  canvas : Option Canvas := none

namespace Reader

def scan (r : Reader) (n : Nat) : Except ImageFault Reader :=
  match r.frame with
  | none => invalid "missing SOF marker"
  | some frame => do
      let (head, s) ← ScanHead.read frame n r.stream
      let setting : Setting := ⟨frame, r.codes, r.steps, r.interval, head⟩
      let canvas := setting.room (r.canvas.getD (Canvas.blank frame))
      let cursor : Cursor :=
        { stream := s.restart, idle := r.idle, previous := Array.replicate 4 0 }
      let (cursor, canvas) ← setting.units (cursor, canvas)
      return { r with
        stream := cursor.stream, idle := cursor.idle, canvas := some canvas }

def application (r : Reader) (marker : UInt8) (n : Nat) :
    Except ImageFault Reader := do
  if marker == 0xe0 && n ≥ 5 then
    let (name, s) ← r.stream.bytes 5
    let s ← s.skip (n - 5)
    return { r with
      stream := s, interchange := name.toList == [0x4a, 0x46, 0x49, 0x46, 0] }
  else if marker == 0xee && n ≥ 12 then
    let (data, s) ← r.stream.bytes 12
    let s ← s.skip (n - 12)
    if Bytes.startsWith (utf8 "Adobe") data.toList then
      return { r with stream := s, transform := some (data.getD 11 0) }
    else
      return { r with stream := s }
  else
    return { r with stream := ← r.stream.skip n }

def header (r : Reader) (process : Process) (n : Nat) :
    Except ImageFault Reader := do
  if r.frame.isSome then invalid "multiple SOF markers"
  let (frame, stream) ← Frame.read process n r.stream
  return { r with frame := some frame, stream }

def segment (r : Reader) (marker : UInt8) (n : Nat) :
    Except ImageFault Reader :=
  match marker with
  | 0xc0 => r.header .baseline n
  | 0xc1 => r.header .extended n
  | 0xc2 => r.header .progressive n
  | 0xc4 => do
      let baseline := r.frame.any (·.process == .baseline)
      let (codes, stream) ← Codes.read baseline (n + 1) n r.codes r.stream
      return { r with codes, stream }
  | 0xdb => do
      let (steps, stream) ← Steps.read (n + 1) n r.steps r.stream
      return { r with steps, stream }
  | 0xda => r.scan n
  | 0xdd => do
      if n != 2 then invalid "DRI has wrong length"
      let (data, stream) ← r.stream.bytes 2
      return { r with
        stream
        interval := (data.getD 0 0).toNat * 256 + (data.getD 1 0).toNat }
  | 0xfe => do return { r with stream := ← r.stream.skip n }
  | _ =>
      if 0xe0 ≤ marker && marker ≤ 0xef then r.application marker n
      else if marker < 0xc0 then invalid "unknown marker"
      else unsupported "unknown marker"

/-- Finds the next byte `ff` and the byte after it, `first` and `second` being
the last two bytes. Bytes before it are passed over. -/
def seek :
    (fuel : Nat) → (first second : UInt8) → Stream →
      Except ImageFault (UInt8 × Stream)
  | 0, _, _, _ => .error .truncated
  | fuel + 1, first, second, s =>
      if first == 0xff then .ok (second, s)
      else
        match s.byte with
        | .error e => .error e
        | .ok (next, s) => seek fuel second next s

private def unpad :
    (fuel : Nat) → (marker : UInt8) → Stream →
      Except ImageFault (UInt8 × Stream)
  | 0, _, _ => .error .truncated
  | fuel + 1, marker, s =>
      if marker != 0xff then .ok (marker, s)
      else
        match s.byte with
        | .error e => .error e
        | .ok (next, s) => unpad fuel next s

def segments : (fuel : Nat) → Reader → Except ImageFault Reader
  | 0, _ => .error .truncated
  | fuel + 1, r => do
      let size := r.stream.file.size + 1
      let (two, s) ← r.stream.bytes 2
      let (marker, s) ← seek size (two.getD 0 0) (two.getD 1 0) s
      if marker == 0 then segments fuel { r with stream := s }
      else
        let (marker, s) ← unpad size marker s
        if marker == 0xd9 then return { r with stream := s }
        else if 0xd0 ≤ marker && marker ≤ 0xd7 then
          segments fuel { r with stream := s }
        else
          let (two, s) ← s.bytes 2
          let length := (two.getD 0 0).toNat * 256 + (two.getD 1 0).toNat
          if length < 2 then invalid "short segment length"
          let r ← segment { r with stream := s } marker (length - 2)
          segments fuel r

private def develop (r : Reader) (frame : Frame) (canvas : Canvas) :
    Array Plane :=
  (List.range frame.components.size).foldl
    (fun planes i =>
      match canvas.coefficients.getD i none with
      | none => planes
      | some blocks =>
          let c := frame.components.getD i default
          let across := frame.unitsAcross * c.across
          let steps := r.steps.getD c.steps #[]
          let shown := fun size unit part =>
            (size * part + 8 * unit - 1) / (8 * unit)
          let columns :=
            List.range (shown frame.width frame.leading.across c.across)
          let rows := List.range (shown frame.height frame.leading.down c.down)
          rows.foldl
            (fun planes y =>
              columns.foldl
                (fun planes x =>
                  let b := blocks.getD (y * across + x) Block.zero
                  planes.modify i (·.set x y (b.samples steps)))
                planes)
            planes)
    canvas.planes

end Reader

/-- A part of a colour from brightness and colour differences, in units of
1/65536 of a step of eight bits, cut off at both ends. -/
def part (x : Int) : Nat :=
  (max 0 (min x (256 * 65536 - 1))).toNat

private def mix (y cb cr : UInt8) : Nat × Nat × Nat :=
  let y := (y.toNat : Int) * 0x10101
  let cb := (cb.toNat : Int) - 128
  let cr := (cr.toNat : Int) - 128
  (part (y + 91881 * cr), part (y - 22554 * cb - 46802 * cr),
    part (y + 116130 * cb))

/-- The samples of all components at a pixel, those of coarser components spread
out. -/
def at' (frame : Frame) (planes : Array Plane) (x y i : Nat) : UInt8 :=
  let c := frame.components.getD i default
  let lead := frame.leading
  (planes.getD i default).sample (x * c.across / lead.across)
    (y * c.down / lead.down)

def pixels {α : Type} (width height : Nat)
    (f : (x y : Nat) → List α) : Array α :=
  (List.range height).foldl
    (fun out y => (List.range width).foldl
      (fun out x => (f x y).foldl Array.push out) out) #[]

def solid (parts : Nat × Nat × Nat) : List UInt16 :=
  [parts.1.toUInt16, parts.2.1.toUInt16, parts.2.2.toUInt16, 0xffff]

private def inked (cyan magenta yellow black : UInt8) : Nat × Nat × Nat :=
  let left := fun (ink : UInt8) => 0xffff - ink.toNat * 0x101
  let white := left black
  (left cyan * white / 0xffff, left magenta * white / 0xffff,
    left yellow * white / 0xffff)

def colours (r : Reader) (frame : Frame) (planes : Array Plane) :
    Except ImageFault Pixels :=
  let sample := at' frame planes
  let whole := fun {α : Type} (f : Nat → Nat → List α) =>
    pixels frame.width frame.height f
  match frame.components.size with
  | 1 => .ok (.gray8 (whole fun x y => [sample x y 0]))
  | 3 =>
      let names := (frame.components.toList.map (·.name))
      if !r.interchange && (r.transform == some 0 || names == utf8 "RGB") then
        .ok (.colour8 true (whole fun x y =>
          [sample x y 0, sample x y 1, sample x y 2, 255]))
      else
        .ok (.colour16 true (whole fun x y =>
          let (red, green, blue) :=
            mix (sample x y 0) (sample x y 1) (sample x y 2)
          solid (red / 256, green / 256, blue / 256)))
  | _ =>
      match r.transform with
      | none =>
          unsupported
            "unknown color model: 4-component JPEG doesn't have Adobe APP14 metadata"
      | some 0 =>
          .ok (.colour16 true (whole fun x y =>
            solid (inked (255 - sample x y 0) (255 - sample x y 1)
              (255 - sample x y 2) (255 - sample x y 3))))
      | some _ =>
          .ok (.colour16 true (whole fun x y =>
            let (red, green, blue) :=
              mix (sample x y 0) (sample x y 1) (sample x y 2)
            let byte := fun (n : Nat) => (n / 65536).toUInt8
            solid (inked (byte red) (byte green) (byte blue)
              (255 - sample x y 3))))

def Reader.picture (r : Reader) : Except ImageFault Picture :=
  match r.frame, r.canvas with
  | some frame, some canvas => do
      let planes := if frame.process == .progressive then r.develop frame canvas
        else canvas.planes
      let pixels ← colours r frame planes
      if frame.width == 0 || frame.height == 0 then
        return { width := 0, height := 0, pixels }
      else return { width := frame.width, height := frame.height, pixels }
  | _, _ => invalid "missing SOS marker"

def decode (file : Bytes) : Except ImageFault Picture := do
  let file := file.toArray
  let (start, stream) ← Stream.bytes 2 { file }
  if start.toList != [0xff, 0xd8] then invalid "missing SOI marker"
  else
    let r ← Reader.segments (file.size + 1) { stream }
    r.picture

end ModelGateway.Jpeg
