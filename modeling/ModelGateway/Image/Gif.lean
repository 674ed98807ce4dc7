import ModelGateway.Image.Checksum
import ModelGateway.Image.Fault
import ModelGateway.Image.Lzw
import ModelGateway.Image.Picture

namespace ModelGateway.Gif

structure Reader where
  rest : Bytes
  width : Nat
  height : Nat
  globalTable : Option (List Colour)
  transparent : Option Nat := none

def next (part : GifPart) (n : Nat) (s : Bytes) :
    Except ImageFault (Bytes × Bytes) :=
  match Bytes.split? n s with
  | some split => .ok split
  | none => .error (.gif (.truncated part))

def word (s : Bytes) (i : Nat) : Nat :=
  Bytes.littleEndian ((s.drop i).take 2)

def colours : Bytes → List Colour
  | red :: green :: blue :: rest => { red, green, blue } :: colours rest
  | _ => []

private def readTable (flags : UInt8) (s : Bytes) :
    Except ImageFault (Option (List Colour) × Bytes) := do
  if flags &&& 0x80 == 0 then
    return (none, s)
  else
    let n := Nat.pow 2 (1 + flags.toNat % 8)
    let (table, s) ← next .colourTable (3 * n) s
    return (some (colours table), s)

private def readScreen (file : Bytes) : Except ImageFault Reader := do
  let (head, s) ← next .header 13 file
  let version := head.take 6
  if version != utf8 "GIF87a" && version != utf8 "GIF89a" then
    .error (.gif (.version version))
  else
    let (table, s) ← readTable (head.getD 10 0) s
    return ⟨s, word head 6, word head 8, table, none⟩

private def skipBlocks : Nat → Bytes → Except ImageFault Bytes
  | 0, _ => .error (.gif (.truncated .extension))
  | fuel + 1, s => do
      let (size, s) ← next .extension 1 s
      let n := (size.headD 0).toNat
      if n == 0 then
        return s
      else
        let (_, s) ← next .extension n s
        skipBlocks fuel s

private def readControl (r : Reader) : Except ImageFault Reader := do
  let (block, rest) ← next .graphicControl 6 r.rest
  let field := fun i => block.getD i 0
  if field 0 != 4 then .error (.gif (.controlSize (field 0).toNat))
  else if field 5 != 0 then .error (.gif (.controlEnd (field 5).toNat))
  else
    let transparent := if field 1 &&& 1 == 0 then
      r.transparent else some (field 4).toNat
    return { r with rest, transparent }

private def skipExtension (n : Nat) (r : Reader) :
    Except ImageFault Reader := do
  let (_, s) ← next .extension n r.rest
  let rest ← skipBlocks (s.length + 1) s
  return { r with rest }

private def readExtension (r : Reader) : Except ImageFault Reader := do
  let (mark, rest) ← next .extension 1 r.rest
  let r := { r with rest }
  match mark.headD 0 with
  | 0x01 => skipExtension 13 r
  | 0xf9 => readControl r
  | 0xfe => skipExtension 0 r
  | 0xff =>
      let (size, rest) ← next .extension 1 r.rest
      skipExtension (size.headD 0).toNat { r with rest }
  | other => .error (.gif (.extension other))

private def subBlocks : Nat → Bytes → List Bytes × Bool
  | 0, _ => ([], false)
  | _ + 1, [] => ([], false)
  | fuel + 1, size :: s =>
      if size == 0 then
        ([], true)
      else
        match Bytes.split? size.toNat s with
        | none => ([], false)
        | some (block, s) =>
            let (blocks, ended) := subBlocks fuel s
            (block :: blocks, ended)

/-- What remains after `used` bytes: whether some of the present block is left,
and the blocks after it. -/
def afterBytes : Nat → List Bytes → Bool × List Bytes
  | _, [] => (false, [])
  | used, block :: blocks =>
      if used ≤ block.length then (used < block.length, blocks)
      else afterBytes (used - block.length) blocks

/-- What may follow the pixels: the rest of a block, or one more block of one
byte, and then the end. -/
def checkEnd (used : Nat) (blocks : List Bytes) (ended : Bool) :
    Except ImageFault Unit :=
  let close : List Bytes → Except ImageFault Unit := fun
    | [] => if ended then .ok () else .error (.gif (.truncated .imageData))
    | _ :: _ => .error (.gif .tooMuchData)
  match afterBytes used blocks with
  | (false, extra :: later) =>
      if extra.length > 1 then .error (.gif .tooMuchData) else close later
  | (_, later) => close later

def readPixels (count : Nat) (s : Bytes) : Except ImageFault (Array UInt8) := do
  let (bits, s) ← next .imageData 1 s
  let literalBits := (bits.headD 0).toNat
  if literalBits < 2 || literalBits > 8 then
    .error (.gif (.codeSize literalBits))
  else
    let (blocks, ended) := subBlocks (s.length + 1) s
    let result :=
      Lzw.Scheme.read ⟨literalBits, false, false⟩ count blocks.flatten
    if result.data.size > count then
      .error (.gif .tooMuchData)
    else if result.data.size < count then
      .error (.gif (if result.ending == .invalidCode then
        .invalidCode else .tooLittleData))
    else
      match result.ending with
      | .invalidCode => .error (.gif .invalidCode)
      | .starved =>
          if ended then .ok result.data
          else .error (.gif (.truncated .imageData))
      | .complete | .full => do
          checkEnd result.used blocks ended
          return result.data

def interlacedRows (height : Nat) : List Nat :=
  let rows := fun first step => (List.range height).filter fun y => y ≥ first &&
    (y - first) % step == 0
  rows 0 8 ++ rows 4 8 ++ rows 2 4 ++ rows 1 2

def uninterlace (width height : Nat) (pixels : Array UInt8) : Array UInt8 :=
  let places := (interlacedRows height).zipIdx
  ((List.range height).flatMap fun y =>
    match places.find? (·.1 == y) with
    | some (_, i) => (pixels.extract (i * width) ((i + 1) * width)).toList
    | none => []).toArray

/-- The table with its transparent colour cleared, and made longer if it does
not reach so far. -/
def withTransparent (transparent : Option Nat) (table : List Colour) :
    List Colour :=
  match transparent with
  | none => table
  | some i =>
      let clear : Colour := ⟨0, 0, 0, 0⟩
      (table ++ List.replicate (i + 1 - table.length) clear).set i clear

def readFrame (r : Reader) : Except ImageFault Picture := do
  let (head, s) ← next .descriptor 9 r.rest
  let left := word head 0
  let top := word head 2
  let width := word head 4
  let height := word head 6
  let flags := head.getD 8 0
  if left + width > r.width || top + height > r.height then
    .error (.gif .frameBounds)
  else
    let (own, s) ← readTable flags s
    match own.or r.globalTable with
    | none => .error (.gif .noColourTable)
    | some table =>
        let table := withTransparent r.transparent table
        let pixels ← readPixels (width * height) s
        if pixels.any fun i => i.toNat ≥ table.length then
          .error (.gif .pixelValue)
        else
          let pixels :=
            if flags &&& 0x40 == 0 then pixels
            else uninterlace width height pixels
          return {
            left, top, width, height
            pixels := .indexed table.toArray pixels }

def readBlocks : Nat → Reader → Except ImageFault Picture
  | 0, _ => .error (.gif (.truncated .frames))
  | fuel + 1, r => do
      let (mark, rest) ← next .frames 1 r.rest
      let r := { r with rest }
      match mark.headD 0 with
      | 0x21 => readBlocks fuel (← readExtension r)
      | 0x2c => readFrame r
      | 0x3b => .error (.gif .noFrame)
      | other => .error (.gif (.block other))

def decode (file : Bytes) : Except ImageFault Picture := do
  let r ← readScreen file
  readBlocks (file.length + 1) r

end ModelGateway.Gif
