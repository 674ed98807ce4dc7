import ModelGateway.Image.Fault
import ModelGateway.Image.Inflate

namespace ModelGateway.Webp.Lossless

abbrev Bits := Inflate.Bits

def invalid {α : Type} (what : String) : Except ImageFault α :=
  .error (.webp (.lossless what))

def take (n : Nat) (b : Bits) : Except ImageFault (Nat × Bits) :=
  match b.take n with
  | .ok result => .ok result
  | .error _ => .error .truncated

inductive Tree where
  | empty
  | leaf (symbol : Nat)
  | node (zero one : Tree)

namespace Tree

/-- Enters the code of a symbol, its first bit first. At most `room` places can
be made for it; gives the room that is left. -/
def insert (symbol : Nat) :
    List Bool → (room : Nat) → Tree → Option (Tree × Nat)
  | [], _, .node _ _ => none
  | [], room, _ => some (.leaf symbol, room)
  | _ :: _, _, .leaf _ => none
  | bit :: bits, room, .empty =>
      if room < 2 then none
      else
        (insert symbol bits (room - 2) .empty).map fun (t, room) =>
          (if bit then .node .empty t else .node t .empty, room)
  | bit :: bits, room, .node zero one =>
      if bit then (insert symbol bits room one).map fun (t, room) =>
        (.node zero t, room)
      else (insert symbol bits room zero).map fun (t, room) =>
        (.node t one, room)

def read : Tree → Bits → Except ImageFault (Nat × Bits)
  | .empty, _ => invalid "invalid Huffman tree"
  | .leaf symbol, b => .ok (symbol, b)
  | .node zero one, b =>
      match take 1 b with
      | .error e => .error e
      | .ok (bit, b) => if bit == 0 then read zero b else read one b

private def codeBits (code : Nat) : (length : Nat) → List Bool
  | 0 => []
  | length + 1 => code.testBit length :: codeBits code length

private def ofCodes? (codes : List (Nat × Nat × Nat)) : Option Tree :=
  (codes.foldlM
    (fun (t, room) (symbol, code, length) =>
      insert symbol (codeBits code length) room t)
    (Tree.empty, 2 * codes.length - 2)).map Prod.fst

def number : List (Nat × Nat) → (next : Array Nat) → List (Nat × Nat × Nat)
  | [], _ => []
  | (length, symbol) :: rest, next =>
      (symbol, next.getD length 0, length) ::
        number rest (next.modify length (· + 1))

private def firstCodes (lengths : List Nat) : Array Nat :=
  ((List.range 16).drop 1).foldl
    (fun (codes : Array Nat) length =>
      let shorter := (lengths.filter (· == length - 1)).length
      codes.push (2 * (codes.getD (length - 1) 0 + if length == 1 then
        0 else shorter)))
    #[0]

/-- The tree of symbols with the given code lengths, zero for those without a
code. A symbol that is alone takes no bits. -/
def ofLengths? (lengths : List Nat) : Option Tree :=
  match lengths.zipIdx.filter (·.1 != 0) with
  | [] => none
  | [(_, symbol)] => some (.leaf symbol)
  | used =>
      if used.any (·.1 > 15) then none
      else ofCodes? (number used (firstCodes lengths))

private def ofLengths (lengths : List Nat) : Except ImageFault Tree :=
  match ofLengths? lengths with
  | some t => .ok t
  | none => invalid "invalid Huffman tree"

def readLengths (code : Tree) (size : Nat) :
    (left : Nat) → (previous : Nat) → Array Nat → Bits →
      Except ImageFault (Array Nat × Bits)
  | 0, _, lengths, b => .ok (lengths, b)
  | left + 1, previous, lengths, b => do
      if lengths.size ≥ size then return (lengths, b)
      let (symbol, b) ← code.read b
      if symbol < 16 then
        readLengths code size left (if symbol == 0 then previous else symbol)
          (lengths.push symbol) b
      else
        let (bits, least) := if symbol == 16 then
          (2, 3) else if symbol == 17 then (3, 3) else (7, 11)
        let (more, b) ← take bits b
        let times := least + more
        if lengths.size + times > size then invalid "invalid code lengths"
        let length := if symbol == 16 then previous else 0
        readLengths code size left previous
          (lengths ++ Array.replicate times length) b

def lengthOrder : List Nat :=
  [17, 18, 0, 1, 2, 3, 4, 5, 16, 6, 7, 8, 9, 10, 11, 12, 13, 14, 15]

private def readShort (size : Nat) (b : Bits) :
    Except ImageFault (Tree × Bits) := do
  let (two, b) ← take 1 b
  let (wide, b) ← take 1 b
  let (first, b) ← take (7 * wide + 1) b
  if two == 0 then
    if first ≥ size then invalid "invalid Huffman tree"
    return (.leaf first, b)
  else
    let (second, b) ← take 8 b
    if first ≥ size || second ≥ size then invalid "invalid Huffman tree"
    return (.node (.leaf first) (.leaf second), b)

private def readTree (size : Nat) (b : Bits) :
    Except ImageFault (Tree × Bits) := do
  let (short, b) ← take 1 b
  if short != 0 then readShort size b
  else
    let (n, b) ← take 4 b
    if n + 4 > 19 then invalid "invalid Huffman tree"
    let (lengths, b) ← (lengthOrder.take (n + 4)).foldlM
      (fun (lengths, b) i => do
        let (length, b) ← take 3 b
        return (Array.setIfInBounds lengths i length, b))
      (Array.replicate 19 0, b)
    let code ← ofLengths lengths.toList
    let (limited, b) ← take 1 b
    let (limit, b) ←
      if limited == 0 then pure (size, b)
      else do
        let (k, b) ← take 3 b
        let (limit, b) ← take (2 + 2 * k) b
        if limit + 2 > size then invalid "invalid code lengths"
        pure (limit + 2, b)
    let (lengths, b) ← readLengths code size limit 8 #[] b
    let tree ← ofLengths (lengths.toList ++
      List.replicate (size - lengths.size) 0)
    return (tree, b)

end Tree

structure Group where
  green : Tree
  red : Tree
  blue : Tree
  alpha : Tree
  distance : Tree

instance : Inhabited Group := ⟨⟨.empty, .empty, .empty, .empty, .empty⟩⟩

namespace Group

def read (cached : Nat) (b : Bits) : Except ImageFault (Group × Bits) := do
  let (green, b) ← Tree.readTree (280 + cached) b
  let (red, b) ← Tree.readTree 256 b
  let (blue, b) ← Tree.readTree 256 b
  let (alpha, b) ← Tree.readTree 256 b
  let (distance, b) ← Tree.readTree 40 b
  return (⟨green, red, blue, alpha, distance⟩, b)

private def readMany (cached : Nat) :
    Nat → Array Group → Bits → Except ImageFault (Array Group × Bits)
  | 0, groups, b => .ok (groups, b)
  | n + 1, groups, b => do
      let (g, b) ← read cached b
      readMany cached n (groups.push g) b

end Group

private def tiles (size bits : Nat) : Nat :=
  (size + Nat.pow 2 bits - 1) / Nat.pow 2 bits

private def nearby : Array Nat :=
  #[0x18, 0x07, 0x17, 0x19, 0x28, 0x06, 0x27, 0x29, 0x16, 0x1a,
    0x26, 0x2a, 0x38, 0x05, 0x37, 0x39, 0x15, 0x1b, 0x36, 0x3a,
    0x25, 0x2b, 0x48, 0x04, 0x47, 0x49, 0x14, 0x1c, 0x35, 0x3b,
    0x46, 0x4a, 0x24, 0x2c, 0x58, 0x45, 0x4b, 0x34, 0x3c, 0x03,
    0x57, 0x59, 0x13, 0x1d, 0x56, 0x5a, 0x23, 0x2d, 0x44, 0x4c,
    0x55, 0x5b, 0x33, 0x3d, 0x68, 0x02, 0x67, 0x69, 0x12, 0x1e,
    0x66, 0x6a, 0x22, 0x2e, 0x54, 0x5c, 0x43, 0x4d, 0x65, 0x6b,
    0x32, 0x3e, 0x78, 0x01, 0x77, 0x79, 0x53, 0x5d, 0x11, 0x1f,
    0x64, 0x6c, 0x42, 0x4e, 0x76, 0x7a, 0x21, 0x2f, 0x75, 0x7b,
    0x31, 0x3f, 0x63, 0x6d, 0x52, 0x5e, 0x00, 0x74, 0x7c, 0x41,
    0x4f, 0x10, 0x20, 0x62, 0x6e, 0x30, 0x73, 0x7d, 0x51, 0x5f,
    0x40, 0x72, 0x7e, 0x61, 0x6f, 0x50, 0x71, 0x7f, 0x60, 0x70]

def distance (width code : Nat) : Nat :=
  if code > 120 then code - 120
  else
    let place := nearby.getD (code - 1) 0
    (max 1 ((place / 16 * width : Nat) + 8 - (place % 16 : Nat) : Int)).toNat

private def extent (symbol : Nat) (b : Bits) :
    Except ImageFault (Nat × Bits) := do
  if symbol < 4 then return (symbol + 1, b)
  let extra := (symbol - 2) / 2
  let (more, b) ← take extra b
  return ((2 + symbol % 2) * Nat.pow 2 extra + more + 1, b)

/-- Pixels as they are read, and a cache of `2 ^ bits` colours that holds the
first `entered` of them. -/
structure Progress where
  pixels : Array UInt32 := #[]
  bits : Nat
  cache : Array UInt32
  entered : Nat := 0

namespace Progress

def enter (p : Progress) : Progress :=
  let cache := (p.pixels.extract p.entered p.pixels.size).foldl
    (fun (cache : Array UInt32) argb =>
      cache.setIfInBounds ((argb * 0x1e35a7bd).toNat / Nat.pow 2 (32 - p.bits))
        argb)
    p.cache
  { p with cache, entered := p.pixels.size }

private def copy (back : Nat) : Nat → Array UInt32 → Array UInt32
  | 0, pixels => pixels
  | n + 1, pixels =>
      copy back n (pixels.push (pixels.getD (pixels.size - back) 0))

end Progress

structure Plan where
  width : Nat
  total : Nat
  group : Nat → Group

namespace Plan

def read (plan : Plan) :
    (fuel : Nat) → Progress → Bits → Except ImageFault (Array UInt32 × Bits)
  | 0, p, b => .ok (p.pixels, b)
  | fuel + 1, p, b => do
      let done := p.pixels.size
      if done ≥ plan.total then return (p.pixels, b)
      let g := plan.group done
      let (green, b) ← g.green.read b
      if green < 256 then
        let (red, b) ← g.red.read b
        let (blue, b) ← g.blue.read b
        let (alpha, b) ← g.alpha.read b
        let argb := ((alpha * 256 + red) * 256 + green) * 256 + blue
        read plan fuel { p with pixels := p.pixels.push argb.toUInt32 } b
      else if green < 280 then
        let (length, b) ← extent (green - 256) b
        let (symbol, b) ← g.distance.read b
        let (code, b) ← extent symbol b
        let back := distance plan.width code
        if done + length > plan.total || back > done then
          invalid "invalid LZ77 parameters"
        read plan fuel { p with pixels := Progress.copy back length p.pixels } b
      else
        let p := p.enter
        match p.cache[green - 280]? with
        | none => invalid "invalid color cache index"
        | some argb => read plan fuel { p with pixels := p.pixels.push argb } b

end Plan

private def cacheBits (b : Bits) : Except ImageFault (Nat × Bits) := do
  let (used, b) ← take 1 b
  if used == 0 then return (0, b)
  let (bits, b) ← take 4 b
  if bits < 1 || 11 < bits then invalid "invalid color cache parameters"
  return (bits, b)

private def freshProgress (bits : Nat) : Progress :=
  { bits
    cache := if bits == 0 then #[] else Array.replicate (Nat.pow 2 bits) 0 }

def readPart (width height : Nat) (b : Bits) :
    Except ImageFault (Array UInt32 × Bits) := do
  let (bits, b) ← cacheBits b
  let (g, b) ← Group.read (if bits == 0 then 0 else Nat.pow 2 bits) b
  let total := width * height
  Plan.read ⟨width, total, fun _ => g⟩ (total + 1) (freshProgress bits) b

/-- Reads the picture itself. A picture of its own can say which group codes
each of its tiles. -/
def readMain (width height : Nat) (b : Bits) :
    Except ImageFault (Array UInt32 × Bits) := do
  let (bits, b) ← cacheBits b
  let cached := if bits == 0 then 0 else Nat.pow 2 bits
  let total := width * height
  let (many, b) ← take 1 b
  if many == 0 then
    let (g, b) ← Group.read cached b
    Plan.read ⟨width, total, fun _ => g⟩ (total + 1) (freshProgress bits) b
  else
    let (scale, b) ← take 3 b
    let scale := scale + 2
    let (choice, b) ← readPart (tiles width scale) (tiles height scale) b
    let choice := choice.map fun argb => argb.toNat / 256 % 65536
    let (groups, b) ← Group.readMany cached (choice.foldl max 0 + 1) #[] b
    let tile := fun place =>
      tiles width scale * (place / width / Nat.pow 2 scale) + place % width /
        Nat.pow 2 scale
    let group := fun place => groups.getD (choice.getD (tile place) 0) default
    Plan.read ⟨width, total, group⟩ (total + 1) (freshProgress bits) b

private def readTransform (kind width height : Nat) (b : Bits) :
    Except ImageFault (Nat × Bits) := do
  match kind with
  | 2 => return (width, b)
  | 3 =>
      let (n, b) ← take 8 b
      let colours := n + 1
      let bits := if colours ≤ 2 then 3 else if colours ≤ 4 then
        2 else if colours ≤ 16 then 1 else 0
      let (_, b) ← readPart colours 1 b
      return (tiles width bits, b)
  | _ =>
      let (scale, b) ← take 3 b
      let (_, b) ← readPart (tiles width (scale + 2))
        (tiles height (scale + 2)) b
      return (width, b)

private def readTransforms (height : Nat) :
    (fuel : Nat) → (seen : List Nat) → (width : Nat) → Bits →
      Except ImageFault (Nat × Bits)
  | 0, _, width, b => .ok (width, b)
  | fuel + 1, seen, width, b => do
      let (more, b) ← take 1 b
      if more == 0 then return (width, b)
      let (kind, b) ← take 2 b
      let (width, b) ← readTransform kind width height b
      if seen.contains kind then invalid "repeated transform"
      readTransforms height fuel (kind :: seen) width b

def size (data : Bytes) : Except ImageFault (Nat × Nat) := do
  let b : Bits := { rest := data }
  let (mark, b) ← take 8 b
  if mark != 0x2f then invalid "invalid header"
  let (width, b) ← take 14 b
  let (height, b) ← take 14 b
  let (_, b) ← take 1 b
  let (version, b) ← take 3 b
  if version != 0 then invalid "invalid version"
  let (width, height) := (width + 1, height + 1)
  let (coded, b) ← readTransforms height 5 [] width b
  let _ ← readMain coded height b
  return (width, height)

end ModelGateway.Webp.Lossless
