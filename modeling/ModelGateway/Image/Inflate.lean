import ModelGateway.Image.Checksum

/-!
Deflated data: literal bytes and references to what was written before, in codes
whose bits are read from the low end of each byte. Bytes are taken from the
input only as a code needs them.
-/

namespace ModelGateway.Inflate

/-- Bits that were taken from the input and not used yet, and the input that
follows. -/
structure Bits where
  rest : Bytes
  held : Nat := 0
  count : Nat := 0
  offset : Nat := 0

inductive Stop where
  | starved
  | corrupt (offset : Nat)
  deriving DecidableEq, Repr

namespace Bits

def fill (n : Nat) (b : Bits) : Except Stop Bits :=
  go b.rest b.held b.count b.offset
where
  go : Bytes → Nat → Nat → Nat → Except Stop Bits
    | [], held, count, offset =>
        if n ≤ count then .ok ⟨[], held, count, offset⟩ else .error .starved
    | byte :: rest, held, count, offset =>
        if n ≤ count then .ok ⟨byte :: rest, held, count, offset⟩
        else go rest (held + byte.toNat * Nat.pow 2 count) (count + 8)
          (offset + 1)

def take (n : Nat) (b : Bits) : Except Stop (Nat × Bits) := do
  let b ← b.fill n
  return (b.held % Nat.pow 2 n,
    { b with held := b.held / Nat.pow 2 n, count := b.count - n })

def align (b : Bits) : Bits :=
  { b with held := 0, count := 0 }

def corrupt {α : Type} (b : Bits) : Except Stop α := .error (.corrupt b.offset)

end Bits

/-- A code: how many codes there are of each length, and the symbols by length
and value. -/
structure Code where
  counts : Array Nat
  symbols : Array Nat
  longest : Nat
  -- The number of bits that are held before a symbol is read.
  ahead : Nat

namespace Code

private def countOf (lengths : List Nat) (length : Nat) : Nat :=
  (lengths.filter (· == length)).length

/-- The code whose symbols have the given lengths, a length of zero for those
without a code. All bit strings have to be used up, unless there is one code of
one bit or no code at all. -/
def ofLengths? (lengths : List Nat) : Option Code :=
  let sizes := List.range 16
  let counts := sizes.map fun size => if size == 0 then
    0 else countOf lengths size
  let longest := (lengths.foldl max 0)
  let used :=
    sizes.foldl (fun n size => n + (counts.getD size 0) *
      Nat.pow 2 (longest - size)) 0
  let numbered := lengths.zipIdx
  let symbols := sizes.flatMap fun size =>
    if size == 0 then [] else (numbered.filter (·.1 == size)).map Prod.snd
  let shortest := (sizes.find? fun size => counts.getD size 0 != 0).getD 0
  if longest == 0 || used == Nat.pow 2 longest ||
      (longest == 1 && symbols.length == 1) then
    some ⟨counts.toArray, symbols.toArray, longest, shortest⟩
  else
    none

/-- Reads the bits of a symbol one by one: `first` is the lowest code of the
present length, `index` the place of its symbol. -/
def walk (c : Code) :
    Nat → Nat → Nat → Nat → Nat → Bits → Except Stop (Nat × Bits)
  | 0, _, _, _, _, b => b.corrupt
  | left + 1, size, code, first, index, b => do
      let (bit, b) ← b.take 1
      let code := code + bit
      let count := c.counts.getD size 0
      if code < first + count then
        return (c.symbols.getD (index + (code - first)) 0, b)
      else
        walk c left (size + 1) (2 * code) (2 * (first + count))
          (index + count) b

def read (c : Code) (b : Bits) : Except Stop (Nat × Bits) := do
  let b ← b.fill c.ahead
  c.walk c.longest 1 0 0 0 b

end Code

private def fixedLengths : List Nat :=
  List.replicate 144 8 ++ List.replicate 112 9 ++ List.replicate 24 7 ++
    List.replicate 8 8

private def noCode : Code := ⟨#[], #[], 0, 0⟩

private def fixedCode : Code := (Code.ofLengths? fixedLengths).getD noCode

def lengthOrder : List Nat :=
  [16, 17, 18, 0, 8, 7, 9, 6, 10, 5, 11, 4, 12, 3, 13, 2, 14, 1, 15]

private def readTriples : Nat → Bits → Except Stop (List Nat × Bits)
  | 0, b => .ok ([], b)
  | n + 1, b => do
      let (x, b) ← b.take 3
      let (xs, b) ← readTriples n b
      return (x :: xs, b)

/-- Reads code lengths until there are `n`; three symbols repeat lengths. Each
symbol gives one at least. -/
def readLengths (c : Code) (n : Nat) :
    Nat → Array Nat → Bits → Except Stop (List Nat × Bits)
  | 0, done, b => .ok (done.toList, b)
  | fuel + 1, done, b =>
      if n ≤ done.size then
        .ok (done.toList, b)
      else do
        let (symbol, b) ← c.read b
        if symbol < 16 then
          readLengths c n fuel (done.push symbol) b
        else
          let repeated ←
            if symbol == 16 then
              match done.back? with
              | none => b.corrupt
              | some last => .ok last
            else
              .ok 0
          let (base, width) :=
            if symbol == 18 then (11, 7) else if symbol == 17 then (3, 3)
            else (3, 2)
          let (more, b) ← b.take width
          let times := base + more
          if done.size + times > n then b.corrupt
          else
            readLengths c n fuel
              (done ++ (List.replicate times repeated).toArray) b

private def readCodes (final : Bool) (b : Bits) :
    Except Stop ((Code × Code) × Bits) := do
  let b ← b.fill 14
  let (literals, b) ← b.take 5
  if literals + 257 > 286 then b.corrupt
  else
    let (distances, b) ← b.take 5
    if distances + 1 > 30 then b.corrupt
    else
      let (sizes, b) ← b.take 4
      let (triples, b) ← readTriples (sizes + 4) b
      let sent := lengthOrder.zip triples
      let lengths := (List.range 19).map fun i =>
        ((sent.find? (·.1 == i)).map Prod.snd).getD 0
      match Code.ofLengths? lengths with
      | none => b.corrupt
      | some code =>
          let total := literals + 257 + distances + 1
          let (all, b) ← readLengths code total total #[] b
          match Code.ofLengths? (all.take (literals + 257)),
            Code.ofLengths? (all.drop (literals + 257)) with
          | some main, some distance =>
              let ahead :=
                max main.ahead (all.getD 256 0) + if final then 0 else 10
              return (({ main with ahead }, distance), b)
          | _, _ => b.corrupt

private def lengthBase (symbol : Nat) : Option (Nat × Nat) :=
  if symbol < 265 then some (symbol - 254, 0)
  else if symbol < 269 then some (2 * (symbol - 265) + 11, 1)
  else if symbol < 273 then some (4 * (symbol - 269) + 19, 2)
  else if symbol < 277 then some (8 * (symbol - 273) + 35, 3)
  else if symbol < 281 then some (16 * (symbol - 277) + 67, 4)
  else if symbol < 285 then some (32 * (symbol - 281) + 131, 5)
  else if symbol < 286 then some (258, 0)
  else none

/-- Reads the symbol of a distance; without a code of its own it has five bits,
the first the highest. -/
def readDistanceSymbol (code : Option Code) (b : Bits) :
    Except Stop (Nat × Bits) :=
  match code with
  | some c => c.read b
  | none => do
      let (x, b) ← b.take 5
      return (x % 2 * 16 + x / 2 % 2 * 8 + x / 4 % 2 * 4 + x / 8 % 2 *
        2 + x / 16, b)

private def readDistance (code : Option Code) (b : Bits) :
    Except Stop (Nat × Bits) := do
  let (symbol, b) ← readDistanceSymbol code b
  if symbol < 4 then
    return (symbol + 1, b)
  else if symbol < 30 then
    let width := (symbol - 2) / 2
    let (more, b) ← b.take width
    return (Nat.pow 2 (width + 1) + 1 + symbol % 2 * Nat.pow 2 width + more, b)
  else
    b.corrupt

private def copyBack (distance : Nat) : Nat → Array UInt8 → Array UInt8
  | 0, out => out
  | n + 1, out =>
      copyBack distance n (out.push (out.getD (out.size - distance) 0))

structure Progress (α : Type) where
  out : Array UInt8
  next : Except Stop α

/-- Reads the symbols of a block up to its end. Each symbol takes a bit at
least, which bounds their number. -/
def readBlock (main : Code) (distance : Option Code) :
    Nat → Array UInt8 → Bits → Progress Bits
  | 0, out, b => ⟨out, b.corrupt⟩
  | fuel + 1, out, b =>
      match main.read b with
      | .error stop => ⟨out, .error stop⟩
      | .ok (symbol, b) =>
          if symbol < 256 then
            readBlock main distance fuel (out.push symbol.toUInt8) b
          else if symbol == 256 then
            ⟨out, .ok b⟩
          else
            let reference : Except Stop ((Nat × Nat) × Bits) :=
              match lengthBase symbol with
              | none => b.corrupt
              | some (base, width) => do
                  let (more, b) ← b.take width
                  let (back, b) ← readDistance distance b
                  if back > out.size then b.corrupt
                  else return ((base + more, back), b)
            match reference with
            | .error stop => ⟨out, .error stop⟩
            | .ok ((length, back), b) =>
                readBlock main distance fuel (copyBack back length out) b

def copyStored : Nat → Array UInt8 → Bits → Progress Bits
  | 0, out, b => ⟨out, .ok b⟩
  | n + 1, out, b =>
      match b.rest with
      | [] => ⟨out, .error .starved⟩
      | byte :: rest =>
          copyStored n (out.push byte) { b with rest, offset := b.offset + 1 }

def readStored (out : Array UInt8) (b : Bits) : Progress Bits :=
  let b := b.align
  match Bytes.split? 4 b.rest with
  | none => ⟨out, .error .starved⟩
  | some (head, rest) =>
      let b := { b with rest, offset := b.offset + 4 }
      let length := Bytes.littleEndian (head.take 2)
      if length + Bytes.littleEndian (head.drop 2) != 65535 then
        ⟨out, b.corrupt⟩
      else copyStored length out b

def readBlocks : Nat → Array UInt8 → Bits → Progress Bits
  | 0, out, b => ⟨out, b.corrupt⟩
  | fuel + 1, out, b =>
      match b.take 3 with
      | .error stop => ⟨out, .error stop⟩
      | .ok (head, b) =>
          let final := head % 2 == 1
          let budget := 8 * b.rest.length + b.count + 1
          let done : Progress Bits :=
            match head / 2 with
            | 0 => readStored out b
            | 1 => readBlock fixedCode none budget out b
            | 2 =>
                match readCodes final b with
                | .error stop => ⟨out, .error stop⟩
                | .ok ((main, distance), b) =>
                    readBlock main (some distance) budget out b
            | _ => ⟨out, b.corrupt⟩
          match done.next with
          | .error _ => done
          | .ok b => if final then done else readBlocks fuel done.out b

def inflate (s : Bytes) : Progress Bits :=
  readBlocks (8 * s.length + 1) #[] { rest := s }

end ModelGateway.Inflate
