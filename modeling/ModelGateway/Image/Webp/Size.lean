import ModelGateway.Image.Webp.Lossless
import ModelGateway.Image.Webp.Lossy

namespace ModelGateway.Webp

structure Container where
  rest : Bytes
  -- The bytes that the container claims to have left.
  total : Nat
  -- The bytes that are left of the present chunk.
  chunk : Nat := 0
  -- Whether a byte follows the chunk to make its length even.
  padded : Bool := false

namespace Container

def failure {α : Type} (fault : WebpFault) : Except ImageFault α :=
  .error (.webp fault)

def finish (c : Container) : Except ImageFault Container := do
  if c.rest.length < c.chunk then failure .shortData
  let c :=
    { c with
      rest := c.rest.drop c.chunk, total := c.total - c.chunk, chunk := 0 }
  if !c.padded then return c
  if c.total == 0 then failure .longChunk
  match c.rest with
  | [] => failure .missingPadding
  | _ :: rest => return { c with rest, total := c.total - 1, padded := false }

def next (c : Container) : Except ImageFault (Bytes × Container) := do
  let c ← c.finish
  if c.total == 0 then failure .invalidFormat
  if c.total < 8 then failure .shortChunkHeader
  match Bytes.split? 8 c.rest with
  | none => failure .shortChunkHeader
  | some (head, rest) =>
      let length := Bytes.littleEndian (head.drop 4)
      if length > c.total - 8 then failure .longChunk
      return (head.take 4,
        { rest, total := c.total - 8, chunk := length
          padded := length % 2 == 1 })

def data (c : Container) : Bytes := c.rest.take c.chunk

end Container

/-- Whether a frame has transparency, as far as chunks before it say. -/
inductive Alpha where
  | none
  | expected (width height : Nat)
  | seen
  deriving DecidableEq, Repr

private def checkAlpha (width height : Nat) (c : Container) :
    Except ImageFault Unit :=
  match c.data with
  | [] => .error (.webp .invalidFormat)
  | method :: values =>
      match method.toNat % 4 with
      | 0 =>
          if values.length ≥ width * height then .ok ()
          else if values.isEmpty then .error .endOfFile
          else .error .truncated
      | 1 =>
          if width > 0x4000 || height > 0x4000 then
            .error (.webp .invalidFormat)
          else
            let sides := (width - 1) + (height - 1) * 0x4000
            (Lossless.size (0x2f :: Bytes.toLittleEndian 4 sides ++ values)).map
              fun _ => ()
      | _ => .error (.webp .invalidFormat)

def chunks : (fuel : Nat) → (alpha : Alpha) → (extended : Bool) → Container →
    Except ImageFault (Nat × Nat)
  | 0, _, _, _ => .error (.webp .invalidFormat)
  | fuel + 1, alpha, extended, c => do
      let (name, c) ← c.next
      if name == utf8 "ALPH" then
        match alpha with
        | .expected width height =>
            checkAlpha width height c
            chunks fuel .seen extended c
        | _ => .error (.webp .invalidFormat)
      else if name == utf8 "VP8 " then
        match alpha with
        | .expected _ _ => .error (.webp .invalidFormat)
        | _ =>
            if c.chunk ≥ 0x80000000 then .error (.webp .invalidFormat)
            else Lossy.size ⟨c.chunk, c.data⟩
      else if name == utf8 "VP8L" then
        match alpha with
        | .none => Lossless.size c.data
        | _ => .error (.webp .invalidFormat)
      else if name == utf8 "VP8X" then
        if extended || c.chunk != 10 then .error (.webp .invalidFormat)
        let data := c.data
        if data.isEmpty then .error .endOfFile
        if data.length < 10 then .error .truncated
        let side := fun i => Bytes.littleEndian ((data.drop i).take 3) + 1
        let transparent := (data.headD 0).toNat / 16 % 2 == 1
        let alpha := if transparent then .expected (side 4) (side 7) else alpha
        chunks fuel alpha true c
      else
        chunks fuel alpha extended c

def size (file : Bytes) : Except ImageFault (Nat × Nat) :=
  match Bytes.split? 8 file with
  | none => .error (.webp .missingHeader)
  | some (head, rest) =>
      let total := Bytes.littleEndian (head.drop 4)
      if head.take 4 != utf8 "RIFF" then .error (.webp .missingHeader)
      else if total < 4 || rest.length < 4 then .error (.webp .shortData)
      else if rest.take 4 != utf8 "WEBP" then .error (.webp .invalidFormat)
      else chunks (file.length + 1) .none false
        { rest := rest.drop 4, total := total - 4 }

end ModelGateway.Webp
