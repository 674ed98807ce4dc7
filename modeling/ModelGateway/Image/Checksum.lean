import ModelGateway.Text.Bytes

namespace ModelGateway.Checksum

private def crcBit (c : UInt32) : UInt32 :=
  if c &&& 1 == 1 then (c >>> 1) ^^^ 0xedb88320 else c >>> 1

private def crcByte (c : UInt32) (b : UInt8) : UInt32 :=
  let c := c ^^^ b.toUInt32
  crcBit (crcBit (crcBit (crcBit (crcBit (crcBit (crcBit (crcBit c)))))))

def crc32 (s : Bytes) : UInt32 :=
  (s.foldl crcByte 0xffffffff) ^^^ 0xffffffff

def adlerByte : Nat × Nat → UInt8 → Nat × Nat
  | (a, b), byte =>
      let a := (a + byte.toNat) % 65521
      (a, (b + a) % 65521)

def adler32 (s : Bytes) : Nat :=
  let (a, b) := s.foldl adlerByte (1, 0)
  b * 65536 + a

end ModelGateway.Checksum

namespace ModelGateway.Bytes

def bigEndian (s : Bytes) : Nat :=
  s.foldl (fun n b => n * 256 + b.toNat) 0

def littleEndian : Bytes → Nat
  | [] => 0
  | b :: s => b.toNat + 256 * littleEndian s

def toBigEndian : Nat → Nat → Bytes
  | 0, _ => []
  | width + 1, n => (n / Nat.pow 256 width % 256).toUInt8 :: toBigEndian width n

def toLittleEndian : Nat → Nat → Bytes
  | 0, _ => []
  | width + 1, n => (n % 256).toUInt8 :: toLittleEndian width (n / 256)

def split? (n : Nat) (s : Bytes) : Option (Bytes × Bytes) :=
  let first := s.take n
  if first.length == n then some (first, s.drop n) else none

end ModelGateway.Bytes
