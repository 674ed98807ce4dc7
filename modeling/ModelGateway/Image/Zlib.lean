import ModelGateway.Image.Fault
import ModelGateway.Image.Inflate

namespace ModelGateway.Zlib

/-- Data comes out of a stream in pieces of this size. -/
def windowSize : Nat := 32768

inductive Ending where
  -- The checksum is right; so many bytes of the input were used.
  | complete (used : Nat)
  | starved
  | fault (f : ZlibFault)
  deriving DecidableEq, Repr

structure Stream where
  data : Array UInt8
  ending : Ending

/-- The header of a stream: `none` if there is too little input, else a fault or
what follows the header. -/
def header (s : Bytes) : Option (Except ZlibFault Bytes) :=
  match s with
  | method :: flags :: rest =>
      if method.toNat % 16 != 8 || method.toNat / 16 > 7 ||
          (method.toNat * 256 + flags.toNat) % 31 != 0 then
        some (.error .header)
      else if flags &&& 0x20 != 0 then
        match Bytes.split? 4 rest with
        | none => none
        | some (sum, rest) =>
            some (if Bytes.bigEndian sum == 1 then
              .ok rest else .error .dictionary)
      else
        some (.ok rest)
  | _ => none

def body (before : Nat) (s : Bytes) : Stream :=
  let inflated := Inflate.inflate s
  let ending : Ending :=
    match inflated.next with
    | .error .starved => .starved
    | .error (.corrupt offset) => .fault (.corrupt offset)
    | .ok bits =>
        match Bytes.split? 4 bits.rest with
        | none => .starved
        | some (sum, _) =>
            if Bytes.bigEndian sum == Checksum.adler32 inflated.out.toList then
              .complete (before + bits.offset + 4)
            else .fault .checksum
  ⟨inflated.out, ending⟩

def read (s : Bytes) : Option (Except ZlibFault Stream) :=
  match header s with
  | none => none
  | some (.error fault) => some (.error fault)
  | some (.ok rest) => some (.ok (body (s.length - rest.length) rest))

def storedBlocks : Nat → Bytes → Bytes
  | 0, _ => []
  | fuel + 1, s =>
      let (now, later) := (s.take 65535, s.drop 65535)
      let final : UInt8 := if later.isEmpty then 1 else 0
      let length := now.length
      (final :: Bytes.toLittleEndian 2 length ++
        Bytes.toLittleEndian 2 (65535 - length) ++ now) ++
        (if later.isEmpty then [] else storedBlocks fuel later)

def write (s : Bytes) : Bytes :=
  [0x78, 0x01] ++ storedBlocks (s.length + 1) s ++
    Bytes.toBigEndian 4 (Checksum.adler32 s)

end ModelGateway.Zlib
