import ModelGateway.Image.Fault

namespace ModelGateway

inductive Storage where
  | gray8
  | gray16
  | indexed
  | colour8 (straight : Bool)
  | colour16 (straight : Bool)
  deriving DecidableEq, Repr

namespace Storage

def name : Storage → Bytes
  | .gray8 => "Gray"
  | .gray16 => "Gray16"
  | .indexed => "Paletted"
  | .colour8 false => "RGBA"
  | .colour8 true => "NRGBA"
  | .colour16 false => "RGBA64"
  | .colour16 true => "NRGBA64"

def pixelBytes : Storage → Nat
  | .gray8 | .indexed => 1
  | .gray16 => 2
  | .colour8 _ => 4
  | .colour16 _ => 8

-- A length is a signed number of 64 bits, an address has 48 bits.
def lengthBound : Nat := 0x8000000000000000

def addressBound : Nat := 0x1000000000000

/-- Asks for the room that a picture takes. There is as much memory as addresses
reach. -/
def claim (storage : Storage) (width height : Nat) :
    Except ImageFault Unit :=
  let size := storage.pixelBytes * width * height
  if lengthBound ≤ size then .error (.breakdown (.dimensions storage.name))
  else if addressBound < size then .error (.breakdown .length)
  else .ok ()

end Storage

end ModelGateway
