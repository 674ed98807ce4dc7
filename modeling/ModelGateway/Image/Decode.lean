import ModelGateway.Generation.Payload
import ModelGateway.Image.Bmp
import ModelGateway.Image.Gif
import ModelGateway.Image.Jpeg.Decode
import ModelGateway.Image.Tiff
import ModelGateway.Image.Webp.Size

/-!
Uploads as pictures. The first bytes decide which format a file is read in;
files that the model takes as they are pass through, all others are written
again as PNG.
-/

namespace ModelGateway

inductive ImageFormat where
  | png
  | jpeg
  | gif
  | webp
  | bmp
  | tiff
  deriving DecidableEq, Repr

namespace ImageFormat

def name : ImageFormat → Bytes
  | .png => "png"
  | .jpeg => "jpeg"
  | .gif => "gif"
  | .webp => "webp"
  | .bmp => "bmp"
  | .tiff => "tiff"

abbrev Pattern := List (Option UInt8)

def exactly (s : Bytes) : Pattern := s.map some

def anyByte (n : Nat) : Pattern := List.replicate n none

def patterns : List (ImageFormat × Pattern) :=
  [(.png, exactly Png.signature),
    (.jpeg, exactly [0xff, 0xd8]),
    (.gif, exactly (utf8 "GIF8") ++ anyByte 1 ++ exactly (utf8 "a")),
    (.webp, exactly (utf8 "RIFF") ++ anyByte 4 ++ exactly (utf8 "WEBPVP8")),
    (.bmp, exactly (utf8 "BM") ++ anyByte 4 ++ exactly [0, 0, 0, 0]),
    (.tiff, exactly [0x49, 0x49, 0x2a, 0x00]),
    (.tiff, exactly [0x4d, 0x4d, 0x00, 0x2a])]

def Pattern.matches : Pattern → Bytes → Bool
  | [], _ => true
  | _ :: _, [] => false
  | none :: p, _ :: s => Pattern.matches p s
  | some a :: p, b :: s => a == b && Pattern.matches p s

def of? (file : Bytes) : Option ImageFormat :=
  (patterns.find? fun (_, p) => Pattern.matches p file).map Prod.fst

end ImageFormat

def passThroughType? (file : Bytes) : Option Bytes :=
  let at' := fun (i : Nat) (part : Bytes) => Bytes.startsWith part (file.drop i)
  if at' 0 Png.signature then if at' 37 "acTL" then none else some "image/png"
  else if at' 0 [0xff, 0xd8, 0xff] then some "image/jpeg"
  else if at' 0 "RIFF" && at' 8 "WEBP" then some "image/webp"
  else none

/-- What is read of a file: its pixels, or only where they stand. -/
inductive Reading where
  | pixels (picture : Picture)
  | outline (bounds : Bounds)

namespace Reading

def bounds : Reading → Bounds
  | .pixels picture => picture.toBounds
  | .outline bounds => bounds

def read (format : ImageFormat) (file : Bytes) : Except ImageFault Reading :=
  match format with
  | .png => (Png.decode file).map .pixels
  | .jpeg => (Jpeg.decode file).map .pixels
  | .gif => (Gif.decode file).map .pixels
  | .webp =>
      (Webp.size file).map fun (width, height) => .outline { width, height }
  | .bmp => (Bmp.decode file).map .pixels
  | .tiff => (Tiff.decode file).map .pixels

def ofFile (file : Bytes) : Except ImageFault (ImageFormat × Reading) :=
  match ImageFormat.of? file with
  | none => .error .unknownFormat
  | some format => (read format file).map fun content => (format, content)

end Reading

structure Decoded where
  format : ImageFormat
  bounds : Bounds
  payload : Payload

namespace Decoded

/-- Reads an upload and prepares what is sent to the model. A file that is not
sent as it came needs pixels. -/
def decode (file : Bytes) : Except ImageFault Decoded :=
  match Reading.ofFile file with
  | .error fault => .error fault
  | .ok (format, content) =>
      match passThroughType? file, content with
      | some mime, _ => .ok ⟨format, content.bounds, .upload mime file⟩
      | none, .outline _ => .error .unknownFormat
      | none, .pixels picture =>
          match Png.unwritable? picture with
          | some fault => .error (.encode format.name fault)
          | none => .ok ⟨format, content.bounds, .png picture⟩

end Decoded

end ModelGateway
