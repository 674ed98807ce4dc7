import ModelGateway.Image.PngWriter

namespace ModelGateway

/-- The upload as it came, or a new PNG file of its pixels. -/
inductive Payload where
  | upload (mime : Bytes) (data : Bytes)
  | png (picture : Picture)

namespace Payload

def mime : Payload → Bytes
  | .upload mime _ => mime
  | .png _ => "image/png"

def data : Payload → Bytes
  | .upload _ data => data
  | .png picture => Png.encode picture

end Payload

end ModelGateway
