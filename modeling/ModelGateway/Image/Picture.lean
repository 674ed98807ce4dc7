import ModelGateway.Text.Bytes

namespace ModelGateway

structure Colour where
  red : UInt8
  green : UInt8
  blue : UInt8
  alpha : UInt8 := 255
  deriving DecidableEq, Repr, Inhabited

/-- The pixels of a picture, row by row. Colour is stored as red, green, blue
and alpha of each pixel in turn, alpha either straight or already multiplied
into the colour. -/
inductive Pixels where
  | gray8 (samples : Array UInt8)
  | gray16 (samples : Array UInt16)
  | colour8 (straight : Bool) (samples : Array UInt8)
  | colour16 (straight : Bool) (samples : Array UInt16)
  | indexed (palette : Array Colour) (indices : Array UInt8)

structure Bounds where
  left : Int := 0
  top : Int := 0
  width : Int
  height : Int
  deriving DecidableEq, Repr

structure Picture extends Bounds where
  pixels : Pixels

end ModelGateway
