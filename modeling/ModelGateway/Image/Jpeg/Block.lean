namespace ModelGateway.Jpeg

abbrev Block := Array Int32

namespace Block

def zero : Block := Array.replicate 64 0

/-- The place in the block of each coefficient in the order in which they are
written. -/
def zigzag : Array Nat :=
  #[0, 1, 8, 16, 9, 2, 3, 10,
    17, 24, 32, 25, 18, 11, 4, 5,
    12, 19, 26, 33, 40, 48, 41, 34,
    27, 20, 13, 6, 7, 14, 21, 28,
    35, 42, 49, 56, 57, 50, 43, 36,
    29, 22, 15, 23, 30, 37, 44, 51,
    58, 59, 52, 45, 38, 31, 39, 46,
    53, 60, 61, 54, 47, 55, 62, 63]

def place (i : Nat) : Nat := zigzag.getD i 0

def coefficient (b : Block) (i : Nat) : Int32 := b.getD (place i) 0

def setCoefficient (b : Block) (i : Nat) (x : Int32) :
    Block := b.setIfInBounds (place i) x

def scale (steps : Array Int32) (b : Block) : Block :=
  (List.range 64).foldl (fun b i =>
    b.setCoefficient i (b.coefficient i * steps.getD i 0)) b

/-- The last steps of the transform of eight values, shared by rows and
columns. -/
def combine (shift : Int32) (x0 x1 x2 x3 x4 x5 x6 x7 : Int32) : List Int32 :=
  let y1 := x4 + x6
  let y4 := x4 - x6
  let y6 := x5 + x7
  let y5 := x5 - x7
  let z8 := x0 + x1
  let z0 := x0 - x1
  let y7 := z8 + x3
  let y8 := z8 - x3
  let y3 := z0 + x2
  let y0 := z0 - x2
  let y2 := (181 * (y4 + y5) + 128) >>> 8
  let y4 := (181 * (y4 - y5) + 128) >>> 8
  [(y7 + y1) >>> shift, (y3 + y2) >>> shift, (y0 + y4) >>> shift,
    (y8 + y6) >>> shift, (y8 - y6) >>> shift, (y0 - y4) >>> shift,
    (y3 - y2) >>> shift, (y7 - y1) >>> shift]

def row : List Int32 → List Int32
  | [s0, s1, s2, s3, s4, s5, s6, s7] =>
      if s1 == 0 && s2 == 0 && s3 == 0 && s4 == 0 && s5 == 0 && s6 == 0 &&
          s7 == 0 then
        List.replicate 8 (s0 <<< 3)
      else
        let a := 565 * (s1 + s7)
        let b := 2408 * (s5 + s3)
        let c := 1108 * (s2 + s6)
        combine 8 ((s0 <<< 11) + 128) (s4 <<< 11) (c - 3784 * s6)
          (c + 1568 * s2)
          (a + 2276 * s1) (a - 3406 * s7) (b - 799 * s5) (b - 4017 * s3)
  | s => s

def column : List Int32 → List Int32
  | [s0, s1, s2, s3, s4, s5, s6, s7] =>
      let a := 565 * (s1 + s7) + 4
      let b := 2408 * (s5 + s3) + 4
      let c := 1108 * (s2 + s6) + 4
      combine 14 ((s0 <<< 8) + 8192) (s4 <<< 8) ((c - 3784 * s6) >>> 3)
        ((c + 1568 * s2) >>> 3)
        ((a + 2276 * s1) >>> 3) ((a - 3406 * s7) >>> 3) ((b - 799 * s5) >>> 3)
          ((b - 4017 * s3) >>> 3)
  | s => s

private def along (f : List Int32 → List Int32)
    (start step : Nat) (b : Block) : Block :=
  let values := f ((List.range 8).map fun i => b.getD (start + i * step) 0)
  values.zipIdx.foldl (fun b (x, i) => b.setIfInBounds (start + i * step) x) b

def sample (x : Int32) : UInt8 :=
  if x < -128 then 0 else if x > 127 then 255 else (x.toInt + 128).toNat.toUInt8

def samples (steps : Array Int32) (b : Block) : Array UInt8 :=
  let b := b.scale steps
  let b := (List.range 8).foldl (fun b y => along row (8 * y) 1 b) b
  let b := (List.range 8).foldl (fun b x => along column x 8 b) b
  b.map sample

end Block

end ModelGateway.Jpeg
