import ModelGateway.Number.Numeral
import ModelGateway.Text.Bytes

namespace ModelGateway

structure ByteRange where
  start : Nat
  length : Nat
  deriving DecidableEq, Repr

inductive RangeFault where
  | malformed
  -- Every range starts after the end of the file.
  | outside
  deriving DecidableEq, Repr

namespace RangeFault

def message : RangeFault → Bytes
  | .malformed => "invalid range"
  | .outside => "invalid range: failed to overlap"

end RangeFault

namespace ByteRange

def isBlank (b : UInt8) :
    Bool := b == 0x20 || b == 0x09 || b == 0x0a || b == 0x0d

private def place? (s : Bytes) : Option Nat :=
  match Numeral.decimalInteger 64 s with
  | .ok n => if n < 0 then none else some n.toNat
  | .error _ => none

private def suffix? (size : Nat) (count : Bytes) : Option ByteRange :=
  if Bytes.startsWith "-" count then none
  else (place? count).map fun n => ⟨size - min n size, min n size⟩

/-- The bytes from a place on, up to another one if that is given; none if they
lie outside. -/
def between? (size : Nat) (first last : Bytes) :
    Except RangeFault (Option ByteRange) :=
  match place? first with
  | none => .error .malformed
  | some first =>
      if size ≤ first then .ok none
      else if last.isEmpty then .ok (some ⟨first, size - first⟩)
      else
        match place? last with
        | none => .error .malformed
        | some last =>
            if last < first then .error .malformed
            else .ok (some ⟨first, min last (size - 1) - first + 1⟩)

def item (size : Nat) (s : Bytes) : Except RangeFault (Option ByteRange) :=
  match Bytes.cut? 0x2d s with
  | none => .error .malformed
  | some (first, last) =>
      let first := Bytes.trimWhile isBlank first
      let last := Bytes.trimWhile isBlank last
      if first.isEmpty then
        match suffix? size last with
        | some range => .ok (some range)
        | none => .error .malformed
      else between? size first last

def read (size : Nat) (field : Bytes) : Except RangeFault (List ByteRange) :=
  if field.isEmpty then .ok []
  else
    match Bytes.dropStart? "bytes=" field with
    | none => .error .malformed
    | some rest => do
        let items :=
          ((Bytes.splitOn 0x2c rest).map (Bytes.trimWhile isBlank)).filter
            (!·.isEmpty)
        let found ← items.mapM (item size)
        let ranges := found.filterMap id
        if found.any Option.isNone && ranges.isEmpty then .error .outside
        else return ranges

def isExcessive (size : Nat) (ranges : List ByteRange) : Bool :=
  size < ranges.foldl (fun total range => total + range.length) 0

def text (size : Nat) (r : ByteRange) : Bytes :=
  utf8 "bytes " ++ Bytes.ofNat r.start ++ utf8 "-" ++
    Bytes.ofInt ((r.start : Int) + r.length - 1) ++ utf8 "/" ++ Bytes.ofNat size

def slice (content : Bytes) (r : ByteRange) : Bytes :=
  (content.drop r.start).take r.length

end ByteRange

end ModelGateway
