import ModelGateway.Text.Bytes

namespace ModelGateway

structure Instant where
  year : Nat
  month : Nat
  day : Nat
  hour : Nat
  minute : Nat
  second : Nat
  nanosecond : Nat := 0
  -- Minutes east of Greenwich.
  offset : Int := 0
  deriving DecidableEq, Repr

namespace Bytes

def padded (width n : Nat) : Bytes :=
  let digits := ofNat n
  List.replicate (width - digits.length) 0x30 ++ digits

end Bytes

namespace Instant

def fraction (nanosecond : Nat) : Bytes :=
  if nanosecond == 0 then []
  else 0x2e :: Bytes.dropEndWhile (· == 0x30) (Bytes.padded 9 nanosecond)

private def zone (offset : Int) : Bytes :=
  if offset == 0 then "Z"
  else
    let minutes := offset.natAbs
    (if offset < 0 then utf8 "-" else utf8 "+") ++
      Bytes.padded 2 (minutes / 60) ++ utf8 ":" ++ Bytes.padded 2 (minutes % 60)

def text (t : Instant) : Bytes :=
  Bytes.padded 4 t.year ++ utf8 "-" ++ Bytes.padded 2 t.month ++ utf8 "-" ++
    Bytes.padded 2 t.day ++ utf8 "T" ++ Bytes.padded 2 t.hour ++ utf8 ":" ++
    Bytes.padded 2 t.minute ++ utf8 ":" ++ Bytes.padded 2 t.second ++
    fraction t.nanosecond ++ zone t.offset

/-- The first moment of the calendar, which stands for no moment at all. -/
def zero : Instant := ⟨1, 1, 1, 0, 0, 0, 0, 0⟩

def number? (width : Nat) (s : Bytes) : Option (Nat × Bytes) :=
  let digits := s.take width
  if digits.length == width && digits.all Bytes.isDigit then
    some (Bytes.digitsValue digits, s.drop width)
  else none

private def part? (mark : UInt8) : Bytes → Option (Nat × Bytes)
  | [] => none
  | b :: s => if b == mark then number? 2 s else none

def fraction? : Bytes → Option (Nat × Bytes)
  | 0x2e :: s =>
      let digits := s.takeWhile Bytes.isDigit
      if digits.isEmpty then none
      else
        let nine := (digits ++ List.replicate 9 0x30).take 9
        some (Bytes.digitsValue nine, s.dropWhile Bytes.isDigit)
  | s => some (0, s)

private def zone? (s : Bytes) : Option Int :=
  match s with
  | [0x5a] => some 0
  | b :: rest => do
      let (hours, rest) ← number? 2 rest
      let (minutes, rest) ← part? 0x3a rest
      let size : Int := hours * 60 + minutes
      if !rest.isEmpty then none
      else if b == 0x2b then some size
      else if b == 0x2d then some (-size)
      else none
  | [] => none

/-- Reads what `text` writes. -/
def read? (s : Bytes) : Option Instant := do
  let (year, s) ← number? 4 s
  let (month, s) ← part? 0x2d s
  let (day, s) ← part? 0x2d s
  let (hour, s) ← part? 0x54 s
  let (minute, s) ← part? 0x3a s
  let (second, s) ← part? 0x3a s
  let (nanosecond, s) ← fraction? s
  let offset ← zone? s
  return ⟨year, month, day, hour, minute, second, nanosecond, offset⟩

end Instant

end ModelGateway
