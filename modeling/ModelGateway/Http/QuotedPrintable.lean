import ModelGateway.Text.Quoted

namespace ModelGateway

inductive QuotedPrintableFault where
  | longLine
  | brokenJoin (rest : Bytes)
  | brokenEscape
  | badDigit (byte : UInt8)
  | unprintable (byte : UInt8)
  deriving DecidableEq, Repr

namespace QuotedPrintableFault

def message : QuotedPrintableFault → Bytes
  | .longLine => "bufio: buffer full"
  | .brokenJoin rest =>
      utf8 "quotedprintable: invalid bytes after =: " ++ Text.quote rest
  | .brokenEscape => "unexpected EOF"
  | .badDigit byte =>
      utf8 "quotedprintable: invalid hex byte 0x" ++ Bytes.hexByte byte
  | .unprintable byte =>
      utf8 "quotedprintable: invalid unescaped byte 0x" ++ Bytes.hexByte byte ++
        utf8 " in body"

end QuotedPrintableFault

namespace QuotedPrintable

def isPlain (b : UInt8) : Bool :=
  b == 0x09 || b == 0x0a || b == 0x0d || (0x20 ≤ b && b ≤ 0x7e) || 0x80 ≤ b

structure Printed where
  data : Bytes := []
  fault : Option QuotedPrintableFault := none
  deriving DecidableEq, Repr

namespace Printed

def stop (fault : QuotedPrintableFault) : Printed := { fault }

def push (b : UInt8) (later : Printed) : Printed :=
  { later with data := b :: later.data }

def andThen (first later : Printed) : Printed :=
  if first.fault.isSome then first
  else { later with data := first.data ++ later.data }

end Printed

/-- The bytes of a line. An equals sign that starts no escape stands for itself,
unless the line breaks after it. -/
def bytes : Bytes → Printed
  | [] => {}
  | [0x3d] => .stop .brokenEscape
  | 0x3d :: a :: b :: rest =>
      match Bytes.hexValue? a, Bytes.hexValue? b with
      | some high, some low => (bytes rest).push (high * 16 + low).toUInt8
      | _, _ =>
          if a == 0x0d || a == 0x0a then .stop (.badDigit a)
          else (bytes (a :: b :: rest)).push 0x3d
  | b :: rest =>
      if isPlain b then (bytes rest).push b else .stop (.unprintable b)

private def isDropped (b : UInt8) :
    Bool := b == 0x20 || b == 0x09 || b == 0x0d || b == 0x0a

def ending (line : Bytes) : Bytes :=
  if Bytes.endsWith "\r\n" line then "\r\n"
  else if Bytes.endsWith "\n" line then "\n" else []

/-- A line with its end; blanks before the end are dropped. The last line of all
may end in an equals sign. -/
def line (last : Bool) (whole : Bytes) : Printed :=
  let kept := Bytes.dropEndWhile isDropped whole
  let dropped := whole.drop kept.length
  if Bytes.endsWith "=" kept then
    let text := kept.dropLast
    let joined :=
      Bytes.startsWith "\n" dropped || Bytes.startsWith "\r\n" dropped ||
        (last && dropped.isEmpty && !text.isEmpty)
    (bytes text).andThen (if joined then {} else .stop (.brokenJoin dropped))
  else bytes (kept ++ ending whole)

def maxLine : Nat := 4096

def lines (complete : Bool) : (most : Nat) → Bytes → Printed
  | 0, _ => {}
  | most + 1, s =>
      let start := s.takeWhile (· != 0x0a)
      let whole := s.take (start.length + 1)
      if whole.isEmpty then {}
      else if maxLine < whole.length then
        (line false (s.take maxLine)).andThen (.stop .longLine)
      else
        (line (complete && start.length == s.length) whole).andThen
          (lines complete most (s.drop whole.length))

def decode (complete : Bool) (s : Bytes) : Printed :=
  lines complete s.length s

end QuotedPrintable

end ModelGateway
