import ModelGateway.Text.Bytes

/-!
UTF-8 with stray bytes: a text falls into scalar values and bytes that belong to
none, and nothing of it is lost.
-/

namespace ModelGateway.Utf8

inductive Piece where
  | scalar (code : Nat)
  | stray (byte : UInt8)
  deriving DecidableEq, Repr

def replacement : Nat := 0xfffd

def isTail (b : UInt8) : Bool := 0x80 ≤ b && b ≤ 0xbf

def isSecondOfThree (a b : UInt8) : Bool :=
  (a == 0xe0 && 0xa0 ≤ b && b ≤ 0xbf) ||
    (0xe1 ≤ a && a ≤ 0xec && isTail b) ||
    (a == 0xed && 0x80 ≤ b && b ≤ 0x9f) ||
    (0xee ≤ a && a ≤ 0xef && isTail b)

def isSecondOfFour (a b : UInt8) : Bool :=
  (a == 0xf0 && 0x90 ≤ b && b ≤ 0xbf) ||
    (0xf1 ≤ a && a ≤ 0xf3 && isTail b) ||
    (a == 0xf4 && 0x80 ≤ b && b ≤ 0x8f)

def tailBits (b : UInt8) : Nat := b.toNat % 64

/-- Splits a text into scalar values and stray bytes. -/
def pieces : Bytes → List Piece
  | [] => []
  | a :: s =>
      if a < 0x80 then
        .scalar a.toNat :: pieces s
      else
        match s with
        | [] => [.stray a]
        | b :: s₂ =>
            if 0xc2 ≤ a && a ≤ 0xdf && isTail b then
              .scalar (a.toNat % 32 * 64 + tailBits b) :: pieces s₂
            else
              match s₂ with
              | [] => .stray a :: pieces [b]
              | c :: s₃ =>
                  if isSecondOfThree a b && isTail c then
                    .scalar ((a.toNat % 16 * 64 + tailBits b) * 64 +
                      tailBits c) :: pieces s₃
                  else
                    match s₃ with
                    | [] => .stray a :: pieces [b, c]
                    | d :: s₄ =>
                        if isSecondOfFour a b && isTail c && isTail d then
                          .scalar
                            (((a.toNat % 8 * 64 + tailBits b) * 64 +
                              tailBits c) * 64 + tailBits d) :: pieces s₄
                        else
                          .stray a :: pieces (b :: c :: d :: s₄)

def encode (code : Nat) : Bytes :=
  if code < 0x80 then
    [code.toUInt8]
  else if code < 0x800 then
    [(0xc0 + code / 64).toUInt8, (0x80 + code % 64).toUInt8]
  else if code < 0x10000 then
    [(0xe0 + code / 4096).toUInt8, (0x80 + code / 64 % 64).toUInt8,
      (0x80 + code % 64).toUInt8]
  else
    [(0xf0 + code / 262144).toUInt8, (0x80 + code / 4096 % 64).toUInt8,
      (0x80 + code / 64 % 64).toUInt8, (0x80 + code % 64).toUInt8]

def Piece.bytes : Piece → Bytes
  | .scalar code => encode code
  | .stray b => [b]

def Piece.code : Piece → Nat
  | .scalar code => code
  | .stray _ => replacement

def isValid (s : Bytes) : Bool :=
  (pieces s).all fun
    | .scalar _ => true
    | .stray _ => false

def codes (s : Bytes) : List Nat :=
  (pieces s).map Piece.code

def sanitize (s : Bytes) : Bytes :=
  (codes s).flatMap encode

end ModelGateway.Utf8
