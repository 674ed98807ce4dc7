import ModelGateway.Text.Utf8

namespace ModelGateway

namespace Text

def isBlank (code : Nat) : Bool :=
  (0x09 ≤ code && code ≤ 0x0d) || code == 0x20 || code == 0x85 ||
    code == 0xa0 || code == 0x1680 || (0x2000 ≤ code && code ≤ 0x200a) ||
    code == 0x2028 || code == 0x2029 || code == 0x202f || code == 0x205f ||
    code == 0x3000

end Text

namespace Bytes

def trimStart (s : Bytes) : Bytes :=
  ((Utf8.pieces s).dropWhile fun piece => Text.isBlank piece.code).flatMap
    Utf8.Piece.bytes

def trim (s : Bytes) : Bytes :=
  let blank := fun piece : Utf8.Piece => Text.isBlank piece.code
  (((Utf8.pieces s).dropWhile blank).reverse.dropWhile blank).reverse.flatMap
    Utf8.Piece.bytes

end Bytes

end ModelGateway
