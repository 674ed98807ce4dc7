/-!
Text as the bytes it travels in. Keys, paths, header values and form fields may
hold bytes that are no UTF-8, so every text of the gateway is a list of bytes.
-/

namespace ModelGateway

abbrev Bytes := List UInt8

def utf8 (s : String) : Bytes :=
  s.toUTF8.data.toList

instance : Coe String Bytes := ⟨utf8⟩

namespace Bytes

def ascii (c : Char) : UInt8 :=
  c.toNat.toUInt8

def le : Bytes → Bytes → Bool
  | [], _ => true
  | _ :: _, [] => false
  | a :: s, b :: t => a < b || (a == b && le s t)

def sort (texts : List Bytes) : List Bytes :=
  texts.mergeSort le

def startsWith (start : Bytes) (s : Bytes) : Bool :=
  start.isPrefixOf s

def endsWith (ending : Bytes) (s : Bytes) : Bool :=
  ending.isSuffixOf s

def dropStart? : Bytes → Bytes → Option Bytes
  | [], s => some s
  | _ :: _, [] => none
  | a :: start, b :: s => if a == b then dropStart? start s else none

theorem startsWith_iff {start s : Bytes} :
    startsWith start s = true ↔ start <+: s :=
  List.isPrefixOf_iff_prefix

theorem endsWith_iff {ending s : Bytes} :
    endsWith ending s = true ↔ ending <:+ s :=
  List.isSuffixOf_iff_suffix

theorem dropStart?_eq_some_iff {start s rest : Bytes} :
    dropStart? start s = some rest ↔ s = start ++ rest := by
  induction start generalizing s with
  | nil => simp [dropStart?]
  | cons a start induction =>
      cases s with
      | nil => simp [dropStart?]
      | cons b s =>
          by_cases equal : a = b
          · simp [dropStart?, equal, induction]
          · have differ : (a == b) = false := beq_eq_false_iff_ne.2 equal
            simp [dropStart?, differ, Ne.symm equal]

/-- The pieces between the occurrences of `sep`; there is always one more piece
than occurrences. -/
def splitOn (sep : UInt8) : Bytes → List Bytes
  | [] => [[]]
  | b :: s =>
      if b == sep then
        [] :: splitOn sep s
      else
        match splitOn sep s with
        | [] => [[b]]
        | piece :: pieces => (b :: piece) :: pieces

def join (sep : Bytes) : List Bytes → Bytes
  | [] => []
  | [s] => s
  | s :: rest => s ++ sep ++ join sep rest

def cut? (sep : UInt8) : Bytes → Option (Bytes × Bytes)
  | [] => none
  | b :: s =>
      if b == sep then
        some ([], s)
      else
        (cut? sep s).map fun (before, after) => (b :: before, after)

def cutLast? (sep : UInt8) : Bytes → Option (Bytes × Bytes)
  | [] => none
  | b :: s =>
      match cutLast? sep s with
      | some (before, after) => some (b :: before, after)
      | none => if b == sep then some ([], s) else none

private def occursIn (part : Bytes) : Bytes → Bool
  | [] => part.isEmpty
  | b :: s => part.isPrefixOf (b :: s) || occursIn part s

def dropEndWhile (p : UInt8 → Bool) (s : Bytes) : Bytes :=
  (s.reverse.dropWhile p).reverse

def trimWhile (p : UInt8 → Bool) (s : Bytes) : Bytes :=
  dropEndWhile p (s.dropWhile p)

def isDigit (b : UInt8) : Bool := 0x30 ≤ b && b ≤ 0x39

def isUpper (b : UInt8) : Bool := 0x41 ≤ b && b ≤ 0x5a

def isLower (b : UInt8) : Bool := 0x61 ≤ b && b ≤ 0x7a

def isLetter (b : UInt8) : Bool := isUpper b || isLower b

def lowerByte (b : UInt8) : UInt8 := if isUpper b then b + 32 else b

def upperByte (b : UInt8) : UInt8 := if isLower b then b - 32 else b

def lower (s : Bytes) : Bytes := s.map lowerByte

/-- Small letters for the capitals that are ASCII or become so: of the others
only the Turkish dotted one and the sign for kelvin do. -/
def lowerText : Bytes → Bytes
  | 0xc4 :: 0xb0 :: s => 0x69 :: lowerText s
  | 0xe2 :: 0x84 :: 0xaa :: s => 0x6b :: lowerText s
  | b :: s => lowerByte b :: lowerText s
  | [] => []

def hexValue? (b : UInt8) : Option Nat :=
  if isDigit b then some (b.toNat - 0x30)
  else if 0x61 ≤ b && b ≤ 0x66 then some (b.toNat - 0x61 + 10)
  else if 0x41 ≤ b && b ≤ 0x46 then some (b.toNat - 0x41 + 10)
  else none

def hexDigit (n : Nat) : UInt8 :=
  if n < 10 then (0x30 + n).toUInt8 else (0x61 + (n - 10)).toUInt8

def hexByte (b : UInt8) : Bytes :=
  [hexDigit (b.toNat / 16), hexDigit (b.toNat % 16)]

def toHex (s : Bytes) : Bytes := s.flatMap hexByte

def ofHex? : Bytes → Option Bytes
  | [] => some []
  | a :: b :: rest => do
      let high ← hexValue? a
      let low ← hexValue? b
      let bytes ← ofHex? rest
      return (high * 16 + low).toUInt8 :: bytes
  | [_] => none

def hexDigits (width : Nat) (n : Nat) : Bytes :=
  (List.range width).map fun i => hexDigit (n / Nat.pow 16 (width - 1 - i) % 16)

def ofNat (n : Nat) : Bytes :=
  (Nat.toDigits 10 n).map ascii

def ofInt : Int → Bytes
  | .ofNat n => ofNat n
  | .negSucc n => 0x2d :: ofNat (n + 1)

def digitsValue (s : Bytes) : Nat :=
  s.foldl (fun n b => n * 10 + (b.toNat - 0x30)) 0

end Bytes

end ModelGateway
