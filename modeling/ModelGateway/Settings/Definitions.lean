import ModelGateway.Text.Blank

/-!
Files of variable definitions: lines of `NAME=value`, with comments, quotes and
references to names that the file defined before. A file with a fault anywhere
defines nothing.
-/

namespace ModelGateway

/-- Names with their values; of several values of one name the last one
counts. -/
abbrev Variables := List (Bytes × Bytes)

namespace Variables

def get? (name : Bytes) (vs : Variables) : Option Bytes :=
  (vs.reverse.find? (·.1 == name)).map Prod.snd

end Variables

namespace Definitions

def isSpace (code : Nat) : Bool :=
  code == 0x09 || code == 0x0b || code == 0x0c || code == 0x0d ||
    code == 0x20 || code == 0x85 || code == 0xa0

private def isLineEnd (b : UInt8) : Bool :=
  b == 0x0a || b == 0x0d

private def dropCodes (p : Nat → Bool) (s : Bytes) : Bytes :=
  ((Utf8.pieces s).dropWhile fun piece => p piece.code).flatMap Utf8.Piece.bytes

private def dropEndCodes (p : Nat → Bool) (s : Bytes) : Bytes :=
  ((Utf8.pieces s).reverse.dropWhile fun piece => p piece.code).reverse.flatMap
    Utf8.Piece.bytes

private def unixLines : Bytes → Bytes
  | 0x0d :: 0x0a :: s => 0x0a :: unixLines s
  | b :: s => b :: unixLines s
  | [] => []

private def skipComments : Nat → Bytes → Bytes
  | 0, s => s
  | fuel + 1, s =>
      match dropCodes Text.isBlank s with
      | 0x23 :: rest => skipComments fuel (rest.dropWhile (· != 0x0a))
      | s => s

def isNameByte (b : UInt8) : Bool :=
  Bytes.isLetter b || Bytes.isDigit b || b == 0x5f || b == 0x2e ||
    isSpace b.toNat ||
    [0xaa, 0xb2, 0xb3, 0xb5, 0xb9, 0xba, 0xbc, 0xbd, 0xbe].contains b ||
    (0xc0 ≤ b && b != 0xd7 && b != 0xf7)

private def dropExport (s : Bytes) : Bytes :=
  match Bytes.dropStart? "export" s with
  | none => s
  | some rest =>
      let trimmed := dropCodes isSpace rest
      if trimmed.length == rest.length then s else trimmed

/-- The name of a definition and what follows its sign. Without a sign the name
is empty, and the whole text is the value; an export without any name is a
fault. -/
def name? (s : Bytes) : Option (Bytes × Bytes) :=
  let s := dropExport (dropCodes isSpace s)
  let name := s.takeWhile isNameByte
  match s.dropWhile isNameByte with
  | [] => if s.isEmpty then none else some ([], s)
  | mark :: rest =>
      if mark == 0x3d || mark == 0x3a then
        some (dropEndCodes Text.isBlank name, dropCodes isSpace rest)
      else
        none

private def isVariableByte (b : UInt8) : Bool :=
  Bytes.isUpper b || Bytes.isDigit b || b == 0x5f

def optional (b : UInt8) : Bytes → Bytes × Bytes
  | [] => ([], [])
  | c :: s => if c == b then ([b], s) else ([], c :: s)

structure Reference where
  -- The reference as it is written, after the dollar sign.
  written : Bytes
  name : Bytes
  rest : Bytes

/-- Reads a reference after its dollar sign: brackets are optional and need not
match. -/
def reference (s : Bytes) : Reference :=
  let (parenthesis, s) := optional 0x28 s
  let (opening, s) := optional 0x7b s
  let name := s.takeWhile isVariableByte
  let (closing, s) := optional 0x7d (s.dropWhile isVariableByte)
  ⟨parenthesis ++ opening ++ name ++ closing, name, s⟩

/-- Replaces references by the values of `defined`. A backslash keeps a
reference and is dropped itself. -/
def expand (defined : Variables) : Nat → Bytes → Bytes
  | 0, s => s
  | _, [] => []
  | fuel + 1, 0x5c :: 0x24 :: s =>
      let r := reference s
      0x24 :: r.written ++ expand defined fuel r.rest
  | fuel + 1, 0x24 :: s =>
      let r := reference s
      (if r.name.isEmpty then 0x24 :: r.written
        else (defined.get? r.name).getD []) ++ expand defined fuel r.rest
  | fuel + 1, b :: s => b :: expand defined fuel s

private def lineEscapes : Bytes → Bytes
  | 0x5c :: b :: s =>
      if b == 0x6e then 0x0a :: lineEscapes s
      else if b == 0x72 then 0x0d :: lineEscapes s
      else 0x5c :: b :: lineEscapes s
  | b :: s => b :: lineEscapes s
  | [] => []

/-- Drops the backslash of every escape but that of a dollar sign. -/
def unescape : Bytes → Bytes
  | 0x5c :: b :: s =>
      if b == 0x24 then 0x5c :: unescape (b :: s) else b :: unescape s
  | b :: s => b :: unescape s
  | [] => []

/-- The part of a line before its comment: a number sign after a blank, the last
one in the line. -/
def beforeComment (line : List Nat) : List Nat :=
  let rec scan : List Nat → Option (List Nat)
    | hash :: blank :: earlier =>
        if hash == 0x23 && isSpace blank then some (blank :: earlier)
        else scan (blank :: earlier)
    | _ => none
  match scan line.reverse with
  | some earlier => earlier.reverse
  | none => line

private def bareValue (defined : Variables) (s : Bytes) : Bytes × Bytes :=
  let line := s.takeWhile fun b => !isLineEnd b
  let codes := beforeComment (Utf8.codes line)
  let trimmed :=
    ((codes.dropWhile isSpace).reverse.dropWhile isSpace).reverse.flatMap
      Utf8.encode
  (expand defined (trimmed.length + 1) trimmed,
    s.dropWhile fun b => !isLineEnd b)

/-- The text up to the next quote that no backslash precedes, and what follows
it. -/
def closing? (quote : UInt8) : UInt8 → Bytes → Option (Bytes × Bytes)
  | _, [] => none
  | before, b :: s =>
      if b == quote && before != 0x5c then some ([], s)
      else (closing? quote b s).map fun (inside, rest) => (b :: inside, rest)

private def quotedValue? (defined : Variables) (quote : UInt8) (s : Bytes) :
    Option (Bytes × Bytes) :=
  (closing? quote quote s).map fun (inside, rest) =>
    let inside := Bytes.trimWhile (· == quote) inside
    if quote == 0x22 then
      let plain := unescape (lineEscapes inside)
      (expand defined (plain.length + 1) plain, rest)
    else
      (inside, rest)

def value? (defined : Variables) : Bytes → Option (Bytes × Bytes)
  | [] => some ([], [])
  | b :: s =>
      if b == 0x27 || b == 0x22 then quotedValue? defined b s
      else some (bareValue defined (b :: s))

private def readFrom : Nat → Variables → Bytes → Option Variables
  | 0, defined, _ => some defined
  | fuel + 1, defined, s =>
      match skipComments (s.length + 1) s with
      | [] => some defined
      | s => do
          let (name, s) ← name? s
          let (value, rest) ← value? defined s
          readFrom fuel (defined ++ [(name, value)]) rest

def read? (file : Bytes) : Option Variables :=
  let s := unixLines file
  readFrom (s.length + 1) [] s

end Definitions

end ModelGateway
