import ModelGateway.Json.Basic

/-!
Documents read from text, one byte a step. The reader keeps a stack of open
lists and objects, stops at the end of the first value, and tells a text that
breaks the grammar from one that ends too early.
-/

namespace ModelGateway.Document

def maxDepth : Nat := 10000

def isSpace (b : UInt8) : Bool :=
  b == 0x20 || b == 0x09 || b == 0x0a || b == 0x0d

/-- A list or object that is still open, with what it holds so far in
reverse. -/
inductive Frame where
  | items (done : List Document)
  | fields (done : List (Bytes × Document)) (key : Bytes)

/-- Where a string stands: between characters, after a backslash, or before `n`
more hexadecimal digits. -/
inductive Escape where
  | none
  | backslash
  | digits (n : Nat)
  deriving DecidableEq

inductive NumberPart where
  | minus
  | zero
  | whole
  | point
  | fraction
  | mark
  | sign
  | exponent
  deriving DecidableEq

inductive Mode where
  -- Before a value; in a list just opened its end may stand here.
  | value (closable : Bool)
  | key (closable : Bool)
  | colon
  | after
  | text (name : Bool) (raw : Bytes) (escape : Escape)
  | word (rest : Bytes) (value : Document)
  | number (raw : Bytes) (part : NumberPart)
  -- After a scalar outside of any list or object, whose end shows only in the
  -- next byte.
  | scalar (value : Document)

structure ReaderState where
  stack : List Frame
  mode : Mode

inductive Step where
  | next (state : ReaderState)
  -- The value ends with this byte.
  | finished (value : Document)
  -- The value ended before this byte.
  | ended (value : Document)
  | malformed

def unit? : Bytes → Option (Nat × Bytes)
  | a :: b :: c :: d :: rest => do
      let a ← Bytes.hexValue? a
      let b ← Bytes.hexValue? b
      let c ← Bytes.hexValue? c
      let d ← Bytes.hexValue? d
      return (((a * 16 + b) * 16 + c) * 16 + d, rest)
  | _ => none

def shortEscape? (b : UInt8) : Option UInt8 :=
  if b == 0x22 || b == 0x5c || b == 0x2f then some b
  else if b == 0x62 then some 0x08
  else if b == 0x66 then some 0x0c
  else if b == 0x6e then some 0x0a
  else if b == 0x72 then some 0x0d
  else if b == 0x74 then some 0x09
  else none

def isSurrogate (u : Nat) : Bool := 0xd800 ≤ u && u < 0xe000

def isHighSurrogate (u : Nat) : Bool := 0xd800 ≤ u && u < 0xdc00

def isLowSurrogate (u : Nat) : Bool := 0xdc00 ≤ u && u < 0xe000

inductive Glyph where
  | unit (u : Nat)
  | raw (b : UInt8)
  deriving DecidableEq

def glyphs : Bytes → List Glyph
  | 0x5c :: 0x75 :: a :: b :: c :: d :: rest =>
      match unit? [a, b, c, d] with
      | some (u, _) => .unit u :: glyphs rest
      | none => .raw 0x5c :: glyphs (0x75 :: a :: b :: c :: d :: rest)
  | 0x5c :: b :: rest =>
      match shortEscape? b with
      | some c => .raw c :: glyphs rest
      | none => .raw 0x5c :: glyphs (b :: rest)
  | b :: rest => .raw b :: glyphs rest
  | [] => []

/-- Joins surrogate pairs; a surrogate alone becomes the replacement
character. -/
def joinGlyphs : List Glyph → Bytes
  | [] => []
  | .raw b :: rest => b :: joinGlyphs rest
  | .unit u :: rest =>
      if !isSurrogate u then
        Utf8.encode u ++ joinGlyphs rest
      else
        match rest with
        | .unit w :: tail =>
            if isHighSurrogate u && isLowSurrogate w then
              Utf8.encode (0x10000 + (u - 0xd800) * 0x400 + (w - 0xdc00)) ++
                joinGlyphs tail
            else
              Utf8.encode Utf8.replacement ++ joinGlyphs (.unit w :: tail)
        | rest => Utf8.encode Utf8.replacement ++ joinGlyphs rest

def unescape (raw : Bytes) : Bytes :=
  joinGlyphs (glyphs (Utf8.sanitize raw))

def giveScalar (stack : List Frame) (value : Document) : Step :=
  match stack with
  | [] => .next ⟨[], .scalar value⟩
  | .items done :: rest => .next ⟨.items (value :: done) :: rest, .after⟩
  | .fields done key :: rest =>
      .next ⟨.fields ((key, value) :: done) [] :: rest, .after⟩

def giveClosed (stack : List Frame) (value : Document) : Step :=
  match stack with
  | [] => .finished value
  | _ => giveScalar stack value

def openFrame (stack : List Frame) (frame : Frame) (mode : Mode) : Step :=
  if stack.length < maxDepth then .next ⟨frame :: stack, mode⟩ else .malformed

def beginValue (stack : List Frame) (b : UInt8) : Step :=
  if b == 0x7b then openFrame stack (.fields [] []) (.key true)
  else if b == 0x5b then openFrame stack (.items []) (.value true)
  else if b == 0x22 then .next ⟨stack, .text false [] .none⟩
  else if b == 0x2d then .next ⟨stack, .number [b] .minus⟩
  else if b == 0x30 then .next ⟨stack, .number [b] .zero⟩
  else if Bytes.isDigit b then .next ⟨stack, .number [b] .whole⟩
  else if b == 0x74 then .next ⟨stack, .word "rue" (.bool true)⟩
  else if b == 0x66 then .next ⟨stack, .word "alse" (.bool false)⟩
  else if b == 0x6e then .next ⟨stack, .word "ull" .null⟩
  else .malformed

def stepAfter (stack : List Frame) (b : UInt8) : Step :=
  if isSpace b then
    .next ⟨stack, .after⟩
  else
    match stack with
    | [] => .malformed
    | .items done :: rest =>
        if b == 0x2c then .next ⟨stack, .value false⟩
        else if b == 0x5d then giveClosed rest (.array done.reverse)
        else .malformed
    | .fields done _ :: rest =>
        if b == 0x2c then .next ⟨stack, .key false⟩
        else if b == 0x7d then giveClosed rest (.object done.reverse)
        else .malformed

def nextPart? (part : NumberPart) (b : UInt8) : Option NumberPart :=
  let digit := Bytes.isDigit b
  let mark := b == 0x65 || b == 0x45
  match part with
  | .minus =>
      if b == 0x30 then some .zero else if digit then some .whole else none
  | .zero =>
      if b == 0x2e then some .point else if mark then some .mark else none
  | .whole =>
      if digit then some .whole else if b == 0x2e then some .point
      else if mark then some .mark else none
  | .point => if digit then some .fraction else none
  | .fraction =>
      if digit then some .fraction else if mark then some .mark else none
  | .mark =>
      if b == 0x2b || b == 0x2d then some .sign
      else if digit then some .exponent else none
  | .sign => if digit then some .exponent else none
  | .exponent => if digit then some .exponent else none

def NumberPart.isComplete : NumberPart → Bool
  | .zero | .whole | .fraction | .exponent => true
  | _ => false

def stepText (stack : List Frame) (name : Bool) (raw : Bytes)
    (escape : Escape) (b : UInt8) : Step :=
  match escape with
  | .backslash =>
      if b == 0x75 then .next ⟨stack, .text name (b :: raw) (.digits 4)⟩
      else if (shortEscape? b).isSome then
        .next ⟨stack, .text name (b :: raw) .none⟩
      else .malformed
  | .digits n =>
      if (Bytes.hexValue? b).isSome then
        .next ⟨stack, .text name (b :: raw)
          (if n ≤ 1 then .none else .digits (n - 1))⟩
      else
        .malformed
  | .none =>
      if b == 0x22 then
        let s := unescape raw.reverse
        if name then
          match stack with
          | .fields done _ :: rest => .next ⟨.fields done s :: rest, .colon⟩
          | _ => .malformed
        else
          giveScalar stack (.string s)
      else if b == 0x5c then .next ⟨stack, .text name (b :: raw) .backslash⟩
      else if b < 0x20 then .malformed
      else .next ⟨stack, .text name (b :: raw) .none⟩

def ReaderState.step (state : ReaderState) (b : UInt8) : Step :=
  let stack := state.stack
  match state.mode with
  | .value closable =>
      if isSpace b then
        .next state
      else if closable && b == 0x5d then
        giveClosed stack.tail (.array [])
      else
        beginValue stack b
  | .key closable =>
      if isSpace b then .next state
      else if b == 0x22 then .next ⟨stack, .text true [] .none⟩
      else if closable && b == 0x7d then giveClosed stack.tail (.object [])
      else .malformed
  | .colon =>
      if isSpace b then .next state
      else if b == 0x3a then .next ⟨stack, .value false⟩
      else .malformed
  | .after => stepAfter stack b
  | .text name raw escape => stepText stack name raw escape b
  | .word rest value =>
      match rest with
      | [] => .malformed
      | [c] => if b == c then giveScalar stack value else .malformed
      | c :: rest =>
          if b == c then .next ⟨stack, .word rest value⟩ else .malformed
  | .number raw part =>
      match nextPart? part b with
      | some part => .next ⟨stack, .number (b :: raw) part⟩
      | none =>
          if part.isComplete then
            match giveScalar stack (.number raw.reverse) with
            | .next ⟨_, .scalar value⟩ => .ended value
            | .next state => stepAfter state.stack b
            | step => step
          else
            .malformed
  | .scalar value => .ended value

inductive Reading where
  | complete (value : Document) (rest : Bytes)
  | malformed
  | unfinished (state : ReaderState)

def ReaderState.run (state : ReaderState) : Bytes → Reading
  | [] => .unfinished state
  | b :: s =>
      match state.step b with
      | .next state => state.run s
      | .finished value => .complete value s
      | .ended value => .complete value (b :: s)
      | .malformed => .malformed

def ReaderState.start : ReaderState := ⟨[], .value false⟩

/-- The value that is complete once the text is known to go no further. -/
def ReaderState.atEnd? (state : ReaderState) : Option Document :=
  match state.mode with
  | .scalar value => some value
  | .number raw part =>
      if state.stack.isEmpty && part.isComplete then some (.number raw.reverse)
      else none
  | _ => none

inductive ReadFault where
  | malformed
  | unfinished
  deriving DecidableEq, Repr

/-- The first value of a text. If the text goes on beyond what is given
(`more`), a value that might go on too is unfinished. -/
def readFirst (more : Bool) (s : Bytes) : Except ReadFault Document :=
  match ReaderState.start.run s with
  | .complete value _ => .ok value
  | .malformed => .error .malformed
  | .unfinished state =>
      if more then
        .error .unfinished
      else
        match state.atEnd? with
        | some value => .ok value
        | none => .error .malformed

def read? (s : Bytes) : Option Document :=
  match ReaderState.start.run s with
  | .complete value rest => if rest.all isSpace then some value else none
  | .malformed => none
  | .unfinished state => state.atEnd?

end ModelGateway.Document
