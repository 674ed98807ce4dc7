import ModelGateway.Http.Message

/-!
Bodies of several parts between delimiter lines, each part with header fields of
its own. A reader sees the body as far as it may be read, and it fails
differently where the body ends and where it is cut off.
-/

namespace ModelGateway

inductive MultipartFault where
  | emptyBoundary
  -- The body ends, or is cut off, where a delimiter line should stand.
  | noDelimiter (cut : Bool)
  | longLine
  | strayLine (line : Bytes)
  | notDelimiter (line : Bytes)
  | unfinished
  | cutOff
  | indented (line : Bytes)
  | noColon (line : Bytes)
  | badName (line : Bytes)
  | tooLarge
  deriving DecidableEq, Repr

namespace MultipartFault

def message : MultipartFault → Bytes
  | .emptyBoundary => "multipart: boundary is empty"
  | .noDelimiter false => "multipart: NextPart: EOF"
  | .noDelimiter true => "multipart: NextPart: http: request body too large"
  | .longLine => "multipart: NextPart: bufio: buffer full"
  | .strayLine line =>
      utf8 "multipart: unexpected line in Next(): " ++ Text.quote line
  | .notDelimiter line =>
      utf8 "multipart: expecting a new Part; got line " ++ Text.quote line
  | .unfinished => "unexpected EOF"
  | .cutOff => "http: request body too large"
  | .indented line => utf8 "malformed MIME header initial line: " ++ line
  | .noColon line =>
      utf8 "malformed MIME header: missing colon: " ++ Text.quote line
  | .badName line => utf8 "malformed MIME header line: " ++ line
  | .tooLarge => "multipart: message too large"

def isCut : MultipartFault → Bool
  | .noDelimiter cut => cut
  | .cutOff => true
  | _ => false

end MultipartFault

structure Part where
  headers : Headers
  data : Bytes
  deriving DecidableEq, Repr

namespace Multipart

def isLineBlank (b : UInt8) : Bool := b == 0x20 || b == 0x09

/-- How lines end in a body: in a line feed alone if the first delimiter line
does. -/
def lineEnd (bare : Bool) : Bytes := if bare then [0x0a] else [0x0d, 0x0a]

def dashes (boundary : Bytes) : Bytes := utf8 "--" ++ boundary

def afterBoundary? (boundary line : Bytes) : Option Bytes :=
  (Bytes.dropStart? (dashes boundary) line).map (List.dropWhile isLineBlank)

def isDelimiter (boundary : Bytes) (bare : Bool) (line : Bytes) : Bool :=
  afterBoundary? boundary line == some (lineEnd bare)

/-- Whether a line ends the body. The end of the line may be missing. -/
def isLast (boundary : Bytes) (bare : Bool) (line : Bytes) : Bool :=
  match afterBoundary? (boundary ++ utf8 "--") line with
  | some rest => rest.isEmpty || rest == lineEnd bare
  | none => false

def maxLine : Nat := 4096

structure Seeking where
  started : Bool
  bare : Bool
  -- Whether only a delimiter line may come next.
  expecting : Bool := false

/-- Reads on to the next part: how lines end from there, and what follows the
delimiter line. None if the body ends properly. -/
def seek (boundary : Bytes) (cut : Bool) (state : Seeking)
    (s : Bytes) :
    Except MultipartFault (Option (Bool × Bytes)) :=
  match found : s.dropWhile (· != 0x0a) with
  | [] =>
      if maxLine ≤ s.length then .error .longLine
      else if !cut && isLast boundary state.bare s then .ok none
      else .error (.noDelimiter cut)
  | lineFeed :: rest =>
      have shorter : rest.length < s.length := by
        have most := (List.dropWhile_sublist (· != 0x0a) (l := s)).length_le
        rw [found, List.length_cons] at most
        omega
      let line := s.takeWhile (· != 0x0a) ++ [lineFeed]
      if maxLine < line.length then .error .longLine
      else if !state.started && isDelimiter boundary true line then
        .ok (some (true, rest))
      else if isDelimiter boundary state.bare line then
        .ok (some (state.bare, rest))
      else if isLast boundary state.bare line then .ok none
      else if state.expecting then .error (.notDelimiter line)
      else if !state.started then seek boundary cut state rest
      else if line == lineEnd state.bare then
        seek boundary cut { state with expecting := true } rest
      else .error (.strayLine line)
  termination_by s.length

structure Allowance where
  -- The number of header fields.
  fields : Int := 10000
  -- Bytes of memory, for files and everything else.
  memory : Int := 44040192
  -- Bytes of files that are kept in memory; others are put elsewhere.
  files : Nat := 33554432

inductive LineRead where
  | line (text rest : Bytes)
  -- The line is longer than allowed, and reading stopped within it.
  | tooLong (rest : Bytes)
  | missing

/-- How much of a long line is read at once. A carriage return at the end is
left, since a line feed may follow. -/
def pieceLength (line : Bytes) : Nat :=
  if line.getD (maxLine - 1) 0 == 0x0d then maxLine - 1 else maxLine

def exceeds (limit : Int) (n : Nat) : Bool :=
  0 ≤ limit && limit < n

theorem pieceLength_pos (line : Bytes) : 0 < pieceLength line := by
  unfold pieceLength maxLine
  split <;> omega

private theorem length_drop_lt_of_long {s line : Bytes}
    (long : maxLine ≤ (s.takeWhile (· != 0x0a)).length) :
    (s.drop (pieceLength line)).length < s.length := by
  have most := (List.takeWhile_sublist (· != 0x0a) (l := s)).length_le
  have filled : maxLine ≤ s.length := Nat.le_trans long most
  have positive := pieceLength_pos line
  unfold maxLine at filled
  rw [List.length_drop]
  omega

def headerLine (limit : Int) (read s : Bytes) : LineRead :=
  let line := s.takeWhile (· != 0x0a)
  if maxLine ≤ line.length then
    let next := read ++ line.take (pieceLength line)
    let rest := s.drop (pieceLength line)
    if exceeds limit next.length then .tooLong rest
    else headerLine limit next rest
  else
    match s.drop line.length with
    | [] =>
        if line.isEmpty then .missing
        else if exceeds limit (read ++ line).length then .tooLong []
        else .line (read ++ line) []
    | _ :: rest =>
        let text :=
          read ++ (Bytes.dropStart? [0x0d] line.reverse).elim line List.reverse
        if exceeds limit text.length then .tooLong rest
        else .line text rest
  termination_by s.length
  decreasing_by exact length_drop_lt_of_long ‹_›

/-- Appends the lines that go on with a field: they start with a blank. None if
the field gets too long; a line that is too long by itself is broken off without
notice. -/
def continued (limit : Int) :
    (most : Nat) → (line : Bytes) → Bytes → Option (Bytes × Bytes)
  | 0, line, s => some (line, s)
  | most + 1, line, s =>
      let next := s.dropWhile isLineBlank
      if next.length == s.length then some (line, s)
      else
        let line := line ++ [0x20]
        if limit ≤ line.length then none
        else
          match headerLine (limit - line.length) [] next with
          | .missing => some (line, [])
          | .tooLong rest => some (line, rest)
          | .line more rest =>
              continued limit most
                (line ++ Bytes.trimWhile isLineBlank more) rest

def field? (line : Bytes) : Option (Bytes × Bytes) := do
  let (name, value) ← Bytes.cut? 0x3a line
  if name.isEmpty || !name.all (fun b => Headers.isNameByte b || b == 0x20) ||
      !value.all Headers.isValueByte then
    none
  else return (Headers.canonicalName name, value.dropWhile isLineBlank)

inductive HeaderEnd where
  | complete (headers : Headers) (rest : Bytes)
  | missing
  | broken (fault : MultipartFault)

def Allowance.room (a : Allowance) (read : Headers) : Int :=
  a.memory - 400 - read.weight

/-- The length that lines that go on with a field may reach. The first line is
counted twice. -/
def continuedLimit (room : Int) (line : Bytes) : Int :=
  (if room < 0 then 0x7fffffffffffffff else room) - line.length

/-- The fields up to an empty line, those read before in reverse. Each takes up
at least one byte, so `most` is enough if it is the length of the text. -/
def fields (allowance : Allowance) :
    (most : Nat) → (read : Headers) → Bytes → HeaderEnd
  | 0, _, _ => .missing
  | most + 1, read, s =>
      let room := allowance.room read
      match headerLine room [] s with
      | .missing => .missing
      | .tooLong _ => .broken .tooLarge
      | .line [] rest => .complete read.reverse rest
      | .line line rest =>
          if !line.contains 0x3a then .broken (.noColon line)
          else
            let line := Bytes.trimWhile isLineBlank line
            match continued (continuedLimit room line) rest.length
              line rest with
            | none => .broken .tooLarge
            | some (whole, rest) =>
                match field? whole with
                | none => .broken (.badName whole)
                | some entry =>
                    let read := entry :: read
                    if allowance.fields < read.length ||
                        allowance.room read < 0 then
                      .broken .tooLarge
                    else fields allowance most read rest

private def maxIndented : Nat := 80

def header (allowance : Allowance) (s : Bytes) : HeaderEnd :=
  if (s.head?.map isLineBlank).getD false then
    match headerLine maxIndented [] s with
    | .line line _ => .broken (.indented line)
    | .tooLong _ => .broken .tooLarge
    | .missing => .missing
  else fields allowance (s.length + 1) [] s

def endsBoundary : Bytes → Bool
  | [] => true
  | 0x2d :: 0x2d :: _ => true
  | b :: _ => isLineBlank b || b == 0x0d || b == 0x0a

def startsDelimiter (delimiter s : Bytes) : Bool :=
  match Bytes.dropStart? delimiter s with
  | some rest => endsBoundary rest
  | none => false

def dataLength? (delimiter : Bytes) (passed : Nat) (s : Bytes) : Option Nat :=
  if startsDelimiter delimiter s then some passed
  else
    match s with
    | [] => none
    | _ :: rest => dataLength? delimiter (passed + 1) rest

/-- The data of a part, and what follows from the delimiter on. Right after the
header the delimiter needs no line end. -/
def split? (boundary : Bytes) (bare : Bool) (s : Bytes) :
    Option (Bytes × Bytes) :=
  if startsDelimiter (dashes boundary) s then some ([], s)
  else (dataLength? (lineEnd bare ++ dashes boundary) 0 s).map fun n =>
    (s.take n, s.drop n)

/-- The data before the end of a text without delimiter. What may be the start
of one is held back. -/
def unfinished (boundary : Bytes) (bare : Bool) (s : Bytes) : Bytes :=
  if Bytes.startsWith s (dashes boundary) then []
  else
    let start := (lineEnd bare).headD 0
    match Bytes.cutLast? start s with
    | none => s
    | some (before, after) =>
        if Bytes.startsWith (start :: after)
            (lineEnd bare ++ dashes boundary) then
          before
        else s

structure Delivery where
  data : Bytes
  rest : Option Bytes
  deriving DecidableEq, Repr

def deliver (boundary : Bytes) (bare : Bool) (s : Bytes) : Delivery :=
  match split? boundary bare s with
  | some (data, rest) => ⟨data, some rest⟩
  | none => ⟨unfinished boundary bare s, none⟩

def maxParts : Nat := 1000

def writeHeaders (headers : Headers) : Bytes :=
  headers.flatMap fun (name, value) => name ++ utf8 ": " ++ value ++ utf8 "\r\n"

def write (boundary : Bytes) (all : List Part) : Bytes :=
  let pieces := all.map fun part =>
    dashes boundary ++ utf8 "\r\n" ++ writeHeaders part.headers ++
      utf8 "\r\n" ++ part.data ++ utf8 "\r\n"
  pieces.flatten ++ dashes boundary ++ utf8 "--\r\n"

end Multipart

end ModelGateway
