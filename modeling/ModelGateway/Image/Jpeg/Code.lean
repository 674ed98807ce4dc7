import ModelGateway.Image.Jpeg.Stream

namespace ModelGateway.Jpeg

/-- The codes of one length: the lowest and the highest, and the place of the
first symbol. -/
structure Span where
  least : Nat
  greatest : Nat
  index : Nat
  deriving Repr

structure Code where
  symbols : Array UInt8
  -- The codes of each length from one to sixteen.
  spans : List (Option Span)
  -- The symbol that eight bits start with and the length of its code.
  table : Array (Option (UInt8 × Nat))

namespace Code

private def spansOf : List Nat → Nat → Nat → List (Option Span)
  | [], _, _ => []
  | 0 :: counts, code, index => none :: spansOf counts (2 * code) index
  | n :: counts, code, index =>
      some ⟨code, code + n - 1, index⟩ ::
        spansOf counts (2 * (code + n)) (index + n)

def enter (symbols : Array UInt8) (length : Nat) (span : Span)
    (table : Array (Option (UInt8 × Nat))) : Array (Option (UInt8 × Nat)) :=
  let room := Nat.pow 2 (8 - length)
  (List.range (span.greatest + 1 - span.least)).foldl
    (fun table j =>
      let base := (span.least + j) * room % 256
      let entry := some (symbols.getD (span.index + j) 0, length)
      (List.range room).foldl (fun table k =>
        table.setIfInBounds (base + k) entry) table)
    table

def ofCounts (counts : List Nat) (symbols : Array UInt8) : Code :=
  let spans := spansOf counts 0 0
  let table := (spans.take 8).zipIdx.foldl
    (fun table (span, i) =>
      match span with
      | none => table
      | some span => enter symbols (i + 1) span table)
    (Array.replicate 256 none)
  ⟨symbols, spans, table⟩

/-- Follows a code bit by bit; `code` is twice what was read so far. -/
def follow (symbols : Array UInt8) :
    List (Option Span) → Nat → Stream → Except ImageFault (UInt8 × Stream)
  | [], _, _ => invalid "bad Huffman code"
  | span :: spans, code, s => do
      let (bit, s) ← s.bits 1
      let code := code + bit
      match span with
      | none => follow symbols spans (2 * code) s
      | some span =>
          if code ≤ span.greatest then
            .ok (symbols.getD (span.index + code - span.least) 0, s)
          else follow symbols spans (2 * code) s

def read (c : Code) (s : Stream) : Except ImageFault (UInt8 × Stream) :=
  match s.fill 8 with
  | .error _ => follow c.symbols c.spans 0 { s with last := 0 }
  | .ok s =>
      match c.table.getD (s.held / Nat.pow 2 (s.count - 8)) none with
      | some (symbol, length) => .ok (symbol, (s.cut length).2)
      | none => follow c.symbols c.spans 0 s

end Code

end ModelGateway.Jpeg
