import ModelGateway.Text.Bytes

/-!
Data in codes that grow with a table of what was written before. Files differ in
which end of a byte comes first and in when codes grow by a bit.
-/

namespace ModelGateway.Lzw

structure Scheme where
  literalBits : Nat
  -- Whether codes start at the high end of each byte.
  highFirst : Bool
  -- Whether codes grow one entry before the table needs it.
  early : Bool

inductive Ending where
  -- The code for the end was read.
  | complete
  -- The input ended first.
  | starved
  | invalidCode
  | full
  deriving DecidableEq, Repr

structure Entry where
  before : Nat
  byte : UInt8
  deriving Inhabited

structure State where
  rest : Bytes
  held : Nat := 0
  count : Nat := 0
  used : Nat := 0
  width : Nat
  -- The entry that is defined next.
  hi : Nat
  last : Option Nat := none
  table : Array Entry
  out : Array UInt8 := #[]

structure Result where
  data : Array UInt8
  ending : Ending
  used : Nat

namespace Scheme

def clear (s : Scheme) : Nat := Nat.pow 2 s.literalBits

def start (s : Scheme) (input : Bytes) : State :=
  { rest := input, width := s.literalBits + 1, hi := s.clear + 1,
    table := Array.replicate 4096 ⟨0, 0⟩ }

private def takeCode (s : Scheme) (width : Nat) : Bytes → Nat → Nat → Nat →
    Option (Nat × Bytes × Nat × Nat × Nat)
  | rest, held, count, used =>
      go rest held count used
where
  go : Bytes → Nat → Nat → Nat → Option (Nat × Bytes × Nat × Nat × Nat)
    | [], held, count, used =>
        if width ≤ count then some (split held count [] used) else none
    | byte :: rest, held, count, used =>
        if width ≤ count then some (split held count (byte :: rest) used)
        else if s.highFirst then
          go rest (held * 256 + byte.toNat) (count + 8) (used + 1)
        else go rest (held + byte.toNat * Nat.pow 2 count)
          (count + 8) (used + 1)
  split (held count : Nat) (rest : Bytes) (used : Nat) :
    Nat × Bytes × Nat × Nat × Nat :=
    if s.highFirst then
      (held / Nat.pow 2 (count - width), rest, held % Nat.pow 2 (count - width),
        count - width, used)
    else (held % Nat.pow 2 width, rest, held / Nat.pow 2 width,
      count - width, used)

/-- What a code stands for, in front of `tail`. An entry extends one that was
defined earlier, so at most as many steps as there are entries lead to a
literal. -/
def expand (s : Scheme) (table : Array Entry) : Nat → Nat → Bytes → Bytes
  | 0, code, tail => code.toUInt8 :: tail
  | fuel + 1, code, tail =>
      if code < s.clear then
        code.toUInt8 :: tail
      else
        let entry := table.getD code ⟨0, 0⟩
        expand s table fuel entry.before (entry.byte :: tail)

def maxWidth : Nat := 12

/-- Notes what a code wrote: the table grows by an entry, and codes by a bit
when the table needs it. -/
def advance (s : Scheme) (code : Nat) (written : Bytes)
    (st : State) : State :=
  let first := written.headD 0
  let table :=
    match st.last with
    | some last => st.table.setIfInBounds st.hi ⟨last, first⟩
    | none => st.table
  let hi := st.hi + 1
  let st :=
    { st with table, out := st.out ++ written.toArray, last := some code, hi }
  if hi + (if s.early then 1 else 0) ≥ Nat.pow 2 st.width then
    if st.width == maxWidth then { st with last := none, hi := hi - 1 }
    else { st with width := st.width + 1 }
  else
    st

/-- Reads codes up to the end, or until more than `limit` bytes came out. Each
code takes a bit at least. -/
def run (s : Scheme) (limit : Nat) : Nat → State → Result
  | 0, st => ⟨st.out, .starved, st.used⟩
  | fuel + 1, st =>
      if st.out.size > limit then
        ⟨st.out, .full, st.used⟩
      else
        match takeCode s st.width st.rest st.held st.count st.used with
        | none => ⟨st.out, .starved, st.used + st.rest.length⟩
        | some (code, rest, held, count, used) =>
            let st := { st with rest, held, count, used }
            if code < s.clear then
              run s limit fuel (advance s code [code.toUInt8] st)
            else if code == s.clear then
              run s limit fuel
                { st with
                  width := s.literalBits + 1, hi := s.clear + 1, last := none }
            else if code == s.clear + 1 then
              ⟨st.out, .complete, st.used⟩
            else if code ≤ st.hi then
              match st.last with
              | some last =>
                  if code == st.hi then
                    let text := expand s st.table 4096 last []
                    run s limit fuel
                      (advance s code (text ++ [text.headD 0]) st)
                  else
                    run s limit fuel
                      (advance s code (expand s st.table 4096 code []) st)
              | none =>
                  run s limit fuel
                    (advance s code (expand s st.table 4096 code []) st)
            else
              ⟨st.out, .invalidCode, st.used⟩

def read (s : Scheme) (limit : Nat) (input : Bytes) : Result :=
  s.run limit (8 * input.length + 1) (s.start input)

end Scheme

end ModelGateway.Lzw
