import Mathlib.Algebra.GroupWithZero.Nat
import ModelGateway.Image.Zlib

namespace ModelGateway

namespace Bytes

@[simp] theorem length_toBigEndian (width n : Nat) :
    (toBigEndian width n).length = width := by
  induction width with
  | zero => rfl
  | succ width induction => rw [toBigEndian, List.length_cons, induction]

@[simp] theorem length_toLittleEndian (width n : Nat) :
    (toLittleEndian width n).length = width := by
  induction width generalizing n with
  | zero => rfl
  | succ width induction => rw [toLittleEndian, List.length_cons, induction]

private theorem foldl_toBigEndian (width n start : Nat) :
    (toBigEndian width n).foldl (fun n b => n * 256 + b.toNat) start =
      start * 256 ^ width + n % 256 ^ width := by
  induction width generalizing start with
  | zero => simp [toBigEndian, Nat.mod_one]
  | succ width induction =>
      have digit : (n / Nat.pow 256 width % 256).toUInt8.toNat =
          n / 256 ^ width % 256 := by
        simp [Nat.mod_eq_of_lt (Nat.mod_lt _ (by decide : 0 < 256))]
      rw [toBigEndian, List.foldl_cons, induction, digit, Nat.mod_pow_succ,
        Nat.add_mul, Nat.pow_succ, Nat.mul_assoc, Nat.mul_comm 256,
        Nat.mul_comm (n / 256 ^ width % 256)]
      omega

theorem bigEndian_toBigEndian {width n : Nat} (fits : n < 256 ^ width) :
    bigEndian (toBigEndian width n) = n := by
  rw [bigEndian, foldl_toBigEndian, Nat.zero_mul, Nat.zero_add,
    Nat.mod_eq_of_lt fits]

theorem littleEndian_toLittleEndian {width n : Nat} (fits : n < 256 ^ width) :
    littleEndian (toLittleEndian width n) = n := by
  induction width generalizing n with
  | zero =>
      have zero : n = 0 := by simpa using fits
      rw [zero]
      rfl
  | succ width induction =>
      have rest : n / 256 < 256 ^ width := by
        apply Nat.div_lt_of_lt_mul
        rwa [Nat.mul_comm, ← Nat.pow_succ]
      rw [toLittleEndian, littleEndian, induction rest]
      simp
      omega

theorem split?_append {n : Nat} {s : Bytes}
    (size : s.length = n)
    (t : Bytes) :
    split? n (s ++ t) = some (s, t) := by
  simp [split?, ← size]

end Bytes

namespace Inflate

theorem take_three (byte : UInt8) (rest : Bytes) (offset : Nat) :
    Bits.take 3 { rest := byte :: rest, offset } =
      .ok (byte.toNat % 8, ⟨rest, byte.toNat / 8, 5, offset + 1⟩) := by
  have filled : Bits.fill 3 { rest := byte :: rest, offset } =
      .ok ⟨rest, byte.toNat, 8, offset + 1⟩ := by
    cases rest <;> simp [Bits.fill, Bits.fill.go]
  rw [Bits.take, filled]
  rfl

private theorem copyStored_append (s tail : Bytes) (out : Array UInt8)
    (held count offset : Nat) :
    copyStored s.length out ⟨s ++ tail, held, count, offset⟩ =
      ⟨out ++ s.toArray, .ok ⟨tail, held, count, offset + s.length⟩⟩ := by
  induction s generalizing out offset with
  | nil => simp [copyStored]
  | cons byte s induction =>
      rw [List.length_cons, List.cons_append, copyStored]
      simp only
      rw [induction]
      simp [Nat.add_comm, Nat.add_left_comm]

theorem readStored_append {s : Bytes}
    (short : s.length ≤ 65535)
    (tail : Bytes) (out : Array UInt8) (held count offset : Nat) :
    readStored out
        ⟨Bytes.toLittleEndian 2 s.length ++ Bytes.toLittleEndian 2
          (65535 - s.length) ++ s ++ tail, held, count, offset⟩ =
      ⟨out ++ s.toArray, .ok ⟨tail, 0, 0, offset + 4 + s.length⟩⟩ := by
  have size : (Bytes.toLittleEndian 2 s.length ++
      Bytes.toLittleEndian 2 (65535 - s.length)).length = 4 := by
    simp
  have first : Bytes.littleEndian ((Bytes.toLittleEndian 2 s.length ++
      Bytes.toLittleEndian 2 (65535 - s.length)).take 2) = s.length := by
    rw [List.take_left' (by simp)]
    exact Bytes.littleEndian_toLittleEndian (by omega)
  have second : Bytes.littleEndian ((Bytes.toLittleEndian 2 s.length ++
      Bytes.toLittleEndian 2 (65535 - s.length)).drop 2) =
        65535 - s.length := by
    rw [List.drop_left' (by simp)]
    exact Bytes.littleEndian_toLittleEndian (by omega)
  have agree : (s.length + (65535 - s.length) != 65535) = false := by
    rw [Nat.add_sub_cancel' short]
    rfl
  rw [readStored]
  simp only [Bits.align, List.append_assoc _ s tail, Bytes.split?_append size,
    first, second, agree]
  exact copyStored_append s tail out 0 0 (offset + 4)

theorem readBlocks_block {s : Bytes}
    (short : s.length ≤ 65535)
    (last : Bool) (tail : Bytes) (fuel : Nat)
    (out : Array UInt8) (offset : Nat) :
    readBlocks (fuel + 1) out
        { rest := (if last then 1 else 0) :: (Bytes.toLittleEndian 2 s.length ++
            Bytes.toLittleEndian 2 (65535 - s.length) ++ s ++ tail), offset } =
      if last then ⟨out ++ s.toArray,
        .ok { rest := tail, offset := offset + (5 + s.length) }⟩
      else readBlocks fuel (out ++ s.toArray)
        { rest := tail, offset := offset + (5 + s.length) } := by
  have place : offset + 1 + 4 + s.length = offset + (5 + s.length) := by omega
  cases last with
  | false =>
      rw [readBlocks, take_three]
      simp only [Bool.false_eq_true, if_false, readStored_append short]
      simp [place]
  | true =>
      rw [readBlocks, take_three]
      simp only [if_true, readStored_append short]
      simp [place]

open Zlib in
private theorem readBlocks_storedBlocks {steps : Nat} {s : Bytes}
    (enough : s.length < steps)
    (tail : Bytes) {fuel : Nat}
    (more : steps ≤ fuel)
    (out : Array UInt8) (offset : Nat) :
    readBlocks fuel out { rest := storedBlocks steps s ++ tail, offset } =
      ⟨out ++ s.toArray,
        .ok { rest := tail
              offset := offset + (storedBlocks steps s).length }⟩ := by
  induction steps generalizing s fuel out offset with
  | zero => omega
  | succ steps induction =>
      obtain ⟨fuel, rfl⟩ : ∃ k, fuel = k + 1 := ⟨fuel - 1, by omega⟩
      have short : (s.take 65535).length ≤ 65535 := by
        rw [List.length_take]
        exact Nat.min_le_left _ _
      rw [storedBlocks]
      -- A block is the last one exactly if nothing is left behind it.
      cases later : (s.drop 65535).isEmpty with
      | true =>
          have whole : s.take 65535 = s := by
            apply List.take_of_length_le
            simpa using later
          have block := readBlocks_block short true tail fuel out offset
          simp only [if_true] at block ⊢
          rw [List.append_nil, List.cons_append, List.cons_append,
            List.cons_append, block, whole]
          simp [Nat.add_comm, Nat.add_left_comm]
      | false =>
          have long : 65535 < s.length := by simpa using later
          have block :=
            readBlocks_block short false
              (storedBlocks steps (s.drop 65535) ++ tail) fuel out offset
          have fewer : (s.drop 65535).length < steps := by
            rw [List.length_drop]
            omega
          simp only [Bool.false_eq_true, if_false] at block ⊢
          rw [List.cons_append, List.cons_append, List.append_assoc,
            List.cons_append, block, induction fewer (by omega)]
          have joined : out ++ (s.take 65535).toArray ++
              (s.drop 65535).toArray = out ++ s.toArray := by
            simp [Array.append_assoc]
          rw [joined]
          simp
          omega

end Inflate

namespace Checksum

private theorem foldl_adlerByte_lt (s : Bytes) {sums : Nat × Nat}
    (first : sums.1 < 65521) (second : sums.2 < 65521) :
    (s.foldl adlerByte sums).1 < 65521 ∧
      (s.foldl adlerByte sums).2 < 65521 := by
  induction s generalizing sums with
  | nil => exact ⟨first, second⟩
  | cons byte s induction =>
      apply induction
      · exact Nat.mod_lt _ (by decide)
      · exact Nat.mod_lt _ (by decide)

private theorem adler32_lt (s : Bytes) : adler32 s < 256 ^ 4 := by
  obtain ⟨first, second⟩ := @foldl_adlerByte_lt s (1, 0) (by decide) (by decide)
  simp only [adler32]
  omega

end Checksum

namespace Zlib

private theorem le_length_storedBlocks {steps : Nat} {s : Bytes}
    (enough : s.length < steps) :
    s.length ≤ (storedBlocks steps s).length := by
  induction steps generalizing s with
  | zero => omega
  | succ steps induction =>
      rw [storedBlocks]
      cases later : (s.drop 65535).isEmpty with
      | true =>
          have short : s.length ≤ 65535 := by simpa using later
          simp [short]
          omega
      | false =>
          have long : 65535 < s.length := by simpa using later
          have rest :=
            @induction (s.drop 65535) (by rw [List.length_drop]; omega)
          rw [List.length_drop] at rest
          simp
          omega

/-- What is written into a stream is read from it, and the whole stream is used
up. -/
theorem read_write (s : Bytes) :
    read (write s) = some (.ok ⟨s.toArray, .complete (write s).length⟩) := by
  have head : header (write s) =
      some (.ok (storedBlocks (s.length + 1) s ++
        Bytes.toBigEndian 4 (Checksum.adler32 s))) := rfl
  have enough : s.length < s.length + 1 := Nat.lt_succ_self _
  have fuel : s.length + 1 ≤
      8 * (storedBlocks (s.length + 1) s ++
        Bytes.toBigEndian 4 (Checksum.adler32 s)).length + 1 := by
    have longer := le_length_storedBlocks enough
    rw [List.length_append]
    omega
  have inflated := Inflate.readBlocks_storedBlocks enough
    (Bytes.toBigEndian 4 (Checksum.adler32 s))
    fuel #[] 0
  have sum := Bytes.bigEndian_toBigEndian (Checksum.adler32_lt s)
  have split :=
    Bytes.split?_append (Bytes.length_toBigEndian 4 (Checksum.adler32 s)) []
  rw [List.append_nil] at split
  rw [read, head]
  simp only [body, Inflate.inflate, inflated, split, sum]
  simp [write]
  omega

end Zlib

end ModelGateway
