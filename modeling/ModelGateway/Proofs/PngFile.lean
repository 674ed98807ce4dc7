import ModelGateway.Image.PngWriter
import ModelGateway.Proofs.Stored

namespace ModelGateway.Png

def sumOf (covered : Bytes) : Bytes :=
  Bytes.toBigEndian 4 (Checksum.crc32 covered).toNat

theorem chunk_eq (name data : Bytes) :
    chunk name data = Bytes.toBigEndian 4 data.length ++ name ++ data ++
      sumOf (name ++ data) := rfl

theorem next_append {n : Nat} {s : Bytes}
    (size : s.length = n)
    (t : Bytes) :
    next n (s ++ t) = .ok (s, t) := by
  rw [next, Bytes.split?_append size]

theorem verify_append (covered rest : Bytes) :
    verify covered (sumOf covered ++ rest) = .ok rest := by
  have sum : Bytes.bigEndian (sumOf covered) = (Checksum.crc32 covered).toNat :=
    Bytes.bigEndian_toBigEndian (UInt32.toNat_lt _)
  have found : next 4 (sumOf covered ++ rest) = .ok (sumOf covered, rest) :=
    next_append (Bytes.length_toBigEndian _ _) rest
  rw [verify, found]
  simp [bind, Except.bind, sum]

theorem chunkData_append (name data rest : Bytes) :
    chunkData name data.length (data ++ (sumOf (name ++ data) ++ rest)) =
      .ok (data, rest) := by
  rw [chunkData, next_append rfl]
  simp only [bind, Except.bind, verify_append]
  rfl

theorem next_chunk {name : Bytes} (four : name.length = 4) (data rest : Bytes) :
    next 8 (chunk name data ++ rest) =
      .ok (Bytes.toBigEndian 4 data.length ++ name,
        data ++ (sumOf (name ++ data) ++ rest)) := by
  rw [chunk_eq, List.append_assoc, List.append_assoc]
  exact next_append (by simp [four]) _

theorem readChunk_chunk {size : Nat} {r : Reader} {name data rest : Bytes}
    (four : name.length = 4)
    (short : data.length < 256 ^ 4)
    (begins : r.rest = chunk name data ++ rest)
    {s : Reader}
    (inside : s = { r with rest := data ++ (sumOf (name ++ data) ++ rest) }) :
    readChunk size r =
      if name == PngChunk.name .header then
        if r.stage == .start then readHeader data.length s
        else .error (.png .chunkOrder)
      else if name == PngChunk.name .palette then
        if r.stage == .header then readPalette data.length s
        else .error (.png .chunkOrder)
      else if name == PngChunk.name .transparency then
        if transparencyInOrder s then readTransparency data.length s
        else .error (.png .chunkOrder)
      else if name == PngChunk.name .data && r.stage != .data then
        if dataInOrder s then readData size data.length s
        else .error (.png .chunkOrder)
      else if name == PngChunk.name .ending then
        if r.stage == .data then readEnding data.length s
        else .error (.png .chunkOrder)
      else skip name data.length s := by
  have length : Bytes.bigEndian
      ((Bytes.toBigEndian 4 data.length ++ name).take 4) = data.length := by
    rw [List.take_left' (Bytes.length_toBigEndian _ _)]
    exact Bytes.bigEndian_toBigEndian short
  have named : (Bytes.toBigEndian 4 data.length ++ name).drop 4 = name :=
    List.drop_left' (Bytes.length_toBigEndian _ _)
  rw [readChunk, begins, next_chunk four]
  simp only [bind, Except.bind, length, named, ← inside]

section Pieces

variable {size : Nat} {tail : Bytes}

def behind (tail p : Bytes) (ps : List Bytes) : Bytes :=
  sumOf (PngChunk.name .data ++ p) ++
    (ps.flatMap (chunk (PngChunk.name .data)) ++ tail)

def segmentsOf (size : Nat) (tail : Bytes) : List Bytes → List Segment
  | [] => []
  | p :: ps =>
      ⟨size - (p ++ behind tail p ps).length, p.length, p, behind tail p ps⟩ ::
        segmentsOf size tail ps

theorem flatMap_segmentsOf (ps : List Bytes) :
    (segmentsOf size tail ps).flatMap (·.data) = ps.flatten := by
  induction ps with
  | nil => rfl
  | cons p ps induction =>
      rw [segmentsOf, List.flatMap_cons, induction, List.flatten_cons]

theorem segments_eq (ending : Bytes) (p : Bytes) (ps : List Bytes)
    (short : ∀ q ∈ ps, q.length < 256 ^ 4)
    (tail_eq : tail = chunk (PngChunk.name .ending) [] ++ ending)
    {fuel : Nat} (enough : ps.length < fuel) :
    segments size fuel p.length (p ++ behind tail p ps) =
      (segmentsOf size tail (p :: ps), .png .tooFewPixels) := by
  have isData : (PngChunk.name .ending == PngChunk.name .data) = false := by
    decide
  -- On the chunks still to come: each is met when the sum behind the one
  -- before it has been checked.
  induction ps generalizing p fuel with
  | nil =>
      obtain ⟨fuel, rfl⟩ : ∃ k, fuel = k + 1 := ⟨fuel - 1, by omega⟩
      have found :
          next 8 tail = .ok (Bytes.toBigEndian 4 0 ++ PngChunk.name .ending,
          sumOf (PngChunk.name .ending) ++ ending) := by
        have found := @next_chunk (PngChunk.name .ending) (by decide) [] ending
        rwa [List.append_nil, List.nil_append, List.length_nil, ← tail_eq]
          at found
      have named : (Bytes.toBigEndian 4 0 ++ PngChunk.name .ending).drop 4 =
          PngChunk.name .ending :=
        List.drop_left' (Bytes.length_toBigEndian _ _)
      rw [segments]
      simp only [List.take_left, List.drop_left, Nat.lt_irrefl, if_false,
        behind, verify_append, List.flatMap_nil, List.nil_append, found, named,
        isData, bind, Except.bind, Bool.false_eq_true]
      rfl
  | cons q ps induction =>
      obtain ⟨fuel, rfl⟩ : ∃ k, fuel = k + 1 := ⟨fuel - 1, by omega⟩
      have found : next 8 (chunk (PngChunk.name .data) q ++
          (ps.flatMap (chunk (PngChunk.name .data)) ++ tail)) =
          .ok (Bytes.toBigEndian 4 q.length ++ PngChunk.name .data,
            q ++ behind tail q ps) :=
        next_chunk (by decide) q _
      have named : (Bytes.toBigEndian 4 q.length ++ PngChunk.name .data).drop
          4 = PngChunk.name .data :=
        List.drop_left' (Bytes.length_toBigEndian _ _)
      have length : Bytes.bigEndian
          ((Bytes.toBigEndian 4 q.length ++ PngChunk.name .data).take 4) =
          q.length := by
        rw [List.take_left' (Bytes.length_toBigEndian _ _)]
        exact Bytes.bigEndian_toBigEndian (short q List.mem_cons_self)
      have later :=
        induction q (fun p member => short p (List.mem_cons_of_mem _ member))
        (Nat.lt_of_succ_lt_succ enough)
      have step : verify (PngChunk.name .data ++ p) (behind tail p (q :: ps)) =
          .ok (chunk (PngChunk.name .data) q ++
            (ps.flatMap (chunk (PngChunk.name .data)) ++ tail)) := by
        rw [behind, List.flatMap_cons, List.append_assoc]
        exact verify_append _ _
      rw [segments]
      simp only [List.take_left, List.drop_left, Nat.lt_irrefl, if_false, step,
        found, named, length, later, bind, Except.bind, BEq.rfl, if_true]
      rfl

/-- The last byte of the data stands at the end of a segment, and what follows
that is the tail. -/
theorem locate_segmentsOf {ps : List Bytes}
    (nonempty : ps ≠ [])
    (filled : ∀ p ∈ ps, p ≠ []) :
    ∃ segment i, locate (ps.flatten.length - 1) (segmentsOf size tail ps) =
      some (segment, i) ∧
      exceeds segment i = false ∧
        verify (PngChunk.name .data ++ segment.data) segment.after =
        .ok tail := by
  induction ps with
  | nil => exact absurd rfl nonempty
  | cons p ps induction =>
      have positive : 0 < p.length :=
        List.length_pos_iff.2 (filled p List.mem_cons_self)
      -- The last byte lies in the last chunk that has any, so the walk passes
      -- all others; no chunk is empty, which is what `far` needs.
      cases ps with
      | nil =>
          have here : [p].flatten.length - 1 < p.length := by
            simp
            omega
          refine ⟨⟨size - (p ++ behind tail p []).length, p.length, p,
            behind tail p []⟩, p.length - 1, ?_, ?_, ?_⟩
          · rw [segmentsOf, locate, if_pos here]
            simp
          · have beyond :=
              Nat.lt_mul_div_succ
                (size - (p ++ behind tail p []).length + (p.length - 1))
              (by decide : 0 < blockSize)
            simp only [exceeds, decide_eq_false_iff_not]
            rw [Nat.mul_comm] at beyond
            omega
          · exact verify_append _ _
      | cons q ps =>
          have later :=
            induction (by simp) (fun p member =>
              filled p (List.mem_cons_of_mem _ member))
          have some_later : 0 < q.length :=
            List.length_pos_iff.2 (filled q (by simp))
          have far : ¬ (p :: q :: ps).flatten.length - 1 < p.length := by
            simp
            omega
          have rest : (p :: q :: ps).flatten.length - 1 - p.length =
              (q :: ps).flatten.length - 1 := by
            simp
            omega
          rw [segmentsOf, locate, if_neg far, rest]
          exact later

end Pieces

theorem flatten_pieces {fuel : Nat} {s : Bytes}
    (enough : s.length < fuel) :
    (pieces fuel s).flatten = s := by
  induction fuel generalizing s with
  | zero => omega
  | succ fuel induction =>
      unfold pieces
      split
      next => simp
      next long =>
        have fewer : (s.drop dataSize).length < fuel := by
          have positive : 0 < dataSize := by decide
          rw [List.length_drop]
          omega
        rw [List.flatten_cons, induction fewer, List.take_append_drop]

theorem mem_pieces {fuel : Nat} {s p : Bytes}
    (nonempty : s ≠ [])
    (member : p ∈ pieces fuel s) :
    p ≠ [] ∧ p.length ≤ dataSize := by
  induction fuel generalizing s with
  | zero => cases member
  | succ fuel induction =>
      unfold pieces at member
      split at member
      next short =>
        cases List.mem_singleton.1 member
        exact ⟨nonempty, short⟩
      next long =>
        have positive : 0 < dataSize := by decide
        cases member with
        | head =>
            have size : (s.take dataSize).length = dataSize := by
              rw [List.length_take]
              omega
            refine ⟨?_, Nat.le_of_eq size⟩
            intro empty
            rw [empty, List.length_nil] at size
            omega
        | tail _ member =>
            apply induction _ member
            intro empty
            have size := congrArg List.length empty
            rw [List.length_drop, List.length_nil] at size
            omega

end ModelGateway.Png
