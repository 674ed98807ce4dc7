import ModelGateway.Image.Decode
import ModelGateway.Proofs.PngReader

namespace ModelGateway

theorem Bytes.eq_append_of_split? {n : Nat} {s first rest : Bytes}
    (found : Bytes.split? n s = some (first, rest)) :
    s = first ++ rest ∧ first.length = n := by
  unfold Bytes.split? at found
  simp only at found
  split at found
  next full =>
    cases found
    exact ⟨(List.take_append_drop n s).symm, eq_of_beq full⟩
  next => cases found

private theorem Bytes.littleEndian_lt (s : Bytes) :
    Bytes.littleEndian s < 256 ^ s.length := by
  induction s with
  | nil => decide
  | cons b s induction =>
      have byte := UInt8.toNat_lt b
      rw [Bytes.littleEndian, List.length_cons, Nat.pow_succ]
      omega

theorem area_le {width height : Nat} (width_lt : width < 65536)
    (height_lt : height < 65536) : width * height ≤ 65535 * 65535 :=
  Nat.mul_le_mul (by omega) (by omega)

theorem Png.Readable.of_lt {width height : Nat} (wide : 0 < width)
    (high : 0 < height) (width_lt : width < 65536)
    (height_lt : height < 65536) : Png.Readable width height := by
  have area := area_le width_lt height_lt
  exact ⟨wide, high, by omega, by omega, by omega⟩

theorem Picture.fits_of_le {p : Picture}
    (area : p.width.toNat * p.height.toNat ≤ 0x100000000) : p.Fits := by
  have bytes := Nat.mul_le_mul p.pixels.storage.pixelBytes_le area
  unfold Fits Storage.addressBound
  rw [Nat.mul_assoc]
  omega

namespace Bmp

theorem length_of_nextData {n : Nat} {s first rest : Bytes}
    (read : nextData n s = .ok (first, rest)) :
    first.length = n ∧ s.length = n + rest.length := by
  unfold nextData at read
  split at read
  next found =>
    cases read
    obtain ⟨same, size⟩ := Bytes.eq_append_of_split? found
    exact ⟨size, by rw [same, List.length_append, size]⟩
  next => cases read

theorem length_of_next {n : Nat} {s first rest : Bytes}
    (read : next n s = .ok (first, rest)) :
    s.length = n + rest.length := by
  unfold next at read
  split at read
  next found =>
    cases read
    obtain ⟨same, size⟩ := Bytes.eq_append_of_split? found
    rw [same, List.length_append, size]
  next => cases read

private theorem length_of_skip {n : Nat} {s rest : Bytes}
    (read : skip n s = .ok rest) : rest.length ≤ s.length := by
  unfold skip at read
  split at read
  next =>
    cases read
    exact Nat.le_refl _
  next =>
    obtain ⟨⟨first, rest⟩, found, rfl⟩ := map_eq_ok_iff.1 read
    rw [(length_of_nextData found).2]
    exact Nat.le_add_left _ _

theorem length_of_readRows {size padding left : Nat} {s : Bytes}
    {rows : List Bytes} (read : readRows size padding left s = .ok rows) :
    rows.length = left ∧ (∀ row ∈ rows, row.length = size) ∧
      left * size ≤ s.length := by
  induction left generalizing s rows with
  | zero =>
      cases read
      exact ⟨rfl, by simp, by simp⟩
  | succ left induction =>
      obtain ⟨⟨row, t⟩, first, rest⟩ := bind_eq_ok_iff.1 read
      obtain ⟨u, skipped, rest⟩ := bind_eq_ok_iff.1 rest
      obtain ⟨rows, later, done⟩ := bind_eq_ok_iff.1 rest
      cases done
      obtain ⟨count, sized, room⟩ := induction later
      obtain ⟨width, total⟩ := length_of_nextData first
      have fewer := length_of_skip skipped
      refine ⟨by rw [List.length_cons, count], ?_, ?_⟩
      · intro other member
        cases member with
        | head => exact width
        | tail _ member => exact sized other member
      · rw [Nat.add_mul, Nat.one_mul]
        omega

private theorem length_fromThree {n : Nat} {row : Bytes}
    (enough : 3 * n ≤ row.length) :
    (fromThree n row).length = n * 4 := by
  induction n generalizing row with
  | zero => rfl
  | succ n induction =>
      obtain ⟨blue, green, red, row, rfl⟩ :=
        Png.exists_three_cons (by omega : 3 ≤ row.length)
      simp only [List.length_cons] at enough
      have later := @induction row (by omega)
      simp only [fromThree, List.length_cons, later]
      omega

private theorem length_fromFour {alpha : Bool} {n : Nat} {row : Bytes}
    (size : row.length = 4 * n) :
    (fromFour alpha row).length = n * 4 := by
  induction n generalizing row with
  | zero =>
      have empty : row = [] := List.eq_nil_of_length_eq_zero (by omega)
      rw [empty]
      rfl
  | succ n induction =>
      obtain ⟨blue, green, red, a, row, rfl⟩ :=
        Png.exists_four_cons (by omega : 4 ≤ row.length)
      simp only [List.length_cons] at size
      have later := @induction row (by omega)
      simp only [fromFour, List.length_cons, later]
      omega

theorem length_of_readRows_flatMap {h : Header} {size padding : Nat} {s : Bytes}
    {rows : List Bytes} (read : h.readRows size padding s = .ok rows)
    {f : Bytes → Bytes} {parts : Nat}
    (sized : ∀ row : Bytes, row.length = size →
      (f row).length = h.width * parts) :
    (rows.flatMap f).length = h.width * h.height * parts := by
  unfold Header.readRows at read
  split at read
  next empty =>
    cases read
    rcases Bool.or_eq_true_iff.1 empty with none | none
    · simp [eq_of_beq none]
    · simp [eq_of_beq none]
  next =>
    obtain ⟨found, all, rfl⟩ := map_eq_ok_iff.1 read
    obtain ⟨count, each, -⟩ := length_of_readRows all
    have same : (if h.topDown then found else found.reverse).length = h.height ∧
        ∀ row ∈ (if h.topDown then found else found.reverse),
          row.length = size := by
      split
      next => exact ⟨count, each⟩
      next =>
        exact ⟨by rw [List.length_reverse,
          count], fun row member => each row (List.mem_reverse.1 member)⟩
    rw [Png.length_flatMap_of_mem fun row member =>
      sized row (same.2 row member), same.1, ← Nat.mul_assoc,
      Nat.mul_comm h.height]

private theorem filled_of_readPixels {h : Header} {s : Bytes} {pixels : Pixels}
    (read : readPixels h s = .ok pixels) :
    pixels.Filled (h.width * h.height) := by
  unfold readPixels at read
  split at read
  next palette _ =>
    obtain ⟨rows, found, done⟩ := bind_eq_ok_iff.1 read
    cases done
    have size := @length_of_readRows_flatMap _ _ _ _ _ found id 1
      (fun row size => by simpa using size)
    simpa [Pixels.Filled, List.flatMap_id] using size
  next =>
    obtain ⟨rows, found, done⟩ := bind_eq_ok_iff.1 read
    cases done
    exact length_of_readRows_flatMap found fun row size =>
      length_fromThree (by omega)
  next alpha _ =>
    obtain ⟨rows, found, done⟩ := bind_eq_ok_iff.1 read
    cases done
    exact length_of_readRows_flatMap found fun row size => length_fromFour size

private theorem le_length_of_readPixels {h : Header} {s : Bytes}
    {pixels : Pixels} (read : readPixels h s = .ok pixels)
    (wide : 0 < h.width) (high : 0 < h.height) :
    h.width * h.height ≤ s.length := by
  have room {size padding : Nat} {rows : List Bytes}
      (found : h.readRows size padding s = .ok rows)
      (least : h.width ≤ size) : h.width * h.height ≤ s.length := by
    unfold Header.readRows at found
    split at found
    next empty =>
      simp only [Bool.or_eq_true, beq_iff_eq] at empty
      omega
    next =>
      obtain ⟨found, all, -⟩ := map_eq_ok_iff.1 found
      calc h.width * h.height = h.height * h.width := Nat.mul_comm _ _
        _ ≤ h.height * size := Nat.mul_le_mul_left _ least
        _ ≤ s.length := (length_of_readRows all).2.2
  unfold readPixels at read
  split at read
  next =>
    obtain ⟨rows, found, -⟩ := bind_eq_ok_iff.1 read
    exact room found (Nat.le_refl _)
  next =>
    obtain ⟨rows, found, -⟩ := bind_eq_ok_iff.1 read
    exact room found (by omega)
  next =>
    obtain ⟨rows, found, -⟩ := bind_eq_ok_iff.1 read
    exact room found (by omega)

private theorem length_of_readHeader {file s : Bytes} {h : Header}
    (read : readHeader file = .ok (h, s)) :
    s.length ≤ file.length := by
  obtain ⟨⟨start, t⟩, first, rest⟩ := bind_eq_ok_iff.1 read
  have firstLength := length_of_next first
  simp only at rest
  split at rest
  next => cases rest
  next =>
    obtain ⟨⟨info, u⟩, second, rest⟩ := bind_eq_ok_iff.1 rest
    have secondLength := length_of_next second
    simp only at rest
    split at rest
    next => cases rest
    next =>
      split at rest
      next =>
        -- The palette has 256 colours or as many as the header says.
        split at rest
        all_goals
          split at rest
          next => cases rest
          next =>
            obtain ⟨⟨palette, v⟩, third, done⟩ := bind_eq_ok_iff.1 rest
            have thirdLength := (length_of_nextData third).2
            cases done
            change v.length ≤ file.length
            omega
      next =>
        split at rest
        next => cases rest
        next =>
          cases rest
          omega
      next =>
        split at rest
        next => cases rest
        next =>
          cases rest
          omega
      next => cases rest

private theorem filled_of_decode {file : Bytes} {p : Picture}
    (read : decode file = .ok p) :
    p.Filled ∧ (file.length < 0x80000000 → p.InRange) := by
  obtain ⟨⟨h, s⟩, headed, rest⟩ := bind_eq_ok_iff.1 read
  obtain ⟨_, -, rest⟩ := bind_eq_ok_iff.1 rest
  obtain ⟨pixels, found, done⟩ := bind_eq_ok_iff.1 rest
  cases done
  refine ⟨filled_of_readPixels found, fun short wide high => ?_⟩
  have wide : 0 < h.width := Int.natCast_pos.1 wide
  have high : 0 < h.height := Int.natCast_pos.1 high
  have area := le_length_of_readPixels found wide high
  have rest := length_of_readHeader headed
  have across := Nat.le_mul_of_pos_right h.width high
  have down := Nat.le_mul_of_pos_left h.height wide
  refine ⟨⟨wide, high, ?_, ?_, ?_⟩, Picture.fits_of_le ?_⟩
  · change h.width < _
    omega
  · change h.height < _
    omega
  · change h.width * h.height * 8 < _
    omega
  · change h.width * h.height ≤ _
    omega

end Bmp

namespace Gif

private theorem size_of_readPixels {count : Nat} {s : Bytes}
    {pixels : Array UInt8}
    (read : readPixels count s = .ok pixels) : pixels.size = count := by
  obtain ⟨⟨bits, s⟩, -, rest⟩ := bind_eq_ok_iff.1 read
  simp only at rest
  split at rest
  next => cases rest
  next =>
    split at rest
    next => cases rest
    next notMore =>
      split at rest
      next => cases rest
      next notLess =>
        have exactly :=
          Nat.le_antisymm (Nat.le_of_not_lt notMore) (Nat.le_of_not_lt notLess)
        split at rest
        next => cases rest
        next =>
          split at rest
          next =>
            cases rest
            exact exactly
          next => cases rest
        next =>
          obtain ⟨_, -, done⟩ := bind_eq_ok_iff.1 rest
          cases done
          exact exactly
        next =>
          obtain ⟨_, -, done⟩ := bind_eq_ok_iff.1 rest
          cases done
          exact exactly

private theorem length_filter_range_succ (p : Nat → Bool) (n : Nat) :
    ((List.range (n + 1)).filter p).length = ((List.range n).filter p).length +
      if p n then 1 else 0 := by
  rw [List.range_succ, List.filter_append, List.length_append,
    List.filter_singleton]
  cases p n <;> rfl

private theorem length_interlacedRows (height : Nat) :
    (interlacedRows height).length = height := by
  induction height with
  | zero => rfl
  | succ height induction =>
      unfold interlacedRows at induction ⊢
      simp only [List.length_append, length_filter_range_succ, Bool.and_eq_true,
        decide_eq_true_eq, beq_iff_eq] at induction ⊢
      have once : (if height ≥ 0 ∧ (height - 0) % 8 = 0 then 1 else 0) +
          (if height ≥ 4 ∧ (height - 4) % 8 = 0 then 1 else 0) +
          (if height ≥ 2 ∧ (height - 2) % 4 = 0 then 1 else 0) +
          (if height ≥ 1 ∧ (height - 1) % 2 = 0 then 1 else 0) = 1 := by
        grind
      omega

private theorem mem_interlacedRows {height y : Nat} (inside : y < height) :
    y ∈ interlacedRows height := by
  simp only [interlacedRows, List.mem_append, List.mem_filter, List.mem_range,
    Bool.and_eq_true, decide_eq_true_eq, beq_iff_eq]
  omega

private theorem size_uninterlace {width height : Nat} {pixels : Array UInt8}
    (size : pixels.size = width * height) :
    (uninterlace width height pixels).size = width * height := by
  unfold uninterlace
  rw [List.size_toArray, Png.length_flatMap_of_mem, List.length_range,
    Nat.mul_comm]
  intro y member
  have there :
      ((interlacedRows height).zipIdx.find? (·.1 == y)).isSome = true := by
    obtain ⟨i, inside, found⟩ :=
      List.mem_iff_getElem.1 (mem_interlacedRows (List.mem_range.1 member))
    rw [List.find?_isSome]
    refine ⟨(y, i), ?_, BEq.rfl⟩
    rw [List.mem_zipIdx_iff_getElem?, List.getElem?_eq_getElem inside, found]
  obtain ⟨⟨z, i⟩, found⟩ := Option.isSome_iff_exists.1 there
  have inside : i < height := by
    have bound := List.snd_lt_of_mem_zipIdx (List.mem_of_find?_eq_some found)
    rwa [length_interlacedRows] at bound
  have below : (i + 1) * width ≤ pixels.size := by
    rw [size, Nat.mul_comm width]
    exact Nat.mul_le_mul_right _ inside
  simp only [found]
  rw [Array.length_toList, Array.size_extract, Nat.min_eq_left below,
    Nat.add_mul, Nat.one_mul, Nat.add_sub_cancel_left]

private theorem mem_of_mem_uninterlace {width height : Nat}
    {pixels : Array UInt8} {i : UInt8}
    (member : i ∈ uninterlace width height pixels) : i ∈ pixels := by
  obtain ⟨y, -, inside⟩ := List.mem_flatMap.1 (List.mem_toArray.1 member)
  split at inside
  next =>
    rw [Array.toList_extract, List.extract_eq_take_drop] at inside
    exact Array.mem_toList_iff.1
      (List.mem_of_mem_drop (List.mem_of_mem_take inside))
  next => cases inside

theorem word_lt (s : Bytes) (i : Nat) : word s i < 65536 := by
  have bound := Bytes.littleEndian_lt ((s.drop i).take 2)
  have most : 256 ^ ((s.drop i).take 2).length ≤ 256 ^ 2 := by
    apply Nat.pow_le_pow_right (by decide)
    rw [List.length_take]
    exact Nat.min_le_left _ _
  exact Nat.lt_of_lt_of_le bound most

private theorem whole_of_readFrame {r : Reader} {p : Picture}
    (read : readFrame r = .ok p) : p.Whole := by
  obtain ⟨⟨head, s⟩, -, rest⟩ := bind_eq_ok_iff.1 read
  simp only at rest
  split at rest
  next => cases rest
  next =>
    obtain ⟨⟨own, s⟩, -, rest⟩ := bind_eq_ok_iff.1 rest
    simp only at rest
    split at rest
    next => cases rest
    next table _ =>
      obtain ⟨pixels, found, rest⟩ := bind_eq_ok_iff.1 rest
      split at rest
      next => cases rest
      next below =>
        cases rest
        have size := size_of_readPixels found
        have each : ∀ i ∈ pixels, i.toNat <
            (withTransparent r.transparent table).length := by
          intro i member
          apply Nat.lt_of_not_le
          intro beyond
          exact below (Array.any_eq_true'.2 ⟨i, member, decide_eq_true beyond⟩)
        have readable (wide : (0 : Int) < word head 4)
            (high : (0 : Int) < word head 6) :
              Png.Readable (word head 4) (word head 6) :=
          .of_lt (by omega) (by omega) (word_lt head 4) (word_lt head 6)
        have area := Nat.le_trans (area_le (word_lt head 4) (word_lt head 6))
          (by decide : 65535 * 65535 ≤ 0x100000000)
        split
        next =>
          exact ⟨size, each, fun wide high =>
            ⟨readable wide high, Picture.fits_of_le area⟩⟩
        next =>
          exact ⟨size_uninterlace size,
            fun i member => each i (mem_of_mem_uninterlace member),
            fun wide high => ⟨readable wide high, Picture.fits_of_le area⟩⟩

private theorem whole_of_readBlocks {fuel : Nat} {r : Reader} {p : Picture}
    (read : readBlocks fuel r = .ok p) : p.Whole := by
  induction fuel generalizing r with
  | zero => cases read
  | succ fuel induction =>
      obtain ⟨⟨mark, s⟩, -, rest⟩ := bind_eq_ok_iff.1 read
      simp only at rest
      split at rest
      next =>
        obtain ⟨r, -, later⟩ := bind_eq_ok_iff.1 rest
        exact induction later
      next => exact whole_of_readFrame rest
      next => cases rest
      next => cases rest

theorem whole_of_decode {file : Bytes} {p : Picture}
    (read : decode file = .ok p) : p.Whole := by
  obtain ⟨r, -, rest⟩ := bind_eq_ok_iff.1 read
  exact whole_of_readBlocks rest

end Gif

namespace Jpeg

theorem size_foldl {α β : Type} {f : Array β → α → Array β} {n : Nat}
    (grows : ∀ out x, (f out x).size = out.size + n)
    (xs : List α) (out : Array β) :
    (xs.foldl f out).size = out.size + xs.length * n := by
  induction xs generalizing out with
  | nil => simp
  | cons x xs induction =>
      rw [List.foldl_cons, induction, grows, List.length_cons, Nat.add_mul,
        Nat.one_mul]
      omega

theorem size_pixels {α : Type} {f : Nat → Nat → List α} {n : Nat}
    (sized : ∀ x y, (f x y).length = n)
    (width height : Nat) :
    (pixels width height f).size = width * height * n := by
  have row (out : Array α) (y : Nat) :
      ((List.range width).foldl (fun out x => (f x y).foldl Array.push out)
        out).size = out.size + width * n := by
    rw [size_foldl (n := n), List.length_range]
    intro out x
    rw [size_foldl (n := 1) (fun out a => Array.size_push a), sized,
      Nat.mul_one]
  unfold pixels
  rw [size_foldl row, List.length_range, Array.size_empty, Nat.zero_add,
    ← Nat.mul_assoc, Nat.mul_comm height]

private theorem filled_of_colours {r : Reader} {frame : Frame}
    {planes : Array Plane} {found : Pixels}
    (read : colours r frame planes = .ok found) :
    found.Filled (frame.width * frame.height) ∧ found.Coloured := by
  unfold colours at read
  simp only at read
  split at read
  next =>
    cases read
    have size :=
      size_pixels (fun x y => (rfl : [at' frame planes x y 0].length = 1))
        frame.width frame.height
    exact ⟨by simpa [Pixels.Filled] using size, trivial⟩
  next =>
    split at read
    next =>
      cases read
      exact ⟨size_pixels (fun _ _ => by rfl) _ _, trivial⟩
    next =>
      cases read
      exact ⟨size_pixels (fun _ _ => by rfl) _ _, trivial⟩
  next =>
    split at read
    next => cases read
    next =>
      cases read
      exact ⟨size_pixels (fun _ _ => by rfl) _ _, trivial⟩
    next =>
      cases read
      exact ⟨size_pixels (fun _ _ => by rfl) _ _, trivial⟩

def Reader.Framed (r : Reader) : Prop :=
  ∀ frame, r.frame = some frame → frame.width < 65536 ∧ frame.height < 65536

private theorem lt_of_read {process : Process} {n : Nat} {s t : Stream}
    {frame : Frame} (read : Frame.read process n s = .ok (frame, t)) :
    frame.width < 65536 ∧ frame.height < 65536 := by
  obtain ⟨total, -, rest⟩ := bind_eq_ok_iff.1 read
  obtain ⟨⟨data, u⟩, -, rest⟩ := bind_eq_ok_iff.1 rest
  simp only at rest
  split at rest
  next => cases rest
  next =>
    split at rest
    next => cases rest
    next =>
      obtain ⟨components, -, done⟩ := bind_eq_ok_iff.1 rest
      cases done
      have bound (i : Nat) := UInt8.toNat_lt (data.getD i 0)
      have first := bound 1
      have second := bound 2
      have third := bound 3
      have fourth := bound 4
      constructor
      · change (data.getD 3 0).toNat * 256 + (data.getD 4 0).toNat < 65536
        omega
      · change (data.getD 1 0).toNat * 256 + (data.getD 2 0).toNat < 65536
        omega

section Steps

variable {r s : Reader} {marker : UInt8} {n : Nat}

private theorem framed_of_scan (read : r.scan n = .ok s)
    (framed : r.Framed) : s.Framed := by
  unfold Reader.scan at read
  split at read
  next => cases read
  next =>
    obtain ⟨⟨head, stream⟩, -, rest⟩ := bind_eq_ok_iff.1 read
    obtain ⟨⟨cursor, canvas⟩, -, done⟩ := bind_eq_ok_iff.1 rest
    cases done
    exact framed

private theorem framed_of_application (read : r.application marker n = .ok s)
    (framed : r.Framed) : s.Framed := by
  unfold Reader.application at read
  split at read
  next =>
    obtain ⟨⟨label, t⟩, -, rest⟩ := bind_eq_ok_iff.1 read
    obtain ⟨u, -, done⟩ := bind_eq_ok_iff.1 rest
    cases done
    exact framed
  next =>
    split at read
    next =>
      obtain ⟨⟨data, t⟩, -, rest⟩ := bind_eq_ok_iff.1 read
      obtain ⟨u, -, rest⟩ := bind_eq_ok_iff.1 rest
      split at rest
      next =>
        cases rest
        exact framed
      next =>
        cases rest
        exact framed
    next =>
      obtain ⟨t, -, done⟩ := bind_eq_ok_iff.1 read
      cases done
      exact framed

theorem framed_of_header {process : Process}
    (read : r.header process n = .ok s) : s.Framed := by
  unfold Reader.header at read
  simp only at read
  split at read
  next => cases read
  next =>
    obtain ⟨⟨frame, t⟩, found, done⟩ := bind_eq_ok_iff.1 read
    cases done
    intro other same
    cases same
    exact lt_of_read found

private theorem framed_of_segment (read : r.segment marker n = .ok s)
    (framed : r.Framed) : s.Framed := by
  unfold Reader.segment at read
  split at read
  next => exact framed_of_header read
  next => exact framed_of_header read
  next => exact framed_of_header read
  next =>
    obtain ⟨⟨codes, t⟩, -, done⟩ := bind_eq_ok_iff.1 read
    cases done
    exact framed
  next =>
    obtain ⟨⟨steps, t⟩, -, done⟩ := bind_eq_ok_iff.1 read
    cases done
    exact framed
  next => exact framed_of_scan read framed
  next =>
    simp only at read
    split at read
    next => cases read
    next =>
      obtain ⟨⟨data, t⟩, -, done⟩ := bind_eq_ok_iff.1 read
      cases done
      exact framed
  next =>
    obtain ⟨t, -, done⟩ := bind_eq_ok_iff.1 read
    cases done
    exact framed
  next =>
    split at read
    next => exact framed_of_application read framed
    next =>
      split at read
      next => cases read
      next => cases read

private theorem framed_of_segments {fuel : Nat}
    (read : Reader.segments fuel r = .ok s)
    (framed : r.Framed) : s.Framed := by
  induction fuel generalizing r with
  | zero => cases read
  | succ fuel induction =>
      obtain ⟨⟨two, t⟩, -, rest⟩ := bind_eq_ok_iff.1 read
      obtain ⟨⟨marker, u⟩, -, rest⟩ := bind_eq_ok_iff.1 rest
      simp only at rest
      split at rest
      next => exact induction rest framed
      next =>
        obtain ⟨⟨marker, v⟩, -, rest⟩ := bind_eq_ok_iff.1 rest
        simp only at rest
        split at rest
        next =>
          cases rest
          exact framed
        next =>
          split at rest
          next => exact induction rest framed
          next =>
            obtain ⟨⟨two, w⟩, -, rest⟩ := bind_eq_ok_iff.1 rest
            simp only at rest
            split at rest
            next => cases rest
            next =>
              obtain ⟨next, step, rest⟩ := bind_eq_ok_iff.1 rest
              exact induction rest (framed_of_segment step framed)

end Steps

private theorem whole_of_picture {r : Reader} {p : Picture}
    (read : r.picture = .ok p)
    (framed : r.Framed) : p.Whole := by
  unfold Reader.picture at read
  split at read
  next frame canvas here _ =>
    obtain ⟨found, coloured, rest⟩ := bind_eq_ok_iff.1 read
    obtain ⟨filled, plain⟩ := filled_of_colours coloured
    split at rest
    next empty =>
      cases rest
      have none : frame.width * frame.height = 0 := by
        rcases Bool.or_eq_true_iff.1 empty with none | none
        · rw [eq_of_beq none, Nat.zero_mul]
        · rw [eq_of_beq none, Nat.mul_zero]
      rw [none] at filled
      exact ⟨filled, plain, fun wide => absurd wide (Int.lt_irrefl 0)⟩
    next =>
      cases rest
      obtain ⟨width_lt, height_lt⟩ := framed frame here
      have area := Nat.le_trans (area_le width_lt height_lt)
        (by decide : 65535 * 65535 ≤ 0x100000000)
      refine ⟨filled, plain, fun wide high =>
        ⟨.of_lt ?_ ?_ width_lt height_lt, Picture.fits_of_le area⟩⟩
      · exact Int.natCast_pos.1 wide
      · exact Int.natCast_pos.1 high
  next => cases read

theorem whole_of_decode {file : Bytes} {p : Picture}
    (read : decode file = .ok p) : p.Whole := by
  obtain ⟨⟨start, stream⟩, -, rest⟩ := bind_eq_ok_iff.1 read
  simp only at rest
  split at rest
  next => cases rest
  next =>
    obtain ⟨r, segments, done⟩ := bind_eq_ok_iff.1 rest
    exact whole_of_picture done (framed_of_segments segments nofun)

end Jpeg

theorem foldlM_keeps {ε α β : Type} {f : β → α → Except ε β}
    (keeps : β → Prop)
    (step : ∀ {b x c}, keeps b → f b x = .ok c → keeps c)
    {xs : List α} {start done : β} (first : keeps start)
    (run : xs.foldlM f start = .ok done) : keeps done := by
  induction xs generalizing start with
  | nil =>
      cases run
      exact first
  | cons x xs induction =>
      rw [List.foldlM_cons] at run
      obtain ⟨next, taken, rest⟩ := bind_eq_ok_iff.1 run
      exact induction (step first taken) rest

private theorem forall_mem_setIfInBounds {α : Type} {samples : Array α}
    {i : Nat} {value : α} {good : α → Prop}
    (each : ∀ v ∈ samples, good v)
    (new : good value) :
    ∀ v ∈ samples.setIfInBounds i value, good v := by
  intro v member
  cases Array.mem_or_eq_of_mem_setIfInBounds member with
  | inl old => exact each v old
  | inr same => exact same ▸ new

namespace Tiff

variable {l : Layout}

def Layout.Holds (l : Layout) (samples : Array Nat) : Prop :=
  samples.size = l.width * l.height * channels l ∧
    (l.mode = .indexed → 0 < l.palette.length →
      ∀ v ∈ samples, v < l.palette.length)

private theorem lt_of_mem_pixelAt {area : Area} {visible row column : Nat}
    {data : Array UInt8} {pixel : List Nat}
    (read : pixelAt l area visible row column data = .ok pixel)
    (indexed : l.mode = .indexed) :
    ∀ v ∈ pixel, v < l.palette.length := by
  unfold pixelAt at read
  simp only [indexed] at read
  obtain ⟨samples, -, rest⟩ := bind_eq_ok_iff.1 read
  split at rest
  next => cases rest
  next below =>
    cases rest
    intro v member
    apply Nat.lt_of_not_le
    intro beyond
    exact below (List.any_eq_true.2 ⟨v, member, decide_eq_true beyond⟩)

private theorem holds_of_placeBlock {area : Area} {data : Array UInt8}
    {samples placed : Array Nat}
    (read : placeBlock l area data samples = .ok placed)
    (holds : l.Holds samples) : l.Holds placed := by
  obtain ⟨data, -, run⟩ := bind_eq_ok_iff.1 read
  refine foldlM_keeps l.Holds ?_ holds run
  intro now i later holds step
  obtain ⟨pixel, found, done⟩ := bind_eq_ok_iff.1 step
  cases done
  refine List.foldlRecOn (motive := l.Holds) _ _ holds ?_
  intro now holds sample member
  refine ⟨(Array.size_setIfInBounds ..).trans holds.1,
    fun indexed positive => ?_⟩
  apply forall_mem_setIfInBounds (holds.2 indexed positive)
  exact lt_of_mem_pixelAt found indexed _ (List.fst_mem_of_mem_zipIdx member)

private theorem holds_of_readBlocks {g : Grid} {f : File} {samples : Array Nat}
    (read : readBlocks l g f = .ok samples) :
    l.Holds samples := by
  obtain ⟨⟨found, g⟩, run, done⟩ := bind_eq_ok_iff.1 read
  cases done
  refine foldlM_keeps (fun now => l.Holds now.1) ?_ ⟨by simp, ?_⟩ run
  · intro now place later holds step
    obtain ⟨⟨data, f⟩, -, rest⟩ := bind_eq_ok_iff.1 step
    obtain ⟨placed, put, done⟩ := bind_eq_ok_iff.1 rest
    cases done
    exact holds_of_placeBlock put holds
  · intro _ positive v member
    rw [Array.eq_of_mem_replicate member]
    exact positive

private theorem filled_pixelsOf {samples : Array Nat}
    (holds : l.Holds samples) :
    (pixelsOf l samples).Filled (l.width * l.height) := by
  have size := holds.1
  unfold pixelsOf
  split <;> simp_all [Pixels.Filled, channels]

theorem pixelsOf_indexed (indexed : l.mode = .indexed) (samples : Array Nat) :
    pixelsOf l samples = .indexed l.palette.toArray
      (samples.map Nat.toUInt8) := by
  unfold pixelsOf
  rw [indexed]

private theorem coloured_pixelsOf {samples : Array Nat}
    (holds : l.Holds samples)
    (positive : l.mode = .indexed → 0 < l.palette.length) :
    (pixelsOf l samples).Coloured := by
  by_cases indexed : l.mode = .indexed
  · rw [pixelsOf_indexed indexed]
    intro i member
    obtain ⟨v, there, rfl⟩ := Array.mem_map.1 member
    exact Nat.lt_of_le_of_lt (toNat_toUInt8_le v)
      (holds.2 indexed (positive indexed) v there)
  · unfold pixelsOf
    split
    case h_3 mode => exact absurd mode indexed
    all_goals exact trivial

theorem whole_of_decode {file : Bytes} {p : Picture}
    (read : decode file = .ok p) :
    p.Filled ∧ (Png.unwritable? p = none → p.pixels.Coloured) := by
  obtain ⟨⟨l, f⟩, -, rest⟩ := bind_eq_ok_iff.1 read
  obtain ⟨g, -, rest⟩ := bind_eq_ok_iff.1 rest
  obtain ⟨_, -, rest⟩ := bind_eq_ok_iff.1 rest
  obtain ⟨samples, found, done⟩ := bind_eq_ok_iff.1 rest
  cases done
  have holds := holds_of_readBlocks found
  refine ⟨filled_pixelsOf holds, fun writable => ?_⟩
  obtain ⟨-, -, palettes⟩ := Png.unwritable?_eq_none writable
  exact coloured_pixelsOf holds fun indexed =>
    (palettes _ _ (pixelsOf_indexed indexed samples)).1

end Tiff

namespace Reading

/-- Every reader of pixels fills its picture. Only a BMP file can have indices
beyond its palette, and only a TIFF file, or a BMP file of two gigabytes, a
picture that is too large for a reader of PNG files. -/
theorem whole_of_read {format : ImageFormat} {file : Bytes} {p : Picture}
    (found : read format file = .ok (.pixels p)) :
    p.Filled ∧ (format ≠ .bmp → Png.unwritable? p = none → p.pixels.Coloured) ∧
      (format ≠ .tiff → file.length < 0x80000000 → p.InRange) := by
  cases format with
  | png =>
      obtain ⟨q, decoded, done⟩ := map_eq_ok_iff.1 found
      cases done
      obtain ⟨filled, coloured, inRange⟩ := Png.whole_of_decode decoded
      exact ⟨filled, fun _ _ => coloured, fun _ _ => inRange⟩
  | jpeg =>
      obtain ⟨q, decoded, done⟩ := map_eq_ok_iff.1 found
      cases done
      obtain ⟨filled, coloured, inRange⟩ := Jpeg.whole_of_decode decoded
      exact ⟨filled, fun _ _ => coloured, fun _ _ => inRange⟩
  | gif =>
      obtain ⟨q, decoded, done⟩ := map_eq_ok_iff.1 found
      cases done
      obtain ⟨filled, coloured, inRange⟩ := Gif.whole_of_decode decoded
      exact ⟨filled, fun _ _ => coloured, fun _ _ => inRange⟩
  | webp =>
      obtain ⟨q, -, done⟩ := map_eq_ok_iff.1 found
      cases done
  | bmp =>
      obtain ⟨q, decoded, done⟩ := map_eq_ok_iff.1 found
      cases done
      obtain ⟨filled, inRange⟩ := Bmp.filled_of_decode decoded
      exact ⟨filled, fun other => absurd rfl other, fun _ => inRange⟩
  | tiff =>
      obtain ⟨q, decoded, done⟩ := map_eq_ok_iff.1 found
      cases done
      obtain ⟨filled, coloured⟩ := Tiff.whole_of_decode decoded
      exact ⟨filled, fun _ => coloured, fun other => absurd rfl other⟩

end Reading

end ModelGateway
