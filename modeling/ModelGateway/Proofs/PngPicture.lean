import Mathlib.Data.List.Basic
import ModelGateway.Proofs.PngFile
import ModelGateway.Proofs.PngRows

namespace ModelGateway

namespace Pixels

def Filled (n : Nat) : Pixels → Prop
  | .gray8 samples => samples.size = n
  | .gray16 samples => samples.size = n
  | .colour8 _ samples => samples.size = n * 4
  | .colour16 _ samples => samples.size = n * 4
  | .indexed _ indices => indices.size = n

def storage : Pixels → Storage
  | .gray8 _ => .gray8
  | .gray16 _ => .gray16
  | .colour8 straight _ => .colour8 straight
  | .colour16 straight _ => .colour16 straight
  | .indexed _ _ => .indexed

/-- Each index has its colour. -/
def Coloured : Pixels → Prop
  | .indexed palette indices => ∀ i ∈ indices, i.toNat < palette.size
  | _ => True

end Pixels

namespace Storage

variable {storage : Storage} {width height : Nat}

theorem claim_eq_ok_iff :
    storage.claim width height = .ok () ↔
      storage.pixelBytes * width * height ≤ addressBound := by
  simp only [claim]
  constructor
  · intro claimed
    split_ifs at claimed with beyond long
    exact Nat.le_of_not_lt long
  · intro fits
    have lower : addressBound < lengthBound := by decide
    rw [if_neg (Nat.not_le.2 (Nat.lt_of_le_of_lt fits lower)),
      if_neg (Nat.not_lt.2 fits)]

theorem pixelBytes_le (storage : Storage) : storage.pixelBytes ≤ 8 := by
  cases storage <;> simp [pixelBytes]

end Storage

def Picture.Fits (p : Picture) : Prop :=
  p.pixels.storage.pixelBytes * p.width.toNat * p.height.toNat ≤
    Storage.addressBound

namespace Png

/-- The sizes of pictures that a reader takes. -/
structure Readable (width height : Nat) : Prop where
  wide : 0 < width
  high : 0 < height
  width_lt : width < 0x80000000
  height_lt : height < 0x80000000
  area_lt : width * height * 8 < 0x8000000000000000

namespace Form

variable {form : Form} {width height : Nat}

def Sound (form : Form) : Prop :=
  form.depth ∈ form.colour.depths

theorem mem_depths_gray {colour : ColourType} {depth : Nat}
    (allowed : depth ∈ colour.depths) :
    depth ∈ ColourType.depths .gray := by
  cases colour <;> simp [ColourType.depths] at allowed ⊢ <;> omega

theorem Sound.regular (sound : form.Sound) : form.Regular := by
  have every : ∀ depth ∈ ColourType.depths .gray, depth = 16 ∨
      depth * (8 / depth) = 8 := by
    decide
  exact every _ (mem_depths_gray sound)

private theorem Sound.depth_lt (sound : form.Sound) : form.depth < 256 := by
  have every : ∀ depth ∈ ColourType.depths .gray, depth < 256 := by decide
  exact every _ (mem_depths_gray sound)

end Form

private theorem headerOf_header {form : Form} {width height : Nat}
    (sound : form.Sound) (readable : Readable width height) :
    headerOf (form.header width height) =
      .ok (form.announced width height) := by
  obtain ⟨wide, high, width_lt, height_lt, area_lt⟩ := readable
  have field {i : Nat} (after : 8 ≤ i) : (form.header width height).getD i 0 =
      [form.depth.toUInt8, form.colour.number.toUInt8, 0, 0, 0].getD
        (i - 8) 0 := by
    rw [Form.header, List.getD_eq_getElem?_getD,
      List.getElem?_append_right (by simpa using after),
      ← List.getD_eq_getElem?_getD, List.length_append,
      Bytes.length_toBigEndian, Bytes.length_toBigEndian]
  have width_eq :
      Bytes.bigEndian ((form.header width height).take 4) = width := by
    rw [Form.header, List.append_assoc,
      List.take_left' (Bytes.length_toBigEndian _ _)]
    exact Bytes.bigEndian_toBigEndian (by omega)
  have height_eq : Bytes.bigEndian
      (((form.header width height).drop 4).take 4) = height := by
    rw [Form.header, List.append_assoc,
      List.drop_left' (Bytes.length_toBigEndian _ _),
      List.take_left' (Bytes.length_toBigEndian _ _)]
    exact Bytes.bigEndian_toBigEndian (by omega)
  have depth : ((form.header width height).getD 8 0).toNat = form.depth := by
    rw [field (by decide)]
    change form.depth.toUInt8.toNat = _
    rw [Nat.toUInt8_eq, UInt8.toNat_ofNat', Nat.mod_eq_of_lt sound.depth_lt]
  have colour : ColourType.ofNumber?
      ((form.header width height).getD 9 0).toNat = some form.colour := by
    rw [field (by decide)]
    cases form.colour <;> rfl
  have compression : ((form.header width height).getD 10 0).toNat = 0 := by
    rw [field (by decide)]; rfl
  have filter : ((form.header width height).getD 11 0).toNat = 0 := by
    rw [field (by decide)]; rfl
  have interlacing : ((form.header width height).getD 12 0).toNat = 0 := by
    rw [field (by decide)]; rfl
  have sizes : (width == 0 || height == 0 || decide (width ≥ 0x80000000) ||
      decide (height ≥ 0x80000000)) = false := by
    simp
    omega
  have allowed : form.colour.depths.contains form.depth = true :=
    List.contains_iff_mem.2 sound
  unfold headerOf
  simp only [width_eq, height_eq, depth, colour, compression, filter,
    interlacing, sizes, allowed, if_true]
  rw [if_neg (by decide), if_neg (by decide), if_neg (by decide),
    if_neg (by decide), if_neg (by omega)]
  rfl

section Chunks

variable {size : Nat} {r : Reader} {rest : Bytes} {form : Form}
    {width height : Nat}

private theorem readChunk_header (sound : form.Sound)
    (readable : Readable width height)
    (first : r.stage = .start)
    (begins : r.rest = chunk (PngChunk.name .header)
      (form.header width height) ++ rest) :
    readChunk size r =
      .ok { r with
        rest, stage := .header, header := form.announced width height } := by
  have thirteen : (form.header width height).length = 13 := by
    simp [Form.header]
  rw [readChunk_chunk (by decide) (by rw [thirteen]; decide) begins rfl,
    if_pos BEq.rfl, first, if_pos BEq.rfl, thirteen, readHeader,
    if_neg (by decide), next_append thirteen]
  simp only [bind, Except.bind, headerOf_header sound readable, verify_append]
  rfl

private theorem readChunk_ending (last : r.stage = .data)
    (begins : r.rest = chunk (PngChunk.name .ending) [] ++ rest) :
    readChunk size r = .ok { r with rest, stage := .ending } := by
  rw [readChunk_chunk (by decide) (by decide) begins rfl, if_neg (by decide),
    if_neg (by decide), if_neg (by decide), if_neg (by rw [last]; decide),
    if_pos BEq.rfl, last, if_pos BEq.rfl, List.length_nil, readEnding,
    if_neg (by decide)]
  simp only [List.nil_append, List.append_nil, verify_append, bind, Except.bind]
  rfl

def opaque8 (c : Colour) : Colour :=
  { c with alpha := 255 }

private theorem colours_flatMap (palette : List Colour) :
    colours (palette.flatMap fun c => [c.red, c.green, c.blue]) =
      palette.map opaque8 := by
  induction palette with
  | nil => rfl
  | cons c palette induction =>
      rw [List.flatMap_cons, List.map_cons, ← induction]
      rfl

theorem readChunk_palette {palette : List Colour}
    (nonempty : palette ≠ [])
    (few : palette.length ≤ 256)
    (fits : palette.length ≤ 2 ^ r.header.depth)
    (stage : r.stage = .header)
    (indexed : r.header.colour = .indexed)
    (begins : r.rest = chunk (PngChunk.name .palette)
      (palette.flatMap fun c => [c.red, c.green, c.blue]) ++ rest) :
    readChunk size r =
      .ok { r with
        rest, stage := .palette
        palette := (palette.map opaque8).toArray } := by
  have length : (palette.flatMap fun c => [c.red, c.green, c.blue]).length =
      palette.length * 3 :=
    length_flatMap_of_mem fun _ _ => by rfl
  have positive : 0 < palette.length := List.length_pos_iff.2 nonempty
  have right : (palette.length * 3 % 3 != 0 || palette.length * 3 / 3 == 0 ||
      decide (palette.length * 3 / 3 > 256) ||
      decide (palette.length * 3 / 3 > Nat.pow 2 r.header.depth)) = false := by
    have third : palette.length * 3 / 3 = palette.length :=
      Nat.mul_div_cancel _ (by decide)
    have fits' : palette.length ≤ Nat.pow 2 r.header.depth := fits
    rw [third, Nat.mul_mod_left]
    simp only [bne_self_eq_false, Bool.false_or, Bool.or_eq_false_iff,
      beq_eq_false_iff_ne, decide_eq_false_iff_not]
    omega
  rw [readChunk_chunk (by decide) (by omega) begins rfl, if_neg (by decide),
    if_pos BEq.rfl, stage, if_pos BEq.rfl]
  unfold readPalette
  simp only [length, right, Bool.false_eq_true, if_false, next_append length,
    bind, Except.bind, indexed, verify_append, colours_flatMap]
  rfl

private theorem readChunk_transparency {alphas : Bytes}
    (few : alphas.length ≤ 256)
    (stage : r.stage = .palette)
    (indexed : r.header.colour = .indexed)
    (begins : r.rest = chunk (PngChunk.name .transparency) alphas ++ rest) :
    readChunk size r =
      .ok { r with
        rest, stage := .transparency
        palette := withAlpha alphas r.palette } := by
  have inOrder (s : Bytes) :
      transparencyInOrder { r with rest := s } = true := by
    simp [transparencyInOrder, stage, indexed]
  rw [readChunk_chunk (by decide) (by omega) begins rfl, if_neg (by decide),
    if_neg (by decide), if_pos BEq.rfl, if_pos (inOrder _)]
  unfold readTransparency
  simp only [indexed, chunkData_append, bind, Except.bind]
  rw [if_neg (by omega)]
  rfl

end Chunks

private theorem withAlpha_opaque8 (palette : List Colour) :
    withAlpha ((palette.map (·.alpha)).reverse.dropWhile (· == 255)).reverse
      (palette.map opaque8).toArray =
      palette.toArray := by
  -- The alphas fall into those written and the full ones left out at the end.
  have parts : palette.map (·.alpha) =
      ((palette.map (·.alpha)).reverse.dropWhile (· == 255)).reverse ++
      ((palette.map (·.alpha)).reverse.takeWhile (· == 255)).reverse := by
    rw [← List.reverse_append, List.takeWhile_append_dropWhile,
      List.reverse_reverse]
  have full :
      ∀ alpha ∈ ((palette.map (·.alpha)).reverse.takeWhile (· == 255)).reverse,
      alpha = 255 := by
    intro alpha member
    exact eq_of_beq (List.all_eq_true.1 List.all_takeWhile alpha
      (List.mem_reverse.1 member))
  generalize ((palette.map (·.alpha)).reverse.dropWhile (· == 255)).reverse =
    written at *
  generalize ((palette.map (·.alpha)).reverse.takeWhile (· == 255)).reverse =
    omitted at *
  have shorter : written.length - (palette.map opaque8).toArray.size = 0 := by
    have length := congrArg List.length parts
    simp at length ⊢
    omega
  unfold withAlpha extend
  rw [shorter]
  apply congrArg List.toArray
  apply List.ext_getElem
  · simp
  · intro i _ inside
    have alpha : (palette.map (·.alpha))[i]? = (written ++ omitted)[i]? := by
      rw [parts]
    simp only [List.getElem?_map, List.getElem?_eq_getElem inside,
      Option.map_some] at alpha
    simp only [List.getElem_map, List.getElem_zipIdx, Nat.zero_add,
      List.replicate_zero, Array.append_empty]
    by_cases early : i < written.length
    · rw [List.getElem?_append_left early] at alpha
      rw [← alpha]
      rfl
    · rw [List.getElem?_append_right (Nat.le_of_not_lt early)] at alpha
      have unwritten : palette[i].alpha = 255 :=
        full _ (List.mem_of_getElem? alpha.symm)
      rw [List.getElem?_eq_none (Nat.le_of_not_lt early)]
      simp only [opaque8, ← unwritten]

section Data

variable {size : Nat} {r : Reader} {form : Form} {width height : Nat}

private theorem length_le_flatMap_chunk (name : Bytes) (ps : List Bytes) :
    ps.length ≤ (ps.flatMap (chunk name)).length := by
  induction ps with
  | nil => simp
  | cons p ps induction =>
      rw [List.flatMap_cons, List.length_append, List.length_cons, chunk_eq]
      simp only [List.length_append, Bytes.length_toBigEndian]
      omega

theorem write_ne_nil (s : Bytes) : Zlib.write s ≠ [] := by
  simp [Zlib.write]

private theorem Form.announced_width :
    (form.announced width height).width = width :=
  rfl

private theorem Form.announced_height :
    (form.announced width height).height = height :=
  rfl

private theorem readData_behind (sound : form.Sound)
    (fills : form.Fills width height) (readable : Readable width height)
    (header : r.header = form.announced width height)
    (room : r.storage.claim width height = .ok ())
    {tail ending : Bytes}
    (tail_eq : tail = chunk (PngChunk.name .ending) [] ++ ending)
    {p : Bytes} {ps : List Bytes}
    (joined : (p :: ps).flatten = Zlib.write (form.rows width height))
    (filled : ∀ q ∈ p :: ps, q ≠ [])
    (short : ∀ q ∈ p :: ps, q.length < 256 ^ 4)
    (begins : r.rest = p ++ behind tail p ps) :
    ∃ samples, readData size p.length r =
        .ok { r with
          rest := tail, stage := .data
          pixels := some (picturePixels r samples) } ∧
      ((∀ sample ∈ form.samples, sample < 2 ^ form.depth) →
        samples = form.samples) := by
  have enough : ps.length < r.rest.length + 1 := by
    have most := length_le_flatMap_chunk (PngChunk.name .data) ps
    simp only [begins, behind, List.length_append]
    omega
  have segmented :=
    @segments_eq size tail ending p ps
      (fun q member => short q (List.mem_cons_of_mem _ member))
    tail_eq _ enough
  rw [← begins] at segmented
  obtain ⟨segment, i, located, within, verified⟩ :=
    @locate_segmentsOf size tail (p :: ps) (by simp) filled
  rw [joined] at located
  obtain ⟨passes, read, same⟩ :=
    form.readPasses_rows sound.regular fills readable.wide readable.high
      (.png .tooFewPixels)
  refine ⟨placePasses (form.announced width height) passes, ?_, same⟩
  have ended : checkEnd ⟨(form.rows width height).toArray,
      .complete (Zlib.write (form.rows width height)).length⟩
      (segmentsOf size tail (p :: ps)) (.png .tooFewPixels)
        (form.rows width height).length = .ok tail := by
    unfold checkEnd
    simp [located, within, verified]
  unfold readData
  simp only [segmented, flatMap_segmentsOf, joined, Zlib.read_write, header]
  rw [show (form.announced width height).interlaced = false from rfl]
  simp only [Form.announced_width, Form.announced_height, room,
    Bool.false_eq_true, if_false, read, bind, Except.bind, ended]
  rfl

private theorem readChunk_data (sound : form.Sound)
    (fills : form.Fills width height) (readable : Readable width height)
    (header : r.header = form.announced width height)
    (room : r.storage.claim width height = .ok ())
    (inOrder : dataInOrder r = true)
    {tail ending : Bytes}
    (tail_eq : tail = chunk (PngChunk.name .ending) [] ++ ending)
    (begins : r.rest =
      (pieces ((Zlib.write (form.rows width height)).length + 1)
        (Zlib.write (form.rows width height))).flatMap (chunk
        (PngChunk.name .data)) ++ tail) :
    ∃ samples, readChunk size r =
        .ok { r with
          rest := tail, stage := .data
          pixels := some (picturePixels r samples) } ∧
      ((∀ sample ∈ form.samples, sample < 2 ^ form.depth) →
        samples = form.samples) := by
  have joined : (pieces ((Zlib.write (form.rows width height)).length + 1)
      (Zlib.write (form.rows width height))).flatten =
        Zlib.write (form.rows width height) :=
    flatten_pieces (Nat.lt_succ_self _)
  have each :
      ∀ p ∈ pieces ((Zlib.write (form.rows width height)).length + 1)
          (Zlib.write (form.rows width height)),
        p ≠ [] ∧ p.length ≤ dataSize :=
    fun p member => mem_pieces (write_ne_nil _) member
  have small : dataSize < 256 ^ 4 := by decide
  have unstarted : (r.stage != .data) = true := by
    rw [bne_iff_ne]
    intro stage
    simp [dataInOrder, stage] at inOrder
  cases parts : pieces ((Zlib.write (form.rows width height)).length + 1)
    (Zlib.write (form.rows width height)) with
  | nil =>
      rw [parts] at joined
      exact absurd joined.symm (write_ne_nil _)
  | cons p ps =>
      rw [parts] at joined each begins
      rw [List.flatMap_cons, List.append_assoc] at begins
      have short : ∀ q ∈ p :: ps, q.length < 256 ^ 4 :=
        fun q member => Nat.lt_of_le_of_lt (each q member).2 small
      have read :=
        @readData_behind size { r with rest := p ++ behind tail p ps } form
          width height sound fills readable
        header room tail ending tail_eq p ps joined
          (fun q member => (each q member).1) short rfl
      rw [readChunk_chunk (by decide) (short p List.mem_cons_self) begins rfl,
        if_neg (by decide), if_neg (by decide), if_neg (by decide),
        if_pos (by rw [unstarted]; decide)]
      change ∃ samples, (if dataInOrder r = true then _ else _) = _ ∧ _
      rw [if_pos inOrder]
      exact read

end Data

section Quadruples

variable {α : Type}

theorem exists_three_cons {s : List α} (enough : 3 ≤ s.length) :
    ∃ a b c rest, s = a :: b :: c :: rest := by
  obtain ⟨a, s, rfl⟩ := List.exists_cons_of_length_pos (by omega : 0 < s.length)
  rw [List.length_cons] at enough
  obtain ⟨b, s, rfl⟩ := List.exists_cons_of_length_pos (by omega : 0 < s.length)
  rw [List.length_cons] at enough
  obtain ⟨c, s, rfl⟩ := List.exists_cons_of_length_pos (by omega : 0 < s.length)
  exact ⟨a, b, c, s, rfl⟩

theorem exists_four_cons {s : List α} (enough : 4 ≤ s.length) :
    ∃ a b c d rest, s = a :: b :: c :: d :: rest := by
  obtain ⟨a, b, c, s, rfl⟩ := exists_three_cons (by omega : 3 ≤ s.length)
  simp only [List.length_cons] at enough
  obtain ⟨d, s, rfl⟩ := List.exists_cons_of_length_pos (by omega : 0 < s.length)
  exact ⟨a, b, c, d, s, rfl⟩

theorem flatMap_quadruples {n : Nat} {s : List α} (size : s.length = n * 4) :
    (quadruples s).flatMap (fun q => [q.1, q.2.1, q.2.2.1, q.2.2.2]) = s := by
  induction n generalizing s with
  | zero =>
      have empty : s = [] := List.eq_nil_of_length_eq_zero (by omega)
      rw [empty]
      rfl
  | succ n induction =>
      obtain ⟨r, g, b, a, s, rfl⟩ := exists_four_cons (by omega : 4 ≤ s.length)
      simp only [List.length_cons] at size
      rw [quadruples, List.flatMap_cons, induction (by omega)]
      rfl

theorem length_quadruples {n : Nat} {s : List α}
    (size : s.length = n * 4) :
    (quadruples s).length = n := by
  have joined := congrArg List.length (flatMap_quadruples size)
  have four : ((quadruples s).flatMap fun q =>
      [q.1, q.2.1, q.2.2.1, q.2.2.2]).length = (quadruples s).length * 4 :=
    length_flatMap_of_mem fun _ _ => by rfl
  rw [four, size] at joined
  omega

end Quadruples

section Grouping

variable {α : Type} {channels : Nat} {samplesOfPixel : α → List Nat}

private theorem flatMap_range {β : Type} {xs : List α} {byPlace : Nat → List β}
    {f : α → List β}
    (same : ∀ i (inside : i < xs.length), byPlace i = f xs[i]) :
    (List.range xs.length).flatMap byPlace = xs.flatMap f := by
  induction xs generalizing byPlace with
  | nil => rfl
  | cons x xs induction =>
      rw [List.length_cons, List.range_succ_eq_map, List.flatMap_cons,
        List.flatMap_cons, List.flatMap_map, same 0 (by simp), induction]
      · rfl
      · intro i inside
        exact same (i + 1) (Nat.succ_lt_succ inside)

theorem flatMap_pixelsOf (positive : 0 < channels)
    (sized : ∀ x, (samplesOfPixel x).length = channels)
    (xs : List α) {β : Type} {taken : (Nat → Nat) → List β}
    {f : α → List β} (same : ∀ x (pixel : Nat → Nat),
      (∀ j < channels, pixel j = (samplesOfPixel x).getD j 0) →
      taken pixel = f x) :
    (pixelsOf channels (xs.flatMap samplesOfPixel).toArray).flatMap taken =
      xs.flatMap f := by
  unfold pixelsOf
  rw [List.size_toArray, length_flatMap_of_mem fun x _ =>
    sized x, Nat.mul_div_cancel _ positive, List.flatMap_map]
  apply flatMap_range
  intro i inside
  apply same
  intro j below
  rw [getD_toArray]
  exact getD_flatMap sized inside below 0

end Grouping

/-- Pixels as their file holds them: colour is straight, and marked so only
where it is not opaque. -/
def asWritten : Pixels → Pixels
  | .colour8 isStraight samples =>
      let pixels := quadruples samples.toList
      if pixels.all (·.2.2.2 == 255) then .colour8 false samples
      else if isStraight then .colour8 true samples
      else .colour8 true (pixels.flatMap fun q =>
        [straight8 q.1 q.2.2.2, straight8 q.2.1 q.2.2.2,
          straight8 q.2.2.1 q.2.2.2, q.2.2.2]).toArray
  | .colour16 isStraight samples =>
      let pixels := quadruples samples.toList
      if pixels.all (·.2.2.2 == 65535) then .colour16 false samples
      else if isStraight then .colour16 true samples
      else .colour16 true (pixels.flatMap fun q =>
        [straight16 q.1 q.2.2.2, straight16 q.2.1 q.2.2.2,
          straight16 q.2.2.1 q.2.2.2, q.2.2.2]).toArray
  | pixels => pixels

private theorem formOf_sound (pixels : Pixels) : (formOf pixels).Sound := by
  unfold Form.Sound
  cases pixels with
  | gray8 samples => simp [formOf, ColourType.depths]
  | gray16 samples => simp [formOf, ColourType.depths]
  | colour8 isStraight samples =>
      simp only [formOf]
      split <;> simp [ColourType.depths]
  | colour16 isStraight samples =>
      simp only [formOf]
      split <;> simp [ColourType.depths]
  | indexed palette indices =>
      simp only [formOf, indexDepth]
      split
      next => simp [ColourType.depths]
      next =>
        split
        next => simp [ColourType.depths]
        next => split <;> simp [ColourType.depths]

theorem formOf_plain {pixels : Pixels}
    (plain : ∀ palette indices, pixels ≠ .indexed palette indices) :
    (formOf pixels).colour ≠ .indexed ∧ (formOf pixels).chunks = [] := by
  cases pixels with
  | gray8 samples => simp [formOf]
  | gray16 samples => simp [formOf]
  | colour8 isStraight samples =>
      simp only [formOf]
      split <;> simp
  | colour16 isStraight samples =>
      simp only [formOf]
      split <;> simp
  | indexed palette indices => exact absurd rfl (plain palette indices)

theorem size_flatMap {α : Type} {pixels : List α} {f : α → List Nat}
    {width height channels : Nat} (count : pixels.length = width * height)
    (sized : ∀ x, (f x).length = channels) :
    (pixels.flatMap f).toArray.size = height * (width * channels) := by
  rw [List.size_toArray, length_flatMap_of_mem fun x _ =>
    sized x, count, Nat.mul_comm width, Nat.mul_assoc]

private theorem formOf_fills {pixels : Pixels} {width height : Nat}
    (filled : pixels.Filled (width * height)) :
    (formOf pixels).Fills width height := by
  unfold Form.Fills
  cases pixels with
  | gray8 samples =>
      simpa [formOf, Pixels.Filled, ColourType.channels, Nat.mul_comm height]
        using filled
  | gray16 samples =>
      simpa [formOf, Pixels.Filled, ColourType.channels, Nat.mul_comm height]
        using filled
  | colour8 isStraight samples =>
      have count : (quadruples samples.toList).length = width * height :=
        length_quadruples filled
      simp only [formOf]
      split
      next => exact size_flatMap count fun _ => rfl
      next => exact size_flatMap count fun _ => rfl
  | colour16 isStraight samples =>
      have count : (quadruples samples.toList).length = width * height :=
        length_quadruples filled
      simp only [formOf]
      split
      next => exact size_flatMap count fun _ => rfl
      next => exact size_flatMap count fun _ => rfl
  | indexed palette indices =>
      simpa [formOf, Pixels.Filled, ColourType.channels, Nat.mul_comm height]
        using filled

theorem le_two_pow_indexDepth {n : Nat}
    (few : n ≤ 256) : n ≤ 2 ^ indexDepth n := by
  unfold indexDepth
  split
  next => omega
  next =>
    split
    next => omega
    next => split <;> omega

theorem lt_of_mem_flatMap {α β : Type} {pixels : List α} {f : α → List β}
    {toNat : β → Nat} {most sample : Nat}
    (bound : ∀ b, toNat b < most)
    (member : sample ∈ (pixels.flatMap fun x => (f x).map toNat).toArray) :
    sample < most := by
  obtain ⟨x, -, inside⟩ := List.mem_flatMap.1 (List.mem_toArray.1 member)
  obtain ⟨b, -, rfl⟩ := List.mem_map.1 inside
  exact bound b

private theorem pixelBytes_formOf {pixels : Pixels} {r : Reader}
    {width height : Nat} (keyless : r.transparent = none)
    (header : r.header = (formOf pixels).announced width height) :
    r.storage.pixelBytes = pixels.storage.pixelBytes := by
  have colour : r.header.colour = (formOf pixels).colour := by rw [header]; rfl
  have depth : r.header.depth = (formOf pixels).depth := by rw [header]; rfl
  cases pixels with
  | gray8 | gray16 | indexed =>
      simp only [Reader.storage, keyless, colour, depth, formOf]
      rfl
  | colour8 straight samples | colour16 straight samples =>
      simp only [formOf] at colour depth
      split at colour <;> rename_i whole <;>
        simp only [whole, if_true] at depth <;>
        simp only [Reader.storage, keyless, colour, depth] <;> rfl

private theorem lt_of_mem_formOf {pixels : Pixels} (coloured : pixels.Coloured)
    (few : ∀ palette indices, pixels = .indexed palette indices →
      palette.size ≤ 256)
    {sample : Nat} (member : sample ∈ (formOf pixels).samples) :
    sample < 2 ^ (formOf pixels).depth := by
  cases pixels with
  | gray8 samples =>
      obtain ⟨b, -, rfl⟩ := Array.mem_map.1 member
      exact UInt8.toNat_lt b
  | gray16 samples =>
      obtain ⟨b, -, rfl⟩ := Array.mem_map.1 member
      exact UInt16.toNat_lt b
  | colour8 isStraight samples =>
      revert member
      simp only [formOf]
      split
      next => exact lt_of_mem_flatMap UInt8.toNat_lt
      next => exact lt_of_mem_flatMap UInt8.toNat_lt
  | colour16 isStraight samples =>
      revert member
      simp only [formOf]
      split
      next => exact lt_of_mem_flatMap UInt16.toNat_lt
      next => exact lt_of_mem_flatMap UInt16.toNat_lt
  | indexed palette indices =>
      obtain ⟨b, inside, rfl⟩ := Array.mem_map.1 member
      exact Nat.lt_of_lt_of_le (coloured b inside)
        (le_two_pow_indexDepth (few _ _ rfl))

private theorem extend_of_le {n : Nat} {palette : Array Colour}
    (few : n ≤ palette.size) :
    extend n palette = palette := by
  rw [extend, Nat.sub_eq_zero_of_le few]
  simp

theorem foldl_max_lt_iff {most start : Nat} {samples : List Nat} :
    samples.foldl max start < most ↔ start < most ∧
      ∀ sample ∈ samples, sample < most := by
  induction samples generalizing start with
  | nil => simp
  | cons sample samples induction =>
      rw [List.foldl_cons, induction, Nat.max_lt,
        List.forall_mem_cons, and_assoc]

section Colour

variable {α : Type} {toNat : α → Nat} {ofNat : Nat → α}

theorem colour_of_opaque (inverse : ∀ x, ofNat (toNat x) = x)
    {full : α} {most : Nat}
    (full_eq : ofNat most = full)
    {n : Nat} {s : List α}
    (size : s.length = n * 4)
    (isFull : ∀ q ∈ quadruples s, q.2.2.2 = full) :
    ((pixelsOf 3 ((quadruples s).flatMap fun q =>
      [q.1, q.2.1, q.2.2.1].map toNat).toArray).flatMap
      fun p => [p 0, p 1, p 2, most]).map ofNat = s := by
  have taken :
      (pixelsOf 3 ((quadruples s).flatMap fun q =>
        [q.1, q.2.1, q.2.2.1].map toNat).toArray).flatMap
      (fun p => [p 0, p 1, p 2, most]) =
      (quadruples s).flatMap fun q =>
        [toNat q.1, toNat q.2.1, toNat q.2.2.1, most] := by
    apply flatMap_pixelsOf (by decide) (fun _ => by rfl)
    intro q pixel parts
    rw [parts 0 (by decide), parts 1 (by decide), parts 2 (by decide)]
    rfl
  rw [taken, List.map_flatMap]
  refine Eq.trans (List.flatMap_congr ?_) (flatMap_quadruples size)
  intro q member
  simp [inverse, full_eq, isFull q member]

theorem colour_of_alpha (inverse : ∀ x, ofNat (toNat x) = x)
    (fixed : α → α → α)
    (pixels : List (α × α × α × α)) :
    ((pixelsOf 4 (pixels.flatMap fun q =>
        [fixed q.1 q.2.2.2, fixed q.2.1 q.2.2.2, fixed q.2.2.1 q.2.2.2,
          q.2.2.2].map toNat).toArray).flatMap
      fun p => [p 0, p 1, p 2, p 3]).map ofNat =
      pixels.flatMap fun q =>
        [fixed q.1 q.2.2.2, fixed q.2.1 q.2.2.2, fixed q.2.2.1 q.2.2.2,
          q.2.2.2] := by
  have taken : (pixelsOf 4 (pixels.flatMap fun q =>
        [fixed q.1 q.2.2.2, fixed q.2.1 q.2.2.2, fixed q.2.2.1 q.2.2.2,
          q.2.2.2].map toNat).toArray).flatMap
      (fun p => [p 0, p 1, p 2, p 3]) =
      pixels.flatMap fun q =>
        [fixed q.1 q.2.2.2, fixed q.2.1 q.2.2.2, fixed q.2.2.1 q.2.2.2,
          q.2.2.2].map toNat := by
    apply flatMap_pixelsOf (by decide) (fun _ => by rfl)
    intro q pixel parts
    rw [parts 0 (by decide), parts 1 (by decide), parts 2 (by decide),
      parts 3 (by decide)]
    rfl
  rw [taken, List.map_flatMap]
  apply List.flatMap_congr
  intro q _
  simp [inverse]

end Colour

section Meaning

variable {r : Reader} {samples : Array Nat}

private theorem picturePixels_trueColour8 (keyless : r.transparent = none)
    (colour : r.header.colour = .trueColour)
    (depth : r.header.depth = 8) : picturePixels r samples =
      .colour8 false (((pixelsOf 3 samples).flatMap fun p =>
        [p 0, p 1, p 2, 255]).map Nat.toUInt8).toArray := by
  simp only [picturePixels, keyless, colour, depth]
  rfl

private theorem picturePixels_trueColour16 (keyless : r.transparent = none)
    (colour : r.header.colour = .trueColour)
    (depth : r.header.depth = 16) : picturePixels r samples =
      .colour16 false (((pixelsOf 3 samples).flatMap fun p =>
        [p 0, p 1, p 2, 65535]).map Nat.toUInt16).toArray := by
  simp only [picturePixels, keyless, colour, depth]
  rfl

private theorem picturePixels_alpha8
    (colour : r.header.colour = .trueColourAlpha)
    (depth : r.header.depth = 8) : picturePixels r samples =
      .colour8 true (((pixelsOf 4 samples).flatMap fun p =>
        [p 0, p 1, p 2, p 3]).map Nat.toUInt8).toArray := by
  simp only [picturePixels, colour, depth]
  rfl

private theorem picturePixels_alpha16
    (colour : r.header.colour = .trueColourAlpha)
    (depth : r.header.depth = 16) : picturePixels r samples =
      .colour16 true (((pixelsOf 4 samples).flatMap fun p =>
        [p 0, p 1, p 2, p 3]).map Nat.toUInt16).toArray := by
  simp only [picturePixels, colour, depth]
  rfl

end Meaning

private theorem toByte_eight (b : UInt8) : toByte 8 b.toNat = b := by
  simp [toByte]

-- A colour picture is written without alpha exactly when every pixel is
-- opaque, so each of the two depths splits on that.
private theorem picturePixels_colour8 {r : Reader} {isStraight : Bool}
    {samples : Array UInt8} {count : Nat}
    (filled : samples.toList.length = count * 4)
    (keyless : r.transparent = none)
    (colour : r.header.colour = (formOf (.colour8 isStraight samples)).colour)
    (depth : r.header.depth = (formOf (.colour8 isStraight samples)).depth) :
    picturePixels r (formOf (.colour8 isStraight samples)).samples =
      asWritten (.colour8 isStraight samples) := by
  simp only [formOf, asWritten] at colour depth ⊢
  split
  next isOpaque =>
    rw [if_pos isOpaque] at colour depth
    rw [picturePixels_trueColour8 keyless colour depth]
    have full : ∀ q ∈ quadruples samples.toList, q.2.2.2 = 255 :=
      fun q member => eq_of_beq (List.all_eq_true.1 isOpaque q member)
    have same :=
      colour_of_opaque (fun x => UInt8.ofNat_toNat)
        (by decide : Nat.toUInt8 255 = 255) filled full
    exact congrArg (fun s => Pixels.colour8 false s.toArray) same
  next translucent =>
    rw [if_neg translucent] at colour depth
    rw [picturePixels_alpha8 colour depth]
    cases isStraight with
    | true =>
        have same :=
          colour_of_alpha (fun x => UInt8.ofNat_toNat) (fun part _ => part)
            (quadruples samples.toList)
        rw [flatMap_quadruples filled] at same
        simp only [if_true]
        exact congrArg (fun s => Pixels.colour8 true s.toArray) same
    | false =>
        have same :=
          colour_of_alpha (fun x => UInt8.ofNat_toNat) straight8
            (quadruples samples.toList)
        simp only [Bool.false_eq_true, if_false]
        exact congrArg (fun s => Pixels.colour8 true s.toArray) same

private theorem picturePixels_colour16 {r : Reader} {isStraight : Bool}
    {samples : Array UInt16} {count : Nat}
    (filled : samples.toList.length = count * 4)
    (keyless : r.transparent = none)
    (colour : r.header.colour = (formOf (.colour16 isStraight samples)).colour)
    (depth : r.header.depth = (formOf (.colour16 isStraight samples)).depth) :
    picturePixels r (formOf (.colour16 isStraight samples)).samples =
      asWritten (.colour16 isStraight samples) := by
  simp only [formOf, asWritten] at colour depth ⊢
  split
  next isOpaque =>
    rw [if_pos isOpaque] at colour depth
    rw [picturePixels_trueColour16 keyless colour depth]
    have full : ∀ q ∈ quadruples samples.toList, q.2.2.2 = 65535 :=
      fun q member => eq_of_beq (List.all_eq_true.1 isOpaque q member)
    have same :=
      colour_of_opaque (fun x => UInt16.ofNat_toNat)
        (by decide : Nat.toUInt16 65535 = 65535) filled full
    exact congrArg (fun s => Pixels.colour16 false s.toArray) same
  next translucent =>
    rw [if_neg translucent] at colour depth
    rw [picturePixels_alpha16 colour depth]
    cases isStraight with
    | true =>
        have same :=
          colour_of_alpha (fun x => UInt16.ofNat_toNat) (fun part _ => part)
            (quadruples samples.toList)
        rw [flatMap_quadruples filled] at same
        simp only [if_true]
        exact congrArg (fun s => Pixels.colour16 true s.toArray) same
    | false =>
        have same :=
          colour_of_alpha (fun x => UInt16.ofNat_toNat) straight16
            (quadruples samples.toList)
        simp only [Bool.false_eq_true, if_false]
        exact congrArg (fun s => Pixels.colour16 true s.toArray) same

private theorem picturePixels_indexed {r : Reader} {palette : Array Colour}
    {indices : Array UInt8}
    (coloured : (Pixels.indexed palette indices).Coloured)
    (positive : 0 < palette.size) (found : r.palette = palette)
    (colour : r.header.colour = (formOf (.indexed palette indices)).colour)
    (depth : r.header.depth = (formOf (.indexed palette indices)).depth) :
    picturePixels r (formOf (.indexed palette indices)).samples =
      asWritten (.indexed palette indices) := by
  have most : (indices.map UInt8.toNat).toList.foldl max 0 < palette.size := by
    refine foldl_max_lt_iff.2 ⟨positive, ?_⟩
    intro sample member
    obtain ⟨i, inside, rfl⟩ :=
      Array.mem_map.1 (Array.mem_toList_iff.1 member)
    exact coloured i inside
  rw [Array.foldl_toList] at most
  simp only [picturePixels, colour, depth, formOf, asWritten, found]
  rw [extend_of_le (Nat.succ_le_of_lt most)]
  simp [Function.comp_def]

private theorem picturePixels_formOf {pixels : Pixels} {r : Reader}
    {n width height : Nat} (filled : pixels.Filled n)
    (coloured : pixels.Coloured)
    (keyless : r.transparent = none)
    (header : r.header = (formOf pixels).announced width height)
    (palette_eq : ∀ palette indices, pixels = .indexed palette indices →
      0 < palette.size ∧ r.palette = palette) :
    picturePixels r (formOf pixels).samples = asWritten pixels := by
  have colour : r.header.colour = (formOf pixels).colour := by rw [header]; rfl
  have depth : r.header.depth = (formOf pixels).depth := by rw [header]; rfl
  cases pixels with
  | gray8 samples =>
      simp only [picturePixels, keyless, colour, depth, formOf, asWritten]
      simp [toByte_eight, Function.comp_def]
  | gray16 samples =>
      simp only [picturePixels, keyless, colour, depth, formOf, asWritten]
      simp [Function.comp_def]
  | colour8 isStraight samples =>
      exact picturePixels_colour8 filled keyless colour depth
  | colour16 isStraight samples =>
      exact picturePixels_colour16 filled keyless colour depth
  | indexed palette indices =>
      obtain ⟨positive, found⟩ := palette_eq _ _ rfl
      exact picturePixels_indexed coloured positive found colour depth

section File

variable {size fuel : Nat} {r : Reader}

theorem readChunks_of_ok {next : Reader}
    (read : readChunk size r = .ok next)
    (more : next.stage ≠ .ending) :
    readChunks size (fuel + 1) r = readChunks size fuel next := by
  have unfinished : (next.stage == .ending) = false :=
    beq_eq_false_iff_ne.2 more
  rw [readChunks, read]
  simp only [bind, Except.bind, unfinished, Bool.false_eq_true, if_false]

private theorem readChunks_of_ending {last : Reader}
    (read : readChunk size r = .ok last)
    (done : last.stage = .ending) :
    readChunks size (fuel + 1) r = .ok last := by
  rw [readChunks, read]
  simp only [bind, Except.bind, done, BEq.rfl, if_true]

private theorem withAlpha_nil (palette : Array Colour) :
    withAlpha [] palette = palette := by
  simp [withAlpha, extend]

private theorem readChunks_paletteChunks {palette : List Colour}
    (nonempty : palette ≠ [])
    (few : palette.length ≤ 256)
    (fits : palette.length ≤ 2 ^ r.header.depth)
    (stage : r.stage = .header)
    (indexed : r.header.colour = .indexed)
    {rest : Bytes} (begins : r.rest = paletteChunks palette ++ rest) :
    ∃ k stage, k ≤ 2 ∧ (stage = .palette ∨ stage = .transparency) ∧
      ∀ fuel, readChunks size (fuel + k) r =
        readChunks size fuel
          { r with rest, stage, palette := palette.toArray } := by
  have same := withAlpha_opaque8 palette
  have short : ((palette.map (·.alpha)).reverse.dropWhile (· == 255)).length ≤
      palette.length := by
    simpa using (List.dropWhile_sublist (l := (palette.map (·.alpha)).reverse)
      (· == 255)).length_le
  unfold paletteChunks at begins
  generalize (palette.map (·.alpha)).reverse.dropWhile (· == 255) = alphas at *
  cases alphas with
  | nil =>
      have same : (palette.map opaque8).toArray = palette.toArray := by
        rw [← same]
        exact (withAlpha_nil _).symm
      have read := @readChunk_palette size r rest palette nonempty few fits
        stage indexed (by simpa using begins)
      refine ⟨1, .palette, by decide, .inl rfl, fun fuel => ?_⟩
      rw [readChunks_of_ok read (by simp), same]
  | cons alpha alphas =>
      have first := @readChunk_palette size r
        (chunk (PngChunk.name .transparency) (alpha :: alphas).reverse ++ rest)
          palette nonempty few fits stage indexed
        (by simpa using begins)
      have second := @readChunk_transparency size
        { r with
          rest := chunk (PngChunk.name .transparency)
            (alpha :: alphas).reverse ++ rest
          stage := .palette, palette := (palette.map opaque8).toArray }
        rest _ (by rw [List.length_reverse]; omega) rfl indexed rfl
      refine ⟨2, .transparency, by decide, .inr rfl, fun fuel => ?_⟩
      rw [readChunks_of_ok first (by simp),
        readChunks_of_ok second (by simp), same]

private theorem readChunks_chunks {pixels : Pixels} {width height : Nat}
    (stage : r.stage = .header)
    (header : r.header = (formOf pixels).announced width height)
    (writable : ∀ palette indices, pixels = .indexed palette indices →
      0 < palette.size ∧ palette.size ≤ 256)
    {rest : Bytes} (begins : r.rest = (formOf pixels).chunks ++ rest) :
    ∃ k stage palette, k ≤ 2 ∧
      dataInOrder { r with rest, stage, palette } = true ∧
      (∀ p indices, pixels = .indexed p indices → 0 < p.size ∧ palette = p) ∧
      ∀ fuel, readChunks size (fuel + k) r =
        readChunks size fuel { r with rest, stage, palette } := by
  by_cases indexed : ∃ palette indices, pixels = .indexed palette indices
  · obtain ⟨palette, indices, rfl⟩ := indexed
    obtain ⟨positive, few⟩ := writable _ _ rfl
    have fits : palette.toList.length ≤ 2 ^ r.header.depth := by
      rw [header]
      exact le_two_pow_indexDepth few
    have nonempty : palette.toList ≠ [] := List.length_pos_iff.1 positive
    obtain ⟨k, stage, small, which, read⟩ :=
      @readChunks_paletteChunks size r palette.toList nonempty few fits stage
        (by rw [header]; rfl) rest begins
    refine ⟨k, stage, palette, small, ?_, ?_, read⟩
    · cases which with
      | inl which => rw [which]; rfl
      | inr which => rw [which]; rfl
    · intro p _ same
      cases same
      exact ⟨positive, rfl⟩
  · obtain ⟨colour, none⟩ := formOf_plain fun palette indices same =>
      indexed ⟨palette, indices, same⟩
    rw [none, List.nil_append] at begins
    refine ⟨0, r.stage, r.palette, by decide, ?_, ?_, fun fuel => ?_⟩
    · simpa [dataInOrder, stage, header, Form.announced] using colour
    · exact fun p indices same => absurd ⟨p, indices, same⟩ indexed
    · rw [← begins]
      rfl

end File

theorem unwritable?_eq_none {p : Picture} (writable : unwritable? p = none) :
    (0 < p.width ∧ p.width < 0x100000000) ∧
      (0 < p.height ∧ p.height < 0x100000000) ∧
      ∀ palette indices, p.pixels = .indexed palette indices →
        0 < palette.size ∧ palette.size ≤ 256 := by
  unfold unwritable? at writable
  split at writable
  next => cases writable
  next sizes =>
    simp only [Bool.or_eq_true, decide_eq_true_eq, not_or] at sizes
    refine ⟨by omega, by omega, ?_⟩
    intro palette indices indexed
    rw [indexed] at writable
    simp only at writable
    split at writable
    next => cases writable
    next few =>
      simp only [Bool.or_eq_true, decide_eq_true_eq, not_or] at few
      omega

/-- The file of a picture is read as a picture of the same size, and with the
same pixels if each index has its colour. -/
theorem decode_encode {p : Picture} (writable : unwritable? p = none)
    (filled : p.pixels.Filled (p.width.toNat * p.height.toNat))
    (readable : Readable p.width.toNat p.height.toNat) (fits : p.Fits) :
    ∃ pixels, decode (encode p) =
      .ok { width := p.width, height := p.height, pixels } ∧
      (p.pixels.Coloured → pixels = asWritten p.pixels) := by
  obtain ⟨⟨wide, -⟩, ⟨high, -⟩, palettes⟩ := unwritable?_eq_none writable
  let form := formOf p.pixels
  let parts :=
    (pieces ((Zlib.write (form.rows p.width.toNat p.height.toNat)).length + 1)
      (Zlib.write (form.rows p.width.toNat p.height.toNat))).flatMap (chunk
      (PngChunk.name .data))
  let ending := chunk (PngChunk.name .ending) []
  have file : encode p = signature ++
      (chunk (PngChunk.name .header)
        (form.header p.width.toNat p.height.toNat) ++
      (form.chunks ++ (parts ++ ending))) := by
    simp only [encode, List.append_assoc]
    rfl
  have sound : form.Sound := formOf_sound _
  have fills : form.Fills p.width.toNat p.height.toNat := formOf_fills filled
  -- The four kinds of chunk in the order they are written: each is read with
  -- what the ones before it left in the reader.
  have first :=
    @readChunk_header (encode p).length { rest := (encode p).drop 8 }
    (form.chunks ++ (parts ++ ending)) form _ _ sound readable
      rfl (by rw [file]; rfl)
  obtain ⟨k, stage, palette, few, inOrder, found, second⟩ :=
    @readChunks_chunks (encode p).length
    { rest := form.chunks ++ (parts ++ ending), stage := .header
      header := form.announced p.width.toNat p.height.toNat }
    p.pixels p.width.toNat p.height.toNat rfl rfl palettes (parts ++ ending) rfl
  have room : Storage.claim (Reader.storage
      { rest := parts ++ ending, stage, palette
        header := form.announced p.width.toNat p.height.toNat })
      p.width.toNat p.height.toNat = .ok () := by
    rw [Storage.claim_eq_ok_iff, pixelBytes_formOf rfl rfl]
    exact fits
  obtain ⟨samples, third, same⟩ := @readChunk_data (encode p).length
    { rest := parts ++ ending, stage, palette,
      header := form.announced p.width.toNat p.height.toNat }
    form _ _ sound fills readable rfl room inOrder ending []
      (List.append_nil _).symm rfl
  have fourth := @readChunk_ending (encode p).length
    { rest := ending, stage := .data, palette
      header := form.announced p.width.toNat p.height.toNat
      pixels := some (picturePixels
        { rest := parts ++ ending, stage, palette
          header := form.announced p.width.toNat p.height.toNat }
        samples) }
    [] rfl (List.append_nil _).symm
  -- The fuel is the length of the file, far more than the chunks it has.
  have enough : (encode p).length + 1 =
      (((encode p).length - k - 2 + 1) + 1 + k) + 1 := by
    have long : 8 ≤ (encode p).length := by
      rw [file, List.length_append]
      exact Nat.le_add_right _ _
    omega
  refine ⟨picturePixels
    { rest := parts ++ ending, stage, palette,
      header := form.announced p.width.toNat p.height.toNat } samples, ?_, ?_⟩
  · unfold decode
    rw [enough, readChunks_of_ok first (by simp), second,
      readChunks_of_ok third (by simp), readChunks_of_ending fourth rfl]
    simp only [bind, Except.bind, Form.announced, Option.getD_some,
      Int.toNat_of_nonneg (Int.le_of_lt wide),
      Int.toNat_of_nonneg (Int.le_of_lt high)]
  · intro coloured
    rw [same fun sample member =>
      lt_of_mem_formOf coloured (fun q i indexed => (palettes q i indexed).2)
        member]
    exact picturePixels_formOf filled coloured rfl rfl found

end Png

end ModelGateway
