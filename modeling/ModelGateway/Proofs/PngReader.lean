import ModelGateway.Proofs.Checked
import ModelGateway.Proofs.PngPicture

namespace ModelGateway

theorem toNat_toUInt8_le (n : Nat) : n.toUInt8.toNat ≤ n := by
  rw [Nat.toUInt8_eq, UInt8.toNat_ofNat']
  exact Nat.mod_le _ _

def Picture.Filled (p : Picture) : Prop :=
  p.pixels.Filled (p.width.toNat * p.height.toNat)

def Picture.InRange (p : Picture) : Prop :=
  0 < p.width → 0 < p.height →
    Png.Readable p.width.toNat p.height.toNat ∧ p.Fits

/-- The picture has all its pixels, they have their colours, and its size is
within the limits. -/
structure Picture.Whole (p : Picture) : Prop where
  filled : p.Filled
  coloured : p.pixels.Coloured
  inRange : p.InRange

namespace Png

private theorem size_placeRow (h : Header) (pass : Pass) (y : Nat)
    (row : List Nat) (samples : Array Nat) :
    (placeRow h pass y row samples).size = samples.size := by
  unfold placeRow
  refine List.foldlRecOn (motive := fun now : Array Nat =>
    now.size = samples.size) _ _ rfl ?_
  intro now size sample _
  rw [← size]
  exact Array.size_setIfInBounds ..

private theorem size_placePasses (h : Header)
    (passes : List (Pass × List (List Nat))) :
    (placePasses h passes).size = h.width * h.height * h.colour.channels := by
  unfold placePasses
  refine List.foldlRecOn (motive := fun now : Array Nat =>
    now.size = h.width * h.height * h.colour.channels) _ _
    (by simp) ?_
  intro now size pass _
  refine List.foldlRecOn (motive := fun now : Array Nat =>
    now.size = h.width * h.height * h.colour.channels) _ _
    size ?_
  intro now size row _
  rw [← size]
  exact size_placeRow ..

private theorem length_pixelsOf {channels n : Nat} {samples : Array Nat}
    (positive : 0 < channels)
    (size : samples.size = n * channels) :
    (pixelsOf channels samples).length = n := by
  rw [pixelsOf, List.length_map, List.length_range, size,
    Nat.mul_div_cancel _ positive]

private theorem filled_picturePixels {r : Reader} {n : Nat}
    {samples : Array Nat} (size : samples.size = n * r.header.colour.channels) :
    (picturePixels r samples).Filled n := by
  have positive : 0 < r.header.colour.channels := by
    cases r.header.colour <;> decide
  have count := length_pixelsOf positive size
  have four {α : Type} (g : Nat → α) (f : (Nat → Nat) → List Nat)
      (sized : ∀ p, (f p).length = 4) :
        (((pixelsOf r.header.colour.channels samples).flatMap f).map
          g).toArray.size = n * 4 := by
    rw [List.size_toArray, List.length_map, length_flatMap_of_mem fun p _ =>
      sized p, count]
  have one {α : Type} (g : Nat → α) (single : r.header.colour.channels = 1) :
    (samples.map g).size = n := by
    rw [Array.size_map, size, single, Nat.mul_one]
  unfold picturePixels
  simp only
  split
  case h_1 colour _ _ => exact one _ (by rw [colour]; rfl)
  case h_3 colour _ _ => exact one _ (by rw [colour]; rfl)
  case h_13 colour => exact one _ (by rw [colour]; rfl)
  all_goals exact four _ _ fun _ => rfl

private theorem coloured_picturePixels (r : Reader) (samples : Array Nat) :
    (picturePixels r samples).Coloured := by
  unfold picturePixels
  simp only
  split
  case h_13 =>
    intro i member
    obtain ⟨v, there, rfl⟩ := Array.mem_map.1 member
    have most : samples.toList.foldl max 0 < samples.toList.foldl max 0 + 1 :=
      Nat.lt_succ_self _
    have bound := (foldl_max_lt_iff.1 most).2 v (Array.mem_toList_iff.2 there)
    rw [Array.foldl_toList] at bound
    have long : samples.foldl max 0 + 1 ≤
        (extend (samples.foldl max 0 + 1) r.palette).size := by
      simp [extend]
      omega
    exact Nat.lt_of_le_of_lt (toNat_toUInt8_le v)
      (Nat.lt_of_lt_of_le bound long)
  all_goals exact trivial

private theorem storage_picturePixels (r : Reader) (samples : Array Nat) :
    (picturePixels r samples).storage = r.storage := by
  simp only [picturePixels, Reader.storage]
  cases r.transparent.isSome <;> cases r.header.colour <;>
    by_cases deep : r.header.depth = 16 <;> simp [deep, Pixels.storage]

private theorem readable_of_headerOf {data : Bytes} {h : Header}
    (read : headerOf data = .ok h) :
    Readable h.width h.height := by
  unfold headerOf at read
  simp only at read
  split at read
  next => cases read
  next =>
    split at read
    next => cases read
    next =>
      split at read
      next => cases read
      next =>
        split at read
        next => cases read
        next sides =>
          split at read
          next => cases read
          next area =>
            split at read
            next => cases read
            next =>
              split at read
              next =>
                cases read
                simp only [Bool.or_eq_true, beq_iff_eq, decide_eq_true_eq,
                  not_or] at sides
                have readable : Readable (Bytes.bigEndian (data.take 4))
                    (Bytes.bigEndian ((data.drop 4).take 4)) :=
                  ⟨by omega, by omega, by omega, by omega, by omega⟩
                exact readable
              next => cases read

/-- A header that was read is within the limits. Once the pixel data was read
there are pixels, they fill the picture, and they have their colours. -/
structure Reader.Kept (r : Reader) : Prop where
  header : r.stage ≠ .start → Readable r.header.width r.header.height
  pixels : r.stage = .data ∨ r.stage = .ending →
    ∃ pixels, r.pixels = some pixels ∧
      pixels.Filled (r.header.width * r.header.height) ∧ pixels.Coloured ∧
        pixels.storage.claim r.header.width r.header.height = .ok ()

section Steps

variable {size length : Nat} {name : Bytes} {r s : Reader}

theorem Reader.Kept.of_stage
    (readable : Readable r.header.width r.header.height)
    (early : r.stage ≠ .data ∧ r.stage ≠ .ending) : r.Kept := by
  refine ⟨fun _ => readable, fun late => ?_⟩
  cases late with
  | inl stage => exact absurd stage early.1
  | inr stage => exact absurd stage early.2

private theorem kept_of_readHeader (read : readHeader length r = .ok s) :
    s.Kept := by
  unfold readHeader at read
  split at read
  next => cases read
  next =>
    obtain ⟨⟨data, rest⟩, -, taken⟩ := bind_eq_ok_iff.1 read
    simp only at taken
    split at taken
    next => cases taken
    next header found =>
      obtain ⟨rest, -, done⟩ := bind_eq_ok_iff.1 taken
      cases done
      exact .of_stage (readable_of_headerOf found) (by simp)

private theorem kept_of_readPalette (read : readPalette length r = .ok s)
    (readable : Readable r.header.width r.header.height) : s.Kept := by
  unfold readPalette at read
  simp only at read
  split at read
  next => cases read
  next =>
    obtain ⟨⟨data, rest⟩, -, taken⟩ := bind_eq_ok_iff.1 read
    simp only at taken
    split at taken
    next => cases taken
    next => cases taken
    next =>
      obtain ⟨rest, -, done⟩ := bind_eq_ok_iff.1 taken
      cases done
      exact .of_stage readable (by simp)

theorem kept_of_readKey {n : Nat} (read : readKey n length r = .ok s)
    (readable : Readable r.header.width r.header.height) : s.Kept := by
  unfold readKey at read
  split at read
  next => cases read
  next =>
    obtain ⟨⟨data, rest⟩, -, done⟩ := bind_eq_ok_iff.1 read
    cases done
    exact .of_stage readable (by simp)

private theorem kept_of_readTransparency
    (read : readTransparency length r = .ok s)
    (readable : Readable r.header.width r.header.height) : s.Kept := by
  unfold readTransparency at read
  split at read
  next => exact kept_of_readKey read readable
  next => exact kept_of_readKey read readable
  next =>
    split at read
    next => cases read
    next =>
      obtain ⟨⟨data, rest⟩, -, done⟩ := bind_eq_ok_iff.1 read
      cases done
      exact .of_stage readable (by simp)
  next => cases read
  next => cases read

private theorem kept_of_readData (read : readData size length r = .ok s)
    (readable : Readable r.header.width r.header.height) : s.Kept := by
  unfold readData at read
  simp only at read
  split at read
  next => cases read
  next => cases read
  next stream _ =>
    obtain ⟨_, room, read⟩ := bind_eq_ok_iff.1 read
    obtain ⟨⟨passes, used⟩, -, rest⟩ := bind_eq_ok_iff.1 read
    obtain ⟨rest, -, done⟩ := bind_eq_ok_iff.1 rest
    cases done
    rw [← storage_picturePixels r (placePasses r.header passes)] at room
    exact ⟨fun _ => readable, fun _ => ⟨_, rfl,
      filled_picturePixels (size_placePasses ..),
      coloured_picturePixels .., room⟩⟩

private theorem kept_of_readEnding (read : readEnding length r = .ok s)
    (before : r.stage = .data)
    (kept : r.Kept) :
    s.Kept := by
  unfold readEnding at read
  split at read
  next => cases read
  next =>
    obtain ⟨rest, -, done⟩ := bind_eq_ok_iff.1 read
    cases done
    exact ⟨fun _ => kept.header (by rw [before]; decide), fun _ =>
      kept.pixels (.inl before)⟩

private theorem kept_of_skip (read : skip name length r = .ok s)
    (kept : r.Kept) : s.Kept := by
  unfold skip at read
  split at read
  next => cases read
  next =>
    obtain ⟨⟨data, rest⟩, -, done⟩ := bind_eq_ok_iff.1 read
    cases done
    exact ⟨kept.header, kept.pixels⟩

private theorem kept_of_readChunk (read : readChunk size r = .ok s)
    (kept : r.Kept) : s.Kept := by
  obtain ⟨⟨head, rest⟩, -, taken⟩ := bind_eq_ok_iff.1 read
  simp only at taken
  have ordered {ok : Bool} {next : Except ImageFault Reader}
      (taken : (if ok = true then next else .error (.png .chunkOrder)) =
        .ok s) : ok = true ∧ next = .ok s := by
    cases ok with
    | false => cases taken
    | true => exact ⟨rfl, taken⟩
  split at taken
  next => exact kept_of_readHeader (ordered taken).2
  next =>
    split at taken
    next =>
      obtain ⟨stage, read⟩ := ordered taken
      exact kept_of_readPalette read
        (kept.header (by rw [eq_of_beq stage]; decide))
    next =>
      split at taken
      next =>
        obtain ⟨inOrder, read⟩ := ordered taken
        refine kept_of_readTransparency read (kept.header fun start => ?_)
        simp [transparencyInOrder, start] at inOrder
      next =>
        split at taken
        next =>
          obtain ⟨inOrder, read⟩ := ordered taken
          refine kept_of_readData read (kept.header fun start => ?_)
          simp [dataInOrder, start] at inOrder
        next =>
          split at taken
          next =>
            obtain ⟨stage, read⟩ := ordered taken
            exact kept_of_readEnding read (eq_of_beq stage)
              ⟨kept.header, kept.pixels⟩
          next => exact kept_of_skip taken ⟨kept.header, kept.pixels⟩

private theorem kept_of_readChunks {fuel : Nat}
    (read : readChunks size fuel r = .ok s)
    (kept : r.Kept) :
    s.Kept ∧ s.stage = .ending := by
  induction fuel generalizing r with
  | zero => cases read
  | succ fuel induction =>
      obtain ⟨next, step, rest⟩ := bind_eq_ok_iff.1 read
      have stillKept := kept_of_readChunk step kept
      split at rest
      next last =>
        cases rest
        exact ⟨stillKept, eq_of_beq last⟩
      next => exact induction rest stillKept

end Steps

theorem whole_of_decode {file : Bytes} {p : Picture}
    (read : decode file = .ok p) : p.Whole := by
  obtain ⟨r, chunks, done⟩ := bind_eq_ok_iff.1 read
  cases done
  obtain ⟨kept, last⟩ :=
    kept_of_readChunks chunks ⟨fun other => absurd rfl other, by simp⟩
  obtain ⟨pixels, found, filled, coloured, room⟩ := kept.pixels (.inr last)
  have readable := kept.header (by rw [last]; decide)
  refine ⟨?_, ?_, fun _ _ => ⟨readable, ?_⟩⟩
  · unfold Picture.Filled
    rw [found]
    exact filled
  · rw [found]
    exact coloured
  · unfold Picture.Fits
    rw [found]
    exact Storage.claim_eq_ok_iff.1 room

end Png

end ModelGateway
