import ModelGateway.Proofs.WholePictures

/-!
What is sent of an upload: the file itself or a PNG file of its pixels, and
under which media type.
-/

namespace ModelGateway

theorem Bytes.startsWith_append (s rest : Bytes) :
    Bytes.startsWith s (s ++ rest) = true :=
  List.isPrefixOf_iff_prefix.2 (List.prefix_append s rest)

namespace ImageFormat

variable {file : Bytes} {format : ImageFormat}

theorem matches_exactly_append {s : Bytes} {p : Pattern} :
    Pattern.matches (exactly s ++ p) file = true ↔ ∃ rest, file = s ++ rest ∧
      p.matches rest = true := by
  induction s generalizing file with
  | nil => simp [exactly]
  | cons b s induction =>
      cases file with
      | nil => simp [exactly, Pattern.matches]
      | cons c file =>
          have later := @induction file
          simp only [exactly, List.map_cons, List.cons_append, Pattern.matches,
            Bool.and_eq_true, beq_iff_eq] at later ⊢
          rw [later]
          simp only [List.cons.injEq]
          constructor
          · rintro ⟨rfl, rest, rfl, found⟩
            exact ⟨rest, ⟨rfl, rfl⟩, found⟩
          · rintro ⟨rest, ⟨rfl, rfl⟩, found⟩
            exact ⟨rfl, rest, rfl, found⟩

theorem exists_of_matches_exactly {s : Bytes}
    (found : Pattern.matches (exactly s) file = true) :
    ∃ rest, file = s ++ rest := by
  rw [← List.append_nil (exactly s)] at found
  obtain ⟨rest, same, -⟩ := matches_exactly_append.1 found
  exact ⟨rest, same⟩

private theorem exists_of_matches_anyByte {n : Nat} {p : Pattern}
    (found : Pattern.matches (anyByte n ++ p) file = true) :
    ∃ skipped rest : Bytes, skipped.length = n ∧ file = skipped ++ rest ∧
      p.matches rest = true := by
  induction n generalizing file with
  | zero => exact ⟨[], file, rfl, rfl, found⟩
  | succ n induction =>
      cases file with
      | nil => cases found
      | cons b file =>
          obtain ⟨skipped, rest, length, same, found⟩ := induction found
          exact ⟨b :: skipped, rest, by rw [List.length_cons, length],
            by rw [same]; rfl, found⟩

def Begins : ImageFormat → Bytes → Prop
  | .png, file => ∃ rest, file = Png.signature ++ rest
  | .jpeg, file => ∃ rest, file = [0xff, 0xd8] ++ rest
  | .gif, file => ∃ rest, file = utf8 "GIF8" ++ rest
  | .webp, file =>
      ∃ size rest : Bytes, size.length = 4 ∧
        file = utf8 "RIFF" ++ (size ++ (utf8 "WEBPVP8" ++ rest))
  | .bmp, file => ∃ rest, file = utf8 "BM" ++ rest
  | .tiff, file =>
      ∃ rest, file = [0x49, 0x49] ++ rest ∨ file = [0x4d, 0x4d] ++ rest

private theorem begins_of_of? (announced : of? file = some format) :
    Begins format file := by
  obtain ⟨⟨_, pattern⟩, found, rfl⟩ := Option.map_eq_some_iff.1 announced
  have holds := List.find?_some found
  have member := List.mem_of_find?_eq_some found
  simp only [patterns, List.mem_cons, List.not_mem_nil, or_false, Prod.mk.injEq]
    at member
  simp only at holds
  rcases member with ⟨rfl, rfl⟩ | ⟨rfl, rfl⟩ | ⟨rfl, rfl⟩ | ⟨rfl, rfl⟩ |
    ⟨rfl, rfl⟩ | ⟨rfl, rfl⟩ | ⟨rfl, rfl⟩
  · exact exists_of_matches_exactly holds
  · exact exists_of_matches_exactly holds
  · rw [List.append_assoc] at holds
    obtain ⟨rest, same, -⟩ := matches_exactly_append.1 holds
    exact ⟨rest, same⟩
  · rw [List.append_assoc] at holds
    obtain ⟨first, opened, after⟩ := matches_exactly_append.1 holds
    obtain ⟨size, second, length, skipped, named⟩ :=
      exists_of_matches_anyByte after
    obtain ⟨rest, ended⟩ := exists_of_matches_exactly named
    exact ⟨size, rest, length, by rw [opened, skipped, ended]⟩
  · rw [List.append_assoc] at holds
    obtain ⟨rest, same, -⟩ := matches_exactly_append.1 holds
    exact ⟨rest, same⟩
  · obtain ⟨rest, same⟩ := exists_of_matches_exactly holds
    exact ⟨_, .inl same⟩
  · obtain ⟨rest, same⟩ := exists_of_matches_exactly holds
    exact ⟨_, .inr same⟩

/-- The files that are sent as they are: all WebP files, PNG files without the
mark of an animation at its usual place, and JPEG files whose first segment
follows at once. -/
def takenAsIs : ImageFormat → Bytes → Bool
  | .png, file => !Bytes.startsWith "acTL" (file.drop 37)
  | .jpeg, file => Bytes.startsWith [0xff] (file.drop 2)
  | .webp, _ => true
  | .gif, _ | .bmp, _ | .tiff, _ => false

def mime (format : ImageFormat) : Bytes :=
  utf8 "image/" ++ format.name

private theorem mime_mem (taken : takenAsIs format file = true) :
    format.mime ∈ [utf8 "image/jpeg", utf8 "image/png", utf8 "image/webp"] := by
  cases format with
  | png => decide
  | jpeg => decide
  | webp => decide
  | gif => cases taken
  | bmp => cases taken
  | tiff => cases taken

private theorem passThroughType?_png (rest : Bytes) :
    passThroughType? (Png.signature ++ rest) =
      if takenAsIs .png (Png.signature ++ rest) then some (mime .png)
      else none := by
  have named : utf8 "image/png" = mime .png := by decide
  have sign : Bytes.startsWith Png.signature (Png.signature ++ rest) = true :=
    Bytes.startsWith_append _ _
  cases marked : Bytes.startsWith (utf8 "acTL")
    ((Png.signature ++ rest).drop 37) with
  | true =>
      have taken : takenAsIs .png (Png.signature ++ rest) = false := by
        rw [takenAsIs, marked, Bool.not_true]
      simp only [passThroughType?, List.drop_zero, sign, marked, taken,
        if_true, Bool.false_eq_true, if_false]
  | false =>
      have taken : takenAsIs .png (Png.signature ++ rest) = true := by
        rw [takenAsIs, marked, Bool.not_false]
      simp only [passThroughType?, List.drop_zero, sign, marked, taken,
        if_true, Bool.false_eq_true, if_false, named]

private theorem riff_eq : utf8 "RIFF" = [0x52, 0x49, 0x46, 0x46] := by decide

private theorem passThroughType?_webp {size : Bytes} (length : size.length = 4)
    (rest : Bytes) :
    passThroughType? (utf8 "RIFF" ++ (size ++ (utf8 "WEBPVP8" ++ rest))) =
      some (mime .webp) := by
  have parts : utf8 "WEBPVP8" = utf8 "WEBP" ++ utf8 "VP8" := by decide
  have there : (utf8 "RIFF" ++ (size ++ (utf8 "WEBPVP8" ++ rest))).drop 8 =
      utf8 "WEBP" ++ (utf8 "VP8" ++ rest) := by
    rw [← List.append_assoc,
      List.drop_left' (by rw [List.length_append, length, riff_eq]; rfl),
      parts, List.append_assoc]
  have webp : utf8 "image/webp" = mime .webp := by decide
  simp only [passThroughType?, there, List.drop_zero,
    Bytes.startsWith_append, webp, if_true, Bool.and_self]
  simp [riff_eq, Bytes.startsWith, Png.signature]

private theorem passThroughType?_of_begins (begins : Begins format file) :
    passThroughType? file = if takenAsIs format file then
      some format.mime else none := by
  cases format with
  | png =>
      obtain ⟨rest, rfl⟩ := begins
      exact passThroughType?_png rest
  | jpeg =>
      obtain ⟨rest, rfl⟩ := begins
      have named : utf8 "image/jpeg" = mime .jpeg := by decide
      simp [passThroughType?, takenAsIs, riff_eq, Bytes.startsWith,
        Png.signature, named]
  | gif =>
      have gif : utf8 "GIF8" = [0x47, 0x49, 0x46, 0x38] := by decide
      obtain ⟨rest, rfl⟩ := begins
      simp [passThroughType?, takenAsIs, riff_eq, gif, Bytes.startsWith,
        Png.signature]
  | webp =>
      obtain ⟨size, rest, length, rfl⟩ := begins
      exact passThroughType?_webp length rest
  | bmp =>
      have bmp : utf8 "BM" = [0x42, 0x4d] := by decide
      obtain ⟨rest, rfl⟩ := begins
      simp [passThroughType?, takenAsIs, riff_eq, bmp, Bytes.startsWith,
        Png.signature]
  | tiff =>
      obtain ⟨rest, rfl | rfl⟩ := begins
      · simp [passThroughType?, takenAsIs, riff_eq, Bytes.startsWith,
          Png.signature]
      · simp [passThroughType?, takenAsIs, riff_eq, Bytes.startsWith,
          Png.signature]

end ImageFormat

namespace Png

/-- A file of a picture: it announces the size of the picture and, unless that
is beyond what readers take, is read as a picture of this size, with the same
pixels if each index has its colour. -/
structure Depicts (file : Bytes) (p : Picture) : Prop where
  opened : Bytes.startsWith signature file = true
  headed : (file.drop 12).take 4 = PngChunk.name .header
  width_eq : (Bytes.bigEndian ((file.drop 16).take 4) : Int) = p.width
  height_eq : (Bytes.bigEndian ((file.drop 20).take 4) : Int) = p.height
  read : Readable p.width.toNat p.height.toNat → p.Fits →
    ∃ pixels, decode file =
      .ok { width := p.width, height := p.height, pixels } ∧
      (p.pixels.Coloured → pixels = asWritten p.pixels)

theorem encode_eq (p : Picture) :
    ∃ name data rest, (name = PngChunk.name .palette ∨
      name = PngChunk.name .data) ∧
      encode p = signature ++ (chunk (PngChunk.name .header)
        ((formOf p.pixels).header p.width.toNat p.height.toNat) ++
          (chunk name data ++ rest)) := by
  have parts : ∃ first others,
      pieces
        ((Zlib.write ((formOf p.pixels).rows p.width.toNat
          p.height.toNat)).length + 1)
      (Zlib.write ((formOf p.pixels).rows p.width.toNat p.height.toNat)) =
        first :: others := by
    apply List.exists_cons_of_ne_nil
    intro none
    have joined := flatten_pieces (Nat.lt_succ_self
      (Zlib.write ((formOf p.pixels).rows p.width.toNat p.height.toNat)).length)
    rw [none] at joined
    exact write_ne_nil _ joined.symm
  obtain ⟨first, others, parts⟩ := parts
  have file : encode p = signature ++ (chunk (PngChunk.name .header)
      ((formOf p.pixels).header p.width.toNat p.height.toNat) ++
        ((formOf p.pixels).chunks ++
          (chunk (PngChunk.name .data) first ++
            (others.flatMap (chunk (PngChunk.name .data)) ++
          chunk (PngChunk.name .ending) [])))) := by
    simp only [encode, parts, List.flatMap_cons, List.append_assoc]
  by_cases indexed : ∃ palette indices, p.pixels = .indexed palette indices
  · obtain ⟨palette, indices, same⟩ := indexed
    have chunks : (formOf p.pixels).chunks = paletteChunks palette.toList := by
      rw [same]; rfl
    rw [chunks, paletteChunks, List.append_assoc] at file
    exact ⟨_, _, _, .inl rfl, file⟩
  · obtain ⟨-, none⟩ := formOf_plain fun palette indices same =>
      indexed ⟨palette, indices, same⟩
    rw [none, List.nil_append] at file
    exact ⟨_, _, _, .inr rfl, file⟩

private theorem drop_encode (p : Picture) :
    ∃ rest, (encode p).drop 12 = PngChunk.name .header ++
      (Bytes.toBigEndian 4 p.width.toNat ++
        (Bytes.toBigEndian 4 p.height.toNat ++ rest)) := by
  obtain ⟨name, data, rest, -, file⟩ := encode_eq p
  rw [file, chunk_eq, Form.header]
  simp only [List.append_assoc]
  rw [← List.append_assoc signature, List.drop_left' (by simp [signature])]
  exact ⟨_, rfl⟩

private theorem depicts_encode {p : Picture}
    (writable : unwritable? p = none)
    (filled : p.Filled) : Depicts (encode p) p := by
  obtain ⟨rest, inner⟩ := drop_encode p
  obtain ⟨⟨wide, width_lt⟩, ⟨high, height_lt⟩, -⟩ :=
    unwritable?_eq_none writable
  have named : (PngChunk.name .header).length = 4 := by decide
  have fourth : (encode p).drop 16 =
      Bytes.toBigEndian 4 p.width.toNat ++
        (Bytes.toBigEndian 4 p.height.toNat ++ rest) := by
    have after := congrArg (List.drop 4) inner
    rwa [List.drop_drop, List.drop_left' named] at after
  have eighth :
      (encode p).drop 20 = Bytes.toBigEndian 4 p.height.toNat ++ rest := by
    have after := congrArg (List.drop 4) fourth
    rwa [List.drop_drop, List.drop_left' (Bytes.length_toBigEndian _ _)]
      at after
  refine ⟨?_, ?_, ?_, ?_, decode_encode writable filled⟩
  · obtain ⟨name, data, rest, -, file⟩ := encode_eq p
    rw [file]
    exact Bytes.startsWith_append _ _
  · rw [inner, List.take_left' named]
  · rw [fourth, List.take_left' (Bytes.length_toBigEndian _ _),
      Bytes.bigEndian_toBigEndian (by omega)]
    omega
  · rw [eighth, List.take_left' (Bytes.length_toBigEndian _ _),
      Bytes.bigEndian_toBigEndian (by omega)]
    omega

private theorem unmarked_encode (p : Picture) :
    Bytes.startsWith (utf8 "acTL") ((encode p).drop 37) = false := by
  obtain ⟨name, data, rest, which, file⟩ := encode_eq p
  have before :
      (signature ++ (chunk (PngChunk.name .header)
        ((formOf p.pixels).header p.width.toNat p.height.toNat) ++
      Bytes.toBigEndian 4 data.length)).length = 37 := by
    simp [chunk_eq, sumOf, Form.header, signature]
    decide
  have there : (encode p).drop 37 =
      name ++ (data ++ (sumOf (name ++ data) ++ rest)) := by
    rw [file, chunk_eq name]
    simp only [List.append_assoc]
    rw [← List.append_assoc (chunk _ _), ← List.append_assoc signature,
      List.drop_left' before]
  have mark : utf8 "acTL" = [0x61, 0x63, 0x54, 0x4c] := by decide
  rw [there, mark]
  cases which with
  | inl palette =>
      have plte : PngChunk.name .palette = [0x50, 0x4c, 0x54, 0x45] := by decide
      rw [palette, plte]
      rfl
  | inr pixels =>
      have idat : PngChunk.name .data = [0x49, 0x44, 0x41, 0x54] := by decide
      rw [pixels, idat]
      rfl

end Png

namespace Reading

private theorem ofFile_eq_ok_iff {file : Bytes} {format : ImageFormat}
    {content : Reading} :
    ofFile file = .ok (format, content) ↔ ImageFormat.of? file = some format ∧
      read format file = .ok content := by
  unfold ofFile
  cases announced : ImageFormat.of? file with
  | none => simp
  | some found =>
      simp only [map_eq_ok_iff, Prod.mk.injEq, Option.some.injEq]
      constructor
      · rintro ⟨_, read, rfl, rfl⟩
        exact ⟨rfl, read⟩
      · rintro ⟨rfl, read⟩
        exact ⟨content, read, rfl, rfl⟩

end Reading

theorem exists_ok_of_any {ε α : Type} {x : Except ε α} {p : α → Bool}
    (holds : x.toOption.any p = true) :
    ∃ a, x = .ok a ∧ p a = true := by
  cases x with
  | error e => cases holds
  | ok a => exact ⟨a, rfl, holds⟩

namespace Decoded

open ImageFormat (takenAsIs)

variable {file : Bytes} {d : Decoded}

private theorem decode_of_error {fault : ImageFault}
    (failed : Reading.ofFile file = .error fault) :
    decode file = .error fault := by
  rw [decode, failed]

/-- What a decoded upload is: the file as it came, or the picture that was read
of it. -/
theorem decode_cases (ok : decode file = .ok d) :
    ∃ content, Reading.ofFile file = .ok (d.format, content) ∧
      ImageFormat.Begins d.format file ∧
      d.bounds = content.bounds ∧
      ((takenAsIs d.format file = true ∧
        d.payload = .upload d.format.mime file) ∨
        (takenAsIs d.format file = false ∧
          ∃ picture, content = .pixels picture ∧
          Png.unwritable? picture = none ∧
          picture.Filled ∧ (d.format ≠ .bmp → picture.pixels.Coloured) ∧
          (d.format ≠ .tiff → file.length < 0x80000000 → picture.InRange) ∧
            d.payload = .png picture)) := by
  unfold decode at ok
  split at ok
  next => cases ok
  next format content found =>
    obtain ⟨announced, read⟩ := Reading.ofFile_eq_ok_iff.1 found
    have begins := ImageFormat.begins_of_of? announced
    have sniffed := ImageFormat.passThroughType?_of_begins begins
    cases taken : takenAsIs format file with
    | true =>
        rw [taken, if_pos rfl] at sniffed
        simp only [sniffed] at ok
        cases ok
        exact ⟨content, found, begins, rfl, .inl ⟨taken, rfl⟩⟩
    | false =>
        rw [taken, if_neg (by decide)] at sniffed
        simp only [sniffed] at ok
        split at ok
        next same => cases same
        next => cases ok
        next picture _ =>
          split at ok
          next => cases ok
          next writable =>
            cases ok
            obtain ⟨filled, coloured, inRange⟩ := Reading.whole_of_read read
            exact ⟨_, found, begins, rfl,
              .inr ⟨taken, picture, rfl, writable, filled,
                fun other => coloured other writable, inRange, rfl⟩⟩

theorem encode_ne {format : ImageFormat}
    (begins : ImageFormat.Begins format file)
    (taken : takenAsIs format file = false)
    (picture : Picture) :
    Png.encode picture ≠ file := by
  intro same
  obtain ⟨name, data, more, -, opened⟩ := Png.encode_eq picture
  rw [same] at opened
  cases format with
  | png =>
      have unmarked := Png.unmarked_encode picture
      rw [same] at unmarked
      rw [takenAsIs, unmarked] at taken
      cases taken
  | jpeg =>
      obtain ⟨rest, rfl⟩ := begins
      simp [Png.signature] at opened
  | gif =>
      have gif : utf8 "GIF8" = [0x47, 0x49, 0x46, 0x38] := by decide
      obtain ⟨rest, rfl⟩ := begins
      simp [Png.signature, gif] at opened
  | webp => cases taken
  | bmp =>
      have bmp : utf8 "BM" = [0x42, 0x4d] := by decide
      obtain ⟨rest, rfl⟩ := begins
      simp [Png.signature, bmp] at opened
  | tiff =>
      obtain ⟨rest, rfl | rfl⟩ := begins
      · simp [Png.signature] at opened
      · simp [Png.signature] at opened

/-- An upload is sent unchanged, under the media type of its format, exactly if
it is a WebP file, a PNG file without the mark of an animation, or a JPEG file
whose first segment follows at once. Every other upload is sent as a PNG file of
the picture that was read. -/
theorem sent_unchanged_iff (ok : decode file = .ok d) :
    (d.payload.data = file ↔ takenAsIs d.format file = true) ∧
      (takenAsIs d.format file = true →
        d.payload.mime = utf8 "image/" ++ d.format.name) ∧
      (takenAsIs d.format file = false → d.payload.mime = utf8 "image/png" ∧
        ∃ picture, Reading.ofFile file = .ok (d.format, .pixels picture) ∧
          d.payload.data = Png.encode picture) := by
  obtain ⟨content, found, begins, -, ⟨taken, payload⟩ |
    ⟨taken, picture, rfl, -, -, -, -, payload⟩⟩ := decode_cases ok
  · rw [payload, taken]
    exact ⟨⟨fun _ => rfl, fun _ => rfl⟩, fun _ => rfl, nofun⟩
  · have differs : Png.encode picture ≠ file := encode_ne begins taken picture
    rw [payload, taken]
    exact ⟨⟨fun same => absurd same differs, nofun⟩, nofun, fun _ =>
      ⟨rfl, picture, found, rfl⟩⟩

def still : Bytes :=
  Png.encode { width := 1, height := 1, pixels := .gray8 #[42] }

def film : Bytes :=
  still.take 33 ++ (Png.chunk (utf8 "acTL") [0, 0, 0, 1, 0, 0, 0, 0] ++
    still.drop 33)

theorem still_sent_film_written :
    (∃ d, decode still = .ok d ∧ takenAsIs d.format still = true ∧
      d.payload.data = still ∧ d.payload.mime =
      utf8 "image/" ++ d.format.name) ∧
    ∃ d, decode film = .ok d ∧ takenAsIs d.format film = false ∧
      d.payload.mime = utf8 "image/png" ∧
      ∃ picture, Reading.ofFile film = .ok (d.format, .pixels picture) ∧
        d.payload.data = Png.encode picture := by
  constructor
  · obtain ⟨d, ok, taken⟩ : ∃ d, decode still = .ok d ∧
      takenAsIs d.format still = true :=
      exists_ok_of_any (by decide +kernel)
    obtain ⟨unchanged, named, -⟩ := sent_unchanged_iff ok
    exact ⟨d, ok, taken, unchanged.2 taken, named taken⟩
  · obtain ⟨d, ok, taken⟩ : ∃ d, decode film = .ok d ∧
      (!takenAsIs d.format film) = true :=
      exists_ok_of_any (by decide +kernel)
    have taken : takenAsIs d.format film = false := by simpa using taken
    obtain ⟨-, -, written⟩ := sent_unchanged_iff ok
    exact ⟨d, ok, taken, written taken⟩

theorem film_not_sent :
    ∃ d, decode film = .ok d ∧ d.format = .png ∧ d.payload.data ≠ film := by
  obtain ⟨d, ok, holds⟩ : ∃ d, decode film = .ok d ∧
    (d.format == .png && d.payload.data != film) = true :=
    exists_ok_of_any (by decide +kernel)
  have parts := Bool.and_eq_true_iff.1 holds
  exact ⟨d, ok, eq_of_beq parts.1, bne_iff_ne.1 parts.2⟩

def twoDots : Bytes :=
  [0x42, 0x4d, 62, 0, 0, 0, 0, 0, 0, 0, 54, 0, 0, 0, 40, 0, 0, 0, 1, 0, 0, 0, 2,
    0, 0, 0, 1, 0, 24, 0, 0, 0, 0, 0, 8, 0, 0, 0, 0, 0, 0, 0, 0, 0, 0, 0, 0, 0,
    0, 0, 0, 0, 0, 0, 1, 2, 3, 0, 4, 5, 6, 0]

end Decoded

end ModelGateway
