import ModelGateway.Json.Writer
import ModelGateway.Proofs.Trailing
import ModelGateway.Proofs.Unicode

/-!
String literals. A character can be written as it is, by a short escape, by four
hexadecimal digits or by a surrogate pair; the reader finds the character in
each of them, and the writer uses them.
-/

namespace ModelGateway.Document

def shortEscapes : List (UInt8 × Char) :=
  [(0x22, '"'), (0x5c, '\\'), (0x2f, '/'), (0x62, '\x08'), (0x66, '\x0c'),
    (0x6e, '\n'), (0x72, '\r'), (0x74, '\t')]

def hexNumber? (digits : Bytes) : Option Nat :=
  digits.foldlM (fun n b => (Bytes.hexValue? b).map (n * 16 + ·)) 0

structure WritesUnit (u : Nat) (digits : Bytes) : Prop where
  four : digits.length = 4
  value : hexNumber? digits = some u

/-- The texts for a character between quotes. -/
inductive Spells : Char → Bytes → Prop
  | raw {c : Char} (noControl : 0x20 ≤ c.toNat) (noQuote : c ≠ '"')
      (noBackslash : c ≠ '\\') :
      Spells c (utf8 (String.singleton c))
  | short {c : Char} {b : UInt8} (letter : (b, c) ∈ shortEscapes) :
      Spells c [0x5c, b]
  | unit {c : Char} {digits : Bytes} (writes : WritesUnit c.toNat digits) :
      Spells c (0x5c :: 0x75 :: digits)
  | pair {c : Char} {high low : Nat} {digits digits' : Bytes}
      (isHigh : 0xd800 ≤ high ∧ high < 0xdc00)
      (isLow : 0xdc00 ≤ low ∧ low < 0xe000) (writes : WritesUnit high digits)
      (writes' : WritesUnit low digits')
      (joined : c.toNat = 0x10000 + (high - 0xd800) * 0x400 + (low - 0xdc00)) :
      Spells c (0x5c :: 0x75 :: (digits ++ 0x5c :: 0x75 :: digits'))

/-- The texts between quotes that denote a string of characters. -/
inductive Denotes : List Char → Bytes → Prop
  | nil : Denotes [] []
  | cons {c : Char} {cs : List Char} {text rest : Bytes} (first : Spells c text)
      (others : Denotes cs rest) :
      Denotes (c :: cs) (text ++ rest)

theorem utf8_singleton (c : Char) :
    utf8 (String.singleton c) = Utf8.encode c.toNat := by
  rw [utf8_eq, String.toList_singleton, List.flatMap_singleton]

section Units

variable {u : Nat} {digits s : Bytes}

private theorem WritesUnit.exists_digits (writes : WritesUnit u digits) :
    ∃ a b c d, digits = [a, b, c, d] ∧
      ∀ rest, unit? (a :: b :: c :: d :: rest) = some (u, rest) := by
  obtain ⟨four, value⟩ := writes
  match digits, four with
  | [a, b, c, d], _ =>
      refine ⟨a, b, c, d, rfl, fun rest => ?_⟩
      simp only [hexNumber?, List.foldlM_cons, List.foldlM_nil,
        Option.bind_eq_bind, Option.bind_eq_some_iff,
        Option.map_eq_some_iff] at value
      obtain ⟨_, ⟨va, ha, rfl⟩, _, ⟨vb, hb, rfl⟩, _, ⟨vc, hc, rfl⟩, _,
        ⟨vd, hd, rfl⟩, total⟩ := value
      cases total
      simp [unit?, ha, hb, hc, hd]

theorem WritesUnit.hex (writes : WritesUnit u digits) :
    ∀ b ∈ digits, IsHexDigit b := by
  have value := writes.value
  unfold hexNumber? at value
  generalize 0 = n at value
  clear writes
  induction digits generalizing n with
  | nil => nofun
  | cons b rest induction =>
      rw [List.foldlM_cons, Option.bind_eq_bind, Option.bind_eq_some_iff]
        at value
      obtain ⟨m, digit, value⟩ := value
      obtain ⟨v, digit, -⟩ := Option.map_eq_some_iff.1 digit
      exact List.forall_mem_cons.2
        ⟨Option.isSome_of_eq_some digit, induction m value⟩

theorem glyphs_unit (writes : WritesUnit u digits) :
    glyphs (0x5c :: 0x75 :: (digits ++ s)) = .unit u :: glyphs s := by
  obtain ⟨a, b, c, d, rfl, read⟩ := writes.exists_digits
  simp [glyphs, read]

end Units

private theorem glyphs_raw {b : UInt8}
    (noBackslash : b ≠ 0x5c)
    (s : Bytes) :
    glyphs (b :: s) = .raw b :: glyphs s := by
  rw [glyphs.eq_def]
  split
  · simp_all
  · simp_all
  · simp_all
  · simp_all

private theorem glyphs_raws {raws : Bytes}
    (noBackslash : ∀ b ∈ raws, b ≠ 0x5c)
    (s : Bytes) :
    glyphs (raws ++ s) = raws.map .raw ++ glyphs s := by
  induction raws with
  | nil => rfl
  | cons b rest induction =>
      obtain ⟨noBackslash, others⟩ := List.forall_mem_cons.1 noBackslash
      rw [List.cons_append, glyphs_raw noBackslash, induction others]
      rfl

private theorem glyphs_short {b x : UInt8}
    (letter : shortEscape? b = some x)
    (s : Bytes) :
    glyphs (0x5c :: b :: s) = .raw x :: glyphs s := by
  have no_unit : b ≠ 0x75 := by
    rintro rfl
    cases letter
  rw [glyphs, letter]
  intro _ _ _ _ _ unit
  exact absurd unit no_unit

theorem shortEscape?_of_mem : ∀ escape ∈ shortEscapes,
    shortEscape? escape.1 = some escape.2.toNat.toUInt8 ∧
      escape.2.toNat < 0x80 := by
  decide

private theorem joinGlyphs_raws (raws : Bytes) (g : List Glyph) :
    joinGlyphs (raws.map .raw ++ g) = raws ++ joinGlyphs g := by
  induction raws with
  | nil => rfl
  | cons b rest induction =>
      rw [List.map_cons, List.cons_append, joinGlyphs, induction]
      rfl

private theorem joinGlyphs_scalar (c : Char) (g : List Glyph) :
    joinGlyphs (.unit c.toNat :: g) = Utf8.encode c.toNat ++ joinGlyphs g := by
  have noSurrogate : isSurrogate c.toNat = false := by
    have range := Utf8.scalar_range c
    simp [isSurrogate]
    omega
  rw [joinGlyphs.eq_def]
  simp [noSurrogate]

private theorem joinGlyphs_pair {high low : Nat}
    (isHigh : 0xd800 ≤ high ∧ high < 0xdc00)
    (isLow : 0xdc00 ≤ low ∧ low < 0xe000)
    (g : List Glyph) :
    joinGlyphs (.unit high :: .unit low :: g) =
      Utf8.encode (0x10000 + (high - 0xd800) * 0x400 + (low - 0xdc00)) ++
        joinGlyphs g := by
  have surrogate : isSurrogate high = true := by
    simp [isSurrogate]
    omega
  have joins : (isHighSurrogate high && isLowSurrogate low) = true := by
    simp [isHighSurrogate, isLowSurrogate, isHigh, isLow]
  rw [joinGlyphs.eq_def]
  simp [surrogate, joins]

theorem encode_plain {c : Char}
    (noControl : 0x20 ≤ c.toNat) (noQuote : c ≠ '"')
    (noBackslash : c ≠ '\\') :
    ∀ b ∈ Utf8.encode c.toNat, ¬ b < 0x20 ∧ b ≠ 0x22 ∧ b ≠ 0x5c := by
  have range := Utf8.scalar_range c
  have noQuote : c.toNat ≠ 0x22 :=
    fun equal => noQuote (Char.ofNat_toNat c ▸ equal ▸ rfl)
  have noBackslash : c.toNat ≠ 0x5c :=
    fun equal => noBackslash (Char.ofNat_toNat c ▸ equal ▸ rfl)
  intro b member
  have apart : 0x20 ≤ b.toNat ∧ b.toNat ≠ 0x22 ∧ b.toNat ≠ 0x5c := by
    by_cases ascii : c.toNat < 0x80
    · rw [Utf8.encode, if_pos ascii, List.mem_singleton] at member
      have byte : c.toNat.toUInt8.toNat = c.toNat := Utf8.toNat_byte (by omega)
      rw [member, byte]
      exact ⟨noControl, noQuote, noBackslash⟩
    · have high := Utf8.encode_high (by omega) (by omega) b member
      omega
  rw [UInt8.lt_iff_toNat_lt, ne_eq, ne_eq, ← UInt8.toNat_inj, ← UInt8.toNat_inj]
  exact ⟨Nat.not_lt.2 apart.1, apart.2⟩

private theorem isQuoted_plain {raws s : Bytes}
    (plain : ∀ b ∈ raws, ¬ b < 0x20 ∧ b ≠ 0x22 ∧ b ≠ 0x5c)
    (rest : IsQuoted s) : IsQuoted (raws ++ s) := by
  induction raws with
  | nil => exact rest
  | cons b raws induction =>
      obtain ⟨⟨noControl, noQuote, noBackslash⟩, others⟩ :=
        List.forall_mem_cons.1 plain
      exact .plain noControl noQuote noBackslash (induction others)

private theorem ascii_of_mem :
    ∀ escape ∈ shortEscapes, escape.1.toNat < 0x80 := by
  decide

private theorem ascii_of_isHexDigit {b : UInt8}
    (hex : IsHexDigit b) : b.toNat < 0x80 := by
  unfold IsHexDigit Bytes.hexValue? Bytes.isDigit at hex
  simp only [Bool.and_eq_true, decide_eq_true_eq, UInt8.le_iff_toNat_le,
    UInt8.toNat_ofNat] at hex
  split_ifs at hex <;> first | omega | cases hex

theorem ascii_of_unit {u : Nat} {digits : Bytes}
    (writes : WritesUnit u digits) :
    ∀ b ∈ 0x5c :: 0x75 :: digits, b.toNat < 0x80 := by
  refine List.forall_mem_cons.2
    ⟨by decide, List.forall_mem_cons.2 ⟨by decide, ?_⟩⟩
  intro b member
  exact ascii_of_isHexDigit (writes.hex b member)

section Spells

variable {c : Char} {text s : Bytes}

private theorem Spells.join_eq (spells : Spells c text) (s : Bytes) :
    joinGlyphs (glyphs (text ++ s)) = Utf8.encode c.toNat ++
      joinGlyphs (glyphs s) := by
  cases spells with
  | raw noControl noQuote noBackslash =>
      have plain := encode_plain noControl noQuote noBackslash
      rw [utf8_singleton, glyphs_raws (fun b member => (plain b member).2.2),
        joinGlyphs_raws]
  | short letter =>
      obtain ⟨read, ascii⟩ := shortEscape?_of_mem _ letter
      rw [List.cons_append, List.cons_append, List.nil_append,
        glyphs_short read, joinGlyphs, Utf8.encode, if_pos ascii]
      rfl
  | unit writes =>
      rw [List.cons_append, List.cons_append, glyphs_unit writes,
        joinGlyphs_scalar]
  | pair isHigh isLow writes writes' joined =>
      rw [List.cons_append, List.cons_append, List.append_assoc,
        glyphs_unit writes, List.cons_append, List.cons_append,
        glyphs_unit writes', joinGlyphs_pair isHigh isLow, ← joined]

theorem Spells.sanitize_eq (spells : Spells c text) (s : Bytes) :
    Utf8.sanitize (text ++ s) = text ++ Utf8.sanitize s := by
  cases spells with
  | raw noControl noQuote noBackslash =>
      rw [utf8_singleton, Utf8.sanitize_encode]
  | short letter =>
      apply Utf8.sanitize_asciis
      have ascii := ascii_of_mem _ letter
      simpa using ascii
  | unit writes => exact Utf8.sanitize_asciis (ascii_of_unit writes) s
  | @pair high low digits digits' isHigh isLow writes writes' joined =>
      have split : 0x5c :: 0x75 :: (digits ++ 0x5c :: 0x75 :: digits') =
          (0x5c :: 0x75 :: digits) ++ (0x5c :: 0x75 :: digits') := rfl
      rw [split, List.append_assoc, Utf8.sanitize_asciis (ascii_of_unit writes),
        Utf8.sanitize_asciis (ascii_of_unit writes'), List.append_assoc]

theorem Spells.isQuoted (spells : Spells c text)
    (rest : IsQuoted s) : IsQuoted (text ++ s) := by
  cases spells with
  | raw noControl noQuote noBackslash =>
      rw [utf8_singleton]
      exact isQuoted_plain (encode_plain noControl noQuote noBackslash) rest
  | short letter =>
      have read := (shortEscape?_of_mem _ letter).1
      exact .short (Option.isSome_of_eq_some read) rest
  | unit writes => exact .unit writes.four writes.hex rest
  | pair isHigh isLow writes writes' joined =>
      have second := IsQuoted.unit writes'.four writes'.hex rest
      have both := IsQuoted.unit writes.four writes.hex second
      rw [List.cons_append, List.cons_append, List.append_assoc]
      exact both

end Spells

section Denotes

variable {cs : List Char} {raw : Bytes}

theorem Denotes.isQuoted (denotes : Denotes cs raw) : IsQuoted raw := by
  induction denotes with
  | nil => exact .nil
  | cons first _ induction => exact first.isQuoted induction

theorem Denotes.sanitize_eq (denotes : Denotes cs raw) :
    Utf8.sanitize raw = raw := by
  induction denotes with
  | nil => rfl
  | cons first _ induction => rw [first.sanitize_eq, induction]

theorem Denotes.unescape_eq (denotes : Denotes cs raw) :
    unescape raw = cs.flatMap fun c => Utf8.encode c.toNat := by
  rw [unescape, denotes.sanitize_eq]
  induction denotes with
  | nil => rfl
  | cons first _ induction => rw [first.join_eq, induction, List.flatMap_cons]

theorem Denotes.text {p : String} (denotes : Denotes p.toList raw)
    (depth : Nat) :
    Text depth (.string (utf8 p)) (0x22 :: (raw ++ [0x22])) := by
  rw [utf8_eq, ← denotes.unescape_eq]
  exact .string denotes.isQuoted

end Denotes

section Writing

private theorem hexValue?_hexDigit {v : Nat} (small : v < 16) :
    Bytes.hexValue? (Bytes.hexDigit v) = some v := by
  have all : ∀ v : Fin 16, Bytes.hexValue? (Bytes.hexDigit v) = some v.val := by
    decide
  exact all ⟨v, small⟩

private theorem writesUnit_hexDigits {u : Nat} (small : u < 65536) :
    WritesUnit u (Bytes.hexDigits 4 u) := by
  have digit (n : Nat) : Bytes.hexValue? (Bytes.hexDigit (n % 16)) =
      some (n % 16) :=
    hexValue?_hexDigit (Nat.mod_lt n (by decide))
  have digits : Bytes.hexDigits 4 u =
      [Bytes.hexDigit (u / 4096 % 16), Bytes.hexDigit (u / 256 % 16),
        Bytes.hexDigit (u / 16 % 16), Bytes.hexDigit (u / 1 % 16)] :=
    rfl
  constructor
  · rw [digits]
    rfl
  · simp only [digits, hexNumber?, List.foldlM_cons, List.foldlM_nil, digit,
      Option.map_some, Option.bind_eq_bind, Option.bind_some, Option.pure_def,
      Option.some.injEq]
    omega

theorem spells_short {c : Char} {b : UInt8} (code : Nat)
    (letter : (b, Char.ofNat code) ∈ shortEscapes)
    (equal : (c.toNat == code) = true) : Spells c [0x5c, b] := by
  rw [← eq_of_beq equal, Char.ofNat_toNat] at letter
  exact .short letter

private theorem spells_escapeCode (c : Char) :
    Spells c (escapeCode c.toNat) := by
  unfold escapeCode
  split_ifs with quote backslash back feed line carriage tab escaped
  · exact spells_short 0x22 (by decide) quote
  · exact spells_short 0x5c (by decide) backslash
  · exact spells_short 0x08 (by decide) back
  · exact spells_short 0x0c (by decide) feed
  · exact spells_short 0x0a (by decide) line
  · exact spells_short 0x0d (by decide) carriage
  · exact spells_short 0x09 (by decide) tab
  · have small : c.toNat < 65536 := by
      simp only [Bool.or_eq_true, decide_eq_true_eq, beq_iff_eq] at escaped
      omega
    exact .unit (writesUnit_hexDigits small)
  · have noControl : 0x20 ≤ c.toNat := by
      simp only [Bool.or_eq_true, decide_eq_true_eq, not_or] at escaped
      omega
    rw [← utf8_singleton]
    refine .raw noControl ?_ ?_
    · rintro rfl
      exact quote rfl
    · rintro rfl
      exact backslash rfl

/-- Between quotes the writer shows the characters of a text, and the
replacement character for each stray byte. -/
theorem denotes_chars (s : Bytes) : Denotes (Utf8.chars s) (escape s) := by
  induction s using Utf8.induction_on_pieces with
  | nil => exact .nil
  | scalar c rest ih =>
      rw [Utf8.chars_encode, escape, Utf8.pieces_encode, List.flatMap_cons]
      exact .cons (spells_escapeCode c) ih
  | stray b rest broken ih =>
      rw [Utf8.chars, Utf8.codes, escape, broken]
      exact .cons (.unit ⟨rfl, rfl⟩) ih

theorem denotes_escape (s : String) : Denotes s.toList (escape (utf8 s)) := by
  rw [← Utf8.chars_utf8]
  exact denotes_chars (utf8 s)

theorem text_writeString (s : Bytes) (depth : Nat) :
    Text depth (.string (Utf8.sanitize s)) (writeString s) := by
  have denotes := denotes_chars s
  rw [Utf8.sanitize_eq, ← denotes.unescape_eq]
  exact .string denotes.isQuoted

def writeField (field : Bytes × Document) : Bytes :=
  writeString field.1 ++ 0x3a :: field.2.write

def writeFieldsEnd : List (Bytes × Document) → Bytes
  | [] => [0x7d]
  | field :: rest => 0x2c :: (writeField field ++ writeFieldsEnd rest)

theorem writeFields_cons (field : Bytes × Document)
    (rest : List (Bytes × Document)) :
    writeFields (field :: rest) ++ [0x7d] =
      writeField field ++ writeFieldsEnd rest := by
  induction rest generalizing field with
  | nil => rfl
  | cons next rest induction =>
      rw [writeFieldsEnd, ← induction, writeField, writeFields]
      · simp
      · exact List.cons_ne_nil next rest

section Fields

variable {depth : Nat} {field read : Bytes × Document}
    {fields reads : List (Bytes × Document)}

structure WritesField (depth : Nat) (field read : Bytes × Document) : Prop where
  name : read.1 = Utf8.sanitize field.1
  value : Text depth read.2 field.2.write

theorem WritesField.text (writes : WritesField depth field read) :
    FieldText depth read (writeField field) := by
  obtain ⟨name, value⟩ := writes
  obtain ⟨key, d⟩ := read
  change key = Utf8.sanitize field.1 at name
  have denotes := denotes_chars field.1
  have text := FieldText.mk denotes.isQuoted isBlank_nil isBlank_nil value
  rw [denotes.unescape_eq, ← Utf8.sanitize_eq, ← name] at text
  simpa [writeField, writeString] using text

private theorem fieldsEnd_write
    (each : List.Forall₂ (WritesField depth) fields reads) :
    FieldsEnd depth reads (writeFieldsEnd fields) := by
  induction each with
  | nil => exact .close isBlank_nil
  | cons first _ induction =>
      exact .more isBlank_nil isBlank_nil first.text induction

private theorem text_write_object
    (each : List.Forall₂ (WritesField depth) fields reads) :
    Text (depth + 1) (.object reads) (write (.object fields)) := by
  cases each with
  | nil => exact .emptyObject isBlank_nil
  | cons first others =>
      rw [write, List.cons_append, writeFields_cons]
      exact .object isBlank_nil first.text (fieldsEnd_write others)

theorem read?_write_object
    (each : List.Forall₂ (WritesField (maxDepth - 1)) fields reads) :
    read? (write (.object fields)) = some (.object reads) := by
  rw [read?_eq_object_iff]
  exact ⟨[], _, [], (List.append_nil _).symm, isBlank_nil, isBlank_nil,
    text_write_object each⟩

theorem read?_write_texts (fields : List (String × String)) :
    read?
      (write (.object (fields.map fun field =>
        textField (utf8 field.1) (utf8 field.2)))) =
      some (.object (fields.map fun field =>
        textField (utf8 field.1) (utf8 field.2))) := by
  apply read?_write_object
  rw [List.forall₂_same]
  intro field member
  obtain ⟨⟨name, value⟩, -, rfl⟩ := List.mem_map.1 member
  have text := text_writeString (utf8 value) (maxDepth - 1)
  rw [Utf8.sanitize_utf8] at text
  exact ⟨(Utf8.sanitize_utf8 name).symm, text⟩

end Fields

end Writing

end ModelGateway.Document
