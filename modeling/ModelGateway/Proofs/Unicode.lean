import Mathlib.Tactic.SplitIfs
import ModelGateway.Text.Utf8

namespace ModelGateway

namespace Utf8

section Bytes

variable {a b c d : UInt8} {s : Bytes}

theorem pieces_one (ascii : a.toNat < 0x80) :
    pieces (a :: s) = .scalar a.toNat :: pieces s := by
  have low : a < 0x80 := UInt8.lt_iff_toNat_lt.2 ascii
  rw [pieces.eq_def]
  exact if_pos low

theorem isTail_iff : isTail b = true ↔ 0x80 ≤ b.toNat ∧ b.toNat ≤ 0xbf := by
  simp [isTail, UInt8.le_iff_toNat_le]

theorem isSecondOfThree_iff :
    isSecondOfThree a b = true ↔ 0xe0 ≤ a.toNat ∧ a.toNat ≤ 0xef ∧
      0x80 ≤ b.toNat ∧ b.toNat ≤ 0xbf ∧
      (a.toNat = 0xe0 → 0xa0 ≤ b.toNat) ∧
        (a.toNat = 0xed → b.toNat ≤ 0x9f) := by
  simp only [isSecondOfThree, isTail, Bool.or_eq_true, Bool.and_eq_true,
    decide_eq_true_eq, beq_iff_eq, ← UInt8.toNat_inj, UInt8.le_iff_toNat_le,
    UInt8.toNat_ofNat]
  omega

theorem isSecondOfFour_iff :
    isSecondOfFour a b = true ↔ 0xf0 ≤ a.toNat ∧ a.toNat ≤ 0xf4 ∧
      0x80 ≤ b.toNat ∧ b.toNat ≤ 0xbf ∧
      (a.toNat = 0xf0 → 0x90 ≤ b.toNat) ∧
        (a.toNat = 0xf4 → b.toNat ≤ 0x8f) := by
  simp only [isSecondOfFour, isTail, Bool.or_eq_true, Bool.and_eq_true,
    decide_eq_true_eq, beq_iff_eq, ← UInt8.toNat_inj, UInt8.le_iff_toNat_le,
    UInt8.toNat_ofNat]
  omega

private theorem pieces_two (low : 0xc2 ≤ a.toNat)
    (high : a.toNat ≤ 0xdf) (tail : isTail b = true) :
    pieces (a :: b :: s) = .scalar (a.toNat % 32 * 64 + tailBits b) ::
      pieces s := by
  have lead : ¬ a < 0x80 ∧ 0xc2 ≤ a ∧ a ≤ 0xdf := by
    simp only [UInt8.lt_iff_toNat_lt, UInt8.le_iff_toNat_le, UInt8.toNat_ofNat]
    omega
  rw [pieces.eq_def]
  simp [lead, tail]

private theorem pieces_three (low : 0xe0 ≤ a.toNat)
    (second : isSecondOfThree a b = true)
    (tail : isTail c = true) :
    pieces (a :: b :: c :: s) =
      .scalar ((a.toNat % 16 * 64 + tailBits b) * 64 + tailBits c) ::
        pieces s := by
  have lead : ¬ a < 0x80 ∧ ¬ a ≤ 0xdf := by
    simp only [UInt8.lt_iff_toNat_lt, UInt8.le_iff_toNat_le, UInt8.toNat_ofNat]
    omega
  rw [pieces.eq_def]
  simp [lead, second, tail]

private theorem pieces_four (low : 0xf0 ≤ a.toNat)
    (second : isSecondOfFour a b = true)
    (tail : isTail c = true) (tail' : isTail d = true) :
    pieces (a :: b :: c :: d :: s) =
      .scalar (((a.toNat % 8 * 64 + tailBits b) * 64 + tailBits c) * 64 +
        tailBits d) :: pieces s := by
  have lead : ¬ a < 0x80 ∧ ¬ a ≤ 0xdf := by
    simp only [UInt8.lt_iff_toNat_lt, UInt8.le_iff_toNat_le, UInt8.toNat_ofNat]
    omega
  have no_three : isSecondOfThree a b = false := by
    rw [Bool.eq_false_iff, ne_eq, isSecondOfThree_iff]
    omega
  rw [pieces.eq_def]
  simp [lead, no_three, second, tail, tail']

end Bytes

theorem toNat_byte {n : Nat} (small : n < 256) : n.toUInt8.toNat = n := by
  simpa using small

theorem isTail_byte (n : Nat) : isTail (0x80 + n % 64).toUInt8 = true := by
  have byte : (0x80 + n % 64).toUInt8.toNat = 0x80 + n % 64 :=
    toNat_byte (by omega)
  rw [isTail_iff]
  omega

theorem tailBits_byte (n : Nat) :
    tailBits (0x80 + n % 64).toUInt8 = n % 64 := by
  have byte : (0x80 + n % 64).toUInt8.toNat = 0x80 + n % 64 :=
    toNat_byte (by omega)
  rw [tailBits]
  omega

theorem scalar_range (c : Char) :
    c.toNat < 0xd800 ∨ 0xe000 ≤ c.toNat ∧ c.toNat < 0x110000 := by
  obtain small | large := c.valid
  · exact .inl small
  · exact .inr ⟨Nat.succ_le_of_lt large.1, large.2⟩

theorem pieces_encode (c : Char) (s : Bytes) :
    pieces (encode c.toNat ++ s) = .scalar c.toNat :: pieces s := by
  have range := scalar_range c
  generalize c.toNat = code at range
  unfold encode
  -- One case for each length. The lead and tail bytes keep the scalar in
  -- digits to base 64, so `value` puts it together again.
  split_ifs with one two three
  · have byte : code.toUInt8.toNat = code := toNat_byte (by omega)
    have ascii : code.toUInt8.toNat < 0x80 := by omega
    rw [List.cons_append, List.nil_append, pieces_one ascii, byte]
  · have lead : (0xc0 + code / 64).toUInt8.toNat = 0xc0 + code / 64 :=
      toNat_byte (by omega)
    have low : 0xc2 ≤ (0xc0 + code / 64).toUInt8.toNat := by omega
    have high : (0xc0 + code / 64).toUInt8.toNat ≤ 0xdf := by omega
    have value : (0xc0 + code / 64) % 32 * 64 + code % 64 = code := by omega
    rw [List.cons_append, List.cons_append, List.nil_append,
      pieces_two low high (isTail_byte code), tailBits_byte, lead, value]
  · have lead : (0xe0 + code / 4096).toUInt8.toNat = 0xe0 + code / 4096 :=
      toNat_byte (by omega)
    have low : 0xe0 ≤ (0xe0 + code / 4096).toUInt8.toNat := by omega
    have second : isSecondOfThree (0xe0 + code / 4096).toUInt8
        (0x80 + code / 64 % 64).toUInt8 = true := by
      have byte :
          (0x80 + code / 64 % 64).toUInt8.toNat = 0x80 + code / 64 % 64 :=
        toNat_byte (by omega)
      rw [isSecondOfThree_iff]
      omega
    have value : ((0xe0 + code / 4096) % 16 * 64 + code / 64 % 64) * 64 + code %
        64 = code := by
      omega
    rw [List.cons_append, List.cons_append, List.cons_append, List.nil_append,
      pieces_three low second (isTail_byte code), tailBits_byte, tailBits_byte,
      lead, value]
  · have lead : (0xf0 + code / 262144).toUInt8.toNat = 0xf0 + code / 262144 :=
      toNat_byte (by omega)
    have low : 0xf0 ≤ (0xf0 + code / 262144).toUInt8.toNat := by omega
    have second : isSecondOfFour (0xf0 + code / 262144).toUInt8
        (0x80 + code / 4096 % 64).toUInt8 = true := by
      have byte :
          (0x80 + code / 4096 % 64).toUInt8.toNat = 0x80 + code / 4096 % 64 :=
        toNat_byte (by omega)
      rw [isSecondOfFour_iff]
      omega
    have value : (((0xf0 + code / 262144) % 8 * 64 + code / 4096 % 64) * 64 +
        code / 64 % 64) * 64 + code % 64 =
        code := by
      omega
    rw [List.cons_append, List.cons_append, List.cons_append, List.cons_append,
      List.nil_append, pieces_four low second (isTail_byte _)
        (isTail_byte code), tailBits_byte, tailBits_byte, tailBits_byte,
        lead, value]

theorem encode_high {code : Nat}
    (high : 0x80 ≤ code) (scalar : code < 0x110000) :
    ∀ b ∈ encode code, 0x80 ≤ b.toNat := by
  have byte (n : Nat) (low : 0x80 ≤ n) (small : n < 256) : 0x80 ≤
      n.toUInt8.toNat := by
    rwa [toNat_byte small]
  unfold encode
  split_ifs with one two three
  · omega
  · simp only [List.forall_mem_cons, List.not_mem_nil, false_implies,
      implies_true, and_true]
    exact ⟨byte _ (by omega) (by omega), byte _ (by omega) (by omega)⟩
  · simp only [List.forall_mem_cons, List.not_mem_nil, false_implies,
      implies_true, and_true]
    exact ⟨byte _ (by omega) (by omega), byte _ (by omega) (by omega),
      byte _ (by omega) (by omega)⟩
  · simp only [List.forall_mem_cons, List.not_mem_nil, false_implies,
      implies_true, and_true]
    exact ⟨byte _ (by omega) (by omega), byte _ (by omega) (by omega),
      byte _ (by omega) (by omega), byte _ (by omega) (by omega)⟩

theorem encode_ascii {b : UInt8}
    (ascii : b.toNat < 0x80) : encode b.toNat = [b] := by
  rw [encode, if_pos ascii]
  simp

private theorem sanitize_ascii {b : UInt8}
    (ascii : b.toNat < 0x80)
    (s : Bytes) :
    sanitize (b :: s) = b :: sanitize s := by
  rw [sanitize, codes, pieces_one ascii, List.map_cons, List.flatMap_cons,
    Piece.code, encode_ascii ascii]
  rfl

theorem sanitize_asciis {raws : Bytes}
    (ascii : ∀ b ∈ raws, b.toNat < 0x80)
    (s : Bytes) :
    sanitize (raws ++ s) = raws ++ sanitize s := by
  induction raws with
  | nil => rfl
  | cons b rest induction =>
      obtain ⟨ascii, others⟩ := List.forall_mem_cons.1 ascii
      rw [List.cons_append, sanitize_ascii ascii, induction others]
      rfl

theorem sanitize_encode (c : Char) (s : Bytes) :
    sanitize (encode c.toNat ++ s) = encode c.toNat ++ sanitize s := by
  rw [sanitize, codes, pieces_encode, List.map_cons, List.flatMap_cons]
  rfl

theorem exists_char {code : Nat}
    (range : code < 0xd800 ∨ 0xe000 ≤ code ∧ code < 0x110000) :
    ∃ c : Char, c.toNat = code := by
  have valid : code.isValidChar := by
    unfold Nat.isValidChar
    omega
  exact ⟨Char.ofNatAux code valid, rfl⟩

theorem byte_eq {n : Nat} {b : UInt8}
    (equal : n = b.toNat) : n.toUInt8 = b := by
  rw [equal]
  exact UInt8.ofNat_toNat

section Characters

variable {a b c d : UInt8}

def IsCharacter (bytes : Bytes) : Prop :=
  ∃ c : Char, encode c.toNat = bytes

private theorem isCharacter_one (ascii : a.toNat < 0x80) : IsCharacter [a] := by
  obtain ⟨char, code⟩ := exists_char (.inl (by omega : a.toNat < 0xd800))
  exact ⟨char, code ▸ encode_ascii ascii⟩

theorem isCharacter_two (low : 0xc2 ≤ a.toNat)
    (high : a.toNat ≤ 0xdf) (tail : isTail b = true) :
    IsCharacter [a, b] := by
  rw [isTail_iff] at tail
  have range : a.toNat % 32 * 64 + b.toNat % 64 < 0xd800 := by omega
  obtain ⟨char, code⟩ := exists_char (.inl range)
  refine ⟨char, ?_⟩
  rw [code, encode, if_neg (by omega), if_pos (by omega),
    byte_eq (b := a) (by omega), byte_eq (b := b) (by omega)]

theorem isCharacter_three (second : isSecondOfThree a b = true)
    (tail : isTail c = true) :
    IsCharacter [a, b, c] := by
  rw [isTail_iff] at tail
  rw [isSecondOfThree_iff] at second
  obtain ⟨char, code⟩ := exists_char
    (by omega : (a.toNat % 16 * 64 + b.toNat %
      64) * 64 + c.toNat % 64 < 0xd800 ∨
      0xe000 ≤ (a.toNat % 16 * 64 + b.toNat % 64) * 64 + c.toNat % 64 ∧
      (a.toNat % 16 * 64 + b.toNat % 64) * 64 + c.toNat % 64 < 0x110000)
  refine ⟨char, ?_⟩
  rw [code, encode, if_neg (by omega), if_neg (by omega), if_pos (by omega),
    byte_eq (b := a) (by omega), byte_eq (b := b) (by omega),
    byte_eq (b := c) (by omega)]

theorem isCharacter_four (second : isSecondOfFour a b = true)
    (tail : isTail c = true) (tail' : isTail d = true) :
    IsCharacter [a, b, c, d] := by
  rw [isTail_iff] at tail tail'
  rw [isSecondOfFour_iff] at second
  have range : 0xe000 ≤ ((a.toNat % 8 * 64 + b.toNat % 64) * 64 + c.toNat %
      64) * 64 + d.toNat % 64 ∧
      ((a.toNat % 8 * 64 + b.toNat % 64) * 64 + c.toNat % 64) * 64 + d.toNat %
        64 < 0x110000 := by
    omega
  obtain ⟨char, code⟩ := exists_char (.inr range)
  refine ⟨char, ?_⟩
  rw [code, encode, if_neg (by omega), if_neg (by omega), if_neg (by omega),
    byte_eq (b := a) (by omega), byte_eq (b := b) (by omega),
    byte_eq (b := c) (by omega), byte_eq (b := d) (by omega)]

theorem pieces_cases (s : Bytes) :
    s = [] ∨ (∃ bytes rest, s = bytes ++ rest ∧ IsCharacter bytes) ∨
      ∃ b rest, s = b :: rest ∧ pieces s = .stray b :: pieces rest := by
  fun_cases pieces s with
  | case1 => exact .inl rfl
  | case2 a rest ascii =>
      exact .inr
        (.inl ⟨[a], rest, rfl, isCharacter_one (UInt8.lt_iff_toNat_lt.1 ascii)⟩)
  | case3 a => exact .inr (.inr ⟨a, [], rfl, rfl⟩)
  | case4 a _ b rest two =>
      simp only [Bool.and_eq_true, decide_eq_true_eq, UInt8.le_iff_toNat_le]
        at two
      exact .inr
        (.inl ⟨[a, b], rest, rfl, isCharacter_two two.1.1 two.1.2 two.2⟩)
  | case5 a _ b => exact .inr (.inr ⟨a, [b], rfl, rfl⟩)
  | case6 a _ b _ c rest three =>
      rw [Bool.and_eq_true] at three
      exact .inr
        (.inl ⟨[a, b, c], rest, rfl, isCharacter_three three.1 three.2⟩)
  | case7 a _ b _ c => exact .inr (.inr ⟨a, [b, c], rfl, rfl⟩)
  | case8 a _ b _ c _ d rest four =>
      rw [Bool.and_eq_true, Bool.and_eq_true] at four
      exact .inr
        (.inl ⟨[a, b, c, d], rest, rfl,
          isCharacter_four four.1.1 four.1.2 four.2⟩)
  | case9 a _ b _ c _ d rest =>
      exact .inr (.inr ⟨a, b :: c :: d :: rest, rfl, rfl⟩)

end Characters

theorem encode_ne_nil (code : Nat) : encode code ≠ [] := by
  unfold encode
  split_ifs <;> exact List.cons_ne_nil _ _

/-- Texts are made of characters and stray bytes. -/
theorem induction_on_pieces {P : Bytes → Prop} (s : Bytes) (nil : P [])
    (scalar : ∀ (c : Char) (rest : Bytes), P rest → P (encode c.toNat ++ rest))
    (stray : ∀ (b : UInt8) (rest : Bytes), pieces (b :: rest) =
      .stray b :: pieces rest → P rest → P (b :: rest)) :
    P s := by
  rcases pieces_cases s with rfl | ⟨bytes, rest, rfl, c, rfl⟩ |
    ⟨b, rest, rfl, broken⟩
  · exact nil
  · have shorter : rest.length < (encode c.toNat ++ rest).length := by
      have nonempty := List.length_pos_iff.2 (encode_ne_nil c.toNat)
      rw [List.length_append]
      omega
    exact scalar c rest (induction_on_pieces rest nil scalar stray)
  · exact stray b rest broken (induction_on_pieces rest nil scalar stray)
termination_by s.length

theorem sanitize_of_isValid {s : Bytes}
    (valid : isValid s = true) : sanitize s = s := by
  induction s using induction_on_pieces with
  | nil => rfl
  | scalar c rest ih =>
      rw [isValid, pieces_encode] at valid
      rw [sanitize_encode, ih valid]
  | stray b rest broken ih =>
      rw [isValid, broken] at valid
      cases valid

def chars (s : Bytes) : List Char :=
  (codes s).map Char.ofNat

theorem chars_encode (c : Char) (s : Bytes) :
    chars (encode c.toNat ++ s) = c :: chars s := by
  rw [chars, codes, pieces_encode, List.map_cons, List.map_cons, Piece.code,
    Char.ofNat_toNat]
  rfl

theorem sanitize_eq (s : Bytes) :
    sanitize s = (chars s).flatMap fun c => encode c.toNat := by
  induction s using induction_on_pieces with
  | nil => rfl
  | scalar c rest ih =>
      rw [sanitize_encode, chars_encode, List.flatMap_cons, ih]
  | stray b rest broken ih =>
      rw [sanitize, chars, codes, broken]
      exact congrArg (encode replacement ++ ·) ih

private theorem utf8EncodeChar_eq (c : Char) :
    String.utf8EncodeChar c = encode c.toNat := by
  have range := scalar_range c
  have code_eq : c.val.toNat = c.toNat := rfl
  simp only [String.utf8EncodeChar, code_eq]
  generalize c.toNat = code at range
  simp only [encode, ← Nat.lt_succ_iff (n := 127),
    ← Nat.lt_succ_iff (n := 2047), ← Nat.lt_succ_iff (n := 65535)]
  split_ifs with one two three
  · rfl
  · have lead : code / 64 % 32 + 192 = 0xc0 + code / 64 := by omega
    rw [lead, Nat.add_comm (code % 64)]
  · have lead : code / 4096 % 16 + 224 = 0xe0 + code / 4096 := by omega
    rw [lead, Nat.add_comm (code / 64 % 64), Nat.add_comm (code % 64)]
  · have lead : code / 262144 % 8 + 240 = 0xf0 + code / 262144 := by omega
    rw [lead, Nat.add_comm (code / 4096 % 64), Nat.add_comm (code / 64 % 64),
      Nat.add_comm (code % 64)]

end Utf8

theorem utf8_eq (s : String) :
    utf8 s = s.toList.flatMap fun c => Utf8.encode c.toNat := by
  have bytes :
      s.toUTF8 = (s.toList.flatMap String.utf8EncodeChar).toByteArray :=
    String.utf8Encode_toList.symm
  have encoded : String.utf8EncodeChar = fun c => Utf8.encode c.toNat :=
    funext Utf8.utf8EncodeChar_eq
  rw [utf8, bytes, List.data_toByteArray, encoded]

theorem Utf8.chars_utf8 (s : String) : chars (utf8 s) = s.toList := by
  rw [utf8_eq]
  induction s.toList with
  | nil => rfl
  | cons c rest induction => rw [List.flatMap_cons, chars_encode, induction]

theorem Utf8.sanitize_utf8 (s : String) : sanitize (utf8 s) = utf8 s := by
  rw [sanitize_eq, chars_utf8, utf8_eq]

end ModelGateway
