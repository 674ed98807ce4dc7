import ModelGateway.Proofs.Scope
import ModelGateway.Proofs.SnakeCase
import ModelGateway.Proofs.Unicode

/-!
Names that are confused. Respelling keeps apart what differs in more than
underscores and letter case, and keeps names in Unicode, as long as no
underscore stands right before a character outside ASCII: of such a character
the first byte is lost.
-/

namespace ModelGateway

namespace Utf8

variable {b : UInt8} {s : Bytes}

theorem isValid_cons (ascii : b < 0x80) : isValid (b :: s) = isValid s := by
  rw [isValid, pieces_one (UInt8.lt_iff_toNat_lt.1 ascii)]
  rfl

theorem isValid_encode (c : Char) (s : Bytes) :
    isValid (encode c.toNat ++ s) = isValid s := by
  rw [isValid, pieces_encode]
  rfl

private theorem isValid_cons_of_isTail (tail : isTail b = true) :
    isValid (b :: s) = false := by
  have range := isTail_iff.1 tail
  have lead : ¬ b < 0x80 ∧ ¬ 0xc2 ≤ b := by
    simp only [UInt8.lt_iff_toNat_lt, UInt8.le_iff_toNat_le, UInt8.toNat_ofNat]
    omega
  have three (c : UInt8) : isSecondOfThree b c = false := by
    rw [Bool.eq_false_iff, ne_eq, isSecondOfThree_iff]
    omega
  have four (c : UInt8) : isSecondOfFour b c = false := by
    rw [Bool.eq_false_iff, ne_eq, isSecondOfFour_iff]
    omega
  have stray : ∃ rest, pieces (b :: s) = .stray b :: rest := by
    rcases s with - | ⟨c, - | ⟨d, - | ⟨e, s⟩⟩⟩
    · exact ⟨[], by simp [pieces, lead]⟩
    · exact ⟨pieces [c], by rw [pieces.eq_def]; simp [lead]⟩
    · exact ⟨pieces [c, d], by rw [pieces.eq_def]; simp [lead, three]⟩
    · exact ⟨pieces (c :: d :: e :: s), by
        rw [pieces.eq_def]; simp [lead, three, four]⟩
  obtain ⟨rest, stray⟩ := stray
  rw [isValid, stray]
  rfl

theorem exists_tail_of_encode {code : Nat} (high : 0x80 ≤ code) :
    ∃ lead tail more, encode code = lead :: tail :: more ∧
      isTail tail = true := by
  unfold encode
  split_ifs with one two three
  · omega
  · exact ⟨_, _, _, rfl, isTail_byte _⟩
  · exact ⟨_, _, _, rfl, isTail_byte _⟩
  · exact ⟨_, _, _, rfl, isTail_byte _⟩

theorem high_of_encode {c : Char} {lead tail : UInt8} {more : Bytes}
    (bytes : encode c.toNat = lead :: tail :: more) :
    0x80 ≤ c.toNat := by
  apply Nat.le_of_not_lt
  intro ascii
  rw [encode, if_pos ascii] at bytes
  cases (List.cons.inj bytes).2

theorem exists_byte_ne (b : UInt8) (n : Nat) (small : n + 1 < 256) :
    ∃ other : UInt8, n ≤ other.toNat ∧ other.toNat ≤ n + 1 ∧ b ≠ other := by
  have first : n.toUInt8.toNat = n := toNat_byte (by omega)
  have second : (n + 1).toUInt8.toNat = n + 1 := toNat_byte small
  by_cases equal : b = n.toUInt8
  · refine ⟨(n + 1).toUInt8, by omega, by omega, ?_⟩
    intro same
    rw [← same, equal] at second
    omega
  · exact ⟨n.toUInt8, by omega, by omega, equal⟩

private theorem exists_sibling {c : Char} (high : 0x80 ≤ c.toNat) :
    ∃ (c' : Char) (lead lead' : UInt8) (more : Bytes), 0x80 ≤ c'.toNat ∧
      encode c.toNat = lead :: more ∧ encode c'.toNat = lead' :: more ∧
        lead ≠ lead' := by
  rw [encode]
  split_ifs with one two three
  · omega
  · obtain ⟨lead, least, most, differ⟩ :=
      exists_byte_ne (0xc0 + c.toNat / 64).toUInt8 0xc3 (by decide)
    obtain ⟨c', bytes⟩ :=
      isCharacter_two (a := lead) (by omega) (by omega) (isTail_byte c.toNat)
    exact ⟨c', _, lead, _, high_of_encode bytes, rfl, bytes, differ⟩
  · obtain ⟨lead, least, most, differ⟩ :=
      exists_byte_ne (0xe0 + c.toNat / 4096).toUInt8 0xe1 (by decide)
    have second :
        isSecondOfThree lead (0x80 + c.toNat / 64 % 64).toUInt8 = true := by
      have tail := isTail_iff.1 (isTail_byte (c.toNat / 64))
      rw [isSecondOfThree_iff]
      omega
    obtain ⟨c', bytes⟩ := isCharacter_three second (isTail_byte c.toNat)
    exact ⟨c', _, lead, _, high_of_encode bytes, rfl, bytes, differ⟩
  · obtain ⟨lead, least, most, differ⟩ :=
      exists_byte_ne (0xf0 + c.toNat / 262144).toUInt8 0xf1 (by decide)
    have second :
        isSecondOfFour lead (0x80 + c.toNat / 4096 % 64).toUInt8 = true := by
      have tail := isTail_iff.1 (isTail_byte (c.toNat / 4096))
      rw [isSecondOfFour_iff]
      omega
    obtain ⟨c', bytes⟩ :=
      isCharacter_four second (isTail_byte (c.toNat / 64)) (isTail_byte c.toNat)
    exact ⟨c', _, lead, _, high_of_encode bytes, rfl, bytes, differ⟩

private theorem exists_encode_of_high {b : UInt8} {s : Bytes}
    (valid : isValid (b :: s) = true)
    (high : ¬ b < 0x80) :
    ∃ (c : Char) (rest : Bytes), b :: s = encode c.toNat ++ rest ∧
      0x80 ≤ c.toNat ∧ isValid rest = true := by
  rcases pieces_cases (b :: s) with empty | ⟨bytes, rest, whole, c, rfl⟩ |
    ⟨a, rest, whole, stray⟩
  · cases empty
  · rw [whole, isValid_encode] at valid
    refine ⟨c, rest, whole, ?_, valid⟩
    apply Nat.le_of_not_lt
    intro ascii
    rw [encode, if_pos ascii] at whole
    apply high
    rw [(List.cons.inj whole).1, UInt8.lt_iff_toNat_lt, toNat_byte (by omega)]
    exact ascii
  · rw [isValid, stray] at valid
    cases valid

end Utf8

namespace Key

/-- A key without its underscores and without the case of its ASCII letters. -/
def gist (key : Bytes) : Bytes :=
  Bytes.lower (key.filter (· != 0x5f))

/-- Somewhere an underscore stands right before a character outside ASCII. -/
def Torn (key : Bytes) : Prop :=
  ∃ b : UInt8, ¬ b < 0x80 ∧ [0x5f, b] <:+: key

section Torn

variable {b : UInt8} {s t : Bytes}

theorem Torn.of_suffix (torn : Torn s) (suffix : s <:+ t) : Torn t := by
  obtain ⟨b, high, inside⟩ := torn
  exact ⟨b, high, inside.trans suffix.isInfix⟩

theorem not_torn_nil : ¬ Torn [] := by
  rintro ⟨b, -, inside⟩
  cases List.infix_nil.1 inside

theorem torn_cons_iff (noUnderscore : b ≠ 0x5f) : Torn (b :: s) ↔ Torn s := by
  constructor
  · rintro ⟨c, high, inside⟩
    rcases List.infix_cons_iff.1 inside with front | inside
    · exact absurd (List.cons_prefix_cons.1 front).1.symm noUnderscore
    · exact ⟨c, high, inside⟩
  · intro torn
    exact torn.of_suffix (List.suffix_cons b s)

theorem torn_underscore_iff :
    Torn (0x5f :: s) ↔ (∃ b rest, s = b :: rest ∧ ¬ b < 0x80) ∨ Torn s := by
  constructor
  · rintro ⟨c, high, inside⟩
    rcases List.infix_cons_iff.1 inside with front | inside
    · obtain ⟨rest, rfl⟩ := (List.cons_prefix_cons.1 front).2
      exact .inl ⟨c, rest, rfl, high⟩
    · exact .inr ⟨c, high, inside⟩
  · rintro (⟨b, rest, rfl, high⟩ | torn)
    · exact ⟨b, high, (List.prefix_append [0x5f, b] rest).isInfix⟩
    · exact torn.of_suffix (List.suffix_cons 0x5f s)

private theorem torn_underscore_cons_iff (ascii : b < 0x80) :
    Torn (0x5f :: b :: s) ↔ Torn (b :: s) := by
  rw [torn_underscore_iff]
  constructor
  · rintro (⟨c, rest, equal, high⟩ | torn)
    · cases equal
      exact absurd ascii high
    · exact torn
  · exact .inr

end Torn

section Gist

variable {b : UInt8} {s : Bytes}

private theorem lowerByte_upperByte (b : UInt8) :
    Bytes.lowerByte (Bytes.upperByte b) = Bytes.lowerByte b := by
  cases lower : Bytes.isLower b with
  | false => rw [Bytes.upperByte, lower, if_neg Bool.false_ne_true]
  | true =>
      have range := isLower_iff.1 lower
      have code : (b - 32).toNat = b.toNat - 32 := by
        have le : 32 ≤ b := UInt8.le_iff_toNat_le.2 (show 32 ≤ b.toNat by omega)
        exact UInt8.toNat_sub_of_le b 32 le
      have upper : Bytes.isUpper (b - 32) = true := by
        rw [isUpper_iff, code]
        omega
      have other : ¬ Bytes.isUpper b = true := by
        rw [isUpper_iff]
        omega
      rw [Bytes.upperByte, if_pos lower, Bytes.lowerByte, if_pos upper,
        Bytes.lowerByte, if_neg other, UInt8.sub_add_cancel]

theorem gist_underscore (s : Bytes) : gist (0x5f :: s) = gist s := rfl

private theorem gist_cons (noUnderscore : b ≠ 0x5f) :
    gist (b :: s) = Bytes.lowerByte b :: gist s := by
  have kept : (b != 0x5f) = true := bne_iff_ne.2 noUnderscore
  rw [gist, List.filter_cons, if_pos kept]
  rfl

private theorem lower_spellFrom (s : Bytes) :
    (¬ Torn s → Bytes.lower (spellFrom false s) = gist s) ∧
      (¬ Torn (0x5f :: s) → Bytes.lower (spellFrom true s) = gist s) := by
  induction s with
  | nil => exact ⟨fun _ => rfl, fun _ => rfl⟩
  | cons b s induction =>
      obtain ⟨plain, behind⟩ := induction
      by_cases underscore : b = 0x5f
      · subst underscore
        rw [spellFrom_underscore, spellFrom_underscore, gist_underscore]
        refine ⟨behind, ?_⟩
        intro whole
        exact behind (mt (Torn.of_suffix · (List.suffix_cons _ _)) whole)
      · rw [spellFrom_false_cons underscore, spellFrom_true_cons underscore,
          gist_cons underscore, torn_cons_iff underscore]
        constructor
        · intro whole
          exact congrArg (Bytes.lowerByte b :: ·) (plain whole)
        · intro whole
          rw [torn_underscore_iff, not_or, torn_cons_iff underscore] at whole
          obtain ⟨front, whole⟩ := whole
          have ascii : b < 0x80 := by
            by_contra high
            exact front ⟨b, s, rfl, high⟩
          rw [raise, if_pos ascii, ← plain whole]
          exact congrArg (· :: Bytes.lower (spellFrom false s))
            (lowerByte_upperByte b)

theorem lower_camel (whole : ¬ Torn s) : Bytes.lower (camel s) = gist s := by
  rw [camel_eq_spellFrom]
  exact (lower_spellFrom s).1 whole

end Gist

section Validity

variable {s t : Bytes}

theorem spellFrom_append (others : ∀ b ∈ t, b ≠ 0x5f) (s : Bytes) :
    spellFrom false (t ++ s) = t ++ spellFrom false s := by
  induction t with
  | nil => rfl
  | cons b t induction =>
      obtain ⟨noUnderscore, others⟩ := List.forall_mem_cons.1 others
      rw [List.cons_append, spellFrom_false_cons noUnderscore, induction others,
        List.cons_append]

theorem torn_append_iff (others : ∀ b ∈ t, b ≠ 0x5f) :
    Torn (t ++ s) ↔ Torn s := by
  induction t with
  | nil => exact Iff.rfl
  | cons b t induction =>
      obtain ⟨noUnderscore, others⟩ := List.forall_mem_cons.1 others
      rw [List.cons_append, torn_cons_iff noUnderscore, induction others]

private theorem upperByte_ascii {b : UInt8} (ascii : b < 0x80) :
    Bytes.upperByte b < 0x80 := by
  rw [UInt8.lt_iff_toNat_lt] at ascii ⊢
  unfold Bytes.upperByte
  split_ifs with lower
  · have range := isLower_iff.1 lower
    have le : 32 ≤ b := UInt8.le_iff_toNat_le.2 (show 32 ≤ b.toNat by omega)
    rw [UInt8.toNat_sub_of_le b 32 le]
    exact Nat.lt_of_le_of_lt (Nat.sub_le _ _) ascii
  · exact ascii

private theorem isValid_spellFrom_cons {b : UInt8} (ascii : b < 0x80)
    (rest : (Utf8.isValid (spellFrom false s) = true ↔ ¬ Torn s) ∧
      (Utf8.isValid (spellFrom true s) = true ↔ ¬ Torn (0x5f :: s))) :
    (Utf8.isValid (spellFrom false (b :: s)) = true ↔ ¬ Torn (b :: s)) ∧
      (Utf8.isValid (spellFrom true (b :: s)) = true ↔
        ¬ Torn (0x5f :: b :: s)) := by
  rw [torn_underscore_cons_iff ascii]
  by_cases underscore : b = 0x5f
  · subst underscore
    rw [spellFrom_underscore, spellFrom_underscore]
    exact ⟨rest.2, rest.2⟩
  · rw [spellFrom_false_cons underscore, spellFrom_true_cons underscore,
      torn_cons_iff underscore, raise, if_pos ascii, List.singleton_append,
      Utf8.isValid_cons ascii, Utf8.isValid_cons (upperByte_ascii ascii)]
    exact ⟨rest.1, rest.1⟩

theorem high_of_mem_encode {c : Char}
    (high : 0x80 ≤ c.toNat)
    {b : UInt8} (member : b ∈ Utf8.encode c.toNat) :
    0x80 ≤ b.toNat := by
  have range := Utf8.scalar_range c
  exact Utf8.encode_high high (by omega) b member

theorem encode_ne_underscore {c : Char} (high : 0x80 ≤ c.toNat) :
    ∀ b ∈ Utf8.encode c.toNat, b ≠ 0x5f := by
  intro b member underscore
  have impossible := high_of_mem_encode high member
  rw [underscore] at impossible
  revert impossible
  decide

/-- Behind an underscore the first byte of the character is lost. -/
theorem spellFrom_true_encode {c : Char} {lead : UInt8} {more : Bytes}
    (high : 0x80 ≤ c.toNat)
    (bytes : Utf8.encode c.toNat = lead :: more)
    (s : Bytes) :
    spellFrom true (Utf8.encode c.toNat ++ s) =
      Utf8.encode Utf8.replacement ++ (more ++ spellFrom false s) := by
  have others := encode_ne_underscore high
  have leadHigh : 0x80 ≤ lead.toNat :=
    high_of_mem_encode high (bytes ▸ List.mem_cons_self)
  rw [bytes] at others ⊢
  obtain ⟨noUnderscore, others⟩ := List.forall_mem_cons.1 others
  have noAscii : ¬ lead < 0x80 :=
    mt UInt8.lt_iff_toNat_lt.1 (Nat.not_lt.2 leadHigh)
  rw [List.cons_append, spellFrom_true_cons noUnderscore, raise, if_neg noAscii,
    spellFrom_append others]

private theorem torn_underscore_encode {c : Char}
    (high : 0x80 ≤ c.toNat)
    (s : Bytes) :
    Torn (0x5f :: (Utf8.encode c.toNat ++ s)) := by
  obtain ⟨lead, tail, more, bytes, -⟩ := Utf8.exists_tail_of_encode high
  have leadHigh : 0x80 ≤ lead.toNat :=
    high_of_mem_encode high (bytes ▸ List.mem_cons_self)
  rw [bytes]
  exact torn_underscore_iff.2
    (.inl ⟨lead, _, rfl, mt UInt8.lt_iff_toNat_lt.1 (Nat.not_lt.2 leadHigh)⟩)

private theorem isValid_spellFrom_encode {c : Char} (high : 0x80 ≤ c.toNat)
    (rest : Utf8.isValid (spellFrom false s) = true ↔ ¬ Torn s) :
    (Utf8.isValid (spellFrom false (Utf8.encode c.toNat ++ s)) = true ↔
      ¬ Torn (Utf8.encode c.toNat ++ s)) ∧
      (Utf8.isValid (spellFrom true (Utf8.encode c.toNat ++ s)) = true ↔
        ¬ Torn (0x5f :: (Utf8.encode c.toNat ++ s))) := by
  have others := encode_ne_underscore high
  constructor
  · rw [spellFrom_append others, Utf8.isValid_encode, torn_append_iff others]
    exact rest
  · obtain ⟨lead, tail, more, bytes, isTail⟩ := Utf8.exists_tail_of_encode high
    have broken :
        Utf8.isValid (spellFrom true (Utf8.encode c.toNat ++ s)) = false := by
      rw [spellFrom_true_encode high bytes]
      exact (Utf8.isValid_encode (Char.ofNat Utf8.replacement) _).trans
        (Utf8.isValid_cons_of_isTail isTail)
    rw [broken]
    exact ⟨nofun, fun whole => absurd (torn_underscore_encode high s) whole⟩

private theorem isValid_spellFrom_iff (valid : Utf8.isValid s = true) :
    (Utf8.isValid (spellFrom false s) = true ↔ ¬ Torn s) ∧
      (Utf8.isValid (spellFrom true s) = true ↔ ¬ Torn (0x5f :: s)) := by
  induction s using Utf8.induction_on_pieces with
  | nil =>
      refine ⟨⟨fun _ => not_torn_nil, fun _ => rfl⟩,
        ⟨fun _ => ?_, fun _ => rfl⟩⟩
      rw [torn_underscore_iff]
      rintro (⟨b, rest, equal, -⟩ | torn)
      · cases equal
      · exact not_torn_nil torn
  | scalar c rest induction =>
      rw [Utf8.isValid_encode] at valid
      by_cases ascii : c.toNat < 0x80
      · have byte : c.toNat.toUInt8 < 0x80 := by
          rw [UInt8.lt_iff_toNat_lt, Utf8.toNat_byte (by omega)]
          exact ascii
        rw [Utf8.encode, if_pos ascii]
        exact isValid_spellFrom_cons byte (induction valid)
      · exact isValid_spellFrom_encode (Nat.le_of_not_lt ascii)
          (induction valid).1
  | stray b rest broken _ =>
      rw [Utf8.isValid, broken] at valid
      cases valid

theorem isValid_camel_iff (valid : Utf8.isValid s = true) :
    Utf8.isValid (camel s) = true ↔ ¬ Torn s := by
  rw [camel_eq_spellFrom]
  exact (isValid_spellFrom_iff valid).1

end Validity

section Siblings

variable {a b s t : Bytes}

theorem gist_eq_or_torn (valid : Utf8.isValid a = true)
    (valid' : Utf8.isValid b = true)
    (same : camel a = camel b) :
    gist a = gist b ∨ Torn a ∧ Torn b := by
  have both : Torn a ↔ Torn b := by
    rw [← not_iff_not, ← isValid_camel_iff valid,
      ← isValid_camel_iff valid', same]
  by_cases torn : Torn a
  · exact .inr ⟨torn, both.1 torn⟩
  · rw [← lower_camel torn, ← lower_camel (mt both.2 torn), same]
    exact .inl rfl

theorem spellFrom_append_underscore (behind : Bool) (s t : Bytes) :
    spellFrom behind (s ++ 0x5f :: t) = spellFrom behind s ++
      spellFrom true t := by
  induction s generalizing behind with
  | nil =>
      rw [List.nil_append, spellFrom_underscore, spellFrom_nil, List.nil_append]
  | cons b s induction =>
      rw [List.cons_append]
      by_cases underscore : b = 0x5f
      · subst underscore
        rw [spellFrom_underscore, spellFrom_underscore, induction]
      · rw [spellFrom, spellFrom, if_neg underscore, if_neg underscore,
          induction, List.append_assoc]

theorem gist_append (s t : Bytes) : gist (s ++ t) = gist s ++ gist t := by
  rw [gist, List.filter_append, Bytes.lower, List.map_append]
  rfl

private theorem exists_torn_character (valid : Utf8.isValid s = true)
    (torn : Torn s) :
    ∃ (before : Bytes) (c : Char) (after : Bytes), s =
      before ++ 0x5f :: (Utf8.encode c.toNat ++ after) ∧
      0x80 ≤ c.toNat ∧ Utf8.isValid after = true ∧
        ∀ t, Utf8.isValid (before ++ t) = Utf8.isValid t := by
  induction s using Utf8.induction_on_pieces with
  | nil => exact absurd torn not_torn_nil
  | stray b rest broken _ =>
      rw [Utf8.isValid, broken] at valid
      cases valid
  | scalar c rest induction =>
      rw [Utf8.isValid_encode] at valid
      have later (torn : Torn rest) :
        ∃ (before : Bytes) (c' : Char) (after : Bytes),
          Utf8.encode c.toNat ++ rest =
            before ++ 0x5f :: (Utf8.encode c'.toNat ++ after) ∧
            0x80 ≤ c'.toNat ∧ Utf8.isValid after = true ∧
              ∀ t, Utf8.isValid (before ++ t) = Utf8.isValid t := by
        obtain ⟨before, c', after, rfl, high, validAfter, validBefore⟩ :=
          induction valid torn
        refine ⟨Utf8.encode c.toNat ++ before, c',
          after, by rw [List.append_assoc], high, validAfter, ?_⟩
        intro t
        rw [List.append_assoc, Utf8.isValid_encode, validBefore]
      by_cases ascii : c.toNat < 0x80
      · have bytes : Utf8.encode c.toNat = [c.toNat.toUInt8] := if_pos ascii
        by_cases underscore : c.toNat.toUInt8 = 0x5f
        · rw [bytes, underscore, List.singleton_append, torn_underscore_iff]
            at torn
          rcases torn with ⟨b, more, rfl, high⟩ | torn
          · obtain ⟨c', after, whole, high, validAfter⟩ :=
              Utf8.exists_encode_of_high valid high
            refine ⟨[], c', after, ?_, high, validAfter, fun t => rfl⟩
            rw [bytes, underscore, whole]
            rfl
          · exact later torn
        · rw [bytes, List.singleton_append, torn_cons_iff underscore] at torn
          exact later torn
      · rw [torn_append_iff (encode_ne_underscore (Nat.le_of_not_lt ascii))]
          at torn
        exact later torn

theorem gist_encode {c : Char} (high : 0x80 ≤ c.toNat) :
    gist (Utf8.encode c.toNat) = Utf8.encode c.toNat := by
  have kept :
      (Utf8.encode c.toNat).filter (· != 0x5f) = Utf8.encode c.toNat := by
    apply List.filter_eq_self.2
    intro b member
    exact bne_iff_ne.2 (encode_ne_underscore high b member)
  have caseless : ∀ b ∈ Utf8.encode c.toNat, Bytes.lowerByte b = b := by
    intro b member
    have noLetter : ¬ Bytes.isUpper b = true := by
      have byteHigh := high_of_mem_encode high member
      rw [isUpper_iff]
      omega
    rw [Bytes.lowerByte, if_neg noLetter]
  rw [gist, kept]
  exact (List.map_congr_left caseless).trans (List.map_id _)

/-- Every torn key is respelt as some other name is. -/
theorem exists_confused (valid : Utf8.isValid a = true) (torn : Torn a) :
    ∃ b, Utf8.isValid b = true ∧ camel a = camel b ∧ gist a ≠ gist b := by
  obtain ⟨before, c, after, rfl, high, validAfter, validBefore⟩ :=
    exists_torn_character valid torn
  obtain ⟨c', lead, lead', more, high', bytes, bytes', differ⟩ :=
    Utf8.exists_sibling high
  refine ⟨before ++ 0x5f :: (Utf8.encode c'.toNat ++ after), ?_, ?_, ?_⟩
  · rw [validBefore, Utf8.isValid_cons (by decide), Utf8.isValid_encode]
    exact validAfter
  · rw [camel_eq_spellFrom, camel_eq_spellFrom, spellFrom_append_underscore,
      spellFrom_append_underscore, spellFrom_true_encode high bytes,
      spellFrom_true_encode high' bytes']
  · intro same
    rw [gist_append, gist_append, gist_underscore, gist_underscore, gist_append,
      gist_append, gist_encode high, gist_encode high', bytes, bytes'] at same
    exact differ (List.cons.inj (List.append_cancel_left same)).1

end Siblings

end Key

namespace Normalize

variable {name : Bytes}

def Clashes (name : Bytes) (fields : Fields Binary) : Prop :=
  ∃ key key', [key, key'].Sublist fields.keys ∧ Key.camel key = name ∧
    Key.camel key' = name

private theorem values_eq_error {items : List Value}
    (refused : values items = .error ⟨name⟩) :
    ∃ item ∈ items, field .ordinary item = .error ⟨name⟩ := by
  induction items with
  | nil => cases refused
  | cons item rest induction =>
      rcases error_of_pair refused with first | others
      · exact ⟨item, List.mem_cons_self, first⟩
      · obtain ⟨item, member, refused⟩ := induction others
        exact ⟨item, List.mem_cons_of_mem _ member, refused⟩

private theorem namedFields_eq_error {entries : Fields Binary}
    (refused : namedFields entries = .error ⟨name⟩) :
    ∃ entry ∈ entries, field .ordinary entry.2 = .error ⟨name⟩ := by
  induction entries with
  | nil => cases refused
  | cons entry rest induction =>
      rcases error_of_pair refused with first | others
      · exact ⟨entry, List.mem_cons_self, first⟩
      · obtain ⟨entry, member, refused⟩ := induction others
        exact ⟨entry, List.mem_cons_of_mem _ member, refused⟩

private theorem fieldsFrom_eq_error {seen : List Bytes}
    {entries : Fields Binary}
    (refused : fieldsFrom seen entries = .error ⟨name⟩) :
    (name ∈ seen ∧ ∃ key ∈ entries.keys, Key.camel key = name) ∨
      Clashes name entries ∨
      ∃ entry ∈ entries, field (Key.role (Key.camel entry.1)) entry.2 =
        .error ⟨name⟩ := by
  induction entries generalizing seen with
  | nil => cases refused
  | cons entry rest induction =>
      obtain ⟨key, v⟩ := entry
      simp only [fieldsFrom] at refused
      split_ifs at refused with taken
      · cases refused
        exact .inl ⟨List.contains_iff_mem.1 taken, key, List.mem_cons_self, rfl⟩
      · rcases error_of_pair refused with first | others
        · exact .inr (.inr ⟨(key, v), List.mem_cons_self, first⟩)
        · rcases induction others with ⟨listed, key', member, same⟩ |
            ⟨a, b, both, equal⟩ | ⟨entry, member, refused⟩
          · rcases List.mem_cons.1 listed with own | earlier
            · -- the first of the two is this entry, the second one behind it
              have both :
                  [key, key'].Sublist (Fields.keys ((key, v) :: rest)) :=
                (List.singleton_sublist.2 member).cons_cons key
              exact .inr (.inl ⟨key, key', both, own.symm, same⟩)
            · exact .inl ⟨earlier, key', List.mem_cons_of_mem _ member, same⟩
          · exact .inr (.inl ⟨a, b, both.cons key, equal⟩)
          · exact .inr (.inr ⟨entry, List.mem_cons_of_mem _ member, refused⟩)

private theorem exists_clashes_of_error {v : Value}
    (refused : field .ordinary v = .error ⟨name⟩) :
    ∃ fields : Fields Binary, Scope v (.object fields) ∧
      Clashes name fields := by
  -- An object below `properties` is passed through to its values, so they are
  -- needed as well.
  suffices both : (field .ordinary v = .error ⟨name⟩ →
      ∃ fields : Fields Binary, Scope v (.object fields) ∧
        Clashes name fields) ∧
      ∀ named, v = .object named →
        ∀ entry ∈ named, field .ordinary entry.2 = .error ⟨name⟩ →
        ∃ fields : Fields Binary, Scope entry.2 (.object fields) ∧
          Clashes name fields from both.1 refused
  clear refused
  induction v using Json.induction_of_mem with
  | scalar v isScalar =>
      refine ⟨?_, fun named equal => absurd equal (isScalar.2 named)⟩
      intro refused
      cases v with
      | array items => exact absurd rfl (isScalar.1 items)
      | object fields => exact absurd rfl (isScalar.2 fields)
      | null | bool | number | string => cases refused
  | array items induction =>
      refine ⟨?_, nofun⟩
      intro refused
      obtain ⟨item, member, refused⟩ :=
        values_eq_error (map_eq_error_iff.1 refused)
      obtain ⟨fields, scope, clashes⟩ := (induction item member).1 refused
      exact ⟨fields, .item member scope, clashes⟩
  | object fields induction =>
      constructor
      · intro refused
        rcases fieldsFrom_eq_error (map_eq_error_iff.1 refused) with ⟨none, -⟩ |
          clashes | ⟨entry, member, refused⟩
        · cases none
        · exact ⟨fields, .here, clashes⟩
        · obtain ⟨key, v⟩ := entry
          cases role : Key.role (Key.camel key) with
          | ordinary =>
              obtain ⟨noVerbatim, noNamed⟩ := Key.role_eq_ordinary_iff.1 role
              rw [role] at refused
              obtain ⟨inner, scope, clashes⟩ := (induction _ member).1 refused
              exact ⟨inner, .field member noVerbatim noNamed scope, clashes⟩
          | verbatim =>
              rw [role, field_verbatim] at refused
              cases refused
          | named =>
              rw [role] at refused
              cases v with
              | object named =>
                  obtain ⟨entry, held, refused⟩ :=
                    namedFields_eq_error (map_eq_error_iff.1 refused)
                  obtain ⟨inner, scope, clashes⟩ :=
                    (induction _ member).2 named rfl entry held refused
                  exact ⟨inner, .property member (Key.role_eq_named_iff.1 role)
                    held scope, clashes⟩
              | array items => cases refused
              | null | bool | number | string => cases refused
      · intro named equal entry held refused
        cases equal
        exact (induction entry held).1 refused

/-- A respelt name has no underscores. It is in Unicode exactly if no underscore
of its key stands right before a character outside ASCII, and exactly the other
keys are confused with a key that differs from them in more than underscores and
letter case. Options are refused for two keys of one object in scope that are
the same name or are both torn apart so. -/
theorem confused_exactly_if_torn
    (key : Bytes) (valid : Utf8.isValid key = true)
    (options : Fields Binary)
    (inUnicode : ∀ fields : Fields Binary,
      Scope (.object options) (.object fields) →
      ∀ key ∈ fields.keys, Utf8.isValid key = true) :
    0x5f ∉ Key.camel key ∧
      (Utf8.isValid (Key.camel key) = true ↔ ¬ Key.Torn key) ∧
      ((∃ other, Utf8.isValid other = true ∧ Key.camel key = Key.camel other ∧
        Key.gist key ≠ Key.gist other) ↔ Key.Torn key) ∧
      ∀ fault, Normalize.fields options = .error fault →
        ∃ fields : Fields Binary, Scope (.object options) (.object fields) ∧
          ∃ a b, [a, b].Sublist fields.keys ∧ Key.camel a = fault.name ∧
            Key.camel b = fault.name ∧
            (Key.gist a = Key.gist b ∨ Key.Torn a ∧ Key.Torn b) := by
  refine ⟨Key.camel_no_underscore key, Key.isValid_camel_iff valid,
    ⟨?_, Key.exists_confused valid⟩, ?_⟩
  · intro confused
    obtain ⟨other, valid', same, differ⟩ := confused
    exact ((Key.gist_eq_or_torn valid valid' same).resolve_left differ).1
  · intro fault refused
    obtain ⟨fields, scope, a, b, both, first, second⟩ :=
      exists_clashes_of_error (v := .object options)
        (map_eq_error_iff.2 refused)
    have validA := inUnicode fields scope a (both.subset List.mem_cons_self)
    have validB :=
      inUnicode fields scope b
        (both.subset (List.mem_cons_of_mem _ List.mem_cons_self))
    exact ⟨fields, scope, a, b, both, first, second,
      Key.gist_eq_or_torn validA validB (first.trans second.symm)⟩

private theorem scope_of_scalars {options fields : Fields Binary}
    (scalar : ∀ entry ∈ options, entry.2 = .null)
    (scope : Scope (.object options) (.object fields)) : fields = options := by
  cases scope with
  | here => rfl
  | field member _ _ inside =>
      cases scalar _ member
      cases inside
  | property member _ _ _ => cases scalar _ member

theorem accent_torn_spellings_refused :
    ¬ Utf8.isValid (Key.camel (utf8 "a_é")) = true ∧
      (∃ b, Utf8.isValid b = true ∧ Key.camel (utf8 "a_é") = Key.camel b ∧
        Key.gist (utf8 "a_é") ≠ Key.gist b) ∧
      ∃ fields : Fields Binary,
        Scope (.object [("max_length", .null), ("maxLength", .null)])
          (.object fields) ∧
        ∃ a b, [a, b].Sublist fields.keys ∧ Key.camel a = utf8 "maxLength" ∧
          Key.camel b = utf8 "maxLength" ∧
          (Key.gist a = Key.gist b ∨ Key.Torn a ∧ Key.Torn b) := by
  have inUnicode : ∀ fields : Fields Binary,
      Scope (.object [("max_length", .null), ("maxLength", .null)])
        (.object fields) →
        ∀ key ∈ fields.keys, Utf8.isValid key = true := by
    intro fields scope
    rw [scope_of_scalars (by simp) scope]
    decide
  obtain ⟨-, valid_iff, confused_iff, refused⟩ :=
    confused_exactly_if_torn (utf8 "a_é") (by decide) _ inUnicode
  have torn : Key.Torn (utf8 "a_é") := ⟨0xc3, by decide, [0x61], [0xa9], rfl⟩
  exact ⟨fun valid => valid_iff.1 valid torn, confused_iff.2 torn,
    refused ⟨utf8 "maxLength"⟩ rfl⟩

/-- Two different names are refused as one, and the name that is reported is not
in Unicode. -/
theorem accents_confused :
    Utf8.isValid (utf8 "a_é") = true ∧ Utf8.isValid (utf8 "a_ĩ") = true ∧
      Utf8.isValid (Key.camel (utf8 "a_é")) = false ∧
      Key.camel (utf8 "a_é") = Key.camel (utf8 "a_ĩ") ∧
        Key.gist (utf8 "a_é") ≠ Key.gist (utf8 "a_ĩ") ∧
      Normalize.fields [("a_é", .null), ("a_ĩ", .null)] =
        .error ⟨Key.camel (utf8 "a_é")⟩ :=
  ⟨by decide, by decide, by decide, by decide, by decide, rfl⟩

end Normalize

end ModelGateway
