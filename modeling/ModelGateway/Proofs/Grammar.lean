import ModelGateway.Json.Reader

/-!
The texts that write a document, given by a grammar. The grammar says what a
text may look like, not how it is read; of its numbers it is shown here that
they are read part by part.
-/

namespace ModelGateway.Document

def IsBlank (s : Bytes) : Prop :=
  ∀ b ∈ s, isSpace b = true

def AreDigits (s : Bytes) : Prop :=
  ∀ b ∈ s, Bytes.isDigit b = true

inductive IsWhole : Bytes → Prop
  | zero : IsWhole [0x30]
  | digits {b : UInt8} {s : Bytes} (digit : Bytes.isDigit b = true)
      (nonzero : b ≠ 0x30)
      (others : AreDigits s) : IsWhole (b :: s)

inductive IsFraction : Bytes → Prop
  | none : IsFraction []
  | digits {s : Bytes} (nonempty : s ≠ []) (digits : AreDigits s) :
      IsFraction (0x2e :: s)

inductive IsExponent : Bytes → Prop
  | none : IsExponent []
  | digits {mark : UInt8} {sign s : Bytes} (marked : mark = 0x65 ∨ mark = 0x45)
      (signed : sign = [] ∨ sign = [0x2b] ∨ sign = [0x2d]) (nonempty : s ≠ [])
      (digits : AreDigits s) :
      IsExponent (mark :: (sign ++ s))

inductive IsNumber : Bytes → Prop
  | mk {sign whole fraction exponent : Bytes} (signed : sign = [] ∨
      sign = [0x2d])
      (isWhole : IsWhole whole) (isFraction : IsFraction fraction)
      (isExponent : IsExponent exponent) :
      IsNumber (sign ++ (whole ++ (fraction ++ exponent)))

def IsHexDigit (b : UInt8) : Prop :=
  (Bytes.hexValue? b).isSome = true

inductive IsQuoted : Bytes → Prop
  | nil : IsQuoted []
  | plain {b : UInt8} {s : Bytes} (noControl : ¬ b < 0x20) (noQuote : b ≠ 0x22)
      (noBackslash : b ≠ 0x5c)
      (rest : IsQuoted s) : IsQuoted (b :: s)
  | short {b : UInt8} {s : Bytes} (escape : (shortEscape? b).isSome = true)
      (rest : IsQuoted s) :
      IsQuoted (0x5c :: b :: s)
  | unit {digits s : Bytes} (four : digits.length = 4)
      (hex : ∀ b ∈ digits, IsHexDigit b)
      (rest : IsQuoted s) : IsQuoted (0x5c :: 0x75 :: (digits ++ s))

mutual

/-- The texts of a document, with at most `depth` lists and objects inside each
other. -/
inductive Text : (depth : Nat) → Document → Bytes → Prop
  | null {depth : Nat} : Text depth .null (utf8 "null")
  | yes {depth : Nat} : Text depth (.bool true) (utf8 "true")
  | no {depth : Nat} : Text depth (.bool false) (utf8 "false")
  | number {depth : Nat} {raw : Bytes} (isNumber : IsNumber raw) :
      Text depth (.number raw) raw
  | string {depth : Nat} {raw : Bytes} (isQuoted : IsQuoted raw) :
      Text depth (.string (unescape raw)) (0x22 :: (raw ++ [0x22]))
  | emptyArray {depth : Nat} {blank : Bytes} (isBlank : IsBlank blank) :
      Text (depth + 1) (.array []) (0x5b :: (blank ++ [0x5d]))
  | array {depth : Nat} {blank text tail : Bytes} {item : Document}
      {items : List Document}
      (isBlank : IsBlank blank) (first : Text depth item text)
      (others : ItemsEnd depth items tail) :
      Text (depth + 1) (.array (item :: items))
        (0x5b :: (blank ++ (text ++ tail)))
  | emptyObject {depth : Nat} {blank : Bytes} (isBlank : IsBlank blank) :
      Text (depth + 1) (.object []) (0x7b :: (blank ++ [0x7d]))
  | object {depth : Nat} {blank text tail : Bytes} {field : Bytes × Document}
      {fields : List (Bytes × Document)} (isBlank : IsBlank blank)
      (first : FieldText depth field text)
      (others : FieldsEnd depth fields tail) :
      Text (depth + 1) (.object (field :: fields))
        (0x7b :: (blank ++ (text ++ tail)))

inductive ItemsEnd : (depth : Nat) → List Document → Bytes → Prop
  | close {depth : Nat} {blank : Bytes} (isBlank : IsBlank blank) :
      ItemsEnd depth [] (blank ++ [0x5d])
  | more {depth : Nat} {before after text tail : Bytes} {item : Document}
      {items : List Document}
      (isBlank : IsBlank before) (isBlank' : IsBlank after)
      (next : Text depth item text)
      (others : ItemsEnd depth items tail) :
      ItemsEnd depth (item :: items)
        (before ++ (0x2c :: (after ++ (text ++ tail))))

inductive FieldText : (depth : Nat) → Bytes × Document → Bytes → Prop
  | mk {depth : Nat} {raw before after text : Bytes} {value : Document}
      (isQuoted : IsQuoted raw)
      (isBlank : IsBlank before) (isBlank' : IsBlank after)
      (held : Text depth value text) :
      FieldText depth (unescape raw, value)
        (0x22 :: (raw ++ (0x22 :: (before ++ (0x3a :: (after ++ text))))))

inductive FieldsEnd : (depth : Nat) → List (Bytes × Document) → Bytes → Prop
  | close {depth : Nat} {blank : Bytes} (isBlank : IsBlank blank) :
      FieldsEnd depth [] (blank ++ [0x7d])
  | more {depth : Nat} {before after text tail : Bytes}
      {field : Bytes × Document}
      {fields : List (Bytes × Document)} (isBlank : IsBlank before)
      (isBlank' : IsBlank after)
      (next : FieldText depth field text)
      (others : FieldsEnd depth fields tail) :
      FieldsEnd depth (field :: fields)
        (before ++ (0x2c :: (after ++ (text ++ tail))))

end

/-- A text that begins, after blanks, with a text of the document; whatever
follows does not matter. -/
def Begins (s : Bytes) (d : Document) : Prop :=
  ∃ blank text rest, s = blank ++ (text ++ rest) ∧ IsBlank blank ∧
    Text maxDepth d text

theorem isBlank_nil : IsBlank [] := by
  intro b member
  cases member

theorem isBlank_cons {b : UInt8} {s : Bytes} :
    IsBlank (b :: s) ↔ isSpace b = true ∧ IsBlank s :=
  List.forall_mem_cons

/-- The texts that complete a number after the part that was read last. -/
def NumberPart.Continues : NumberPart → Bytes → Prop
  | .minus, s =>
      ∃ whole fraction exponent, s = whole ++ (fraction ++ exponent) ∧
        IsWhole whole ∧
      IsFraction fraction ∧ IsExponent exponent
  | .zero, s =>
      ∃ fraction exponent, s = fraction ++ exponent ∧ IsFraction fraction ∧
        IsExponent exponent
  | .whole, s =>
      ∃ digits fraction exponent, s = digits ++ (fraction ++ exponent) ∧
        AreDigits digits ∧
      IsFraction fraction ∧ IsExponent exponent
  | .point, s =>
      ∃ digits exponent, s = digits ++ exponent ∧ digits ≠ [] ∧
        AreDigits digits ∧
      IsExponent exponent
  | .fraction, s =>
      ∃ digits exponent, s = digits ++ exponent ∧ AreDigits digits ∧
        IsExponent exponent
  | .mark, s =>
      ∃ sign digits, s = sign ++ digits ∧
        (sign = [] ∨ sign = [0x2b] ∨ sign = [0x2d]) ∧
      digits ≠ [] ∧ AreDigits digits
  | .sign, s => s ≠ [] ∧ AreDigits s
  | .exponent, s => AreDigits s

theorem areDigits_nil : AreDigits [] := by
  intro b member
  cases member

theorem areDigits_cons {b : UInt8} {s : Bytes} :
    AreDigits (b :: s) ↔ Bytes.isDigit b = true ∧ AreDigits s :=
  List.forall_mem_cons

theorem NumberPart.continues_nil_iff {part : NumberPart} :
    part.Continues [] ↔ part.isComplete = true := by
  cases part with
  | minus =>
      simp only [Continues, isComplete]
      constructor
      · rintro ⟨whole, fraction, exponent, empty, isWhole, -, -⟩
        cases isWhole <;> cases empty
      · intro complete
        cases complete
  | zero =>
      exact ⟨fun _ => rfl, fun _ => ⟨[], [], rfl, .none, .none⟩⟩
  | whole =>
      exact ⟨fun _ => rfl, fun _ =>
        ⟨[], [], [], rfl, areDigits_nil, .none, .none⟩⟩
  | point =>
      simp [Continues, isComplete]
  | fraction =>
      exact ⟨fun _ => rfl, fun _ => ⟨[], [], rfl, areDigits_nil, .none⟩⟩
  | mark =>
      simp [Continues, isComplete]
  | sign =>
      simp [Continues, isComplete]
  | exponent =>
      exact ⟨fun _ => rfl, fun _ => areDigits_nil⟩

theorem isExponent_cons_iff {b : UInt8} {s : Bytes} :
    IsExponent (b :: s) ↔ (b = 0x65 ∨ b = 0x45) ∧
      NumberPart.mark.Continues s := by
  constructor
  · intro isExponent
    cases isExponent with
    | digits marked signed nonempty digits =>
        exact ⟨marked, _, _, rfl, signed, nonempty, digits⟩
  · rintro ⟨marked, sign, digits, rfl, signed, nonempty, areDigits⟩
    exact .digits marked signed nonempty areDigits

namespace NumberPart

theorem zero_continues_cons {b : UInt8} {s : Bytes} :
    zero.Continues (b :: s) ↔ b = 0x2e ∧ point.Continues s ∨
      IsExponent (b :: s) := by
  constructor
  · rintro ⟨fraction, exponent, split, isFraction, isExponent⟩
    cases isFraction with
    | none =>
        right
        rw [split]
        exact isExponent
    | digits nonempty digits =>
        cases split
        exact .inl ⟨rfl, _, _, rfl, nonempty, digits, isExponent⟩
  · rintro (⟨rfl, digits, exponent, rfl, nonempty, areDigits, isExponent⟩ |
      isExponent)
    · exact ⟨0x2e :: digits, exponent, rfl,
        .digits nonempty areDigits, isExponent⟩
    · exact ⟨[], b :: s, rfl, .none, isExponent⟩

private theorem whole_continues_cons {b : UInt8} {s : Bytes} :
    whole.Continues (b :: s) ↔ Bytes.isDigit b = true ∧ whole.Continues s ∨
      zero.Continues (b :: s) := by
  constructor
  · rintro ⟨digits, fraction, exponent, split, areDigits,
      isFraction, isExponent⟩
    cases digits with
    | nil => exact .inr ⟨fraction, exponent, split, isFraction, isExponent⟩
    | cons d digits =>
        cases split
        obtain ⟨digit, others⟩ := areDigits_cons.1 areDigits
        exact .inl ⟨digit, digits, fraction, exponent, rfl, others,
          isFraction, isExponent⟩
  · rintro (⟨digit, digits, fraction, exponent, rfl, areDigits, isFraction,
      isExponent⟩ | ⟨fraction, exponent, split, isFraction, isExponent⟩)
    · exact ⟨b :: digits, fraction, exponent, rfl,
        areDigits_cons.2 ⟨digit, areDigits⟩, isFraction, isExponent⟩
    · exact ⟨[], fraction, exponent, split, areDigits_nil,
        isFraction, isExponent⟩

theorem minus_continues_cons {b : UInt8} {s : Bytes} :
    minus.Continues (b :: s) ↔
      b = 0x30 ∧ zero.Continues s ∨ b ≠ 0x30 ∧ Bytes.isDigit b = true ∧
        whole.Continues s := by
  constructor
  · rintro ⟨whole, fraction, exponent, split, isWhole, isFraction, isExponent⟩
    cases isWhole with
    | zero =>
        cases split
        exact .inl ⟨rfl, fraction, exponent, rfl, isFraction, isExponent⟩
    | digits digit nonzero others =>
        cases split
        exact .inr ⟨nonzero, digit, _, fraction, exponent, rfl, others,
          isFraction, isExponent⟩
  · rintro (⟨rfl, fraction, exponent, rfl, isFraction, isExponent⟩ |
      ⟨nonzero, digit, digits, fraction, exponent, rfl, areDigits, isFraction,
        isExponent⟩)
    · exact ⟨[0x30], fraction, exponent, rfl, .zero, isFraction, isExponent⟩
    · exact ⟨b :: digits, fraction, exponent, rfl,
        .digits digit nonzero areDigits, isFraction, isExponent⟩

private theorem fraction_continues_cons {b : UInt8} {s : Bytes} :
    fraction.Continues (b :: s) ↔
      Bytes.isDigit b = true ∧ fraction.Continues s ∨ IsExponent (b :: s) := by
  constructor
  · rintro ⟨digits, exponent, split, areDigits, isExponent⟩
    cases digits with
    | nil =>
        right
        rw [split]
        exact isExponent
    | cons d digits =>
        cases split
        obtain ⟨digit, others⟩ := areDigits_cons.1 areDigits
        exact .inl ⟨digit, digits, exponent, rfl, others, isExponent⟩
  · rintro (⟨digit, digits, exponent, rfl, areDigits, isExponent⟩ | isExponent)
    · exact ⟨b :: digits, exponent, rfl,
        areDigits_cons.2 ⟨digit, areDigits⟩, isExponent⟩
    · exact ⟨[], b :: s, rfl, areDigits_nil, isExponent⟩

private theorem point_continues_cons {b : UInt8} {s : Bytes} :
    point.Continues (b :: s) ↔ Bytes.isDigit b = true ∧
      fraction.Continues s := by
  constructor
  · rintro ⟨digits, exponent, split, nonempty, areDigits, isExponent⟩
    cases digits with
    | nil => exact absurd rfl nonempty
    | cons d digits =>
        cases split
        obtain ⟨digit, others⟩ := areDigits_cons.1 areDigits
        exact ⟨digit, digits, exponent, rfl, others, isExponent⟩
  · rintro ⟨digit, digits, exponent, rfl, areDigits, isExponent⟩
    exact ⟨b :: digits, exponent, rfl, List.cons_ne_nil _ _,
      areDigits_cons.2 ⟨digit, areDigits⟩, isExponent⟩

private theorem exponent_continues_cons {b : UInt8} {s : Bytes} :
    exponent.Continues (b :: s) ↔ Bytes.isDigit b = true ∧
      exponent.Continues s :=
  areDigits_cons

theorem sign_continues_cons {b : UInt8} {s : Bytes} :
    sign.Continues (b :: s) ↔ Bytes.isDigit b = true ∧
      exponent.Continues s := by
  simp [Continues, areDigits_cons]

private theorem mark_continues_cons {b : UInt8} {s : Bytes} :
    mark.Continues (b :: s) ↔ (b = 0x2b ∨ b = 0x2d) ∧ sign.Continues s ∨
      sign.Continues (b :: s) := by
  constructor
  · rintro ⟨signs, digits, split, rfl | rfl | rfl, nonempty, areDigits⟩
    · cases split
      exact .inr ⟨nonempty, areDigits⟩
    · cases split
      exact .inl ⟨.inl rfl, nonempty, areDigits⟩
    · cases split
      exact .inl ⟨.inr rfl, nonempty, areDigits⟩
  · rintro (⟨rfl | rfl, nonempty, areDigits⟩ | ⟨nonempty, areDigits⟩)
    · exact ⟨[0x2b], s, rfl, .inr (.inl rfl), nonempty, areDigits⟩
    · exact ⟨[0x2d], s, rfl, .inr (.inr rfl), nonempty, areDigits⟩
    · exact ⟨[], b :: s, rfl, .inl rfl, nonempty, areDigits⟩

theorem continues_cons_iff {part : NumberPart} {b : UInt8} {s : Bytes} :
    part.Continues (b :: s) ↔ ∃ next, nextPart? part b = some next ∧
      next.Continues s := by
  have point_no_digit : Bytes.isDigit 0x2e = false := rfl
  have small_mark_no_digit : Bytes.isDigit 0x65 = false := rfl
  have mark_no_digit : Bytes.isDigit 0x45 = false := rfl
  cases part with
  | minus => grind [nextPart?, minus_continues_cons]
  | zero => grind [nextPart?, zero_continues_cons, isExponent_cons_iff]
  | whole =>
      grind [nextPart?, whole_continues_cons, zero_continues_cons,
        isExponent_cons_iff]
  | point => grind [nextPart?, point_continues_cons]
  | fraction => grind [nextPart?, fraction_continues_cons, isExponent_cons_iff]
  | mark =>
      have plus_no_digit : Bytes.isDigit 0x2b = false := rfl
      have minus_no_digit : Bytes.isDigit 0x2d = false := rfl
      grind [nextPart?, mark_continues_cons, sign_continues_cons]
  | sign => grind [nextPart?, sign_continues_cons]
  | exponent => grind [nextPart?, exponent_continues_cons]

end NumberPart

theorem isNumber_iff {s : Bytes} :
    IsNumber s ↔ (∃ t, s = 0x2d :: t ∧ NumberPart.minus.Continues t) ∨
      NumberPart.minus.Continues s := by
  constructor
  · intro isNumber
    cases isNumber with
    | @mk sign whole fraction exponent signed isWhole isFraction isExponent =>
        obtain rfl | rfl := signed
        · exact .inr ⟨whole, fraction, exponent, rfl, isWhole,
            isFraction, isExponent⟩
        · exact .inl ⟨_, rfl, whole, fraction, exponent, rfl, isWhole,
            isFraction, isExponent⟩
  · rintro (⟨_, rfl, whole, fraction, exponent, rfl, isWhole, isFraction,
      isExponent⟩ | ⟨whole, fraction, exponent, rfl, isWhole, isFraction,
      isExponent⟩)
    · exact @IsNumber.mk [0x2d] _ _ _ (.inr rfl) isWhole isFraction isExponent
    · exact @IsNumber.mk [] _ _ _ (.inl rfl) isWhole isFraction isExponent

end ModelGateway.Document
