import ModelGateway.Proofs.Interchange

namespace ModelGateway

namespace Key

def snake (name : Bytes) : Bytes :=
  name.flatMap fun b =>
    if Bytes.isUpper b then [0x5f, Bytes.lowerByte b] else [b]

/-- The second text is the first with underscores repeated, and with more of
them at its end. -/
inductive Padded : Bytes → Bytes → Prop
  | ending (n : Nat) : Padded [] (List.replicate n 0x5f)
  | byte {b : UInt8} {s t : Bytes} (noUnderscore : b ≠ 0x5f)
      (rest : Padded s t) : Padded (b :: s) (b :: t)
  | underscore {s t : Bytes} (n : Nat) (rest : Padded s t) :
      Padded (0x5f :: s) (List.replicate (n + 1) 0x5f ++ t)

def raise (b : UInt8) : Bytes :=
  if b < 0x80 then [Bytes.upperByte b] else Utf8.encode Utf8.replacement

/-- The camel spelling byte by byte, given whether an underscore stands right
before the text. -/
def spellFrom : (behind : Bool) → Bytes → Bytes
  | _, [] => []
  | behind, b :: s =>
      if b = 0x5f then spellFrom true s
      else (if behind then raise b else [b]) ++ spellFrom false s

section SpellFrom

variable {behind : Bool} {b : UInt8} {s : Bytes}

@[simp] theorem spellFrom_nil (behind : Bool) : spellFrom behind [] = [] := by
  cases behind <;> rfl

@[simp] theorem spellFrom_underscore (behind : Bool) (s : Bytes) :
    spellFrom behind (0x5f :: s) = spellFrom true s := by
  cases behind <;> rfl

theorem spellFrom_false_cons (noUnderscore : b ≠ 0x5f) :
    spellFrom false (b :: s) = b :: spellFrom false s := by
  rw [spellFrom, if_neg noUnderscore]
  rfl

theorem spellFrom_true_cons (noUnderscore : b ≠ 0x5f) :
    spellFrom true (b :: s) = raise b ++ spellFrom false s := by
  rw [spellFrom, if_neg noUnderscore]
  rfl

private theorem spellFrom_replicate (behind : Bool) (n : Nat) :
    spellFrom behind (List.replicate n 0x5f) = [] := by
  induction n generalizing behind with
  | zero => exact spellFrom_nil behind
  | succ n induction =>
      rw [List.replicate_succ, spellFrom_underscore, induction]

private theorem spellFrom_replicate_append (behind : Bool) (n : Nat)
    (s : Bytes) :
    spellFrom behind (List.replicate (n + 1) 0x5f ++ s) = spellFrom true s := by
  induction n generalizing behind with
  | zero => exact spellFrom_underscore behind s
  | succ n induction =>
      rw [List.replicate_succ, List.cons_append,
        spellFrom_underscore, induction]

private theorem spellFrom_eq (s : Bytes) :
    ∃ first parts, Bytes.splitOn 0x5f s = first :: parts ∧
      spellFrom false s = first ++ parts.flatMap capitalize ∧
      spellFrom true s = capitalize first ++ parts.flatMap capitalize := by
  induction s with
  | nil => exact ⟨[], [], rfl, rfl, rfl⟩
  | cons b s induction =>
      obtain ⟨first, parts, split, plain, raised⟩ := induction
      by_cases underscore : b = 0x5f
      · subst underscore
        refine ⟨[], first :: parts, ?_, ?_, ?_⟩
        · simp only [Bytes.splitOn, split, beq_self_eq_true, if_true]
        · rw [spellFrom_underscore, raised, List.flatMap_cons, List.nil_append]
        · rw [spellFrom_underscore, raised, List.flatMap_cons, capitalize,
            List.nil_append]
      · refine ⟨b :: first, parts, ?_, ?_, ?_⟩
        · simp only [Bytes.splitOn, split, beq_iff_eq, underscore, if_false]
        · rw [spellFrom_false_cons underscore, plain, List.cons_append]
        · rw [spellFrom_true_cons underscore, plain, capitalize,
            List.append_assoc]
          rfl

theorem camel_eq_spellFrom (key : Bytes) : camel key = spellFrom false key := by
  obtain ⟨first, parts, split, plain, -⟩ := spellFrom_eq key
  rw [plain, camel, split]

end SpellFrom

section Capitals

variable {b : UInt8}

theorem isUpper_iff :
    Bytes.isUpper b = true ↔ 0x41 ≤ b.toNat ∧ b.toNat ≤ 0x5a := by
  simp [Bytes.isUpper, UInt8.le_iff_toNat_le]

theorem isLower_iff :
    Bytes.isLower b = true ↔ 0x61 ≤ b.toNat ∧ b.toNat ≤ 0x7a := by
  simp [Bytes.isLower, UInt8.le_iff_toNat_le]

theorem toNat_lowerByte (upper : Bytes.isUpper b = true) :
    (Bytes.lowerByte b).toNat = b.toNat + 32 := by
  have range := isUpper_iff.1 upper
  rw [Bytes.lowerByte, if_pos upper, UInt8.toNat_add]
  simp only [UInt8.toNat_ofNat]
  omega

private theorem lowerByte_ne_underscore (upper : Bytes.isUpper b = true) :
    Bytes.lowerByte b ≠ 0x5f := by
  have range := isUpper_iff.1 upper
  intro equal
  have code := toNat_lowerByte upper
  rw [equal] at code
  change 0x5f = b.toNat + 32 at code
  omega

private theorem raise_lowerByte (upper : Bytes.isUpper b = true) :
    raise (Bytes.lowerByte b) = [b] := by
  have range := isUpper_iff.1 upper
  have code := toNat_lowerByte upper
  have ascii : Bytes.lowerByte b < 0x80 := by
    rw [UInt8.lt_iff_toNat_lt, code]
    change b.toNat + 32 < 0x80
    omega
  have lower : Bytes.isLower (Bytes.lowerByte b) = true := by
    rw [isLower_iff, code]
    omega
  have back : Bytes.lowerByte b - 32 = b := by
    rw [Bytes.lowerByte, if_pos upper, UInt8.add_sub_cancel]
  rw [raise, if_pos ascii, Bytes.upperByte, if_pos lower, back]

end Capitals

theorem Padded.of_byte {b : UInt8} {s key : Bytes}
    (noUnderscore : b ≠ 0x5f)
    (padded : Padded (b :: s) key) :
    ∃ t, key = b :: t ∧ Padded s t := by
  generalize whole : b :: s = text at padded
  cases padded with
  | ending => cases whole
  | byte _ rest =>
      cases whole
      exact ⟨_, rfl, rest⟩
  | underscore => exact absurd (List.cons.inj whole).1 noUnderscore

private theorem Padded.of_underscore {s key : Bytes}
    (padded : Padded (0x5f :: s) key) :
    ∃ n t, key = List.replicate (n + 1) 0x5f ++ t ∧ Padded s t := by
  cases padded with
  | byte impossible _ => exact absurd rfl impossible
  | underscore n rest => exact ⟨n, _, rfl, rest⟩

private theorem padded_refl (s : Bytes) : Padded s s := by
  induction s with
  | nil => exact .ending 0
  | cons b s induction =>
      by_cases underscore : b = 0x5f
      · subst underscore
        exact .underscore 0 induction
      · exact .byte underscore induction

private theorem snake_cons_of_isUpper {b : UInt8}
    (upper : Bytes.isUpper b = true)
    (name : Bytes) :
    snake (b :: name) = 0x5f :: Bytes.lowerByte b :: snake name := by
  rw [snake, List.flatMap_cons, if_pos upper]
  rfl

private theorem snake_cons_of_not_isUpper {b : UInt8}
    (other : Bytes.isUpper b = false)
    (name : Bytes) :
    snake (b :: name) = b :: snake name := by
  rw [snake, List.flatMap_cons, other]
  rfl

theorem camel_of_padded_snake {name key : Bytes}
    (absent : 0x5f ∉ name)
    (padded : Padded (snake name) key) :
    camel key = name := by
  rw [camel_eq_spellFrom]
  induction name generalizing key with
  | nil =>
      cases padded with
      | ending n => exact spellFrom_replicate false n
  | cons b name induction =>
      obtain ⟨noUnderscore, absent⟩ := not_or.1 (mt List.mem_cons.2 absent)
      cases upper : Bytes.isUpper b with
      | true =>
          have small := lowerByte_ne_underscore upper
          rw [snake_cons_of_isUpper upper] at padded
          obtain ⟨n, _, rfl, behind⟩ := padded.of_underscore
          obtain ⟨rest, rfl, others⟩ := behind.of_byte small
          rw [spellFrom_replicate_append, spellFrom_true_cons small,
            raise_lowerByte upper, induction absent others]
          rfl
      | false =>
          rw [snake_cons_of_not_isUpper upper] at padded
          obtain ⟨rest, rfl, others⟩ := padded.of_byte (Ne.symm noUnderscore)
          rw [spellFrom_false_cons (Ne.symm noUnderscore),
            induction absent others]

end Key

private theorem Record.underscore_not_mem_name {record : Record} {f : Field}
    (member : f ∈ record.fields) :
    0x5f ∉ f.name :=
  Key.no_underscore_of_foldEq (record.name_has_no_underscore f member)
    (Key.foldEq_self f.name)

private theorem Decode.fieldOf?_name {record : Record} {f : Field}
    {keys : List Bytes} (member : f ∈ record.fields) (present : f.name ∈ keys) :
    fieldOf? record keys f.name = some f := by
  apply fieldOf?_eq_some member
  rw [chosenKey?, if_pos (List.contains_iff_mem.2 present)]

namespace Normalize

variable {options out : Fields Binary} {key : Bytes} {v : Value}

private theorem mem_of_fields_eq_ok
    (respelt : Normalize.fields options = .ok out)
    (member : (key, v) ∈ options) :
    (Key.camel key, Respell.value (Key.role (Key.camel key)) v) ∈ out := by
  rw [(fields_eq_ok_iff.1 respelt).2, Respell.fields_eq_map]
  exact List.mem_map.2 ⟨(key, v), member, rfl⟩

end Normalize

namespace Key

/-- A name without underscores is what its snake spelling stands for, however
the underscores are multiplied. So an option in snake case is taken as one under
its own name would be, and it is set into the field of that name. -/
theorem camel_undoes_snake :
    (∀ name, 0x5f ∉ name → camel (snake name) = name) ∧
      (∀ name key, 0x5f ∉ name → Padded (snake name) key → camel key = name) ∧
      ∀ (record : Record), ∀ f ∈ record.fields, ∀ key,
        Padded (snake f.name) key →
        ∀ (before after : Fields Binary) (v : Value),
          Normalize.fields (before ++ (key, v) :: after) =
            Normalize.fields (before ++ (f.name, v) :: after) ∧
            ∀ out, Normalize.fields (before ++ (key, v) :: after) = .ok out →
              (f.name, Respell.value (role f.name) v) ∈ out ∧
                Decode.fieldOf? record out.keys f.name = some f := by
  refine ⟨?_, ?_, ?_⟩
  · intro name absent
    exact camel_of_padded_snake absent (padded_refl _)
  · intro name key absent padded
    exact camel_of_padded_snake absent padded
  · intro record f member key padded before after v
    have plain := Record.underscore_not_mem_name member
    have camel_eq : camel key = f.name := camel_of_padded_snake plain padded
    constructor
    · apply Normalize.fieldsFrom_congr
      · rw [camel_eq, camel_of_no_underscore plain]
      · rfl
    · intro out respelt
      have held := Normalize.mem_of_fields_eq_ok respelt
        (List.mem_append_right before List.mem_cons_self)
      rw [camel_eq] at held
      exact ⟨held, Decode.fieldOf?_name member (List.mem_map.2 ⟨_, held, rfl⟩)⟩

theorem acronym_and_letter_read_back :
    camel (snake (utf8 "JSéB")) = utf8 "JSéB" ∧
      camel (utf8 "__j_sé___b_") = utf8 "JSéB" ∧
      ∃ out, Normalize.fields [("top__k_", .bool true), ("labels", .null)] =
        .ok out ∧
        (utf8 "topK", .bool true) ∈ out ∧
          Decode.fieldOf? .generation out.keys "topK" =
            some ⟨"topK", .optional .float32⟩ := by
  have absent : 0x5f ∉ utf8 "JSéB" := by decide
  have padded : Padded (snake (utf8 "JSéB")) (utf8 "__j_sé___b_") :=
    .underscore 1 (.byte (by decide)
      (.underscore 0
        (.byte (by decide)
          (.byte (by decide)
            (.byte (by decide)
              (.underscore 2 (.byte (by decide) (.ending 1))))))))
  have padded' : Padded (snake (utf8 "topK")) (utf8 "top__k_") :=
    .byte (by decide) (.byte (by decide)
      (.byte (by decide) (.underscore 1 (.byte (by decide) (.ending 1)))))
  obtain ⟨out, respelt⟩ : ∃ out,
    Normalize.fields [("top__k_", .bool true), ("labels", .null)] = .ok out :=
    ⟨_, rfl⟩
  have reached := camel_undoes_snake.2.2 .generation
    ⟨"topK", .optional .float32⟩ (by decide) _ padded' []
    [("labels", .null)] (.bool true)
  exact ⟨camel_undoes_snake.1 _ absent, camel_undoes_snake.2.1 _ _ absent
    padded, out, respelt, reached.2 out respelt⟩

end Key

end ModelGateway
