import ModelGateway.Generation.Key

namespace ModelGateway

namespace Bytes

private theorem splitOn_of_not_mem {sep : UInt8} {s : Bytes}
    (absent : sep ∉ s) :
    splitOn sep s = [s] := by
  induction s with
  | nil => rfl
  | cons b s ih =>
      simp only [List.mem_cons, not_or] at absent
      have differs : (b == sep) = false := by
        simpa using fun h => absent.1 h.symm
      simp [splitOn, differs, ih absent.2]

private theorem splitOn_pieces (sep : UInt8) (s : Bytes) :
    ∀ piece ∈ splitOn sep s, sep ∉ piece := by
  induction s with
  | nil => simp [splitOn]
  | cons b s ih =>
      by_cases h : b = sep
      · subst h
        simpa [splitOn] using ih
      · have differs : (b == sep) = false := by simpa using h
        cases tail : splitOn sep s with
        | nil =>
            intro piece member
            have piece_eq : piece = [b] := by
              simpa [splitOn, differs, tail] using member
            simpa [piece_eq] using fun h' => h h'.symm
        | cons first rest =>
            rw [tail] at ih
            intro piece member
            have cases : piece = b :: first ∨ piece ∈ rest := by
              simpa [splitOn, differs, tail] using member
            rcases cases with rfl | member
            · have := ih first (by simp)
              simpa [this] using fun h' => h h'.symm
            · exact ih piece (by simp [member])

end Bytes

namespace Key

theorem camel_of_no_underscore {key : Bytes}
    (absent : 0x5f ∉ key) : camel key = key := by
  simp [camel, Bytes.splitOn_of_not_mem absent]

private theorem upperByte_ne_underscore {b : UInt8} (h : b ≠ 0x5f) :
    Bytes.upperByte b ≠ 0x5f := by
  unfold Bytes.upperByte Bytes.isLower
  split
  · rename_i lower
    simp only [Bool.and_eq_true, decide_eq_true_eq, UInt8.le_iff_toNat_le]
      at lower
    intro equal
    have := congrArg UInt8.toNat equal
    simp only [UInt8.toNat_sub, UInt8.toNat_ofNat] at this lower
    omega
  · exact h

private theorem capitalize_no_underscore {part : Bytes}
    (absent : 0x5f ∉ part) : 0x5f ∉ capitalize part := by
  cases part with
  | nil => simp [capitalize]
  | cons b rest =>
      simp only [List.mem_cons, not_or] at absent
      have first : 0x5f ∉ (if b < 0x80 then
          [Bytes.upperByte b] else Utf8.encode Utf8.replacement) := by
        split
        · simpa using fun h =>
            upperByte_ne_underscore (fun h' => absent.1 h'.symm) h.symm
        · decide
      simp [capitalize, first, absent.2]

theorem camel_no_underscore (key : Bytes) : 0x5f ∉ camel key := by
  have pieces := Bytes.splitOn_pieces 0x5f key
  unfold camel
  cases parts : Bytes.splitOn 0x5f key with
  | nil => simp
  | cons first rest =>
      rw [parts] at pieces
      simp only [List.mem_append, List.mem_flatMap, not_or, not_exists, not_and]
      refine ⟨pieces first (by simp), fun part member => ?_⟩
      exact capitalize_no_underscore (pieces part (by simp [member]))

@[simp] theorem camel_camel (key : Bytes) : camel (camel key) = camel key :=
  camel_of_no_underscore (camel_no_underscore key)

end Key

namespace Utf8

theorem not_lt_of_isTail {b : UInt8} (h : isTail b = true) : ¬ b < 0x80 := by
  simp only [isTail, Bool.and_eq_true, decide_eq_true_eq] at h
  exact UInt8.not_lt.mpr h.1

private theorem not_lt_of_isSecondOfThree {a b : UInt8}
    (h : isSecondOfThree a b = true) : ¬ b < 0x80 := by
  simp only [isSecondOfThree, Bool.or_eq_true, Bool.and_eq_true,
    decide_eq_true_eq] at h
  rcases h with ((h | h) | h) | h
  · exact UInt8.not_lt.mpr (UInt8.le_trans (by decide) h.1.2)
  · exact not_lt_of_isTail h.2
  · exact UInt8.not_lt.mpr h.1.2
  · exact not_lt_of_isTail h.2

private theorem not_lt_of_isSecondOfFour {a b : UInt8}
    (h : isSecondOfFour a b = true) : ¬ b < 0x80 := by
  simp only [isSecondOfFour, Bool.or_eq_true, Bool.and_eq_true,
    decide_eq_true_eq] at h
  rcases h with (h | h) | h
  · exact UInt8.not_lt.mpr (UInt8.le_trans (by decide) h.1.2)
  · exact not_lt_of_isTail h.2
  · exact UInt8.not_lt.mpr h.1.2

private theorem mem_codes_of_mem {b : UInt8} {s : Bytes}
    (ascii : b < 0x80) (member : b ∈ s) :
    b.toNat ∈ codes s := by
  suffices piece :
      Piece.scalar b.toNat ∈ pieces s from List.mem_map.mpr ⟨_, piece, rfl⟩
  have ne {c : UInt8} (high : ¬ c < 0x80) : b ≠ c := fun h => high (h ▸ ascii)
  fun_induction pieces s with
  | case1 => simp at member
  | case2 a s _ ih =>
      rcases List.mem_cons.mp member with rfl | member
      · simp
      · simp [ih member]
  | case3 a high => simp [ne high] at member
  | case4 a high c s two ih =>
      simp only [Bool.and_eq_true] at two
      simp only [List.mem_cons, ne high, ne (not_lt_of_isTail two.2), false_or]
        at member
      simp [ih member]
  | case5 a high c _ ih =>
      have rest : b ∈ [c] := (List.mem_cons.mp member).resolve_left (ne high)
      simp [ih rest]
  | case6 a high c _ d s three ih =>
      simp only [Bool.and_eq_true] at three
      simp only [List.mem_cons, ne high, ne (not_lt_of_isSecondOfThree three.1),
        ne (not_lt_of_isTail three.2), false_or] at member
      simp [ih member]
  | case7 a high c _ d _ ih =>
      have rest : b ∈ [c, d] := (List.mem_cons.mp member).resolve_left (ne high)
      simp [ih rest]
  | case8 a high c _ d _ e s four ih =>
      simp only [Bool.and_eq_true] at four
      simp only [List.mem_cons, ne high, ne (not_lt_of_isSecondOfFour four.1.1),
        ne (not_lt_of_isTail four.1.2), ne (not_lt_of_isTail four.2),
        false_or] at member
      simp [ih member]
  | case9 a high c _ d _ e s _ ih =>
      have rest : b ∈ c :: d :: e :: s :=
        (List.mem_cons.mp member).resolve_left (ne high)
      simp [ih rest]

end Utf8

namespace Key

theorem foldEq_iff {a b : Bytes} :
    foldEq a b = true ↔ (Utf8.codes a).map foldCode =
      (Utf8.codes b).map foldCode := by
  simp [foldEq]

@[simp] theorem foldEq_self (a : Bytes) : foldEq a a = true :=
  foldEq_iff.mpr rfl

theorem foldEq_symm {a b : Bytes} (h : foldEq a b = true) : foldEq b a = true :=
  foldEq_iff.mpr (foldEq_iff.mp h).symm

theorem foldEq_trans {a b c : Bytes}
    (h : foldEq a b = true) (h' : foldEq b c = true) :
    foldEq a c = true :=
  foldEq_iff.mpr ((foldEq_iff.mp h).trans (foldEq_iff.mp h'))

theorem no_underscore_of_foldEq {name key : Bytes}
    (plain : 0x5f ∉ (Utf8.codes name).map foldCode)
    (h : foldEq name key = true) : 0x5f ∉ key := by
  intro member
  apply plain
  rw [foldEq_iff.mp h]
  have code : 0x5f ∈ Utf8.codes key :=
    Utf8.mem_codes_of_mem (b := 0x5f) (by decide) member
  exact List.mem_map.mpr ⟨0x5f, code, rfl⟩

end Key

end ModelGateway
