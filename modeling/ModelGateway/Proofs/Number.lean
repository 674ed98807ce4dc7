import Mathlib.Algebra.Order.Field.Rat
import Mathlib.Algebra.Order.Field.Power
import Mathlib.Tactic.Push
import ModelGateway.Proofs.Decoding

namespace ModelGateway

namespace Binary

def value (x : Binary) : ℚ :=
  (if x.neg then -(x.mant : ℚ) else x.mant) * 2 ^ x.exp

theorem ratio_den_pos (x : Binary) : 0 < x.ratio.2 := by
  unfold ratio
  cases x.exp with
  | ofNat k => exact Nat.one_pos
  | negSucc k => exact Nat.pow_pos (by omega)

theorem value_mul_den (x : Binary) :
    x.value * x.ratio.2 =
      ((if x.neg then -(x.ratio.1 : ℤ) else x.ratio.1 : ℤ) : ℚ) := by
  obtain ⟨neg, mant, exp⟩ := x
  cases exp with
  | ofNat k => cases neg <;> simp [value, ratio]
  | negSucc k => cases neg <;> simp [value, ratio, zpow_negSucc]

private theorem trunc_mul_den {x : Binary} (whole : x.isWhole = true) :
    x.trunc * x.ratio.2 = if x.neg then -(x.ratio.1 : ℤ) else x.ratio.1 := by
  have divides : x.ratio.2 ∣ x.ratio.1 := by
    apply Nat.dvd_of_mod_eq_zero
    simpa [isWhole] using whole
  have exact : ((x.ratio.1 / x.ratio.2 : Nat) : ℤ) * x.ratio.2 = x.ratio.1 := by
    exact_mod_cast Nat.div_mul_cancel divides
  unfold trunc
  cases x.neg with
  | false => simpa using exact
  | true => simpa [Int.neg_mul] using exact

theorem trunc_eq_value {x : Binary}
    (whole : x.isWhole = true) : (x.trunc : ℚ) = x.value := by
  have positive : (x.ratio.2 : ℚ) ≠ 0 := by exact_mod_cast x.ratio_den_pos.ne'
  apply mul_right_cancel₀ positive
  rw [value_mul_den, ← trunc_mul_den whole]
  push_cast
  rfl

theorem isWhole_iff {x : Binary} : x.isWhole = true ↔ ∃ n : ℤ, x.value = n := by
  constructor
  · intro whole
    exact ⟨x.trunc, (trunc_eq_value whole).symm⟩
  · rintro ⟨n, same⟩
    have product : n * (x.ratio.2 : ℤ) = if x.neg then
        -(x.ratio.1 : ℤ) else x.ratio.1 := by
      have scaled := x.value_mul_den
      rw [same] at scaled
      exact_mod_cast scaled
    have divides : (x.ratio.2 : ℤ) ∣ x.ratio.1 := by
      have side :
          (x.ratio.2 : ℤ) ∣ if x.neg then -(x.ratio.1 : ℤ) else x.ratio.1 :=
        ⟨n, by rw [← product, Int.mul_comm]⟩
      split at side
      · exact Int.dvd_neg.mp side
      · exact side
    have remainder :=
      Nat.mod_eq_zero_of_dvd (Int.natCast_dvd_natCast.mp divides)
    simpa [isWhole] using remainder

end Binary

/-- The whole numbers that a word of `bits` bits can hold. -/
def WordHolds (isSigned : Bool) (bits : Nat) (n : ℤ) : Prop :=
  if isSigned then -2 ^ (bits - 1) ≤ n ∧ n < 2 ^ (bits - 1) else 0 ≤ n ∧
    n < 2 ^ bits

instance  (isSigned : Bool) (bits : Nat) (n : ℤ) :
    Decidable (WordHolds isSigned bits n) :=
  inferInstanceAs (Decidable (if isSigned then _ else _))

theorem Binary.toWord_eq (x : Binary) :
    x.toWord = if WordHolds true 64 x.trunc then x.trunc else -2 ^ 63 := by
  unfold Binary.toWord
  by_cases held : WordHolds true 64 x.trunc
  · rw [if_pos held]
    obtain ⟨lower, upper⟩ := held
    simp only [Bool.and_eq_true, decide_eq_true_eq]
    exact if_pos ⟨lower, upper⟩
  · rw [if_neg held]
    simp only [Bool.and_eq_true, decide_eq_true_eq]
    exact if_neg held

namespace Decode

variable {isSigned : Bool} {bits : Nat} {n : ℤ}

theorem narrow_unsigned (bits : Nat) (n : ℤ) :
    narrow false bits n = n % 2 ^ bits := by
  change n % ((2 ^ bits : Nat) : ℤ) = n % 2 ^ bits
  push_cast
  rfl

theorem narrow_signed (bits : Nat) (n : ℤ) :
    narrow true bits n = n.bmod (2 ^ bits) := rfl

theorem two_pow_pred (nonempty : 1 ≤ bits) :
    ((2 ^ bits : Nat) : ℤ) = 2 * 2 ^ (bits - 1) := by
  obtain ⟨k, rfl⟩ : ∃ k, bits = k + 1 := ⟨bits - 1, by omega⟩
  push_cast
  rw [pow_succ, mul_comm]

theorem wordHolds_narrow (nonempty : 1 ≤ bits) :
    WordHolds isSigned bits (narrow isSigned bits n) := by
  cases isSigned with
  | false =>
      have positive : (0 : ℤ) < 2 ^ bits := pow_pos (by omega) bits
      rw [narrow_unsigned]
      exact ⟨Int.emod_nonneg n positive.ne', Int.emod_lt_of_pos n positive⟩
  | true =>
      have positive : 0 < 2 ^ bits := Nat.pow_pos (by omega)
      have lower := Int.le_bmod (x := n) positive
      have upper := Int.bmod_lt (x := n) positive
      rw [two_pow_pred nonempty] at lower upper
      rw [narrow_signed]
      constructor
      · omega
      · omega

private theorem narrow_of_wordHolds (nonempty : 1 ≤ bits)
    (held : WordHolds isSigned bits n) :
    narrow isSigned bits n = n := by
  cases isSigned with
  | false =>
      rw [narrow_unsigned]
      exact Int.emod_eq_of_lt held.1 held.2
  | true =>
      obtain ⟨lower, upper⟩ : -2 ^ (bits - 1) ≤ n ∧ n < 2 ^ (bits - 1) := held
      rw [narrow_signed]
      apply Int.bmod_eq_of_le_mul_two
      · rw [two_pow_pred nonempty]
        omega
      · rw [two_pow_pred nonempty]
        omega

theorem narrow_emod : narrow isSigned bits n % 2 ^ bits = n % 2 ^ bits := by
  cases isSigned with
  | false => rw [narrow_unsigned, Int.emod_emod]
  | true =>
      have wrapped := Int.bmod_emod (x := n) (m := 2 ^ bits)
      push_cast at wrapped
      rw [narrow_signed, wrapped]

private theorem wordHolds_of_sized {name : Bytes}
    (sized : (Shape.integer name isSigned bits).isSized = true)
    (held : WordHolds isSigned bits n) : WordHolds true 64 n := by
  change -2 ^ 63 ≤ n ∧ n < 2 ^ 63
  cases isSigned with
  | false =>
      have most : (2 : ℤ) ^ bits ≤ 2 ^ 63 :=
        pow_le_pow_right₀ (by omega) (by simp [Shape.isSized] at sized; omega)
      obtain ⟨lower, upper⟩ : 0 ≤ n ∧ n < 2 ^ bits := held
      omega
  | true =>
      have most : (2 : ℤ) ^ (bits - 1) ≤ 2 ^ 63 :=
        pow_le_pow_right₀ (by omega) (by simp [Shape.isSized] at sized; omega)
      obtain ⟨lower, upper⟩ : -2 ^ (bits - 1) ≤ n ∧ n < 2 ^ (bits - 1) := held
      omega

/-- A whole number comes through a word unchanged exactly when the word can hold
it. -/
theorem narrow_toWord_eq_iff {name : Bytes} {x : Binary}
    (sized : (Shape.integer name isSigned bits).isSized = true) :
    narrow isSigned bits x.toWord = x.trunc ↔
      WordHolds isSigned bits x.trunc := by
  have nonempty : 1 ≤ bits := by
    simp [Shape.isSized] at sized
    omega
  constructor
  · intro same
    rw [← same]
    exact wordHolds_narrow nonempty
  · intro held
    rw [Binary.toWord_eq, if_pos (wordHolds_of_sized sized held)]
    exact narrow_of_wordHolds nonempty held

private theorem readDigits_le {base most : Nat} {separators : Bool}
    {digits : Bytes} {n m : Nat}
    (bound : n ≤ most)
    (read : Numeral.readDigits base most separators n digits = .ok m) :
    m ≤ most := by
  fun_induction Numeral.readDigits base most separators n digits with
  | case1 n =>
      cases read
      exact bound
  | case2 n b digits _ ih => exact ih bound read
  | case3 n b digits _ _ => cases read
  | case4 n b digits _ d _ _ => cases read
  | case5 n b digits _ d _ _ _ => cases read
  | case6 n b digits _ d _ _ inRange ih => exact ih (by omega) read

private theorem natural_le {most n : Nat} {t : Bytes}
    (read : Numeral.natural most t = .ok n) : n ≤ most := by
  unfold Numeral.natural at read
  split at read
  · cases read
  · simp only at read
    split at read
    · rename_i m digits
      split at read
      · cases read
      · cases read
        exact readDigits_le (Nat.zero_le most) digits
    · cases read

theorem byte_of_decode {path : Bytes} {s : Shape} {v : Value}
    {x : Setting} (isByte : s.isByte = true)
    (decoded : decode path s v = .ok x) :
    ∃ b : UInt8, x = .integer b.toNat := by
  have held (n : Nat) (h : n < 256) : ∃ b : UInt8, Setting.integer n =
      .integer b.toNat :=
    ⟨UInt8.ofNat n, by simp [Nat.mod_eq_of_lt h]⟩
  obtain ⟨name, rfl⟩ : ∃ name, s = .integer name false 8 := by
    cases s with
    | integer name isSigned bits =>
        simp only [Shape.isByte, Bool.and_eq_true, Bool.not_eq_true',
          beq_iff_eq] at isByte
        obtain ⟨rfl, rfl⟩ := isByte
        exact ⟨name, rfl⟩
    | _ => simp [Shape.isByte] at isByte
  -- Numbers are cut down to the width, texts are read within it.
  cases v with
  | null =>
      cases decoded
      exact held 0 (by decide)
  | bool b =>
      cases decoded
      cases b
      · exact held 0 (by decide)
      · exact held 1 (by decide)
  | number z =>
      rw [decode_integer_number] at decoded
      split at decoded
      · cases decoded
        obtain ⟨lower, upper⟩ : WordHolds false 8 (narrow false 8 z.toWord) :=
          wordHolds_narrow (by omega)
        rw [← Int.toNat_of_nonneg lower]
        exact held _ (by omega)
      · cases decoded
  | string t =>
      simp only [decode, Shape.core, ofText, Bool.false_eq_true, if_false]
        at decoded
      split at decoded
      · rename_i n read
        cases decoded
        exact held n (Nat.lt_succ_of_le (natural_le read))
      · cases decoded
  | array items => cases decoded
  | object fields => cases decoded

end Decode

end ModelGateway
