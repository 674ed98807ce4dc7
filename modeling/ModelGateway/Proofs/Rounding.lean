import Mathlib.Algebra.Order.Round
import Mathlib.Tactic.FieldSimp
import Mathlib.Tactic.GCongr
import Mathlib.Tactic.Linarith
import ModelGateway.Proofs.Number

namespace ModelGateway

namespace Binary

theorem value_negated (x : Binary) :
    value { x with neg := !x.neg } = -x.value := by
  obtain ⟨neg, mant, exp⟩ := x
  cases neg <;> simp [value]

private theorem abs_value (x : Binary) : |x.value| = x.mant * 2 ^ x.exp := by
  have positive : (0 : ℚ) ≤ x.mant * 2 ^ x.exp := by positivity
  unfold value
  split
  · rw [neg_mul, abs_neg, abs_of_nonneg positive]
  · exact abs_of_nonneg positive

end Binary

/-- A whole number within a half of `q` is as near to it as any, and another is
as near only if both are a half away. -/
theorem abs_sub_le_of_half {m : ℤ} {q : ℚ}
    (close : |m - q| ≤ 1 / 2)
    (z : ℤ) :
    |m - q| ≤ |z - q| ∧ (|z - q| = |m - q| → z = m ∨ |m - q| = 1 / 2) := by
  by_cases same : z = m
  · subst same
    exact ⟨le_refl _, fun _ => .inl rfl⟩
  · have apart : (1 : ℚ) ≤ |(z : ℚ) - m| := by
      have step : 1 ≤ |z - m| := Int.one_le_abs (sub_ne_zero.2 same)
      exact_mod_cast step
    have triangle : |(z : ℚ) - m| ≤ |z - q| + |m - q| := by
      rw [abs_sub_comm (m : ℚ) q]
      exact abs_sub_le _ _ _
    refine ⟨by linarith, fun equal => .inr ?_⟩
    linarith

namespace Format

variable {f : Format} {num den : Nat}

def Holds (f : Format) (x : Binary) : Prop :=
  x.mant < 2 ^ f.bits ∧ f.least ≤ x.exp ∧ x.exp ≤ f.greatest

/-- A number of the format that is as near to `q` as any other, with an even
significand if another one is as near. -/
structure IsNearest (f : Format) (q : ℚ) (x : Binary) : Prop where
  holds : f.Holds x
  nearest : ∀ y, f.Holds y → |x.value - q| ≤ |y.value - q|
  even : ∀ y, f.Holds y → |y.value - q| = |x.value - q| →
    y.value = x.value ∨ x.mant % 2 = 0

private theorem roundQuotient_close (positive : 0 < den) :
    |(roundQuotient num den : ℚ) - num / den| ≤ 1 / 2 ∧
      (|(roundQuotient num den : ℚ) - num / den| = 1 / 2 →
        roundQuotient num den % 2 = 0) := by
  have den_pos : (0 : ℚ) < den := by exact_mod_cast positive
  have whole :
      (num : ℚ) / den = (num / den : Nat) + ((num % den : Nat) : ℚ) / den := by
    have parts : ((den * (num / den) + num % den : Nat) : ℚ) = num := by
      rw [Nat.div_add_mod]
    push_cast at parts
    rw [← parts]
    field_simp
  have low : (0 : ℚ) ≤ ((num % den : Nat) : ℚ) / den := by positivity
  have share :
      2 * (((num % den : Nat) : ℚ) / den) * den = (2 * (num % den) : Nat) := by
    push_cast
    field_simp
  simp only [roundQuotient]
  rw [whole]
  -- Below the half, above it, and on it with an even or an odd quotient.
  split_ifs with down up even
  · have less : 2 * (((num % den : Nat) : ℚ) / den) < 1 := by
      rw [← mul_lt_mul_iff_left₀ den_pos, share, one_mul]
      exact_mod_cast down
    rw [sub_add_cancel_left, abs_neg, abs_of_nonneg low]
    exact ⟨by linarith, fun equal => by linarith⟩
  · have more : 1 < 2 * (((num % den : Nat) : ℚ) / den) := by
      rw [← mul_lt_mul_iff_left₀ den_pos, share, one_mul]
      exact_mod_cast up
    have most : ((num % den : Nat) : ℚ) / den < 1 := by
      rw [div_lt_one den_pos]
      exact_mod_cast Nat.mod_lt num positive
    push_cast
    rw [add_sub_add_left_eq_sub, abs_of_nonneg (by linarith)]
    exact ⟨by linarith, fun equal => by linarith⟩
  all_goals
    have half : 2 * (((num % den : Nat) : ℚ) / den) = 1 := by
      rw [← mul_left_inj' den_pos.ne', share, one_mul]
      exact_mod_cast Nat.le_antisymm (Nat.le_of_not_lt up)
        (Nat.le_of_not_lt down)
  · rw [sub_add_cancel_left, abs_neg, abs_of_nonneg low]
    exact ⟨by linarith, fun _ => eq_of_beq even⟩
  · push_cast
    rw [add_sub_add_left_eq_sub, abs_of_nonneg (by linarith)]
    refine ⟨by linarith, fun _ => ?_⟩
    have odd : num / den % 2 ≠ 0 := fun zero => even (beq_iff_eq.2 zero)
    omega

theorem scale_eq (num den : Nat) (shift : ℤ) :
    ((scale num den shift).1 : ℚ) / (scale num den shift).2 =
      num / den / 2 ^ shift := by
  cases shift with
  | ofNat k =>
      simp only [scale, Int.ofNat_eq_natCast, zpow_natCast]
      push_cast [Nat.pow_eq]
      rw [div_mul_eq_div_div]
  | negSucc k =>
      simp only [scale, zpow_negSucc, div_inv_eq_mul]
      push_cast [Nat.pow_eq]
      rw [div_mul_eq_mul_div]

theorem scale_pos (positive : 0 < den) (shift : ℤ) :
    0 < (scale num den shift).2 := by
  cases shift with
  | ofNat k => exact Nat.mul_pos positive (Nat.pow_pos (by decide))
  | negSucc k => exact positive

section Place

variable (some_num : 0 < num) (some_den : 0 < den)

include some_num some_den

private theorem quotient_bounds :
    (2 : ℚ) ^ ((num.log2 : ℤ) - den.log2 - 1) ≤ num / den ∧
      (num / den : ℚ) < 2 ^ ((num.log2 : ℤ) - den.log2 + 1) := by
  have den_pos : (0 : ℚ) < den := by exact_mod_cast some_den
  have num_ge : (2 : ℚ) ^ (num.log2 : ℤ) ≤ num := by
    rw [zpow_natCast]
    exact_mod_cast Nat.log2_self_le some_num.ne'
  have num_lt : (num : ℚ) < 2 ^ ((num.log2 : ℤ) + 1) := by
    have bound := Nat.lt_log2_self (n := num)
    exact_mod_cast bound
  have den_ge : (2 : ℚ) ^ (den.log2 : ℤ) ≤ den := by
    rw [zpow_natCast]
    exact_mod_cast Nat.log2_self_le some_den.ne'
  have den_lt : (den : ℚ) < 2 ^ ((den.log2 : ℤ) + 1) := by
    have bound := Nat.lt_log2_self (n := den)
    exact_mod_cast bound
  constructor
  · rw [le_div_iff₀ den_pos]
    calc (2 : ℚ) ^ ((num.log2 : ℤ) - den.log2 - 1) * den
        ≤ 2 ^ ((num.log2 : ℤ) - den.log2 - 1) * 2 ^ ((den.log2 : ℤ) + 1) := by
          gcongr
      _ = 2 ^ (num.log2 : ℤ) := by
          rw [← zpow_add₀ (by norm_num)]
          congr 1
          omega
      _ ≤ num := num_ge
  · rw [div_lt_iff₀ den_pos]
    calc (num : ℚ) < 2 ^ ((num.log2 : ℤ) + 1) := num_lt
      _ = 2 ^ ((num.log2 : ℤ) - den.log2 + 1) * 2 ^ (den.log2 : ℤ) := by
          rw [← zpow_add₀ (by norm_num)]
          congr 1
          omega
      _ ≤ 2 ^ ((num.log2 : ℤ) - den.log2 + 1) * den := by
          gcongr

/-- The significand of a quotient fits the format at its last place, and above
the least place it fills the format. -/
theorem lastPlace_bounds (f : Format) :
    (num / den : ℚ) < 2 ^ ((f.bits : ℤ) + f.lastPlace num den) ∧
      f.least ≤ f.lastPlace num den ∧
      (f.least < f.lastPlace num den →
        2 ^ ((f.bits : ℤ) - 1 + f.lastPlace num den) ≤ (num / den : ℚ)) := by
  obtain ⟨lower, upper⟩ := quotient_bounds some_num some_den
  have one_le : (1 : ℚ) ≤ 2 := by norm_num
  simp only [lastPlace]
  generalize guess_eq : (num.log2 : ℤ) - den.log2 - f.bits = guess at *
  have d_pos : (0 : ℚ) < (scale num den guess).2 := by
    exact_mod_cast scale_pos some_den guess
  have fills :
      (scale num den guess).1 ≥ Nat.pow 2 f.bits * (scale num den guess).2 ↔
      2 ^ ((f.bits : ℤ) + guess) ≤ (num / den : ℚ) := by
    rw [zpow_add₀ (by norm_num), ← le_div_iff₀ (by positivity), ← scale_eq,
      le_div_iff₀ d_pos, zpow_natCast]
    exact_mod_cast Iff.rfl
  refine ⟨?_, le_max_left _ _, ?_⟩
  · split
    next =>
      refine lt_of_lt_of_le upper (zpow_le_zpow_right₀ one_le ?_)
      omega
    next short =>
      refine lt_of_lt_of_le (lt_of_not_ge fun long => short (fills.2 long))
        (zpow_le_zpow_right₀ one_le ?_)
      omega
  · split
    next long =>
      intro above
      refine le_trans (zpow_le_zpow_right₀ one_le ?_) (fills.1 long)
      omega
    next =>
      intro above
      refine le_trans (zpow_le_zpow_right₀ one_le ?_) lower
      omega

end Place

section Distance

variable {q : ℚ} {place : ℤ}

private theorem abs_scaled_sub (v q : ℚ) (place : ℤ) :
    |v * 2 ^ place - q| = |v - q / 2 ^ place| * 2 ^ place := by
  have unit : (0 : ℚ) < 2 ^ place := by positivity
  rw [← abs_of_pos unit, ← abs_mul, abs_of_pos unit, sub_mul,
    div_mul_cancel₀ _ unit.ne']

private theorem exists_multiple {y : Binary} (above : place ≤ y.exp) :
    ∃ z : ℤ, y.value = z * 2 ^ place := by
  obtain ⟨k, k_eq⟩ := Int.le.dest above
  refine ⟨(if y.neg then -(y.mant : ℤ) else y.mant) * 2 ^ k, ?_⟩
  unfold Binary.value
  rw [← k_eq, add_comm, zpow_add₀ (by norm_num), zpow_natCast]
  split <;> push_cast <;> rw [mul_assoc]

private theorem Holds.value_lt {y : Binary} (holds : f.Holds y)
    (below : y.exp < place) :
    y.value < 2 ^ ((f.bits : ℤ) - 1 + place) := by
  calc y.value ≤ |y.value| := le_abs_self _
    _ = y.mant * 2 ^ y.exp := y.abs_value
    _ < 2 ^ f.bits * 2 ^ y.exp := by
        have bound : (y.mant : ℚ) < 2 ^ f.bits := by exact_mod_cast holds.1
        gcongr
    _ ≤ 2 ^ ((f.bits : ℤ) - 1 + place) := by
        rw [← zpow_natCast, ← zpow_add₀ (by norm_num)]
        exact zpow_le_zpow_right₀ (by norm_num) (by omega)

/-- At its last place, a quotient is rounded to a number that is as near to it
as any number of the format. -/
private theorem abs_sub_le_of_place {m : Nat} {y : Binary}
    (wide : 2 ≤ f.bits)
    (close : |(m : ℚ) - q / 2 ^ place| ≤ 1 / 2)
    (fills : f.least < place → 2 ^ ((f.bits : ℤ) - 1 + place) ≤ q)
    (holds : f.Holds y) :
    |m * 2 ^ place - q| ≤ |y.value - q| ∧
      (|y.value - q| = |m * 2 ^ place - q| →
        y.value = m * 2 ^ place ∨ |(m : ℚ) - q / 2 ^ place| = 1 / 2) := by
  have unit : (0 : ℚ) < 2 ^ place := by positivity
  have nearest := abs_sub_le_of_half (m := m) (by exact_mod_cast close)
  by_cases above : place ≤ y.exp
  · -- the other number is a multiple of the same unit
    obtain ⟨z, z_eq⟩ := exists_multiple above
    obtain ⟨least, tie⟩ := nearest z
    rw [z_eq, abs_scaled_sub, abs_scaled_sub]
    refine ⟨mul_le_mul_of_nonneg_right (by exact_mod_cast least) unit.le, ?_⟩
    intro equal
    have equal := mul_right_cancel₀ unit.ne' equal
    obtain same | half := tie (by exact_mod_cast equal)
    · left
      rw [same]
      norm_cast
    · right
      exact_mod_cast half
  · -- it is below all numbers that fill the format at this place, so the least
    -- of these lies between the two
    have low := holds.2.1
    have filled := fills (by omega)
    have below := holds.value_lt (Int.not_le.1 above)
    have corner :
        |(m : ℚ) - q / 2 ^ place| ≤ |2 ^ (f.bits - 1) - q / 2 ^ place| := by
      exact_mod_cast (nearest (2 ^ (f.bits - 1))).1
    have corner_eq : (2 : ℚ) ^ (f.bits - 1) * 2 ^ place =
        2 ^ ((f.bits : ℤ) - 1 + place) := by
      rw [zpow_add₀ (by norm_num), ← zpow_natCast]
      congr 2
      omega
    have farther : |m * 2 ^ place - q| < |y.value - q| := by
      calc |m * 2 ^ place - q|
          = |(m : ℚ) - q / 2 ^ place| * 2 ^ place := abs_scaled_sub m q place
        _ ≤ |2 ^ (f.bits - 1) - q / 2 ^ place| * 2 ^ place :=
            mul_le_mul_of_nonneg_right corner unit.le
        _ = |2 ^ ((f.bits : ℤ) - 1 + place) - q| := by
            rw [← abs_scaled_sub, corner_eq]
        _ = q - 2 ^ ((f.bits : ℤ) - 1 + place) := by
            rw [abs_sub_comm, abs_of_nonneg (by linarith)]
        _ < |y.value - q| := by
            rw [abs_sub_comm, abs_of_nonneg (by linarith)]
            linarith
    exact ⟨farther.le, fun equal => absurd equal farther.ne'⟩

end Distance

section Round

variable (some_num : 0 < num) (some_den : 0 < den)

include some_num some_den

private theorem lastPlace_lt_greatest (roomy : f.least < f.greatest)
    (small : (num / den : ℚ) < 2 ^ ((f.bits : ℤ) - 1 + f.greatest)) :
    f.lastPlace num den < f.greatest := by
  obtain ⟨-, least, fills⟩ := lastPlace_bounds some_num some_den f
  by_cases lowest : f.least < f.lastPlace num den
  · have order := lt_of_le_of_lt (fills lowest) small
    rw [zpow_lt_zpow_iff_right₀ (by norm_num)] at order
    omega
  · omega

private theorem le_of_close {m : Nat}
    (close : |(m : ℚ) - num / den / 2 ^ f.lastPlace num den| ≤ 1 / 2) :
    m ≤ 2 ^ f.bits := by
  have unit : (0 : ℚ) < 2 ^ f.lastPlace num den := by positivity
  have quotient_lt :
      (num / den / 2 ^ f.lastPlace num den : ℚ) < 2 ^ f.bits := by
    rw [div_lt_iff₀ unit, ← zpow_natCast, ← zpow_add₀ (by norm_num)]
    exact (lastPlace_bounds some_num some_den f).1
  have bound : (m : ℚ) < 2 ^ f.bits + 1 := by
    have := (abs_le.1 close).2
    linarith
  exact Nat.lt_succ_iff.1 (by exact_mod_cast bound)

private theorem exists_round (wide : 2 ≤ f.bits) (roomy : f.least < f.greatest)
    (neg : Bool)
    (small : (num / den : ℚ) < 2 ^ ((f.bits : ℤ) - 1 + f.greatest)) :
    ∃ x, f.round neg num den = .finite x ∧ x.neg = neg ∧ f.Holds x ∧
      ∃ m : Nat, (x.mant * 2 ^ x.exp : ℚ) = m * 2 ^ f.lastPlace num den ∧
        |(m : ℚ) - num / den / 2 ^ f.lastPlace num den| ≤ 1 / 2 ∧
        (|(m : ℚ) - num / den / 2 ^ f.lastPlace num den| = 1 / 2 →
          x.mant % 2 = 0) := by
  have least := (lastPlace_bounds some_num some_den f).2.1
  have place_lt := lastPlace_lt_greatest some_num some_den roomy small
  obtain ⟨close, tie⟩ := @roundQuotient_close
    (scale num den (f.lastPlace num den)).1 _ (scale_pos some_den _)
  rw [scale_eq] at close tie
  have m_le := le_of_close some_num some_den close
  simp only [round, beq_eq_false_iff_ne.2 some_num.ne',
    Bool.false_eq_true, if_false]
  generalize f.lastPlace num den = place at *
  generalize roundQuotient _ _ = m at *
  by_cases carry : m = 2 ^ f.bits
  · -- the significand is too long by one bit, and its last bits are zeros
    have halves : 2 ^ f.bits = 2 * 2 ^ (f.bits - 1) := by
      rw [← pow_succ']
      congr 1
      omega
    have positive : 0 < 2 ^ (f.bits - 1) := Nat.two_pow_pos _
    refine ⟨⟨neg, 2 ^ (f.bits - 1), place + 1⟩, ?_, rfl, ⟨?_, ?_, ?_⟩, m,
      ?_, close, ?_⟩
    · rw [carry]
      simp only [Nat.pow_eq, beq_self_eq_true, if_true]
      exact if_neg (by omega)
    · change 2 ^ (f.bits - 1) < 2 ^ f.bits
      omega
    · change f.least ≤ place + 1
      omega
    · change place + 1 ≤ f.greatest
      omega
    · rw [carry, halves, zpow_add_one₀ (by norm_num)]
      push_cast
      rw [mul_comm (2 : ℚ) (2 ^ (f.bits - 1)), mul_assoc,
        mul_comm (2 : ℚ) (2 ^ place)]
    · intro _
      obtain ⟨k, k_eq⟩ : ∃ k, f.bits - 1 = k + 1 := ⟨f.bits - 2, by omega⟩
      change 2 ^ (f.bits - 1) % 2 = 0
      rw [k_eq, pow_succ, Nat.mul_mod_left]
  · refine ⟨⟨neg, m, place⟩, ?_, rfl, ⟨?_, least, place_lt.le⟩, m,
      rfl, close, tie⟩
    · simp only [Nat.pow_eq, beq_eq_false_iff_ne.2 carry,
        Bool.false_eq_true, if_false]
      exact if_neg (by omega)
    · exact Nat.lt_of_le_of_ne m_le carry

end Round

/-- Rounding gives the number of the format that is nearest to a quotient. -/
theorem isNearest_round (wide : 2 ≤ f.bits) (roomy : f.least < f.greatest)
    (some_den : 0 < den) (neg : Bool)
    (small : (num / den : ℚ) < 2 ^ ((f.bits : ℤ) - 1 + f.greatest)) :
    ∃ x, f.round neg num den = .finite x ∧ x.neg = neg ∧
      f.IsNearest (if neg then -(num / den : ℚ) else num / den) x := by
  rcases Nat.eq_zero_or_pos num with rfl | some_num
  · refine ⟨⟨neg, 0, f.least⟩, rfl, rfl,
      ⟨Nat.two_pow_pos _, le_refl _, roomy.le⟩, ?_, ?_⟩
    · intro y _
      simp [Binary.value]
    · intro y _ _
      exact .inr rfl
  · obtain ⟨-, -, fills⟩ := lastPlace_bounds some_num some_den f
    obtain ⟨x, rounds, sign, holds, m, value_eq, close, tie⟩ :=
      exists_round some_num some_den wide roomy neg small
    have around (y : Binary) (held : f.Holds y) :=
      abs_sub_le_of_place wide close fills held
    cases neg with
    | false =>
        have value : x.value = m * 2 ^ f.lastPlace num den := by
          rw [← value_eq, Binary.value, sign]
          rfl
        refine ⟨x, rounds, sign, holds, ?_, ?_⟩
        · intro y held
          rw [value]
          exact (around y held).1
        · intro y held equal
          rw [value] at equal ⊢
          exact ((around y held).2 equal).imp_right tie
    | true =>
        -- the number with the other sign is nearest to the quotient itself
        have value : x.value = -(m * 2 ^ f.lastPlace num den) := by
          rw [← value_eq, Binary.value, sign, ← neg_mul]
          rfl
        have mirror (v q : ℚ) : |v - -q| = |-v - q| := by
          rw [sub_neg_eq_add, ← abs_neg, neg_add']
        refine ⟨x, rounds, sign, holds, ?_, ?_⟩
        · intro y held
          have nearest := (around { y with neg := !y.neg } held).1
          rw [Binary.value_negated] at nearest
          rw [if_pos rfl, mirror, mirror, value, neg_neg]
          exact nearest
        · intro y held equal
          have even := (around { y with neg := !y.neg } held).2
          rw [Binary.value_negated] at even
          rw [if_pos rfl, mirror, mirror, value, neg_neg] at equal
          refine (even equal).imp (fun same => ?_) tie
          rw [value, ← same, neg_neg]

theorem IsNearest.value_eq {q : ℚ} {x y : Binary} (nearest : f.IsNearest q x)
    (holds : f.Holds y) (same : y.value = q) : x.value = q := by
  have distance := nearest.nearest y holds
  rw [same, sub_self, abs_zero] at distance
  exact sub_eq_zero.1 (abs_nonpos_iff.1 distance)

private theorem double_holds_zero : double.Holds .zero :=
  ⟨by decide, by decide, by decide⟩

theorem IsNearest.abs_value_le {q : ℚ} {x : Binary}
    (nearest : double.IsNearest q x) :
    |x.value| ≤ 2 * |q| := by
  have zero : Binary.zero.value = 0 := by simp [Binary.value, Binary.zero]
  have distance := nearest.nearest .zero double_holds_zero
  rw [zero, zero_sub, abs_neg] at distance
  have triangle := abs_add_le (x.value - q) q
  rw [sub_add_cancel] at triangle
  linarith

theorem lt_of_le_double {q : ℚ} (small : q ≤ 2 ^ 64) :
    q < 2 ^ ((double.bits : ℤ) - 1 + double.greatest) := by
  have exponent : ((64 : ℕ) : ℤ) < (double.bits : ℤ) - 1 + double.greatest := by
    decide
  rw [← zpow_natCast] at small
  exact lt_of_le_of_lt small (zpow_lt_zpow_right₀ (by norm_num) exponent)

theorem isNearest_ofInt {n : ℤ} (small : |n| ≤ 2 ^ 63) :
    ∃ x, double.ofInt n = .finite x ∧ double.IsNearest n x := by
  have magnitude : ((n.natAbs : ℕ) / (1 : ℕ) : ℚ) = |(n : ℚ)| := by
    rw [Nat.cast_one, div_one, Nat.cast_natAbs, Int.cast_abs]
  have bound : ((n.natAbs : ℕ) / (1 : ℕ) : ℚ) <
      2 ^ ((double.bits : ℤ) - 1 + double.greatest) := by
    have small' : |(n : ℚ)| ≤ 2 ^ 63 := by exact_mod_cast small
    rw [magnitude]
    exact lt_of_le_double (by linarith)
  obtain ⟨x, rounds, -, nearest⟩ := isNearest_round (f := double) (by decide)
    (by decide) Nat.one_pos (n < 0) bound
  refine ⟨x, rounds, ?_⟩
  rw [magnitude] at nearest
  by_cases negative : n < 0
  · have negative' : (n : ℚ) < 0 := by exact_mod_cast negative
    rwa [if_pos (decide_eq_true negative), abs_of_neg negative', neg_neg]
      at nearest
  · have positive' : (0 : ℚ) ≤ n := by exact_mod_cast Int.not_lt.1 negative
    rwa [if_neg (by simpa using negative), abs_of_nonneg positive'] at nearest

theorem exists_double {n : ℤ} (small : n.natAbs < 2 ^ 53) :
    ∃ x, double.Holds x ∧ x.value = n := by
  have inside : double.least ≤ 0 ∧ 0 ≤ double.greatest := by decide
  refine ⟨⟨n < 0, n.natAbs, 0⟩, ⟨small, inside.1, inside.2⟩, ?_⟩
  have magnitude : ((n.natAbs : ℕ) : ℚ) = |(n : ℚ)| := by
    rw [Nat.cast_natAbs, Int.cast_abs]
  simp only [Binary.value, zpow_zero, mul_one, magnitude, decide_eq_true_eq]
  by_cases negative : n < 0
  · have negative' : (n : ℚ) < 0 := by exact_mod_cast negative
    rw [if_pos negative, abs_of_neg negative', neg_neg]
  · have positive' : (0 : ℚ) ≤ n := by exact_mod_cast Int.not_lt.1 negative
    rw [if_neg negative, abs_of_nonneg positive']

end Format

theorem Binary.isNearest_div {x : Binary} (small : |x.value| ≤ 2 ^ 64) :
    ∃ y, Format.double.round x.neg x.ratio.1 (x.ratio.2 * 1000) = .finite y ∧
      Format.double.IsNearest (x.value / 1000) y := by
  have den_pos := x.ratio_den_pos
  have den_ne : (x.ratio.2 : ℚ) ≠ 0 := by exact_mod_cast den_pos.ne'
  have signed : (if x.neg then -(x.ratio.1 / (x.ratio.2 * 1000 : ℕ) : ℚ)
      else x.ratio.1 / (x.ratio.2 * 1000 : ℕ)) = x.value / 1000 := by
    have product := x.value_mul_den
    push_cast
    rw [div_mul_eq_div_div]
    split
    next neg =>
      rw [if_pos neg] at product
      push_cast at product
      rw [← neg_div, ← neg_div, ← product, mul_div_assoc,
        div_self den_ne, mul_one]
    next pos =>
      rw [if_neg pos] at product
      push_cast at product
      rw [← product, mul_div_assoc, div_self den_ne, mul_one]
  have magnitude :
      (x.ratio.1 / (x.ratio.2 * 1000 : ℕ) : ℚ) = |x.value / 1000| := by
    have positive : (0 : ℚ) ≤ x.ratio.1 / (x.ratio.2 * 1000 : ℕ) := by
      positivity
    rw [← signed]
    split
    · rw [abs_neg, abs_of_nonneg positive]
    · rw [abs_of_nonneg positive]
  have bound : (x.ratio.1 / (x.ratio.2 * 1000 : ℕ) : ℚ) <
      2 ^ ((Format.double.bits : ℤ) - 1 + Format.double.greatest) := by
    have thousand : |(1000 : ℚ)| = 1000 := abs_of_pos (by norm_num)
    rw [magnitude, abs_div, thousand]
    apply Format.lt_of_le_double
    rw [div_le_iff₀ (by norm_num)]
    linarith
  obtain ⟨y, rounds, -, nearest⟩ := Format.isNearest_round (f := Format.double)
    (by decide) (by decide) (Nat.mul_pos den_pos (by decide)) x.neg bound
  rw [signed] at nearest
  exact ⟨y, rounds, nearest⟩

end ModelGateway
