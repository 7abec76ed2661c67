import TableQuery.Number.Shortest
import TableQuery.Proofs.Number.Rounding

/-! The value of a decimal, of which its index is the nearest, and the shortest decimal of a number,
which has the index of the number. -/

namespace TableQuery.Number

theorem digits_length_pos (n : Nat) : 0 < (digits n).length := Nat.length_toDigits_pos

theorem lt_pow_digits_length (n : Nat) : n < 10 ^ (digits n).length :=
  (Nat.length_toDigits_le_iff (by decide) (digits_length_pos n)).1 le_rfl

theorem pow_digits_length_le {n : Nat} (positive : 0 < n) : 10 ^ ((digits n).length - 1) ≤ n := by
  rcases Nat.eq_zero_or_pos ((digits n).length - 1) with single | several
  · rw [single]
    exact positive
  · have longer : ¬ (digits n).length ≤ (digits n).length - 1 := by omega
    exact not_lt.1 (mt (Nat.length_toDigits_le_iff (by decide) several).2 longer)

namespace Decimal

/-- The value without its sign. -/
def value (d : Decimal) : ℚ := d.coefficient * 10 ^ d.exponent

theorem value_lt (d : Decimal) : d.value < 10 ^ ((digits d.coefficient).length + d.exponent) := by
  rw [value, zpow_add₀ (by norm_num), zpow_natCast]
  have less : (d.coefficient : ℚ) < 10 ^ (digits d.coefficient).length := by
    exact_mod_cast lt_pow_digits_length d.coefficient
  gcongr

theorem le_value {d : Decimal} (positive : 0 < d.coefficient) :
    10 ^ ((digits d.coefficient).length + d.exponent - 1) ≤ d.value := by
  have length := digits_length_pos d.coefficient
  have least : (10 : ℚ) ^ ((digits d.coefficient).length - 1) ≤ d.coefficient := by
    exact_mod_cast pow_digits_length_le positive
  have exponent : ((digits d.coefficient).length : Int) + d.exponent - 1 =
      ((digits d.coefficient).length - 1 : Nat) + d.exponent := by omega
  rw [value, exponent, zpow_add₀ (by norm_num), zpow_natCast]
  gcongr

theorem nearest_infinity_of_size {d : Decimal} (positive : 0 < d.coefficient)
    (large : 310 < (digits d.coefficient).length + d.exponent) : Nearest d.value infinityIndex := by
  refine nearest_infinity (le_trans ?_ (le_value positive))
  calc (2 : ℚ) ^ 1024 ≤ 10 ^ (310 : Nat) := by
        exact_mod_cast (by decide +kernel : 2 ^ 1024 ≤ 10 ^ 310)
    _ = 10 ^ (310 : Int) := (zpow_natCast 10 310).symm
    _ ≤ 10 ^ ((digits d.coefficient).length + d.exponent - 1) :=
        zpow_le_zpow_right₀ (by norm_num) (by omega)

theorem nearest_zero_of_size {d : Decimal}
    (small : (digits d.coefficient).length + d.exponent < -330) : Nearest d.value 0 := by
  have half : 2 * d.value < valueAt 1 := by
    have step : valueAt 1 = 2 * (2 ^ 1075)⁻¹ := by
      have next := valueAt_succ 0
      rw [valueAt_zero, zero_add, zero_add, magnitude_zero] at next
      rw [next, ← zpow_natCast, ← zpow_neg, ← zpow_one_add₀ two_ne_zero]
      rfl
    calc 2 * d.value < 2 * 10 ^ ((digits d.coefficient).length + d.exponent) := by
          gcongr
          exact value_lt d
      _ ≤ 2 * 10 ^ (-(331 : Nat) : Int) := by
          gcongr
          · norm_num
          · omega
      _ ≤ 2 * (2 ^ 1075)⁻¹ := by
          rw [zpow_neg, zpow_natCast]
          gcongr
          exact_mod_cast (by decide +kernel : 2 ^ 1075 ≤ 10 ^ 331)
      _ = valueAt 1 := step.symm
  have nonneg : 0 ≤ d.value := by
    rw [value]
    positivity
  refine nearest_lower (by decide) ?_ ?_ fun _ => rfl
  · rwa [valueAt_zero]
  · rw [valueAt_zero]
    linarith

theorem nearest_index (d : Decimal) : Nearest d.value d.index := by
  rw [index]
  split
  next zero =>
    have none : d.value = valueAt 0 := by
      rw [value, zero, valueAt_zero, Nat.cast_zero, zero_mul]
    rw [none]
    exact nearest_valueAt (Nat.zero_le _)
  next nonzero =>
    have positive : 0 < d.coefficient := Nat.pos_of_ne_zero nonzero
    split
    next large => exact nearest_infinity_of_size positive large
    next =>
      split
      next small => exact nearest_zero_of_size small
      next =>
        have quotient : d.value = (d.coefficient * Nat.pow 10 d.exponent.toNat : Nat) /
            (Nat.pow 10 (-d.exponent).toNat : Nat) := by
          rw [value, ← pow_toNat_div_pow_toNat (by norm_num), Nat.pow_eq, Nat.pow_eq]
          push_cast
          ring
        rw [quotient]
        exact nearest_nearestIndex (Nat.mul_pos positive (Nat.pow_pos (by decide)))
          (Nat.pow_pos (by decide))

theorem index_eq_of_value {d : Decimal} {index : Nat} (inside : index ≤ infinityIndex)
    (exact : d.value = valueAt index) : d.index = index :=
  d.nearest_index.unique (exact ▸ nearest_valueAt inside)

theorem index_congr {d e : Decimal} (same : d.value = e.value) : d.index = e.index :=
  d.nearest_index.unique (same ▸ e.nearest_index)

end Decimal

/-! ### Shortest decimals -/

theorem value_exactDecimal (negative : Bool) (index : Nat) :
    (exactDecimal negative index).value = valueAt index := by
  rw [exactDecimal, valueAt, Dyadic.value, Decimal.value, Nat.pow_eq, Nat.pow_eq]
  generalize (magnitude index).significand = significand
  generalize (magnitude index).exponent = exponent
  rcases le_total 0 exponent with positive | negative
  · obtain ⟨power, rfl⟩ := Int.eq_ofNat_of_zero_le positive
    simp
  · obtain ⟨power, opposite⟩ := Int.eq_ofNat_of_zero_le (neg_nonneg.2 negative)
    have none : exponent.toNat = 0 := by omega
    have tens : (10 : ℚ) ^ power = 2 ^ power * 5 ^ power := by
      rw [← mul_pow]
      norm_num
    rw [opposite, none, min_eq_left negative, Int.toNat_natCast, ← neg_neg exponent, opposite,
      zpow_neg, zpow_neg, zpow_natCast, zpow_natCast, tens]
    push_cast
    field_simp

theorem nearer_eq (tie : Tie) (exact : Decimal) (dropped : Nat) :
    nearer tie exact dropped = exact.below dropped ∨ nearer tie exact dropped = exact.above dropped := by
  rw [nearer]
  split
  · exact .inl rfl
  · split
    · exact .inl rfl
    · exact .inr rfl

theorem index_shortestFrom (tie : Tie) {index : Nat} {exact : Decimal} (reads : exact.index = index)
    (dropped : Nat) : (shortestFrom tie index exact dropped).index = index := by
  induction dropped with
  | zero => exact reads
  | succ dropped ih =>
    rw [shortestFrom]
    split
    next below =>
      split
      next above =>
        rcases nearer_eq tie exact (dropped + 1) with chosen | chosen
        · rw [chosen]
          exact eq_of_beq below
        · rw [chosen]
          exact eq_of_beq above
      next => exact eq_of_beq below
    next =>
      split
      next above => exact eq_of_beq above
      next => exact ih

theorem stripZeros_value (coefficient : Nat) (exponent : Int) (limit : Nat) :
    ((stripZeros coefficient exponent limit).1 : ℚ) *
        10 ^ (stripZeros coefficient exponent limit).2 = coefficient * 10 ^ exponent := by
  induction limit generalizing coefficient exponent with
  | zero => rfl
  | succ limit ih =>
    rw [stripZeros]
    split
    next zero =>
      have tens : (coefficient : ℚ) = (coefficient / 10 : Nat) * 10 := by
        exact_mod_cast (Nat.div_mul_cancel (Nat.dvd_of_mod_eq_zero zero)).symm
      rw [ih, zpow_add_one₀ (by norm_num), tens]
      ring
    next => rfl

theorem Decimal.value_normalize (d : Decimal) : d.normalize.value = d.value :=
  stripZeros_value d.coefficient d.exponent _

theorem index_shortest (tie : Tie) {n : Float} (inside : magnitudeIndex n ≤ infinityIndex) :
    (shortest tie n).index = magnitudeIndex n := by
  rw [shortest, Decimal.index_congr (Decimal.value_normalize _)]
  exact index_shortestFrom tie
    (Decimal.index_eq_of_value inside (value_exactDecimal (isNegative n) _)) _

end TableQuery.Number
