import Mathlib.Data.Nat.Cast.Order.Field
import Mathlib.Tactic.FieldSimp
import TableQuery.Proofs.Number.Magnitude

/-! Rounding a quotient gives the index of the nearest magnitude. -/

namespace TableQuery.Number

theorem pow_toNat_div_pow_toNat {base : ℚ} (nonzero : base ≠ 0) (exponent : Int) :
    base ^ exponent.toNat / base ^ (-exponent).toNat = base ^ exponent := by
  rw [← zpow_natCast, ← zpow_natCast, ← zpow_sub₀ nonzero, Int.toNat_sub_toNat_neg]

theorem mul_pow_lt_mul_pow_iff {num den : Nat} (positive : 0 < den) (exponent : Int) :
    num * Nat.pow 2 (-exponent).toNat < den * Nat.pow 2 exponent.toNat ↔
      (num / den : ℚ) < 2 ^ exponent := by
  have positive : (0 : ℚ) < den := Nat.cast_pos.2 positive
  rw [← pow_toNat_div_pow_toNat two_ne_zero, div_lt_div_iff₀ positive (by positivity), Nat.pow_eq,
    Nat.pow_eq, mul_comm ((2 : ℚ) ^ exponent.toNat)]
  norm_cast

/-- The logarithms of numerator and denominator leave two candidates, of which a comparison takes
the right one. -/
theorem floorLog2_spec {num den : Nat} (hnum : 0 < num) (hden : 0 < den) :
    (2 : ℚ) ^ floorLog2 num den ≤ num / den ∧
      (num / den : ℚ) < 2 ^ (floorLog2 num den + 1) := by
  have positive : (0 : ℚ) < den := Nat.cast_pos.2 hden
  have numLow : (2 : ℚ) ^ (num.log2 : Int) ≤ num := by
    rw [zpow_natCast]
    exact_mod_cast Nat.log2_self_le hnum.ne'
  have numHigh : (num : ℚ) < 2 ^ (num.log2 + 1 : Int) := by
    exact_mod_cast Nat.lt_log2_self (n := num)
  have denLow : (2 : ℚ) ^ (den.log2 : Int) ≤ den := by
    rw [zpow_natCast]
    exact_mod_cast Nat.log2_self_le hden.ne'
  have denHigh : (den : ℚ) < 2 ^ (den.log2 + 1 : Int) := by
    exact_mod_cast Nat.lt_log2_self (n := den)
  have low : (2 : ℚ) ^ ((num.log2 : Int) - den.log2 - 1) ≤ num / den := by
    rw [le_div_iff₀ positive]
    calc (2 : ℚ) ^ ((num.log2 : Int) - den.log2 - 1) * den
        ≤ 2 ^ ((num.log2 : Int) - den.log2 - 1) * 2 ^ (den.log2 + 1 : Int) := by gcongr
      _ = 2 ^ (num.log2 : Int) := by
          rw [← zpow_add₀ two_ne_zero]
          congr 1
          omega
      _ ≤ num := numLow
  have high : (num / den : ℚ) < 2 ^ ((num.log2 : Int) - den.log2 + 1) := by
    rw [div_lt_iff₀ positive]
    calc (num : ℚ) < 2 ^ (num.log2 + 1 : Int) := numHigh
      _ = 2 ^ ((num.log2 : Int) - den.log2 + 1) * 2 ^ (den.log2 : Int) := by
          rw [← zpow_add₀ two_ne_zero]
          congr 1
          omega
      _ ≤ 2 ^ ((num.log2 : Int) - den.log2 + 1) * den := by gcongr
  rw [floorLog2]
  split
  next less => exact ⟨low, by simpa using (mul_pow_lt_mul_pow_iff hden _).1 less⟩
  next notLess => exact ⟨not_lt.1 (mt (mul_pow_lt_mul_pow_iff hden _).2 notLess), high⟩

theorem roundHalfEven_cases (num den : Nat) :
    (roundHalfEven num den = num / den ∧ 2 * (num % den) ≤ den ∧
      (2 * (num % den) = den → num / den % 2 = 0)) ∨
    (roundHalfEven num den = num / den + 1 ∧ den ≤ 2 * (num % den) ∧
      (2 * (num % den) = den → (num / den + 1) % 2 = 0)) := by
  rw [roundHalfEven]
  split
  · left
    omega
  · right
    omega

theorem div_eq_units (num den : Nat) (exponent : Int) :
    (num / den : ℚ) = ((num * Nat.pow 2 (-exponent).toNat : Nat) : ℚ) /
      ((den * Nat.pow 2 exponent.toNat : Nat) : ℚ) * 2 ^ exponent := by
  rw [← pow_toNat_div_pow_toNat two_ne_zero, Nat.pow_eq, Nat.pow_eq]
  push_cast
  field_simp

def stepExponent (num den : Nat) : Int := max (-1074) (floorLog2 num den - 52)

def scaledNum (num den : Nat) : Nat := num * Nat.pow 2 (-stepExponent num den).toNat

def scaledDen (num den : Nat) : Nat := den * Nat.pow 2 (stepExponent num den).toNat

theorem scaledDen_pos (num : Nat) {den : Nat} (hden : 0 < den) : 0 < scaledDen num den :=
  Nat.mul_pos hden (Nat.pow_pos two_pos)

theorem div_eq_scaled (num den : Nat) :
    (num / den : ℚ) = scaledNum num den / scaledDen num den * 2 ^ stepExponent num den :=
  div_eq_units num den _

/-- The step is such that the quotient has at most 53 binary digits before the point, and as many
unless the step is the least. -/
theorem scaled_div_bounds {num den : Nat} (hnum : 0 < num) (hden : 0 < den) :
    scaledNum num den / scaledDen num den < 2 ^ 53 ∧
      (stepExponent num den = -1074 ∨ 2 ^ 52 ≤ scaledNum num den / scaledDen num den) := by
  obtain ⟨low, high⟩ := floorLog2_spec hnum hden
  have positive := scaledDen_pos num hden
  have step : (0 : ℚ) < 2 ^ stepExponent num den := zpow_pos two_pos _
  have castPositive : (0 : ℚ) < scaledDen num den := Nat.cast_pos.2 positive
  rw [div_eq_scaled] at low high
  constructor
  · have bound : (2 : ℚ) ^ (floorLog2 num den + 1) ≤ 2 ^ 53 * 2 ^ stepExponent num den := by
      rw [← zpow_natCast, ← zpow_add₀ two_ne_zero]
      refine zpow_le_zpow_right₀ one_le_two ?_
      simp only [stepExponent]
      omega
    have less := lt_of_mul_lt_mul_right (high.trans_le bound) step.le
    rw [div_lt_iff₀ castPositive] at less
    exact (Nat.div_lt_iff_lt_mul positive).2 (by exact_mod_cast less)
  · refine or_iff_not_imp_left.2 fun above => ?_
    have exponent : floorLog2 num den = 52 + stepExponent num den := by
      simp only [stepExponent] at above ⊢
      omega
    rw [exponent, zpow_add₀ two_ne_zero] at low
    have least := le_of_mul_le_mul_right low step
    rw [le_div_iff₀ castPositive] at least
    exact (Nat.le_div_iff_mul_le positive).2 (by exact_mod_cast least)

theorem nearest_around {q : ℚ} {index scaled unit : Nat} {exponent : Int} (positive : 0 < unit)
    (quotient : q = scaled / unit * 2 ^ exponent) (finite : index < infinityIndex)
    (lower : valueAt index = (scaled / unit : Nat) * 2 ^ exponent)
    (upper : valueAt (index + 1) = (scaled / unit + 1 : Nat) * 2 ^ exponent) :
    (2 * (scaled % unit) ≤ unit → (2 * (scaled % unit) = unit → index % 2 = 0) →
      Nearest q index) ∧
    (unit ≤ 2 * (scaled % unit) → (2 * (scaled % unit) = unit → (index + 1) % 2 = 0) →
      Nearest q (index + 1)) := by
  have castPositive : (0 : ℚ) < unit := Nat.cast_pos.2 positive
  have step : (0 : ℚ) < 2 ^ exponent / unit := div_pos (zpow_pos two_pos _) castPositive
  have whole : (scaled : ℚ) = unit * (scaled / unit : Nat) + (scaled % unit : Nat) := by
    exact_mod_cast (Nat.div_add_mod scaled unit).symm
  have below : q - valueAt index = (scaled % unit : Nat) * (2 ^ exponent / unit) := by
    rw [quotient, lower, whole]
    field_simp
    ring
  have above : valueAt (index + 1) - q =
      ((unit : ℚ) - (scaled % unit : Nat)) * (2 ^ exponent / unit) := by
    rw [quotient, upper, whole]
    push_cast
    field_simp
    ring
  have rest : ((scaled % unit : Nat) : ℚ) < unit := Nat.cast_lt.2 (Nat.mod_lt scaled positive)
  have leHalf (half : 2 * (scaled % unit) ≤ unit) :
      q - valueAt index ≤ valueAt (index + 1) - q := by
    have half : 2 * ((scaled % unit : Nat) : ℚ) ≤ unit := by exact_mod_cast half
    rw [below, above]
    exact mul_le_mul_of_nonneg_right (by linarith) step.le
  have geHalf (half : unit ≤ 2 * (scaled % unit)) :
      valueAt (index + 1) - q ≤ q - valueAt index := by
    have half : (unit : ℚ) ≤ 2 * ((scaled % unit : Nat) : ℚ) := by exact_mod_cast half
    rw [below, above]
    exact mul_le_mul_of_nonneg_right (by linarith) step.le
  have tie (same : q - valueAt index = valueAt (index + 1) - q) : 2 * (scaled % unit) = unit := by
    rw [below, above, mul_left_inj' step.ne'] at same
    have equal : 2 * ((scaled % unit : Nat) : ℚ) = unit := by linarith
    exact_mod_cast equal
  constructor
  · intro half even
    refine nearest_lower finite ?_ (leHalf half) (fun same => even (tie same))
    have nonneg : 0 ≤ q - valueAt index := by
      rw [below]
      positivity
    exact sub_nonneg.1 nonneg
  · intro half even
    refine nearest_upper finite ?_ (geHalf half) (fun same => even (tie same.symm))
    have nonneg : 0 ≤ valueAt (index + 1) - q := by
      rw [above]
      exact mul_nonneg (by linarith) step.le
    exact sub_nonneg.1 nonneg

theorem nearest_nearestIndex {num den : Nat} (hnum : 0 < num) (hden : 0 < den) :
    Nearest (num / den) (nearestIndex num den) := by
  have positive := scaledDen_pos num hden
  obtain ⟨few, full⟩ := scaled_div_bounds hnum hden
  have quotient := div_eq_scaled num den
  have rounded := roundHalfEven_cases (scaledNum num den) (scaledDen num den)
  have least : -1074 ≤ stepExponent num den := le_max_left _ _
  have index : nearestIndex num den = min ((stepExponent num den + 1074).toNat * 2 ^ 52 +
      roundHalfEven (scaledNum num den) (scaledDen num den)) infinityIndex := by
    simp only [nearestIndex, stepExponent, scaledNum, scaledDen, Nat.pow_eq]
  have lower := valueAt_grid least few.le full
  have upper := valueAt_grid least (Nat.add_one_le_iff.2 few) (full.imp_right Nat.le_succ_of_le)
  rw [← Nat.add_assoc] at upper
  rw [index]
  generalize scaledNum num den = scaled at *
  generalize scaledDen num den = unit at *
  generalize (stepExponent num den + 1074).toNat = steps at *
  by_cases finite : steps * 2 ^ 52 + scaled / unit < infinityIndex
  · obtain ⟨stays, rises⟩ := nearest_around positive quotient finite lower upper
    rcases rounded with ⟨round, half, even⟩ | ⟨round, half, even⟩
    · rw [round, min_eq_left finite.le]
      refine stays half fun tie => ?_
      have even := even tie
      omega
    · rw [round, ← Nat.add_assoc, min_eq_left (Nat.succ_le_of_lt finite)]
      refine rises half fun tie => ?_
      have even := even tie
      omega
  · have large : scaled / unit ≤ roundHalfEven scaled unit := by omega
    rw [min_eq_right (by omega)]
    refine nearest_infinity ?_
    rw [← valueAt_infinity]
    refine (strictMono_valueAt.monotone (not_lt.1 finite)).trans ?_
    rw [lower, quotient]
    gcongr
    exact Nat.cast_div_le

end TableQuery.Number
