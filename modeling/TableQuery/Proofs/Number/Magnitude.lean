import Mathlib.Algebra.Order.Field.Power
import Mathlib.Order.Monotone.Basic
import Mathlib.Tactic.Linarith
import Mathlib.Tactic.Ring
import TableQuery.Number.Binary64

/-! The magnitudes as rational numbers, and what it means for one of them to be nearest to a
rational. The index of infinity counts as the magnitude that would come next, so that a rational is
nearest to infinity when it is past the largest finite magnitude by half a step. -/

namespace TableQuery.Number

def Dyadic.value (d : Dyadic) : ℚ := d.significand * 2 ^ d.exponent

def valueAt (index : Nat) : ℚ := (magnitude index).value

/-- No magnitude is nearer, and another that is as near leaves the even index. -/
structure Nearest (q : ℚ) (index : Nat) : Prop where
  le_infinity : index ≤ infinityIndex
  closest : ∀ other ≤ infinityIndex, |q - valueAt index| ≤ |q - valueAt other|
  even : ∀ other ≤ infinityIndex, other ≠ index → |q - valueAt other| = |q - valueAt index| →
    index % 2 = 0

theorem valueAt_zero : valueAt 0 = 0 := by
  simp [valueAt, Dyadic.value, magnitude_zero]

/-- Magnitudes of one exponent are its multiples. The first multiple of the next exponent is also
the last one of this. -/
theorem valueAt_grid {exponent : Int} {significand : Nat} (least : -1074 ≤ exponent)
    (few : significand ≤ 2 ^ 53) (full : exponent = -1074 ∨ 2 ^ 52 ≤ significand) :
    valueAt ((exponent + 1074).toNat * 2 ^ 52 + significand) = significand * 2 ^ exponent := by
  obtain ⟨step, rfl⟩ : ∃ step : Nat, exponent = step - 1074 := ⟨(exponent + 1074).toNat, by omega⟩
  have places : ((step : Int) - 1074 + 1074).toNat = step := by omega
  rw [places, valueAt, magnitude, Nat.pow_eq]
  obtain subnormal | normal | last :
      significand < 2 ^ 52 ∨ (2 ^ 52 ≤ significand ∧ significand < 2 ^ 53) ∨
        significand = 2 ^ 53 := by omega
  · obtain rfl : step = 0 := by omega
    rw [if_pos (by omega)]
    simp [Dyadic.value]
  · have quotient : (step * 2 ^ 52 + significand) / 2 ^ 52 = step + 1 := by omega
    have rest : 2 ^ 52 + (step * 2 ^ 52 + significand) % 2 ^ 52 = significand := by omega
    have power : ((step * 2 ^ 52 + significand : Nat) : Int) / (2 ^ 52 : Nat) - 1075 =
        step - 1074 := by omega
    rw [quotient, rest, if_neg (by omega), Dyadic.value, power]
  · have quotient : (step * 2 ^ 52 + significand) / 2 ^ 52 = step + 2 := by omega
    have rest : 2 ^ 52 + (step * 2 ^ 52 + significand) % 2 ^ 52 = 2 ^ 52 := by omega
    have power : ((step * 2 ^ 52 + significand : Nat) : Int) / (2 ^ 52 : Nat) - 1075 =
        step - 1074 + 1 := by omega
    rw [quotient, rest, if_neg (by omega), Dyadic.value, power, zpow_add_one₀ two_ne_zero, last]
    push_cast
    ring

theorem magnitude_significand_lt (index : Nat) : (magnitude index).significand < 2 ^ 53 := by
  rw [magnitude, Nat.pow_eq]
  split
  · dsimp only
    omega
  · dsimp only
    omega

theorem magnitude_grid (index : Nat) :
    -1074 ≤ (magnitude index).exponent ∧
      ((magnitude index).exponent = -1074 ∨ 2 ^ 52 ≤ (magnitude index).significand) ∧
      ((magnitude index).exponent + 1074).toNat * 2 ^ 52 + (magnitude index).significand = index := by
  rw [magnitude, Nat.pow_eq]
  split
  · dsimp only
    omega
  · dsimp only
    omega

theorem valueAt_succ (index : Nat) :
    valueAt (index + 1) = valueAt index + 2 ^ (magnitude index).exponent := by
  have few := magnitude_significand_lt index
  obtain ⟨least, full, place⟩ := magnitude_grid index
  have next := valueAt_grid least (Nat.add_one_le_iff.2 few) (full.imp_right Nat.le_succ_of_le)
  rw [← Nat.add_assoc, place] at next
  rw [next, valueAt, Dyadic.value]
  push_cast
  ring

theorem strictMono_valueAt : StrictMono valueAt := by
  refine strictMono_nat_of_lt_succ fun index => ?_
  rw [valueAt_succ]
  exact lt_add_of_pos_right _ (zpow_pos two_pos _)

theorem valueAt_infinity : valueAt infinityIndex = 2 ^ 1024 := by
  have place : infinityIndex = ((971 : Int) + 1074).toNat * 2 ^ 52 + 2 ^ 53 := by decide
  have power : ((53 : Nat) : Int) + 971 = (1024 : Nat) := rfl
  rw [place, valueAt_grid (by omega) le_rfl (by omega), Nat.cast_pow, Nat.cast_ofNat,
    ← zpow_natCast 2 53, ← zpow_add₀ two_ne_zero, power, zpow_natCast]

/-! ### Nearest magnitudes -/

theorem Nearest.le {q : ℚ} {first second : Nat} (nearest : Nearest q first)
    (also : Nearest q second) : second ≤ first := by
  by_contra later
  have later : first < second := not_le.1 later
  have same : |q - valueAt first| = |q - valueAt second| :=
    le_antisymm (nearest.closest second also.le_infinity) (also.closest first nearest.le_infinity)
  have firstEven := nearest.even second also.le_infinity later.ne' same.symm
  have secondEven := also.even first nearest.le_infinity later.ne same
  have above := strictMono_valueAt (Nat.lt_succ_self first)
  have below := strictMono_valueAt (show first + 1 < second by omega)
  have between := nearest.closest (first + 1) (later.trans_le also.le_infinity)
  rcases abs_eq_abs.1 same with equal | opposite
  · linarith
  · rw [abs_of_pos (by linarith : 0 < q - valueAt first), le_abs'] at between
    rcases between with far | far <;> linarith

theorem Nearest.unique {q : ℚ} {first second : Nat} (nearest : Nearest q first)
    (also : Nearest q second) : first = second :=
  le_antisymm (also.le nearest) (nearest.le also)

theorem nearest_valueAt {index : Nat} (inside : index ≤ infinityIndex) :
    Nearest (valueAt index) index where
  le_infinity := inside
  closest other _ := by simp
  even other _ differs same := by
    rw [sub_self, abs_zero, abs_eq_zero, sub_eq_zero] at same
    exact absurd (strictMono_valueAt.injective same).symm differs

theorem nearest_infinity {q : ℚ} (large : 2 ^ 1024 ≤ q) : Nearest q infinityIndex := by
  rw [← valueAt_infinity] at large
  have own : |q - valueAt infinityIndex| = q - valueAt infinityIndex :=
    abs_of_nonneg (sub_nonneg.2 large)
  have further {other : Nat} (finite : other < infinityIndex) :
      |q - valueAt infinityIndex| < |q - valueAt other| := by
    have less := strictMono_valueAt finite
    rw [own, abs_of_nonneg (by linarith)]
    linarith
  refine ⟨le_rfl, fun other inside => ?_, fun other inside differs same => ?_⟩
  · rcases inside.lt_or_eq with finite | rfl
    · exact (further finite).le
    · exact le_rfl
  · exact absurd same (further (lt_of_le_of_ne inside differs)).ne'

theorem nearest_lower {q : ℚ} {index : Nat} (finite : index < infinityIndex)
    (lower : valueAt index ≤ q)
    (half : q - valueAt index ≤ valueAt (index + 1) - q)
    (even : q - valueAt index = valueAt (index + 1) - q → index % 2 = 0) : Nearest q index := by
  have own : |q - valueAt index| = q - valueAt index := abs_of_nonneg (sub_nonneg.2 lower)
  have before {other : Nat} (less : other < index) : |q - valueAt index| < |q - valueAt other| := by
    have less := strictMono_valueAt less
    rw [own, abs_of_nonneg (by linarith)]
    linarith
  have after {other : Nat} (more : index < other) :
      valueAt (index + 1) - q ≤ |q - valueAt other| := by
    have more := strictMono_valueAt.monotone (Nat.succ_le_of_lt more)
    rw [abs_sub_comm]
    exact le_trans (by linarith) (le_abs_self _)
  refine ⟨finite.le, fun other _ => ?_, fun other _ differs same => ?_⟩
  · rcases lt_trichotomy other index with less | rfl | more
    · exact (before less).le
    · exact le_rfl
    · exact own.trans_le (half.trans (after more))
  · rcases lt_or_gt_of_ne differs with less | more
    · exact absurd same (before less).ne'
    · exact even (le_antisymm half ((after more).trans (same.trans own).le))

theorem nearest_upper {q : ℚ} {index : Nat} (finite : index < infinityIndex)
    (upper : q ≤ valueAt (index + 1))
    (half : valueAt (index + 1) - q ≤ q - valueAt index)
    (even : valueAt (index + 1) - q = q - valueAt index → (index + 1) % 2 = 0) :
    Nearest q (index + 1) := by
  have own : |q - valueAt (index + 1)| = valueAt (index + 1) - q := by
    rw [abs_sub_comm, abs_of_nonneg (sub_nonneg.2 upper)]
  have before {other : Nat} (less : other < index + 1) :
      q - valueAt index ≤ |q - valueAt other| := by
    have less := strictMono_valueAt.monotone (Nat.le_of_lt_succ less)
    exact le_trans (by linarith) (le_abs_self _)
  have after {other : Nat} (more : index + 1 < other) :
      |q - valueAt (index + 1)| < |q - valueAt other| := by
    have more := strictMono_valueAt more
    rw [own, abs_sub_comm, abs_of_nonneg (by linarith)]
    linarith
  refine ⟨finite, fun other _ => ?_, fun other _ differs same => ?_⟩
  · rcases lt_trichotomy other (index + 1) with less | rfl | more
    · exact own.trans_le (half.trans (before less))
    · exact le_rfl
    · exact (after more).le
  · rcases lt_or_gt_of_ne differs with less | more
    · exact even (le_antisymm half ((before less).trans (same.trans own).le))
    · exact absurd same (after more).ne'

end TableQuery.Number
