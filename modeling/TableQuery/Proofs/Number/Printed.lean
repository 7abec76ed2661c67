import TableQuery.Number.Notation
import TableQuery.Proofs.Number.Numeral

/-! A finite number is printed as a decimal of which it is the nearest number. -/

namespace TableQuery.Number

theorem wholeMagnitude?_eq_some_iff {index whole : Nat} :
    wholeMagnitude? index = some whole ↔ valueAt index = whole ∧ whole < 10 ^ 15 := by
  rw [wholeMagnitude?, Nat.pow_eq, Nat.pow_eq, Nat.pow_eq]
  have quotient : valueAt index =
      ((magnitude index).significand * 2 ^ (magnitude index).exponent.toNat : Nat) /
        (2 ^ (-(magnitude index).exponent).toNat : Nat) := by
    rw [valueAt, Dyadic.value, ← pow_toNat_div_pow_toNat two_ne_zero]
    push_cast
    ring
  have positive : 0 < 2 ^ (-(magnitude index).exponent).toNat := Nat.two_pow_pos _
  rw [quotient]
  generalize (magnitude index).significand * 2 ^ (magnitude index).exponent.toNat = scaled
  generalize 2 ^ (-(magnitude index).exponent).toNat = unit at positive
  have nonzero : (unit : ℚ) ≠ 0 := Nat.cast_ne_zero.2 positive.ne'
  rw [div_eq_iff nonzero]
  constructor
  · intro found
    split at found
    next shape =>
      obtain rfl := Option.some.inj found
      exact ⟨by exact_mod_cast (Nat.div_mul_cancel (Nat.dvd_of_mod_eq_zero shape.1)).symm, shape.2⟩
    next => contradiction
  · rintro ⟨product, small⟩
    obtain rfl : scaled = whole * unit := by exact_mod_cast product
    rw [Nat.mul_div_cancel _ positive, if_pos ⟨Nat.mul_mod_left whole unit, small⟩]

theorem isDigit_of_mem_digits {n : Nat} : ∀ c ∈ digits n, c.isDigit := fun c among =>
  Nat.isDigit_of_mem_toDigits (b := 10) (n := n) (by decide) (by decide) among

theorem isDigit_of_mem_zeros {count : Nat} : ∀ c ∈ List.replicate count '0', c.isDigit := by
  intro c among
  rw [List.eq_of_mem_replicate among]
  rfl

theorem ofDigits_zeros (count : Nat) : ofDigits (List.replicate count '0') = 0 := by
  rw [ofDigits, Nat.ofDigitChars_replicate_zero, Nat.mul_zero]

theorem digits_ne_nil (n : Nat) : digits n ≠ [] := List.ne_nil_of_length_pos (digits_length_pos n)

theorem exists_pointed (negative : Bool) (whole : List Char) (fraction : Option (List Char))
    (nonempty : whole ≠ []) (wholeDigits : ∀ c ∈ whole, c.isDigit)
    (fractionDigits : ∀ part ∈ fraction, ∀ c ∈ part, c.isDigit) :
    ∃ numeral : Numeral,
      numeral.text = signText negative ++ (whole ++ Numeral.pointText fraction) ∧
      numeral.isNegative = negative ∧
      numeral.value = ofDigits (whole ++ fraction.getD []) * 10 ^ (-(fraction.getD []).length : Int) := by
  refine ⟨⟨if negative then some true else none, whole, fraction, none, wholeDigits, fractionDigits,
    .inl nonempty⟩, ?_, ?_, ?_⟩
  · cases negative <;> simp [Numeral.text, Numeral.exponentText, signText, signMark]
  · cases negative <;> rfl
  · rw [← Numeral.value_decimal, Decimal.value, Numeral.decimal, Numeral.power, Option.map_none,
      Option.getD_none, zero_sub]
    rfl

theorem exists_positional (negative : Bool) (d : Decimal) :
    ∃ numeral : Numeral, numeral.text = signText negative ++ d.positional ∧
      numeral.isNegative = negative ∧ numeral.value = d.value := by
  simp only [Decimal.positional, Decimal.value]
  have written : ∀ c ∈ digits d.coefficient, c.isDigit := isDigit_of_mem_digits
  split
  next large =>
    obtain ⟨numeral, text, sign, value⟩ := exists_pointed negative
      (digits d.coefficient ++ List.replicate d.exponent.toNat '0') none
      (List.append_ne_nil_of_left_ne_nil (digits_ne_nil d.coefficient) _)
      (List.forall_mem_append.2 ⟨written, isDigit_of_mem_zeros⟩) (by simp)
    refine ⟨numeral, by rw [text, Numeral.pointText, List.append_nil], sign, ?_⟩
    obtain ⟨power, exponent⟩ := Int.eq_ofNat_of_zero_le large
    rw [value, exponent]
    simp [ofDigits_append, ofDigits_zeros]
  next small =>
    have places : -((-d.exponent).toNat : Int) = d.exponent := by omega
    split
    next inside =>
      generalize cut : (digits d.coefficient).length - (-d.exponent).toNat = before
      have length : ((digits d.coefficient).drop before).length = (-d.exponent).toNat := by
        rw [List.length_drop]
        omega
      have nonempty : (digits d.coefficient).take before ≠ [] := by
        refine List.ne_nil_of_length_pos ?_
        rw [List.length_take]
        omega
      obtain ⟨numeral, text, sign, value⟩ := exists_pointed negative
        ((digits d.coefficient).take before) (some ((digits d.coefficient).drop before)) nonempty
        (fun c among => written c (List.mem_of_mem_take among)) (by
          rintro _ ⟨⟩ c among
          exact written c (List.mem_of_mem_drop among))
      refine ⟨numeral, text, sign, ?_⟩
      rw [value, Option.getD_some, List.take_append_drop, length, places, ofDigits_digits]
    next outside =>
      generalize pad : (-d.exponent).toNat - (digits d.coefficient).length = zeros
      have length : (List.replicate zeros '0' ++ digits d.coefficient).length =
          (-d.exponent).toNat := by
        rw [List.length_append, List.length_replicate]
        omega
      obtain ⟨numeral, text, sign, value⟩ := exists_pointed negative ['0']
        (some (List.replicate zeros '0' ++ digits d.coefficient)) (List.cons_ne_nil _ _) (by simp)
        (by
          rintro _ ⟨⟩
          exact List.forall_mem_append.2 ⟨isDigit_of_mem_zeros, written⟩)
      refine ⟨numeral, text, sign, ?_⟩
      have first : ofDigits ['0'] = 0 := ofDigits_zeros 1
      rw [value, Option.getD_some, length, places, ofDigits_append, ofDigits_append, ofDigits_zeros,
        ofDigits_digits, first, zero_mul, zero_mul, zero_add, zero_add]

theorem index_lt_infinity {n : Float} (finite : isFinite n) : magnitudeIndex n < infinityIndex :=
  of_decide_eq_true finite

/-- Only a zero is printed without its sign. -/
theorem sign_or_zero {n : Float} {whole : Nat} (exact : valueAt (magnitudeIndex n) = whole) :
    (isNegative n && whole != 0) = isNegative n ∨ magnitudeIndex n = 0 := by
  rcases Nat.eq_zero_or_pos whole with rfl | positive
  · refine .inr (strictMono_valueAt.injective ?_)
    rw [exact, valueAt_zero, Nat.cast_zero]
  · left
    rw [bne_iff_ne.2 positive.ne', Bool.and_true]

theorem exists_plainText {n : Float} (finite : isFinite n) :
    ∃ numeral : Numeral, numeral.text = plainText n ∧
      Nearest numeral.value (magnitudeIndex n) ∧
      (numeral.isNegative = isNegative n ∨ magnitudeIndex n = 0) := by
  have inside : magnitudeIndex n < infinityIndex := index_lt_infinity finite
  have number : isNaN n = false := decide_eq_false (not_lt.2 inside.le)
  rw [plainText, number, if_neg Bool.false_ne_true, if_pos finite, wholeText?]
  cases found : wholeMagnitude? (magnitudeIndex n) with
  | some whole =>
    obtain ⟨exact, -⟩ := wholeMagnitude?_eq_some_iff.1 found
    obtain ⟨numeral, text, sign, value⟩ :=
      exists_positional (isNegative n && whole != 0) ⟨false, whole, 0⟩
    have same : numeral.value = valueAt (magnitudeIndex n) := by
      rw [value, exact, Decimal.value, zpow_zero, mul_one]
    refine ⟨numeral, ?_, same ▸ nearest_valueAt inside.le, sign ▸ sign_or_zero exact⟩
    rw [text, Option.map_some, Option.getD_some]
    simp [Decimal.positional]
  | none =>
    obtain ⟨numeral, text, sign, value⟩ := exists_positional (isNegative n) (shortest .up n)
    refine ⟨numeral, text, ?_, .inl sign⟩
    rw [value, ← index_shortest .up inside.le]
    exact (shortest .up n).nearest_index

end TableQuery.Number
