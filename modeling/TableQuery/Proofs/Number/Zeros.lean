import TableQuery.Proofs.Number.Bits
import TableQuery.Proofs.Number.Parts

/-! The two zeros. Nothing that is done with numbers tells them apart, except that the result can be
either zero. -/

namespace TableQuery.Number

open Float.Model UnpackedFloat

def IsZero (n : Float) : Prop := n = 0 ∨ n = -0

/-- The same number, or both of them zero. -/
def Same (m n : Float) : Prop := m = n ∨ IsZero m ∧ IsZero n

theorem isZero_packed (sign : Sign) : IsZero (packed (.zero sign)) := by
  cases sign with
  | positive => exact .inl (by decide +kernel)
  | negative => exact .inr (by decide +kernel)

theorem same_of_beq {m n : Float} (equal : m == n) : Same m n := by
  obtain ⟨-, -, same | zeros | zeros⟩ := Float.beq_iff_ne_nan_and_eq.1 equal
  · exact .inl same
  · exact .inr ⟨.inl zeros.1, .inr zeros.2⟩
  · exact .inr ⟨.inr zeros.1, .inl zeros.2⟩

theorem IsZero.exists_unpacked {n : Float} (zero : IsZero n) : ∃ sign, unpacked n = .zero sign := by
  rcases zero with rfl | rfl
  · exact ⟨.positive, by rfl⟩
  · exact ⟨.negative, by rfl⟩

theorem isZero_add_zeros (s t : Sign) :
    IsZero (packed (UnpackedFloat.add .binary64 (.zero s) (.zero t))) := by
  rw [UnpackedFloat.add]
  split
  · exact isZero_packed _
  · exact isZero_packed _

namespace Same

theorem refl (n : Float) : Same n n := .inl rfl

theorem symm {m n : Float} (same : Same m n) : Same n m :=
  same.elim (fun equal => .inl equal.symm) (fun zeros => .inr zeros.symm)

theorem trans {k m n : Float} (first : Same k m) (second : Same m n) : Same k n := by
  rcases first with rfl | ⟨kZero, mZero⟩
  · exact second
  · rcases second with rfl | ⟨-, nZero⟩
    · exact .inr ⟨kZero, mZero⟩
    · exact .inr ⟨kZero, nZero⟩

theorem congr {α : Type} {related : α → α → Prop} (related_refl : ∀ a, related a a) {f : Float → α}
    (zeros : ∀ m n s t, unpacked m = .zero s → unpacked n = .zero t → related (f m) (f n))
    {m n : Float} (same : Same m n) : related (f m) (f n) := by
  rcases same with rfl | ⟨mZero, nZero⟩
  · exact related_refl (f m)
  · obtain ⟨s, mParts⟩ := mZero.exists_unpacked
    obtain ⟨t, nParts⟩ := nZero.exists_unpacked
    exact zeros m n s t mParts nParts

theorem add_right {m n : Float} (same : Same m n) (k : Float) : Same (m + k) (n + k) := by
  refine same.congr refl (f := (· + k)) fun m n s t mParts nParts => ?_
  rw [add_eq, add_eq, mParts, nParts]
  cases unpacked k with
  | zero sign => exact .inr ⟨isZero_add_zeros s sign, isZero_add_zeros t sign⟩
  | notANumber | infinity sign | finite sign mantissa exponent positive => exact .refl _

theorem add_left {m n : Float} (same : Same m n) (k : Float) : Same (k + m) (k + n) := by
  rw [float_add_comm k m, float_add_comm k n]
  exact same.add_right k

theorem div_right {m n : Float} (same : Same m n) (k : Float) : Same (m / k) (n / k) := by
  refine same.congr refl (f := (· / k)) fun m n s t mParts nParts => ?_
  rw [div_eq, div_eq, mParts, nParts]
  cases unpacked k with
  | infinity sign | finite sign mantissa exponent positive =>
    exact .inr ⟨isZero_packed _, isZero_packed _⟩
  | notANumber | zero sign => exact .refl _

theorem compare_right {m n : Float} (same : Same m n) (parts : UnpackedFloat) :
    parts.compare (unpacked m) = parts.compare (unpacked n) := by
  refine same.congr Eq.refl (f := fun k => parts.compare (unpacked k))
    fun m n s t mParts nParts => ?_
  rw [mParts, nParts]
  cases parts with
  | notANumber | zero sign => rfl
  | infinity sign | finite sign mantissa exponent positive => cases sign <;> rfl

theorem compare_left {m n : Float} (same : Same m n) (parts : UnpackedFloat) :
    (unpacked m).compare parts = (unpacked n).compare parts := by
  rw [compare_parts_swap, same.compare_right, ← compare_parts_swap]

theorem lt_left {m n : Float} (same : Same m n) (k : Float) : m < k ↔ n < k := by
  rw [lt_iff, lt_iff, same.compare_left]

theorem lt_right {m n : Float} (same : Same m n) (k : Float) : k < m ↔ k < n := by
  rw [lt_iff, lt_iff, same.compare_right]

theorem beq_left {m n : Float} (same : Same m n) (k : Float) : (m == k) = (n == k) := by
  rw [beq_eq, beq_eq, same.compare_left]

theorem isNaN_eq {m n : Float} (same : Same m n) : isNaN m = isNaN n := by
  have zero {k : Float} (isZero : IsZero k) : isNaN k = false := by
    rcases isZero with rfl | rfl <;> decide +kernel
  rcases same with rfl | ⟨mZero, nZero⟩
  · rfl
  · rw [zero mZero, zero nZero]

end Same

theorem isZero_ofIndex_zero (negative : Bool) : IsZero (ofIndex negative 0) := by
  cases negative with
  | false => exact .inl (by decide +kernel)
  | true => exact .inr (by decide +kernel)

theorem same_ofIndex {n : Float} {negative : Bool}
    (sign : negative = isNegative n ∨ magnitudeIndex n = 0) :
    Same (ofIndex negative (magnitudeIndex n)) n := by
  rcases sign with rfl | zero
  · exact .inl (ofIndex_magnitudeIndex n)
  · have own := ofIndex_magnitudeIndex n
    rw [zero] at own ⊢
    exact .inr ⟨isZero_ofIndex_zero _, own ▸ isZero_ofIndex_zero _⟩

theorem ne_nan_of_isFinite {n : Float} (finite : isFinite n) : n ≠ Float.nan := by
  rintro rfl
  exact absurd finite (by decide +kernel)

theorem beq_of_same {m n : Float} (same : Same m n) (finite : isFinite n) : m == n := by
  rw [same.beq_left n]
  exact Float.beq_self_iff.2 (ne_nan_of_isFinite finite)

end TableQuery.Number
