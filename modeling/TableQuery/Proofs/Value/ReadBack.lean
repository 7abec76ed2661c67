import TableQuery.Proofs.Group.SharedSums
import TableQuery.Proofs.Number.Printed
import TableQuery.Proofs.Number.Zeros
import TableQuery.Proofs.Value.Coercion

/-! Printed numbers as texts. The text of a finite number stands for an equal number, those of the
others stand for themselves, and a comparison or an aggregate takes equal numbers for the same. -/

namespace TableQuery

theorem Text.trim_eq_self_of_forall {s : List Char} (solid : ∀ c ∈ s, isWhite c = false) :
    trim s = s := by
  have start {s : List Char} (solid : ∀ c ∈ s, isWhite c = false) : s.dropWhile isWhite = s := by
    cases s with
    | nil => rfl
    | cons c rest =>
      rw [List.dropWhile_cons_of_neg]
      simp [solid c List.mem_cons_self]
  rw [trim, trimStart, start solid, trimEnd, start fun c among => solid c (List.mem_reverse.1 among),
    List.reverse_reverse]

open Number Text

theorem isWhite_of_isDecimalChar {c : Char} (decimal : isDecimalChar c) : isWhite c = false := by
  rcases isDecimalChar_iff.1 decimal with isDigit | rfl | rfl | rfl | rfl | rfl
  · obtain ⟨first, last⟩ := Char.isDigit_iff_toNat.1 isDigit
    change 48 ≤ c.toNat at first
    change c.toNat ≤ 57 at last
    simp only [isWhite, whiteSpaceRanges, Ranges.contains, List.any_cons, List.any_nil,
      Bool.or_eq_false_iff, Bool.and_eq_false_iff, decide_eq_false_iff_not, and_true]
    omega
  all_goals rfl

theorem not_quoted_of_isDecimalChar {s : List Char} (decimal : ∀ c ∈ s, isDecimalChar c) :
    ¬ Quoted s := by
  intro quoted
  obtain ⟨quote, inner, isQuote, rfl⟩ := quoted_iff.1 quoted
  have first := decimal quote List.mem_cons_self
  rcases isQuote with rfl | rfl <;> contradiction

theorem toList_toText_number (n : Float) : (Value.number n).toText.toList = plainText n :=
  String.toList_ofList

theorem coerceText_toText {n : Float} (finite : isFinite n) :
    ∃ m, coerceText (Value.number n).toText = .number m ∧ Same m n := by
  obtain ⟨numeral, text, nearest, sign⟩ := exists_plainText finite
  have inside := index_lt_infinity finite
  have decimal := numeral.isDecimalChar_of_mem_text
  have solid := trim_eq_self_of_forall fun c among => isWhite_of_isDecimalChar (decimal c among)
  refine ⟨ofIndex numeral.isNegative (magnitudeIndex n), coerceText_eq_number_iff.2 ?_, ?_⟩
  · rw [toList_toText_number, ← text, solid]
    refine ⟨not_quoted_of_isDecimalChar decimal, ⟨numeral, rfl, ?_, ?_⟩, ?_⟩
    · exact isNegative_ofIndex inside.le _
    · rwa [magnitudeIndex_ofIndex inside.le]
    · rw [isFinite, magnitudeIndex_ofIndex inside.le]
      exact decide_eq_true inside
  · exact same_ofIndex sign

theorem coerceText_toText_of_not_isFinite {n : Float} (infinite : ¬ isFinite n) :
    coerceText (Value.number n).toText = .text (Value.number n).toText := by
  have names : plainText n ∈ ["NaN".toList, "inf".toList, "-inf".toList] := by
    rw [plainText, if_neg infinite, signText]
    split_ifs <;> decide
  have written : (Value.number n).toText = String.ofList (plainText n) := rfl
  rw [written]
  generalize plainText n = name at names
  simp only [List.mem_cons, List.not_mem_nil, or_false] at names
  rcases names with rfl | rfl | rfl <;> decide +kernel

/-! ### Values that were printed and read -/

/-- The value, or in the place of a finite number its printed text. -/
inductive Value.Reprinted : Value → Value → Prop
  | kept (v : Value) : Reprinted v v
  | printed {n : Float} (finite : isFinite n) :
      Reprinted (number n) (text (number n).toText)

namespace Value

theorem alike_number_iff {m n : Float} : (number m).alike (number n) ↔ Same m n := by
  rw [alike, Bool.or_eq_true, Bool.and_eq_true, Float.bne_eq, Float.bne_eq, Bool.not_eq_true',
    Bool.not_eq_true', Float.beq_self_eq_false_iff, Float.beq_self_eq_false_iff]
  constructor
  · rintro (equal | ⟨rfl, rfl⟩)
    · exact same_of_beq equal
    · exact .refl _
  · rintro same
    by_cases number : n = Float.nan
    · subst number
      rcases same with rfl | ⟨-, zero⟩
      · exact .inr ⟨rfl, rfl⟩
      · rcases zero with zero | zero <;> exact absurd zero (by decide +kernel)
    · exact .inl ((same.beq_left n).trans (Float.beq_self_iff.2 number))

theorem compare_of_alike {v w : Value} (alike : v.alike w) (u : Value) :
    v.compare u = w.compare u := by
  cases v with
  | null => cases w <;> first | rfl | contradiction
  | text s =>
    cases w with
    | text t => rw [eq_of_beq alike]
    | null | number n => contradiction
  | number m =>
    cases w with
    | null | text t => contradiction
    | number n =>
      have same := alike_number_iff.1 alike
      cases u with
      | null | text t => rfl
      | number k =>
        simp only [Value.compare, compareNumbers, same.lt_left, same.lt_right, same.beq_left]

namespace Reprinted

variable {v w : Value}

theorem coerce (reprinted : Reprinted v w) : v.coerce.alike w.coerce := by
  cases reprinted with
  | kept => exact alike_self _
  | printed finite =>
    obtain ⟨m, reads, same⟩ := coerceText_toText finite
    rw [coerce_number, coerce_text, reads, alike_number_iff]
    exact same.symm

theorem numeric? (reprinted : Reprinted v w) : Option.Rel Same v.numeric? w.numeric? := by
  have alike := reprinted.coerce
  rw [Value.numeric?, Value.numeric?]
  generalize v.coerce = first at alike ⊢
  generalize w.coerce = second at alike ⊢
  cases first with
  | number m =>
    cases second with
    | number n => exact .some (alike_number_iff.1 alike)
    | null | text t => contradiction
  | null | text s =>
    cases second with
    | number n => contradiction
    | null | text t => exact .none

theorem keyText (reprinted : Reprinted v w) : v.keyText = w.keyText := by
  cases reprinted with
  | kept => rfl
  | printed finite => rfl

end Reprinted

end Value

end TableQuery
