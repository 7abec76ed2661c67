import Mathlib.Computability.RegularExpressions
import Mathlib.Tactic.IntervalCases
import TableQuery.Proofs.Number.Numeral

/-! The regular expression of decimals. It matches the texts of the written forms. -/

namespace TableQuery.Number

open RegularExpression

def oneOf (chars : List Char) : RegularExpression Char := (chars.map char).sum

def optional (part : RegularExpression Char) : RegularExpression Char := 1 + part

def several (part : RegularExpression Char) : RegularExpression Char := part * star part

def digit : RegularExpression Char := oneOf "0123456789".toList

def signShape : RegularExpression Char := optional (oneOf ['+', '-'])

def pointShape : RegularExpression Char :=
  several digit * optional (char '.' * star digit) + char '.' * several digit

def exponentShape : RegularExpression Char :=
  optional (oneOf ['e', 'E'] * signShape * several digit)

def decimalShape : RegularExpression Char := signShape * pointShape * exponentShape

/-! ### Parts -/

theorem mem_oneOf {chars s : List Char} : s ∈ (oneOf chars).matches' ↔ ∃ c ∈ chars, s = [c] := by
  induction chars with
  | nil => simp [oneOf]
  | cons c chars ih =>
    have rest : oneOf (c :: chars) = char c + oneOf chars := List.sum_cons
    rw [rest, matches'_add, Language.mem_add, ih, matches'_char, List.exists_mem_cons_iff]
    rfl

theorem mem_optional {part : RegularExpression Char} {s : List Char} :
    s ∈ (optional part).matches' ↔ s = [] ∨ s ∈ part.matches' := by
  rw [optional, matches'_add, Language.mem_add, matches'_epsilon, Language.mem_one]

theorem mem_mul {first second : RegularExpression Char} {s : List Char} :
    s ∈ (first * second).matches' ↔ ∃ a ∈ first.matches', ∃ b ∈ second.matches', a ++ b = s := by
  rw [matches'_mul, Language.mem_mul]

theorem mem_char {c : Char} {s : List Char} : s ∈ (char c).matches' ↔ s = [c] := Iff.rfl

theorem isDigit_iff {c : Char} : c.isDigit ↔ c ∈ "0123456789".toList := by
  constructor
  · intro isDigit
    obtain ⟨first, last⟩ := Char.isDigit_iff_toNat.1 isDigit
    rw [← Char.ofNat_toNat c]
    generalize c.toNat = code at first last
    change 48 ≤ code at first
    change code ≤ 57 at last
    interval_cases code <;> decide
  · exact List.all_eq_true.1 (by decide : "0123456789".toList.all Char.isDigit) c

theorem mem_digit {s : List Char} : s ∈ digit.matches' ↔ ∃ c, c.isDigit ∧ s = [c] := by
  rw [digit, mem_oneOf]
  simp only [isDigit_iff]

theorem mem_star_digit {s : List Char} : s ∈ (star digit).matches' ↔ ∀ c ∈ s, c.isDigit := by
  rw [matches'_star, Language.mem_kstar]
  constructor
  · rintro ⟨parts, rfl, all⟩ c among
    obtain ⟨part, inside, own⟩ := List.mem_flatten.1 among
    obtain ⟨d, isDigit, rfl⟩ := mem_digit.1 (all part inside)
    exact List.mem_singleton.1 own ▸ isDigit
  · intro digits
    refine ⟨s.map ([·]), (List.flatMap_singleton' s).symm, fun part inside => ?_⟩
    obtain ⟨c, among, rfl⟩ := List.mem_map.1 inside
    exact mem_digit.2 ⟨c, digits c among, rfl⟩

theorem mem_several_digit {s : List Char} :
    s ∈ (several digit).matches' ↔ s ≠ [] ∧ ∀ c ∈ s, c.isDigit := by
  rw [several, mem_mul]
  constructor
  · rintro ⟨first, one, rest, others, rfl⟩
    obtain ⟨c, isDigit, rfl⟩ := mem_digit.1 one
    exact ⟨List.cons_ne_nil c rest, List.forall_mem_cons.2 ⟨isDigit, mem_star_digit.1 others⟩⟩
  · rintro ⟨nonempty, digits⟩
    obtain ⟨c, rest, rfl⟩ := List.exists_cons_of_ne_nil nonempty
    obtain ⟨isDigit, others⟩ := List.forall_mem_cons.1 digits
    exact ⟨[c], mem_digit.2 ⟨c, isDigit, rfl⟩, rest, mem_star_digit.2 others, rfl⟩

theorem mem_signShape {s : List Char} : s ∈ signShape.matches' ↔ ∃ sign, signMark sign = s := by
  rw [signShape, mem_optional, mem_oneOf]
  constructor
  · rintro (rfl | ⟨c, among, rfl⟩)
    · exact ⟨none, rfl⟩
    · rcases List.mem_pair.1 among with rfl | rfl
      · exact ⟨some false, rfl⟩
      · exact ⟨some true, rfl⟩
  · rintro ⟨none | _ | _, rfl⟩
    · exact .inl rfl
    · exact .inr ⟨'+', by simp, rfl⟩
    · exact .inr ⟨'-', by simp, rfl⟩

theorem mem_exponentShape {s : List Char} :
    s ∈ exponentShape.matches' ↔ ∃ exponent, Numeral.exponentText exponent = s := by
  rw [exponentShape, mem_optional]
  constructor
  · rintro (rfl | present)
    · exact ⟨none, rfl⟩
    · obtain ⟨_, front, power, several, rfl⟩ := mem_mul.1 present
      obtain ⟨_, marked, _, signed, rfl⟩ := mem_mul.1 front
      obtain ⟨mark, marks, rfl⟩ := mem_oneOf.1 marked
      obtain ⟨sign, rfl⟩ := mem_signShape.1 signed
      obtain ⟨nonempty, digits⟩ := mem_several_digit.1 several
      exact ⟨some ⟨mark, sign, power, List.mem_pair.1 marks, nonempty, digits⟩, rfl⟩
  · rintro ⟨none | exponent, rfl⟩
    · exact .inl rfl
    · have mark := mem_oneOf.2 ⟨exponent.mark, List.mem_pair.2 exponent.marks, rfl⟩
      have front := mem_mul.2 ⟨_, mark, _, mem_signShape.2 ⟨exponent.sign, rfl⟩, rfl⟩
      have power := mem_several_digit.2 ⟨exponent.nonempty, exponent.digits⟩
      exact .inr (mem_mul.2 ⟨_, front, _, power, rfl⟩)

theorem mem_pointShape {s : List Char} :
    s ∈ pointShape.matches' ↔ ∃ (whole : List Char) (fraction : Option (List Char)),
      whole ++ Numeral.pointText fraction = s ∧ (∀ c ∈ whole, c.isDigit) ∧
        (∀ part ∈ fraction, ∀ c ∈ part, c.isDigit) ∧ (whole ≠ [] ∨ fraction.getD [] ≠ []) := by
  rw [pointShape, matches'_add, Language.mem_add]
  constructor
  · rintro (wholeFirst | pointFirst)
    · obtain ⟨whole, several, _, pointed, rfl⟩ := mem_mul.1 wholeFirst
      obtain ⟨nonempty, digits⟩ := mem_several_digit.1 several
      rcases mem_optional.1 pointed with rfl | present
      · exact ⟨whole, none, rfl, digits, by simp, .inl nonempty⟩
      · obtain ⟨_, rfl, places, others, rfl⟩ := mem_mul.1 present
        refine ⟨whole, some places, rfl, digits, ?_, .inl nonempty⟩
        rintro _ ⟨⟩
        exact mem_star_digit.1 others
    · obtain ⟨_, rfl, places, several, rfl⟩ := mem_mul.1 pointFirst
      obtain ⟨nonempty, digits⟩ := mem_several_digit.1 several
      refine ⟨[], some places, rfl, by simp, ?_, .inr nonempty⟩
      rintro _ ⟨⟩
      exact digits
  · rintro ⟨whole, fraction, rfl, wholeDigits, fractionDigits, nonempty⟩
    by_cases noWhole : whole = []
    · subst noWhole
      cases fraction with
      | none => simp at nonempty
      | some part =>
        have places : part ≠ [] := nonempty.resolve_left (not_not_intro rfl)
        exact .inr (mem_mul.2 ⟨['.'], mem_char.2 rfl, part,
          mem_several_digit.2 ⟨places, fractionDigits part rfl⟩, rfl⟩)
    · have first := mem_several_digit.2 ⟨noWhole, wholeDigits⟩
      refine .inl (mem_mul.2 ⟨whole, first, Numeral.pointText fraction, mem_optional.2 ?_, rfl⟩)
      cases fraction with
      | none => exact .inl rfl
      | some part =>
        exact .inr (mem_mul.2 ⟨['.'], mem_char.2 rfl, part,
          mem_star_digit.2 (fractionDigits part rfl), rfl⟩)

/-- The texts that the expression matches are those of the written forms. -/
theorem mem_decimalShape_iff {s : List Char} :
    s ∈ decimalShape.matches' ↔ ∃ numeral : Numeral, numeral.text = s := by
  rw [decimalShape, mem_mul]
  constructor
  · rintro ⟨_, front, _, powered, rfl⟩
    obtain ⟨_, signed, _, pointed, rfl⟩ := mem_mul.1 front
    obtain ⟨sign, rfl⟩ := mem_signShape.1 signed
    obtain ⟨whole, fraction, rfl, wholeDigits, fractionDigits, nonempty⟩ := mem_pointShape.1 pointed
    obtain ⟨exponent, rfl⟩ := mem_exponentShape.1 powered
    refine ⟨⟨sign, whole, fraction, exponent, wholeDigits, fractionDigits, nonempty⟩, ?_⟩
    simp only [Numeral.text, List.append_assoc]
  · rintro ⟨numeral, rfl⟩
    have point := mem_pointShape.2 ⟨numeral.whole, numeral.fraction, rfl, numeral.wholeDigits,
      numeral.fractionDigits, numeral.nonempty⟩
    have front := mem_mul.2 ⟨_, mem_signShape.2 ⟨numeral.sign, rfl⟩, _, point, rfl⟩
    refine ⟨_, front, _, mem_exponentShape.2 ⟨numeral.exponent, rfl⟩, ?_⟩
    simp only [Numeral.text, List.append_assoc]

end TableQuery.Number
