import TableQuery.Number.Decimal

/-! Texts that are read as a number: the decimals, and the names of infinity and of what is not a
number. The characters of decimals are enough for no name. -/

namespace TableQuery.Number

/-- The names take a sign and are read in either case. -/
def readName? (s : List Char) : Option Float :=
  let (negative, rest) := splitSign s
  let name := rest.map Char.toLower
  if name = "inf".toList ∨ name = "infinity".toList then some (ofIndex negative infinityIndex)
  else if name = "nan".toList then some (ofIndex negative (infinityIndex + Nat.pow 2 51))
  else none

def read? (s : List Char) : Option Float :=
  ((Decimal.read? s).map Decimal.toFloat).or (readName? s)

def isDecimalChar (c : Char) : Bool :=
  c.isDigit || c == '+' || c == '-' || c == '.' || c == 'e' || c == 'E'

theorem isDecimalChar_iff {c : Char} :
    isDecimalChar c ↔ c.isDigit ∨ c = '+' ∨ c = '-' ∨ c = '.' ∨ c = 'e' ∨ c = 'E' := by
  simp only [isDecimalChar, Bool.or_eq_true, beq_iff_eq, or_assoc]

theorem splitSign_subset (s : List Char) : (splitSign s).2 ⊆ s := by
  rw [splitSign.eq_def]
  split
  · exact List.subset_cons_self _ _
  · exact List.subset_cons_self _ _
  · exact List.Subset.refl _

theorem toLower_of_isDigit {c : Char} (digit : c.isDigit) : c.toLower = c := by
  have last : c.val ≤ 57 := by
    simp only [Char.isDigit, Bool.and_eq_true, decide_eq_true_eq] at digit
    exact digit.2
  refine dif_neg ?_
  rintro ⟨capital, -⟩
  exact absurd (UInt32.le_trans capital last) (by decide)

theorem toLower_ne_n {c : Char} (decimal : isDecimalChar c) : c.toLower ≠ 'n' := by
  rcases isDecimalChar_iff.1 decimal with digit | rfl | rfl | rfl | rfl | rfl
  · rw [toLower_of_isDigit digit]
    rintro rfl
    contradiction
  all_goals decide

theorem readName?_eq_none {s : List Char} (decimal : s.all isDecimalChar) : readName? s = none := by
  have letter : 'n' ∉ (splitSign s).2.map Char.toLower := by
    intro among
    obtain ⟨c, inside, lower⟩ := List.mem_map.1 among
    exact toLower_ne_n (List.all_eq_true.1 decimal c (splitSign_subset s inside)) lower
  have other {name : List Char} (present : 'n' ∈ name) : (splitSign s).2.map Char.toLower ≠ name :=
    fun same => letter (same ▸ present)
  simp only [readName?]
  rw [if_neg (not_or.2 ⟨other (by decide), other (by decide)⟩), if_neg (other (by decide))]

end TableQuery.Number
