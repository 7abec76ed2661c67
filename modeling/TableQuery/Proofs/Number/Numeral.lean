import Mathlib.Data.List.TakeWhile
import TableQuery.Number.Reading
import TableQuery.Proofs.Number.DecimalValue

/-! Decimals as they are written. The texts that are read as a decimal are those of the written
forms, and a written form is read as what it says. -/

namespace TableQuery.Number

def signMark : Option Bool → List Char
  | none => []
  | some negative => [if negative then '-' else '+']

structure Exponent where
  mark : Char
  sign : Option Bool
  power : List Char
  marks : mark = 'e' ∨ mark = 'E'
  nonempty : power ≠ []
  digits : ∀ c ∈ power, c.isDigit

namespace Exponent

def text (exponent : Exponent) : List Char :=
  exponent.mark :: signMark exponent.sign ++ exponent.power

def value (exponent : Exponent) : Int :=
  if exponent.sign = some true then -(ofDigits exponent.power : Int) else ofDigits exponent.power

end Exponent

/-- A sign, digits with a point among them or at one of their ends, and an exponent. All but the
digits can be left out. -/
structure Numeral where
  sign : Option Bool
  whole : List Char
  fraction : Option (List Char)
  exponent : Option Exponent
  wholeDigits : ∀ c ∈ whole, c.isDigit
  fractionDigits : ∀ part ∈ fraction, ∀ c ∈ part, c.isDigit
  nonempty : whole ≠ [] ∨ fraction.getD [] ≠ []

namespace Numeral

def pointText : Option (List Char) → List Char
  | none => []
  | some part => '.' :: part

def exponentText (exponent : Option Exponent) : List Char := (exponent.map Exponent.text).getD []

def text (numeral : Numeral) : List Char :=
  signMark numeral.sign ++
    (numeral.whole ++ (pointText numeral.fraction ++ exponentText numeral.exponent))

def places (numeral : Numeral) : List Char := numeral.fraction.getD []

def power (numeral : Numeral) : Int := (numeral.exponent.map Exponent.value).getD 0

def isNegative (numeral : Numeral) : Bool := numeral.sign == some true

def decimal (numeral : Numeral) : Decimal where
  negative := numeral.isNegative
  coefficient := ofDigits (numeral.whole ++ numeral.places)
  exponent := numeral.power - numeral.places.length

def value (numeral : Numeral) : ℚ :=
  (ofDigits numeral.whole + ofDigits numeral.places / 10 ^ numeral.places.length) *
    10 ^ numeral.power

end Numeral

theorem ofDigits_append (s t : List Char) :
    ofDigits (s ++ t) = ofDigits s * 10 ^ t.length + ofDigits t := by
  rw [ofDigits, Nat.ofDigitChars_append, Nat.ofDigitChars_eq_ofDigitChars_zero, mul_comm]
  rfl

theorem Numeral.value_decimal (numeral : Numeral) : numeral.decimal.value = numeral.value := by
  have tens : (10 : ℚ) ^ numeral.places.length ≠ 0 := by positivity
  rw [Decimal.value, decimal, value, ofDigits_append, zpow_sub₀ (by norm_num), zpow_natCast]
  push_cast
  field_simp

/-! ### Reading a written form -/

theorem takeWhile_isDigit {digits rest : List Char} (all : ∀ c ∈ digits, c.isDigit)
    (stops : ∀ c ∈ rest.head?, c.isDigit = false) :
    (digits ++ rest).takeWhile Char.isDigit = digits ∧
      (digits ++ rest).dropWhile Char.isDigit = rest := by
  rw [List.takeWhile_append_of_pos all, List.dropWhile_append_of_pos all]
  cases rest with
  | nil => simp
  | cons c rest => simp [stops c rfl]

theorem splitSign_signMark (sign : Option Bool) {rest : List Char}
    (unsigned : ∀ c ∈ rest.head?, c ≠ '-' ∧ c ≠ '+') :
    splitSign (signMark sign ++ rest) = (sign == some true, rest) := by
  match sign with
  | some true | some false => rfl
  | none =>
    cases rest with
    | nil => rfl
    | cons c rest =>
      obtain ⟨notMinus, notPlus⟩ := unsigned c rfl
      simp [signMark, splitSign, notMinus, notPlus]

theorem ne_sign_of_isDigit {c : Char} (digit : c.isDigit) : c ≠ '-' ∧ c ≠ '+' := by
  constructor
  · rintro rfl
    contradiction
  · rintro rfl
    contradiction

theorem Exponent.readExponent_text (exponent : Exponent) :
    readExponent exponent.text = some exponent.value := by
  obtain ⟨mark, sign, power, marks, nonempty, digits⟩ := exponent
  have unsigned : ∀ c ∈ power.head?, c ≠ '-' ∧ c ≠ '+' := fun c first =>
    ne_sign_of_isDigit (digits c (List.mem_of_mem_head? first))
  have all : power.all Char.isDigit := List.all_eq_true.2 digits
  simp [text, readExponent, splitSign_signMark sign unsigned, marks, nonempty, all, value]

namespace Numeral

theorem readExponent_exponentText (exponent : Option Exponent) :
    readExponent (exponentText exponent) = some ((exponent.map Exponent.value).getD 0) := by
  cases exponent with
  | none => rfl
  | some exponent => exact exponent.readExponent_text

theorem exponentText_head? {exponent : Option Exponent} {c : Char}
    (first : c ∈ (exponentText exponent).head?) : c = 'e' ∨ c = 'E' := by
  cases exponent with
  | none => contradiction
  | some exponent =>
    obtain rfl : exponent.mark = c := by simpa [exponentText, Exponent.text] using first
    exact exponent.marks

theorem splitFraction_pointText {fraction : Option (List Char)} (exponent : Option Exponent)
    (digits : ∀ part ∈ fraction, ∀ c ∈ part, c.isDigit) :
    splitFraction (pointText fraction ++ exponentText exponent) =
      (fraction.getD [], exponentText exponent) := by
  cases fraction with
  | none =>
    have noPoint : ∀ rest, exponentText exponent ≠ '.' :: rest := by
      intro rest same
      rcases exponentText_head? (c := '.') (by rw [same]; rfl) with mark | mark <;> cases mark
    rw [pointText, List.nil_append, splitFraction]
    · rfl
    · exact noPoint
  | some part =>
    have stops : ∀ c ∈ (exponentText exponent).head?, c.isDigit = false := by
      intro c first
      rcases exponentText_head? first with rfl | rfl <;> rfl
    obtain ⟨taken, left⟩ := takeWhile_isDigit (digits part rfl) stops
    rw [pointText, List.cons_append, splitFraction, taken, left]
    rfl

theorem unsigned_text (numeral : Numeral) :
    ∀ c ∈ (numeral.whole ++
      (pointText numeral.fraction ++ exponentText numeral.exponent)).head?, c ≠ '-' ∧ c ≠ '+' := by
  intro c first
  cases whole : numeral.whole with
  | cons d rest =>
    rw [whole, List.cons_append, List.head?_cons, Option.mem_some_iff] at first
    exact first ▸ ne_sign_of_isDigit (numeral.wholeDigits d (whole ▸ List.mem_cons_self))
  | nil =>
    cases fraction : numeral.fraction with
    | none => exact absurd numeral.nonempty (by simp [whole, fraction])
    | some part =>
      obtain rfl : '.' = c := by simpa [whole, fraction, pointText] using first
      decide

theorem stops_text (numeral : Numeral) :
    ∀ c ∈ (pointText numeral.fraction ++ exponentText numeral.exponent).head?,
      c.isDigit = false := by
  intro c first
  cases fraction : numeral.fraction with
  | none =>
    rw [fraction] at first
    rcases exponentText_head? first with rfl | rfl <;> rfl
  | some part =>
    obtain rfl : '.' = c := by simpa [fraction, pointText] using first
    rfl

theorem read?_text (numeral : Numeral) : Decimal.read? numeral.text = some numeral.decimal := by
  obtain ⟨taken, left⟩ := takeWhile_isDigit numeral.wholeDigits numeral.stops_text
  have present : ¬ (numeral.whole = [] ∧ numeral.fraction.getD [] = []) := by
    rintro ⟨noWhole, noPlaces⟩
    exact numeral.nonempty.elim (· noWhole) (· noPlaces)
  rw [text, Decimal.read?, splitSign_signMark _ numeral.unsigned_text]
  simp only [taken, left, splitFraction_pointText _ numeral.fractionDigits,
    readExponent_exponentText, if_neg present, Option.map_some]
  rfl

end Numeral

/-! ### Characters of a written form -/

theorem isDecimalChar_of_isDigit {c : Char} (digit : c.isDigit) : isDecimalChar c :=
  isDecimalChar_iff.2 (.inl digit)

theorem isDecimalChar_of_mem_signMark {sign : Option Bool} : ∀ c ∈ signMark sign, isDecimalChar c := by
  match sign with
  | none => simp [signMark]
  | some true | some false => simp [signMark, isDecimalChar]

theorem Numeral.isDecimalChar_of_mem_text (numeral : Numeral) :
    ∀ c ∈ numeral.text, isDecimalChar c := by
  have point : ∀ c ∈ pointText numeral.fraction, isDecimalChar c := by
    cases fraction : numeral.fraction with
    | none => simp [pointText]
    | some part =>
      refine List.forall_mem_cons.2 ⟨rfl, fun c among => ?_⟩
      exact isDecimalChar_of_isDigit (numeral.fractionDigits part fraction c among)
  have power : ∀ c ∈ exponentText numeral.exponent, isDecimalChar c := by
    cases numeral.exponent with
    | none => simp [exponentText]
    | some exponent =>
      refine List.forall_mem_cons.2 ⟨?_, List.forall_mem_append.2
        ⟨isDecimalChar_of_mem_signMark, fun c among => isDecimalChar_of_isDigit (exponent.digits c among)⟩⟩
      rcases exponent.marks with mark | mark <;> simp [mark, isDecimalChar]
  have whole : ∀ c ∈ numeral.whole, isDecimalChar c := fun c among =>
    isDecimalChar_of_isDigit (numeral.wholeDigits c among)
  exact List.forall_mem_append.2 ⟨isDecimalChar_of_mem_signMark, List.forall_mem_append.2
    ⟨whole, List.forall_mem_append.2 ⟨point, power⟩⟩⟩

/-! ### Every text that is read -/

theorem exists_signMark (s : List Char) :
    ∃ sign : Option Bool, s = signMark sign ++ (splitSign s).2 := by
  rw [splitSign.eq_def]
  split
  · exact ⟨some true, rfl⟩
  · exact ⟨some false, rfl⟩
  · exact ⟨none, rfl⟩

theorem exists_exponentText {s : List Char} (read : (readExponent s).isSome) :
    ∃ exponent, s = Numeral.exponentText exponent := by
  cases s with
  | nil => exact ⟨none, rfl⟩
  | cons mark rest =>
    obtain ⟨sign, parts⟩ := exists_signMark rest
    simp only [readExponent] at read
    split at read
    next shape =>
      obtain ⟨marks, nonempty, digits⟩ := shape
      refine ⟨some ⟨mark, sign, (splitSign rest).2, marks, nonempty, List.all_eq_true.1 digits⟩, ?_⟩
      rw [Numeral.exponentText, Option.map_some, Option.getD_some, Exponent.text, List.cons_append,
        ← parts]
    next => contradiction

theorem isDigit_of_mem_takeWhile {s : List Char} : ∀ c ∈ s.takeWhile Char.isDigit, c.isDigit :=
  fun _ among => List.mem_takeWhile_imp among

theorem exists_pointText (s : List Char) :
    ∃ fraction : Option (List Char), s = Numeral.pointText fraction ++ (splitFraction s).2 ∧
      (splitFraction s).1 = fraction.getD [] ∧ ∀ part ∈ fraction, ∀ c ∈ part, c.isDigit := by
  rw [splitFraction.eq_def]
  split
  next rest =>
    refine ⟨some (rest.takeWhile Char.isDigit), ?_, rfl, ?_⟩
    · rw [Numeral.pointText, List.cons_append, List.takeWhile_append_dropWhile]
    · intro part taken
      obtain rfl := Option.some.inj taken
      exact isDigit_of_mem_takeWhile
  next => exact ⟨none, rfl, rfl, by simp⟩

theorem exists_numeral {s : List Char} {d : Decimal} (read : Decimal.read? s = some d) :
    ∃ numeral : Numeral, numeral.text = s := by
  rw [Decimal.read?] at read
  dsimp only at read
  split at read
  next => contradiction
  next present =>
    obtain ⟨sign, signed⟩ := exists_signMark s
    generalize (splitSign s).2 = unsigned at *
    obtain ⟨fraction, pointed, places, digits⟩ :=
      exists_pointText (unsigned.dropWhile Char.isDigit)
    obtain ⟨power, powers, -⟩ := Option.map_eq_some_iff.1 read
    obtain ⟨exponent, tail⟩ := exists_exponentText (Option.isSome_of_eq_some powers)
    rw [places] at present
    refine ⟨⟨sign, unsigned.takeWhile Char.isDigit, fraction, exponent, isDigit_of_mem_takeWhile,
      digits, not_and_or.1 present⟩, ?_⟩
    rw [Numeral.text, ← tail, ← pointed, List.takeWhile_append_dropWhile, ← signed]

end TableQuery.Number
